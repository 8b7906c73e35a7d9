import Messanger.Auth.RoleEffects

/-!
The roles a command touches are below the level of its actor, and no user gets to a level at or
above that of all actors.
-/

namespace Messanger.Auth

open Relational Processes

structure Issued where
  actor : AuthUserJWTData
  command : RbacCommand

namespace World

variable (world : World)

def issue (issued : Issued) : World := ((issued.command.handle issued.actor).run world).1

/-- The commands one after the other. -/
def issueAll : World → List Issued → World
  | world, [] => world
  | world, issued :: rest => (world.issue issued).issueAll rest

def holdsRole (userId roleId : Nat) : Prop :=
  ∃ user, world.users.find? userId = some user ∧ roleId ∈ user.roles

def roleLevel (roleId : Nat) : Option Int := (world.roles.find? roleId).map (·.securityLevel)

/-- The level that a token of the user is given. -/
def userLevel (userId : Nat) : Int :=
  match world.users.find? userId with
  | none => 0
  | some user => (AuthUserJWTData.createFromUser user (world.rolesOf user) "").securityLevel

end World

def Touched (before after : World) (roleId : Nat) : Prop :=
  before.roles.find? roleId ≠ after.roles.find? roleId ∨
    ∃ userId, ¬(before.holdsRole userId roleId ↔ after.holdsRole userId roleId)

def TouchesBelow (level : Int) (before after : World) : Prop :=
  ∀ roleId, Touched before after roleId → ∀ role,
    before.roles.find? roleId = some role ∨ after.roles.find? roleId = some role →
      role.securityLevel < level

def EachTouchesBelow : World → List Issued → Prop
  | _, [] => True
  | world, issued :: rest =>
      TouchesBelow issued.actor.securityLevel world (world.issue issued) ∧
        EachTouchesBelow (world.issue issued) rest

/-- A `DeletePermissionRoleCommand` that passes its checks names no permission of a role at or
above the level of its actor. -/
def Issued.Spares (world : World) (issued : Issued) : Prop :=
  match issued.command with
  | .deletePermissionRole roleName permissions =>
      checkPermission issued.actor ["role:update"] = true → ∀ role names,
        world.roleByName roleName = some role → permissionsNamed world permissions = some names →
          role.securityLevel < issued.actor.securityLevel ∨ ∀ name ∈ names, name ∉ role.permissions
  | _ => True

def EachSpares : World → List Issued → Prop
  | _, [] => True
  | world, issued :: rest => issued.Spares world ∧ EachSpares (world.issue issued) rest

section Tables

variable {world after other : World} {level : Int} {actor : AuthUserJWTData} {userId roleId : Nat}

theorem issue_accepted (world : World) (issued : Issued) :
    SameTables (world.issue issued) ((issued.command.accepted issued.actor world).getD world) :=
  (RbacCommand.does issued.actor world issued.command).1

theorem touchesBelow_congr (same : SameTables after other) :
    TouchesBelow level world after ↔ TouchesBelow level world other := by
  simp only [TouchesBelow, Touched, World.holdsRole, same.users, same.roles]

theorem touchesBelow_self : TouchesBelow level world world := by
  intro roleId touched
  rcases touched with changed | ⟨userId, changed⟩
  · exact absurd rfl changed
  · exact absurd Iff.rfl changed

theorem level_lt_of_check {actorLevel roleLevel : Int}
    (checked : (checkSecurityLevel actorLevel roleLevel).isOk = true) : roleLevel < actorLevel := by
  rw [checkSecurityLevel] at checked
  split at checked
  · cases checked
  · split at checked
    · cases checked
    · omega

theorem role_of_name {name : String} {role : Role} (found : world.roleByName name = some role) :
    world.roles.find? role.id = some role := by
  rw [Table.find?_some_iff]
  exact ⟨(List.mem_filter.mp (List.mem_of_mem_head? found)).1, rfl⟩

theorem find?_updateRole (id : Nat) (change : Role → Role)
    (keeps : ∀ role, (change role).id = role.id) :
    (world.updateRole id change keeps).roles.find? roleId =
      if roleId = id then (world.roles.find? roleId).map change else world.roles.find? roleId := by
  rw [World.updateRole, Table.find?_update]
  cases found : world.roles.find? roleId with
  | none => simp
  | some role =>
      have named : role.id = roleId := Table.key_of_find? found
      by_cases same : roleId = id
      · simp [named, same]
      · simp [named, same]

theorem touchesBelow_updateRole (id : Nat) (change : Role → Role)
    (keeps : ∀ role, (change role).id = role.id)
    (below : ∀ role, world.roles.find? id = some role →
      role.securityLevel < level ∧ (change role).securityLevel < level) :
    TouchesBelow level world (world.updateRole id change keeps) := by
  intro roleId touched role present
  rw [find?_updateRole] at present
  rcases touched with changed | ⟨userId, changed⟩
  · rw [find?_updateRole] at changed
    by_cases same : roleId = id
    · subst same
      rw [if_pos rfl] at present
      rcases present with before | after
      · exact (below role before).1
      · obtain ⟨old, found, rfl⟩ := Option.map_eq_some_iff.mp after
        exact (below old found).2
    · rw [if_neg same] at changed
      exact absurd rfl changed
  · exact absurd Iff.rfl changed

theorem touchesBelow_updateUser (id : Nat) (change : User → User)
    (keeps : ∀ user, (change user).id = user.id)
    (below : ∀ user roleId, ¬(roleId ∈ user.roles ↔ roleId ∈ (change user).roles) →
      ∀ role, world.roles.find? roleId = some role → role.securityLevel < level) :
    TouchesBelow level world (world.updateUser id change keeps) := by
  intro roleId touched role present
  have here : world.roles.find? roleId = some role := present.elim (fun found => found) fun found => found
  rcases touched with changed | ⟨userId, changed⟩
  · exact absurd rfl changed
  · simp only [World.holdsRole, World.updateUser, Table.find?_update] at changed
    cases found : world.users.find? userId with
    | none =>
        rw [found] at changed
        simp at changed
    | some user =>
        rw [found] at changed
        simp only [Option.some.injEq, exists_eq_left', Option.map_some] at changed
        by_cases same : (user.id == id) = true
        · rw [if_pos same] at changed
          exact below user roleId changed role here
        · rw [if_neg same] at changed
          exact absurd Iff.rfl changed

theorem touchesBelow_insertRole {name : String} {description : Option String} {securityLevel : Int}
    {permissions : List String} {world after : World} (below : securityLevel < level)
    (inserted : world.insertRole name description securityLevel permissions = .ok after) :
    TouchesBelow level world after := by
  rw [World.insertRole] at inserted
  split at inserted
  · cases inserted
  · cases inserted
    intro roleId touched role present
    rcases touched with changed | ⟨userId, changed⟩
    · by_cases new : world.roles.nextKey = roleId
      · subst new
        rw [Table.find?_nextKey] at present
        rcases present with before | after
        · cases before
        · rw [Table.find?_insert, Table.find?_nextKey] at after
          simp only [Option.none_or, if_true, Option.some.injEq] at after
          rw [← after]
          exact below
      · have kept := world.roles.find?_insert_other
          ⟨world.roles.nextKey, name, description, securityLevel, permissions⟩ roleId new
        exact absurd kept.symm changed
    · exact absurd Iff.rfl changed

theorem deletePermissions_same {role : Role} {names : List String}
    (none : ∀ name ∈ names, name ∉ role.permissions) :
    names.foldl Role.deletePermission role = role := by
  induction names with
  | nil => rfl
  | cons name rest ih =>
      have first : role.deletePermission name = role := by
        have kept : role.permissions.filter (· ≠ name) = role.permissions := by
          rw [List.filter_eq_self]
          intro other member
          have different : other ≠ name := by
            rintro rfl
            exact none other List.mem_cons_self member
          simpa using different
        rw [Role.deletePermission, kept]
      rw [List.foldl_cons, first]
      exact ih fun other member => none other (List.mem_cons_of_mem _ member)

theorem deletePermissions_level (role : Role) (names : List String) :
    (names.foldl Role.deletePermission role).securityLevel = role.securityLevel := by
  induction names generalizing role with
  | nil => rfl
  | cons name rest ih => exact ih (role.deletePermission name)

theorem addPermissions_level (role : Role) (names : List String) :
    (names.foldl Role.addPermission role).securityLevel = role.securityLevel := by
  induction names generalizing role with
  | nil => rfl
  | cons name rest ih => exact ih (role.addPermission name)

theorem deletePermissions_held (role : Role) {names : List String} {name : String}
    (named : name ∈ names) : name ∉ (names.foldl Role.deletePermission role).permissions := by
  have gone : ∀ (rest : List String) (role : Role), name ∉ role.permissions →
      name ∉ (rest.foldl Role.deletePermission role).permissions := by
    intro rest
    induction rest with
    | nil => exact fun role absent => absent
    | cons first rest ih =>
        intro role absent
        refine ih (role.deletePermission first) fun member => absent ?_
        exact List.mem_of_mem_filter member
  induction names generalizing role with
  | nil => cases named
  | cons first rest ih =>
      rw [List.foldl_cons]
      rcases List.mem_cons.mp named with rfl | later
      · refine gone rest _ fun member => ?_
        have kept := (List.mem_filter.mp member).2
        simp at kept
      · exact ih _ later

end Tables

section Commands

variable {world : World} {actor : AuthUserJWTData}

theorem touchesBelow_deletePermissions {level : Int} {role : Role}
    (found : world.roles.find? role.id = some role) (names : List String) :
    TouchesBelow level world (world.deleteRolePermissions role.id names) ↔
      role.securityLevel < level ∨ ∀ name ∈ names, name ∉ role.permissions := by
  constructor
  · intro below
    by_cases none : ∀ name ∈ names, name ∉ role.permissions
    · exact .inr none
    · refine .inl (below role.id (.inl fun same => none fun name named held => ?_) role (.inl found))
      rw [World.deleteRolePermissions, find?_updateRole, if_pos rfl, found, Option.map_some,
        Option.some.injEq] at same
      have gone := deletePermissions_held role named
      rw [← same] at gone
      exact gone held
  · intro spared
    rcases spared with below | none
    · refine touchesBelow_updateRole _ _ _ fun other present => ?_
      have same : other = role := Option.some.inj (present.symm.trans found)
      rw [same, deletePermissions_level]
      exact ⟨below, below⟩
    · intro roleId touched
      exfalso
      rcases touched with changed | ⟨userId, changed⟩
      · rw [World.deleteRolePermissions, find?_updateRole] at changed
        split at changed
        · rename_i same
          rw [same, found, Option.map_some, deletePermissions_same none] at changed
          exact changed rfl
        · exact changed rfl
      · exact changed Iff.rfl

theorem touchesBelow_getD {level : Int} {expected : Option World}
    (below : ∀ after, expected = some after → TouchesBelow level world after) :
    TouchesBelow level world (expected.getD world) := by
  cases expected with
  | none => exact touchesBelow_self
  | some after => exact below after rfl

theorem ok_of_toOption {result : Except AuthError World} {after : World}
    (ok : result.toOption = some after) : result = .ok after := by
  cases result with
  | error error => cases ok
  | ok held => exact congrArg Except.ok (Option.some.inj ok)

theorem touchesBelow_userRole {role : Role} {level : Int} (found : world.roles.find? role.id = some role)
    (below : role.securityLevel < level) (id : Nat) (change : User → User)
    (keeps : ∀ user, (change user).id = user.id)
    (others : ∀ user roleId, roleId ≠ role.id → (roleId ∈ user.roles ↔ roleId ∈ (change user).roles)) :
    TouchesBelow level world (world.updateUser id change keeps) := by
  refine touchesBelow_updateUser id change keeps fun user roleId differs other present => ?_
  by_cases same : roleId = role.id
  · subst same
    rw [Option.some.inj (present.symm.trans found)]
    exact below
  · exact absurd (others user roleId same) differs

theorem touchesBelow_roleUpdate {id : Nat} {name description : Option String}
    {securityLevel : Option Int} {after : World}
    (accepted : (RbacCommand.roleUpdate id name description securityLevel).accepted actor world =
      some after) : TouchesBelow actor.securityLevel world after := by
  simp only [RbacCommand.accepted, Option.ite_none_right_eq_some, Option.bind_eq_bind,
    Option.bind_eq_some_iff] at accepted
  obtain ⟨_, newLevel, role, found, oldLevel, _, updated⟩ := accepted
  rw [World.updateRoleColumns] at updated
  split at updated
  · cases updated
  · cases updated
    refine touchesBelow_updateRole _ _ _ fun other present => ?_
    have same : other = role := Option.some.inj (present.symm.trans found)
    subst same
    have below := level_lt_of_check oldLevel
    refine ⟨below, ?_⟩
    cases securityLevel with
    | none => exact below
    | some level =>
        have given := level_lt_of_check newLevel
        by_cases zero : level = 0
        · simpa [Role.updated, Option.filter_some, zero] using below
        · simpa [Role.updated, Option.filter_some, zero] using given

theorem touchesBelow_command (issued : Issued) :
    TouchesBelow issued.actor.securityLevel world (world.issue issued) ↔ issued.Spares world := by
  rw [touchesBelow_congr (issue_accepted world issued)]
  obtain ⟨actor, command⟩ := issued
  cases command with
  | createRole roleName description securityLevel permissions =>
      refine iff_of_true (touchesBelow_getD fun after accepted => ?_) trivial
      simp only [RbacCommand.accepted, Option.ite_none_right_eq_some] at accepted
      obtain ⟨_, _, checked, created⟩ := accepted
      split at created
      · cases created
      · obtain ⟨held, _, inserted⟩ := Option.bind_eq_some_iff.mp created
        exact touchesBelow_insertRole (level_lt_of_check checked) (ok_of_toOption inserted)
  | roleUpdate id name description securityLevel =>
      exact iff_of_true (touchesBelow_getD fun after => touchesBelow_roleUpdate) trivial
  | addPermissionRole roleName permissions =>
      refine iff_of_true (touchesBelow_getD fun after accepted => ?_) trivial
      simp only [RbacCommand.accepted, Option.ite_none_right_eq_some, Option.bind_eq_bind,
        Option.bind_eq_some_iff, Option.some.injEq] at accepted
      obtain ⟨_, role, found, checked, names, _, rfl⟩ := accepted
      refine touchesBelow_updateRole _ _ _ fun other present => ?_
      have same : other = role := Option.some.inj (present.symm.trans (role_of_name found))
      have below := level_lt_of_check checked
      rw [same, addPermissions_level]
      exact ⟨below, below⟩
  | deletePermissionRole roleName permissions =>
      simp only [Issued.Spares, RbacCommand.accepted]
      by_cases permitted : checkPermission actor ["role:update"] = true
      · rw [if_pos permitted]
        cases found : world.roleByName roleName with
        | none => exact iff_of_true touchesBelow_self (fun _ role _ none => nomatch none)
        | some role =>
            cases named : permissionsNamed world permissions with
            | none => exact iff_of_true touchesBelow_self (fun _ role _ _ none => nomatch none)
            | some names =>
                refine (touchesBelow_deletePermissions (role_of_name found) names).trans ?_
                simp [permitted]
      · rw [if_neg permitted]
        exact iff_of_true touchesBelow_self fun allowed => absurd allowed permitted
  | assignRole assignToUser roleName =>
      refine iff_of_true (touchesBelow_getD fun after accepted => ?_) trivial
      simp only [RbacCommand.accepted, Option.ite_none_right_eq_some, Option.bind_eq_bind,
        Option.bind_eq_some_iff, Option.some.injEq] at accepted
      obtain ⟨_, role, found, user, _, checked, rfl⟩ := accepted
      refine touchesBelow_userRole (role_of_name found) (level_lt_of_check checked) _ _ _
        fun other roleId different => ?_
      simp [different]
  | removeRole removeFromUser roleName =>
      refine iff_of_true (touchesBelow_getD fun after accepted => ?_) trivial
      simp only [RbacCommand.accepted, Option.ite_none_right_eq_some, Option.ite_none_left_eq_some,
        Option.bind_eq_bind, Option.bind_eq_some_iff, Option.some.injEq] at accepted
      obtain ⟨_, role, found, checked, user, _, _, rfl⟩ := accepted
      refine touchesBelow_userRole (role_of_name found) (level_lt_of_check checked) _ _ _
        fun other roleId different => ?_
      simp [different]
  | addPermissionToUser userId permissions =>
      refine iff_of_true (touchesBelow_getD fun after accepted => ?_) trivial
      simp only [RbacCommand.accepted, Option.ite_none_right_eq_some, Option.bind_eq_bind,
        Option.bind_eq_some_iff, Option.some.injEq] at accepted
      obtain ⟨_, user, _, names, _, rfl⟩ := accepted
      exact touchesBelow_updateUser _ _ _ fun other roleId differs => absurd Iff.rfl differs
  | deletePermissionToUser userId permissions =>
      refine iff_of_true (touchesBelow_getD fun after accepted => ?_) trivial
      simp only [RbacCommand.accepted, Option.ite_none_right_eq_some, Option.bind_eq_bind,
        Option.bind_eq_some_iff] at accepted
      obtain ⟨_, user, _, names, _, deleted⟩ := accepted
      split at deleted
      · cases deleted
      · cases deleted
        exact touchesBelow_updateUser _ _ _ fun other roleId differs => absurd Iff.rfl differs

end Commands

section Levels

variable {world before after : World} {level : Int} {userId : Nat}

def World.reaches (world : World) (userId : Nat) (level : Int) : Prop :=
  ∃ roleId, world.holdsRole userId roleId ∧ world.roleLevel roleId = some level

theorem reaches_congr (same : SameTables before after) :
    before.reaches userId level ↔ after.reaches userId level := by
  simp only [World.reaches, World.holdsRole, World.roleLevel, same.users, same.roles]

theorem reaches_of_touchesBelow {bound : Int} (below : TouchesBelow bound before after)
    (high : bound ≤ level) (reached : after.reaches userId level) : before.reaches userId level := by
  obtain ⟨roleId, holds, leveled⟩ := reached
  obtain ⟨role, found, rfl⟩ := Option.map_eq_some_iff.mp leveled
  have untouched : ¬Touched before after roleId := by
    intro touched
    have low := below roleId touched role (.inr found)
    omega
  have kept : before.roles.find? roleId = after.roles.find? roleId := by
    by_contra changed
    exact untouched (.inl changed)
  refine ⟨roleId, ?_, ?_⟩
  · by_contra absent
    exact untouched (.inr ⟨userId, fun same => absent (same.mpr holds)⟩)
  · rw [World.roleLevel, kept, found]
    rfl

theorem roleLevel_deletePermissions (id : Nat) (names : List String) (roleId : Nat) :
    (world.deleteRolePermissions id names).roleLevel roleId = world.roleLevel roleId := by
  rw [World.roleLevel, World.deleteRolePermissions, find?_updateRole, World.roleLevel]
  split
  · rw [Option.map_map]
    refine congrArg (fun level => (world.roles.find? roleId).map level) (funext fun role => ?_)
    exact deletePermissions_level role names
  · rfl

theorem reaches_issue {issued : Issued} (high : issued.actor.securityLevel ≤ level)
    (reached : (world.issue issued).reaches userId level) : world.reaches userId level := by
  obtain ⟨actor, command⟩ := issued
  cases command with
  | deletePermissionRole roleName permissions =>
      rw [reaches_congr (issue_accepted world _)] at reached
      cases accepted : (RbacCommand.deletePermissionRole roleName permissions).accepted actor world with
      | none =>
          rw [accepted] at reached
          exact reached
      | some after =>
          rw [accepted] at reached
          simp only [RbacCommand.accepted, Option.ite_none_right_eq_some, Option.bind_eq_bind,
            Option.bind_eq_some_iff, Option.some.injEq] at accepted
          obtain ⟨_, role, _, names, _, rfl⟩ := accepted
          obtain ⟨roleId, holds, leveled⟩ := reached
          exact ⟨roleId, holds, (roleLevel_deletePermissions _ _ _).symm.trans leveled⟩
  | _ =>
      refine reaches_of_touchesBelow ?_ high reached
      exact (touchesBelow_command _).mpr trivial

theorem reaches_issueAll {issued : List Issued}
    (high : ∀ one ∈ issued, one.actor.securityLevel ≤ level)
    (reached : (world.issueAll issued).reaches userId level) : world.reaches userId level := by
  induction issued generalizing world with
  | nil => exact reached
  | cons one rest ih =>
      have later : (world.issue one).reaches userId level :=
        ih (fun other member => high other (List.mem_cons_of_mem _ member)) reached
      exact reaches_issue (high one List.mem_cons_self) later

theorem foldl_level (roles : List Role) (start level : Int)
    (folded : roles.foldl (fun level role => max level role.securityLevel) start = level) :
    start ≤ level ∧ (∀ role ∈ roles, role.securityLevel ≤ level) ∧
      (level = start ∨ ∃ role ∈ roles, role.securityLevel = level) := by
  induction roles generalizing start with
  | nil =>
      subst folded
      exact ⟨Int.le_refl _, fun _ member => (nomatch member), .inl rfl⟩
  | cons first rest ih =>
      obtain ⟨above, bounds, attained⟩ := ih (max start first.securityLevel) folded
      refine ⟨by omega, ?_, ?_⟩
      · intro role member
        rcases List.mem_cons.mp member with rfl | later
        · omega
        · exact bounds role later
      · rcases attained with same | ⟨role, member, same⟩
        · by_cases higher : start ≤ first.securityLevel
          · refine .inr ⟨first, List.mem_cons_self, ?_⟩
            omega
          · refine .inl ?_
            omega
        · exact .inr ⟨role, List.mem_cons_of_mem _ member, same⟩

theorem userLevel_nonneg (world : World) (userId : Nat) : 0 ≤ world.userLevel userId := by
  rw [World.userLevel]
  cases world.users.find? userId with
  | none => exact Int.le_refl 0
  | some user => exact (foldl_level (world.rolesOf user) 0 _ rfl).1

theorem le_userLevel (reached : world.reaches userId level) : level ≤ world.userLevel userId := by
  obtain ⟨roleId, ⟨user, found, held⟩, leveled⟩ := reached
  obtain ⟨role, present, rfl⟩ := Option.map_eq_some_iff.mp leveled
  obtain ⟨member, named⟩ := (Table.find?_some_iff _ _ _).mp present
  rw [World.userLevel, found]
  refine (foldl_level (world.rolesOf user) 0 _ rfl).2.1 role (List.mem_filter.mpr ⟨member, ?_⟩)
  simpa [named] using held

theorem userLevel_attained (world : World) (userId : Nat) :
    world.userLevel userId = 0 ∨ world.reaches userId (world.userLevel userId) := by
  cases found : world.users.find? userId with
  | none =>
      left
      rw [World.userLevel, found]
  | some user =>
      have leveled : world.userLevel userId =
          (world.rolesOf user).foldl (fun level role => max level role.securityLevel) 0 := by
        rw [World.userLevel, found]
        rfl
      rw [leveled]
      rcases (foldl_level (world.rolesOf user) 0 _ rfl).2.2 with zero | ⟨role, member, same⟩
      · exact .inl zero
      · obtain ⟨stored, held⟩ := List.mem_filter.mp member
        refine .inr ⟨role.id, ⟨user, found, of_decide_eq_true held⟩, ?_⟩
        rw [World.roleLevel, (Table.find?_some_iff _ _ _).mpr ⟨stored, rfl⟩, ← same]
        rfl

theorem userLevel_issueAll {issued : List Issued} (high : ∀ one ∈ issued,
      one.actor.securityLevel ≤ (world.issueAll issued).userLevel userId) :
    (world.issueAll issued).userLevel userId ≤ world.userLevel userId := by
  rcases userLevel_attained (world.issueAll issued) userId with zero | reached
  · rw [zero]
    exact userLevel_nonneg world userId
  · exact le_userLevel (reaches_issueAll high reached)

end Levels

theorem eachTouchesBelow_iff (world : World) (issued : List Issued) :
    EachTouchesBelow world issued ↔ EachSpares world issued := by
  induction issued generalizing world with
  | nil => exact Iff.rfl
  | cons one rest ih => exact and_congr (touchesBelow_command one) (ih (world.issue one))

/-- In a run each command touches only roles below its actor exactly when none takes permissions
from a higher role; and in every run a user who ends at or above all actors was there before. -/
theorem role_commands_below (world : World) (issued : List Issued) :
    (EachTouchesBelow world issued ↔ EachSpares world issued) ∧
      ∀ userId, (∀ one ∈ issued,
        one.actor.securityLevel ≤ (world.issueAll issued).userLevel userId) →
          (world.issueAll issued).userLevel userId ≤ world.userLevel userId :=
  ⟨eachTouchesBelow_iff world issued, fun _ high => userLevel_issueAll high⟩

section Clerk

def bossWorld : World where
  clock := 0
  roles := ⟨[{ id := 1, name := "boss", securityLevel := 5, permissions := ["user:view"] }], by decide⟩
  permissions := ⟨[⟨"user:view"⟩], by decide⟩

def clerk : AuthUserJWTData := ⟨7, "clerk", ["clerk"], ["role:update"], 2, "device"⟩

def stripBoss : RbacCommand := .deletePermissionRole "boss" ⟨["user:view"], by decide⟩

theorem clerk_strips_boss : isSystemUser clerk = false ∧
    ¬TouchesBelow clerk.securityLevel bossWorld (bossWorld.issue ⟨clerk, stripBoss⟩) := by
  refine ⟨by decide, fun below => ?_⟩
  have touched : Touched bossWorld (bossWorld.issue ⟨clerk, stripBoss⟩) 1 :=
    .inl (by decide +kernel)
  have low := below 1 touched ⟨1, "boss", none, 5, ["user:view"]⟩ (.inl (by decide +kernel))
  exact absurd low (by decide)

end Clerk

end Messanger.Auth
