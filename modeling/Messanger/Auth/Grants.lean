import Messanger.Auth.SecurityLevels

/-!
The rule that `validate_permissions` states, and which of the commands that give permissions to
roles and users keep it.
-/

namespace Messanger.Auth

open Relational Processes

inductive GrantCommand where
  | createRole (roleName description : String) (securityLevel : Int) (permissions : NameSet)
  | addPermissionRole (roleName : String) (permissions : NameSet)
  | addPermissionToUser (userId : Nat) (permissions : NameSet)

def GrantCommand.command : GrantCommand → RbacCommand
  | .createRole roleName description securityLevel permissions =>
      .createRole roleName description securityLevel permissions
  | .addPermissionRole roleName permissions => .addPermissionRole roleName permissions
  | .addPermissionToUser userId permissions => .addPermissionToUser userId permissions

inductive Holder where
  | role (id : Nat)
  | user (id : Nat)
  | token (userId : Nat)
  deriving DecidableEq, Repr

def World.holds (world : World) : Holder → String → Prop
  | .role id, name => ∃ role, world.roles.find? id = some role ∧ name ∈ role.permissions
  | .user id, name => ∃ user, world.users.find? id = some user ∧ name ∈ user.permissions
  | .token userId, name => ∃ user, world.users.find? userId = some user ∧
      name ∈ (AuthUserJWTData.createFromUser user (world.rolesOf user) "").permissions

def Grantable (actor : AuthUserJWTData) (name : String) : Prop :=
  name ∉ protectedPermissions ∧ name ∈ actor.permissions

/-- What is acquired between the two worlds the actor may give. -/
def Contained (actor : AuthUserJWTData) (before after : World) : Prop :=
  ∀ holder name, ¬before.holds holder name → after.holds holder name → Grantable actor name

def GrantCommand.Validated (actor : AuthUserJWTData) (world : World) : GrantCommand → Prop
  | .createRole _ _ _ _ => True
  | .addPermissionRole roleName permissions =>
      checkPermission actor ["role:create"] = true → ∀ role names,
        world.roleByName roleName = some role →
          (checkSecurityLevel actor.securityLevel role.securityLevel).isOk = true →
            permissionsNamed world permissions = some names →
              ∀ name ∈ names, name ∈ role.permissions ∨ Grantable actor name
  | .addPermissionToUser userId permissions =>
      checkPermission actor ["permission:update", "user:update"] = true → ∀ user names,
        world.userById userId = some user → permissionsNamed world permissions = some names →
          ∀ name ∈ names, name ∈ user.permissions ∨ Grantable actor name

def World.grant (actor : AuthUserJWTData) (world : World) (command : GrantCommand) : World :=
  world.issue ⟨actor, command.command⟩

def EachValidated (actor : AuthUserJWTData) : World → List GrantCommand → Prop
  | _, [] => True
  | world, command :: rest =>
      command.Validated actor world ∧ EachValidated actor (world.grant actor command) rest

section Holding

variable {world before after other : World} {actor : AuthUserJWTData} {name : String}

theorem holds_congr (same : SameTables after other) (holder : Holder) :
    after.holds holder name ↔ other.holds holder name := by
  cases holder with
  | role id => simp only [World.holds, same.roles]
  | user id => simp only [World.holds, same.users]
  | token userId => simp only [World.holds, World.rolesOf, same.users, same.roles]

theorem holds_token_iff (world : World) (userId : Nat) (name : String) :
    world.holds (.token userId) name ↔ world.holds (.user userId) name ∨
      ∃ roleId, world.holdsRole userId roleId ∧ world.holds (.role roleId) name := by
  constructor
  · rintro ⟨user, found, held⟩
    rcases List.mem_append.mp held with through | own
    · obtain ⟨role, member, granted⟩ := List.mem_flatMap.mp through
      obtain ⟨stored, joined⟩ := List.mem_filter.mp member
      refine .inr ⟨role.id, ⟨user, found, of_decide_eq_true joined⟩, role, ?_, granted⟩
      exact (Table.find?_some_iff _ _ _).mpr ⟨stored, rfl⟩
    · exact .inl ⟨user, found, own⟩
  · rintro (⟨user, found, own⟩ | ⟨roleId, ⟨user, found, joined⟩, role, present, granted⟩)
    · exact ⟨user, found, List.mem_append_right _ own⟩
    · obtain ⟨stored, named⟩ := (Table.find?_some_iff _ _ _).mp present
      refine ⟨user, found, List.mem_append_left _ (List.mem_flatMap.mpr ⟨role, ?_, granted⟩)⟩
      refine List.mem_filter.mpr ⟨stored, ?_⟩
      simpa [named] using joined

theorem contained_of_rows (roles : ∀ userId roleId, after.holdsRole userId roleId →
      before.holdsRole userId roleId)
    (byRole : ∀ id name, ¬before.holds (.role id) name → after.holds (.role id) name →
      Grantable actor name)
    (byUser : ∀ id name, ¬before.holds (.user id) name → after.holds (.user id) name →
      Grantable actor name) : Contained actor before after := by
  intro holder name absent present
  cases holder with
  | role id => exact byRole id name absent present
  | user id => exact byUser id name absent present
  | token userId =>
      rw [holds_token_iff, not_or] at absent
      rcases (holds_token_iff after userId name).mp present with own | ⟨roleId, joined, granted⟩
      · exact byUser userId name absent.1 own
      · refine byRole roleId name (fun held => absent.2 ⟨roleId, ?_, held⟩) granted
        exact roles userId roleId joined

theorem contained_self : Contained actor world world := fun _ _ absent present => absurd present absent

def Grows (before after : World) : Prop :=
  ∀ holder name, before.holds holder name → after.holds holder name

theorem grows_of_rows (roles : ∀ userId roleId, before.holdsRole userId roleId →
      after.holdsRole userId roleId)
    (byRole : ∀ id name, before.holds (.role id) name → after.holds (.role id) name)
    (byUser : ∀ id name, before.holds (.user id) name → after.holds (.user id) name) :
    Grows before after := by
  intro holder name held
  cases holder with
  | role id => exact byRole id name held
  | user id => exact byUser id name held
  | token userId =>
      rw [holds_token_iff] at held ⊢
      rcases held with own | ⟨roleId, joined, granted⟩
      · exact .inl (byUser userId name own)
      · exact .inr ⟨roleId, roles userId roleId joined, byRole roleId name granted⟩

end Holding

section Commands

variable {world after : World} {actor : AuthUserJWTData}

theorem grantable_of_validated (plain : isSystemUser actor = false) {name : String}
    (validated : (validatePermissions actor name).isOk = true) : Grantable actor name := by
  rw [validatePermissions, plain] at validated
  simp only [Bool.false_eq_true, if_false] at validated
  split at validated
  · cases validated
  · rename_i unprotected
    split at validated
    · cases validated
    · rename_i held
      exact ⟨unprotected, not_not.mp held⟩

theorem createdPermissions_validated {names held created : List String} {name : String}
    (ended : createdPermissions actor world names held = some created) (given : name ∈ created) :
    name ∈ held ∨ (validatePermissions actor name).isOk = true := by
  induction names generalizing held with
  | nil =>
      cases ended
      exact .inl given
  | cons first rest ih =>
      rw [createdPermissions] at ended
      split at ended
      · rename_i checked
        rcases ih ended with inserted | validated
        · rcases List.mem_insert_iff.mp inserted with rfl | before
          · exact .inr (Bool.and_eq_true_iff.mp checked).2
          · exact .inl before
        · exact .inr validated
      · cases ended

theorem mem_addPermissions {names : List String} {role : Role} {name : String} :
    name ∈ (names.foldl Role.addPermission role).permissions ↔
      name ∈ role.permissions ∨ name ∈ names := by
  induction names generalizing role with
  | nil => simp
  | cons first rest ih =>
      rw [List.foldl_cons, ih, Role.addPermission, List.mem_insert_iff, List.mem_cons]
      tauto

theorem mem_insertAll {names held : List String} {name : String} :
    name ∈ names.foldl (fun held name => held.insert name) held ↔ name ∈ held ∨ name ∈ names := by
  induction names generalizing held with
  | nil => simp
  | cons first rest ih =>
      rw [List.foldl_cons, ih, List.mem_insert_iff, List.mem_cons]
      tauto

theorem holds_addRolePermissions {role : Role} (found : world.roles.find? role.id = some role)
    (names : List String) (id : Nat) (name : String) :
    (world.addRolePermissions role.id names).holds (.role id) name ↔
      world.holds (.role id) name ∨ (id = role.id ∧ name ∈ names) := by
  simp only [World.holds, World.addRolePermissions, find?_updateRole]
  by_cases same : id = role.id
  · subst same
    simp only [if_pos, found, Option.map_some, Option.some.injEq, exists_eq_left',
      mem_addPermissions, true_and]
  · simp only [same, false_and, or_false, if_false]

theorem users_addUserPermissions (userId : Nat) (names : List String) (id : Nat) :
    (world.addUserPermissions userId names).users.find? id =
      (world.users.find? id).map fun user =>
        if user.id == userId then
          { user with
            permissions := names.foldl (fun held name => held.insert name) user.permissions }
        else user := by
  rw [World.addUserPermissions, World.updateUser, Table.find?_update]

theorem holdsRole_addUserPermissions (userId : Nat) (names : List String) (id roleId : Nat) :
    (world.addUserPermissions userId names).holdsRole id roleId ↔ world.holdsRole id roleId := by
  rw [World.holdsRole, users_addUserPermissions, World.holdsRole]
  cases found : world.users.find? id with
  | none => simp
  | some user =>
      by_cases same : user.id = userId
      · simp [same]
      · simp [same]

theorem holds_addUserPermissions {user : User} (found : world.users.find? user.id = some user)
    (names : List String) (id : Nat) (name : String) :
    (world.addUserPermissions user.id names).holds (.user id) name ↔
      world.holds (.user id) name ∨ (id = user.id ∧ name ∈ names) := by
  rw [World.holds, users_addUserPermissions, World.holds]
  by_cases same : id = user.id
  · subst same
    simp [found, mem_insertAll]
  · cases present : world.users.find? id with
    | none => simp [same]
    | some other =>
        have named : other.id = id := Table.key_of_find? present
        simp [named, same]

theorem user_of_id {userId : Nat} {user : User} (found : world.userById userId = some user) :
    world.users.find? user.id = some user := by
  have present := (Option.filter_eq_some_iff.mp found).1
  rw [Table.key_of_find? present]
  exact present

theorem insertRole_roles {name : String} {description : Option String} {securityLevel : Int}
    {permissions : List String}
    (inserted : world.insertRole name description securityLevel permissions = .ok after) (id : Nat)
    (held : String) : (after.holds (.role id) held ↔ world.holds (.role id) held ∨
      (id = world.roles.nextKey ∧ held ∈ permissions)) ∧ after.users = world.users := by
  rw [World.insertRole] at inserted
  split at inserted
  · cases inserted
  · cases inserted
    refine ⟨?_, rfl⟩
    simp only [World.holds, Table.find?_insert]
    by_cases new : id = world.roles.nextKey
    · subst new
      simp [Table.find?_nextKey]
    · simp [Ne.symm new, new]

theorem accepted_addPermissionRole {roleName : String} {permissions : NameSet}
    (accepted : (RbacCommand.addPermissionRole roleName permissions).accepted actor world =
      some after) : ∃ role names, checkPermission actor ["role:create"] = true ∧
      world.roleByName roleName = some role ∧
      (checkSecurityLevel actor.securityLevel role.securityLevel).isOk = true ∧
      permissionsNamed world permissions = some names ∧
      after = world.addRolePermissions role.id names := by
  simp only [RbacCommand.accepted, Option.ite_none_right_eq_some, Option.bind_eq_bind,
    Option.bind_eq_some_iff, Option.some.injEq] at accepted
  obtain ⟨permitted, role, found, checked, names, named, rfl⟩ := accepted
  exact ⟨role, names, permitted, found, checked, named, rfl⟩

theorem accepted_addPermissionToUser {userId : Nat} {permissions : NameSet}
    (accepted : (RbacCommand.addPermissionToUser userId permissions).accepted actor world =
      some after) : ∃ user names,
      checkPermission actor ["permission:update", "user:update"] = true ∧
      world.userById userId = some user ∧ permissionsNamed world permissions = some names ∧
      after = world.addUserPermissions user.id names := by
  simp only [RbacCommand.accepted, Option.ite_none_right_eq_some, Option.bind_eq_bind,
    Option.bind_eq_some_iff, Option.some.injEq] at accepted
  obtain ⟨permitted, user, found, names, named, rfl⟩ := accepted
  exact ⟨user, names, permitted, found, named, rfl⟩

theorem accepted_createRole {roleName description : String} {securityLevel : Int}
    {permissions : NameSet}
    (accepted : (RbacCommand.createRole roleName description securityLevel permissions).accepted
      actor world = some after) : ∃ held,
      createdPermissions actor world permissions.val [] = some held ∧
      world.insertRole roleName (some description) securityLevel held = .ok after := by
  simp only [RbacCommand.accepted, Option.ite_none_right_eq_some] at accepted
  obtain ⟨_, _, _, created⟩ := accepted
  split at created
  · cases created
  · obtain ⟨held, listed, inserted⟩ := Option.bind_eq_some_iff.mp created
    exact ⟨held, listed, ok_of_toOption inserted⟩

theorem contained_given (world after : World) (actor : AuthUserJWTData)
    (roleGiven userGiven : Nat → String → Prop)
    (joined : ∀ id roleId, after.holdsRole id roleId ↔ world.holdsRole id roleId)
    (byRole : ∀ id name, after.holds (.role id) name ↔
      world.holds (.role id) name ∨ roleGiven id name)
    (byUser : ∀ id name, after.holds (.user id) name ↔
      world.holds (.user id) name ∨ userGiven id name) :
    Grows world after ∧ (Contained actor world after ↔
      (∀ id name, roleGiven id name → world.holds (.role id) name ∨ Grantable actor name) ∧
        ∀ id name, userGiven id name → world.holds (.user id) name ∨ Grantable actor name) := by
  refine ⟨grows_of_rows (fun id roleId => (joined id roleId).mpr)
    (fun id name held => (byRole id name).mpr (.inl held))
    (fun id name held => (byUser id name).mpr (.inl held)), ?_, ?_⟩
  · intro contained
    constructor
    · intro id name given
      by_cases held : world.holds (.role id) name
      · exact .inl held
      · exact .inr (contained (.role id) name held ((byRole id name).mpr (.inr given)))
    · intro id name given
      by_cases held : world.holds (.user id) name
      · exact .inl held
      · exact .inr (contained (.user id) name held ((byUser id name).mpr (.inr given)))
  · rintro ⟨roles, users⟩
    refine contained_of_rows (fun id roleId => (joined id roleId).mp) ?_ ?_
    · intro id name absent present
      have given := ((byRole id name).mp present).resolve_left absent
      exact (roles id name given).resolve_left absent
    · intro id name absent present
      have given := ((byUser id name).mp present).resolve_left absent
      exact (users id name given).resolve_left absent

theorem contained_createRole (plain : isSystemUser actor = false) {roleName description : String}
    {securityLevel : Int} {permissions : NameSet}
    (accepted : (RbacCommand.createRole roleName description securityLevel permissions).accepted
      actor world = some after) : Grows world after ∧ Contained actor world after := by
  obtain ⟨held, listed, inserted⟩ := accepted_createRole accepted
  have users : after.users = world.users := (insertRole_roles inserted 0 "").2
  have rows := contained_given world after actor
    (fun id name => id = world.roles.nextKey ∧ name ∈ held) (fun _ _ => False)
    (fun id roleId => by rw [World.holdsRole, World.holdsRole, users])
    (fun id name => (insertRole_roles inserted id name).1)
    (fun id name => by rw [World.holds, World.holds, users, or_false])
  refine ⟨rows.1, rows.2.mpr ⟨?_, fun _ _ none => none.elim⟩⟩
  rintro id name ⟨_, given⟩
  rcases createdPermissions_validated listed given with none | validated
  · cases none
  · exact .inr (grantable_of_validated plain validated)

theorem contained_addPermissionRole (actor : AuthUserJWTData) {role : Role}
    (found : world.roles.find? role.id = some role)
    (names : List String) :
    Grows world (world.addRolePermissions role.id names) ∧
      (Contained actor world (world.addRolePermissions role.id names) ↔
        ∀ name ∈ names, name ∈ role.permissions ∨ Grantable actor name) := by
  obtain ⟨grows, contained⟩ := contained_given world (world.addRolePermissions role.id names) actor
    (fun id name => id = role.id ∧ name ∈ names) (fun _ _ => False) (fun _ _ => Iff.rfl)
    (holds_addRolePermissions found names)
    (fun id name => (or_false (world.holds (.user id) name)).symm.to_iff)
  refine ⟨grows, contained.trans ⟨?_, ?_⟩⟩
  · rintro ⟨roles, -⟩ name named
    rcases roles role.id name ⟨rfl, named⟩ with ⟨other, present, held⟩ | grantable
    · rw [Option.some.inj (found.symm.trans present)]
      exact .inl held
    · exact .inr grantable
  · intro validated
    refine ⟨?_, fun _ _ none => none.elim⟩
    rintro _ name ⟨rfl, named⟩
    rcases validated name named with held | grantable
    · exact .inl ⟨role, found, held⟩
    · exact .inr grantable

theorem contained_addPermissionToUser (actor : AuthUserJWTData) {user : User}
    (found : world.users.find? user.id = some user) (names : List String) :
    Grows world (world.addUserPermissions user.id names) ∧
      (Contained actor world (world.addUserPermissions user.id names) ↔
        ∀ name ∈ names, name ∈ user.permissions ∨ Grantable actor name) := by
  obtain ⟨grows, contained⟩ := contained_given world (world.addUserPermissions user.id names) actor
    (fun _ _ => False) (fun id name => id = user.id ∧ name ∈ names)
    (holdsRole_addUserPermissions user.id names)
    (fun id name => (or_false (world.holds (.role id) name)).symm.to_iff)
    (holds_addUserPermissions found names)
  refine ⟨grows, contained.trans ⟨?_, ?_⟩⟩
  · rintro ⟨-, users⟩ name named
    rcases users user.id name ⟨rfl, named⟩ with ⟨other, present, held⟩ | grantable
    · rw [Option.some.inj (found.symm.trans present)]
      exact .inl held
    · exact .inr grantable
  · intro validated
    refine ⟨fun _ _ none => none.elim, ?_⟩
    rintro _ name ⟨rfl, named⟩
    rcases validated name named with held | grantable
    · exact .inl ⟨user, found, held⟩
    · exact .inr grantable

theorem contained_grant (plain : isSystemUser actor = false) (command : GrantCommand) :
    Grows world (world.grant actor command) ∧
      (Contained actor world (world.grant actor command) ↔ command.Validated actor world) := by
  have same : SameTables (world.grant actor command) _ :=
    issue_accepted world ⟨actor, command.command⟩
  have grows_iff : Grows world (world.grant actor command) ↔
      Grows world ((command.command.accepted actor world).getD world) := by
    simp only [Grows, holds_congr same]
  have contained_iff : Contained actor world (world.grant actor command) ↔
      Contained actor world ((command.command.accepted actor world).getD world) := by
    simp only [Contained, holds_congr same]
  rw [grows_iff, contained_iff]
  cases accepted : command.command.accepted actor world with
  | none =>
      refine ⟨fun _ _ held => held, iff_of_true contained_self ?_⟩
      cases command with
      | createRole _ _ _ _ => trivial
      | addPermissionRole roleName permissions =>
          intro permitted role names found checked named
          simp [GrantCommand.command, RbacCommand.accepted, permitted, found, checked, named]
            at accepted
      | addPermissionToUser userId permissions =>
          intro permitted user names found named
          simp [GrantCommand.command, RbacCommand.accepted, permitted, found, named] at accepted
  | some after =>
      cases command with
      | createRole roleName description securityLevel permissions =>
          obtain ⟨grows, contained⟩ := contained_createRole plain accepted
          exact ⟨grows, iff_of_true contained trivial⟩
      | addPermissionRole roleName permissions =>
          obtain ⟨role, names, permitted, found, checked, named, rfl⟩ :=
            accepted_addPermissionRole accepted
          obtain ⟨grows, contained⟩ :=
            contained_addPermissionRole actor (role_of_name found) names
          refine ⟨grows, contained.trans ⟨?_, ?_⟩⟩
          · intro validated _ other others present _ listed
            rw [found] at present
            rw [named] at listed
            cases present
            cases listed
            exact validated
          · intro validated
            exact validated permitted role names found checked named
      | addPermissionToUser userId permissions =>
          obtain ⟨user, names, permitted, found, named, rfl⟩ :=
            accepted_addPermissionToUser accepted
          obtain ⟨grows, contained⟩ :=
            contained_addPermissionToUser actor (user_of_id found) names
          refine ⟨grows, contained.trans ⟨?_, ?_⟩⟩
          · intro validated _ other others present listed
            rw [found] at present
            rw [named] at listed
            cases present
            cases listed
            exact validated
          · intro validated
            exact validated permitted user names found named

end Commands

def World.grantAll (actor : AuthUserJWTData) (world : World) (commands : List GrantCommand) :
    World := commands.foldl (fun world command => world.grant actor command) world

variable {world : World} {actor : AuthUserJWTData}

theorem grows_grantAll (plain : isSystemUser actor = false) (commands : List GrantCommand) :
    Grows world (world.grantAll actor commands) := by
  induction commands generalizing world with
  | nil => exact fun _ _ held => held
  | cons command rest ih =>
      intro holder name held
      exact ih holder name ((contained_grant plain command).1 holder name held)

/-- Over a whole sequence nobody acquires what the actor may not give, exactly when each accepted
command names only what the actor may give or what is held already. -/
theorem grants_contained (world : World) (actor : AuthUserJWTData) (commands : List GrantCommand)
    (plain : isSystemUser actor = false) :
    Contained actor world (world.grantAll actor commands) ↔
      EachValidated actor world commands := by
  induction commands generalizing world with
  | nil => exact iff_of_true contained_self trivial
  | cons command rest ih =>
      obtain ⟨grows, contained⟩ :
          Grows world (world.grant actor command) ∧ _ := contained_grant plain command
      have growsLater : Grows (world.grant actor command) _ := grows_grantAll plain rest
      rw [EachValidated, ← ih, ← contained]
      constructor
      · intro all
        refine ⟨?_, ?_⟩
        · intro holder name absent present
          exact all holder name absent (growsLater holder name present)
        · intro holder name absent present
          exact all holder name (fun held => absent (grows holder name held)) present
      · rintro ⟨first, later⟩ holder name absent present
        by_cases held : (world.grant actor command).holds holder name
        · exact first holder name absent held
        · exact later holder name held present

section Clerk

def plainWorld : World where
  clock := 0
  roles := ⟨[{ id := 1, name := "plain" }], by decide⟩
  permissions := ⟨[⟨"user:impersonate"⟩, ⟨"user:view"⟩], by decide⟩

def maker : AuthUserJWTData := ⟨7, "maker", ["maker"], ["role:create", "user:view"], 2, "device"⟩

def grantImpersonate : GrantCommand :=
  .addPermissionRole "plain" ⟨["user:impersonate"], List.nodup_singleton _⟩

def grantView : GrantCommand :=
  .addPermissionRole "plain" ⟨["user:view"], List.nodup_singleton _⟩

theorem grants_contained_view :
    Contained maker plainWorld (plainWorld.grantAll maker [grantView]) := by
  refine (grants_contained plainWorld maker [grantView] (by decide)).mpr ⟨?_, trivial⟩
  intro _ role names _ _ named name member
  cases named
  have same : name = "user:view" := List.mem_singleton.mp member
  subst same
  exact .inr ⟨by decide, by decide⟩

theorem maker_gives_impersonate : isSystemUser maker = false ∧
    ¬Contained maker plainWorld (plainWorld.grantAll maker [grantImpersonate]) := by
  refine ⟨by decide, fun contained => ?_⟩
  have absent : ¬plainWorld.holds (.role 1) "user:impersonate" := by
    rintro ⟨role, found, held⟩
    cases found
    cases held
  have present : (plainWorld.grantAll maker [grantImpersonate]).holds (.role 1) "user:impersonate" :=
    ⟨⟨1, "plain", none, 1, ["user:impersonate"]⟩, by decide +kernel, by decide⟩
  exact (contained _ _ absent present).1 (by decide)

end Clerk

end Messanger.Auth
