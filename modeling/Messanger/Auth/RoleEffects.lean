import Messanger.Auth.RolesCore

/-!
What each command on roles and permissions does to the tables when nothing comes between its
statements: either it is refused and they stay as they are, or it makes one change.
-/

namespace Messanger.Auth

open Relational Processes

inductive RbacCommand where
  | createRole (roleName description : String) (securityLevel : Int) (permissions : NameSet)
  | roleUpdate (id : Nat) (name description : Option String) (securityLevel : Option Int)
  | addPermissionRole (roleName : String) (permissions : NameSet)
  | deletePermissionRole (roleName : String) (permissions : NameSet)
  | assignRole (assignToUser : Nat) (roleName : String)
  | removeRole (removeFromUser : Nat) (roleName : String)
  | addPermissionToUser (userId : Nat) (permissions : NameSet)
  | deletePermissionToUser (userId : Nat) (permissions : NameSet)

def RbacCommand.handle (actor : AuthUserJWTData) : RbacCommand → Handler Unit
  | .createRole roleName description securityLevel permissions =>
      Auth.createRole actor roleName description securityLevel permissions
  | .roleUpdate id name description securityLevel =>
      Auth.roleUpdate actor id name description securityLevel
  | .addPermissionRole roleName permissions => Auth.addPermissionRole actor roleName permissions
  | .deletePermissionRole roleName permissions =>
      Auth.deletePermissionRole actor roleName permissions
  | .assignRole assignToUser roleName => Auth.assignRole actor assignToUser roleName
  | .removeRole removeFromUser roleName => Auth.removeRole actor removeFromUser roleName
  | .addPermissionToUser userId permissions => Auth.addPermissionToUser actor userId permissions
  | .deletePermissionToUser userId permissions =>
      Auth.deletePermissionToUser actor userId permissions

structure SameTables (left right : World) : Prop where
  users : left.users = right.users
  roles : left.roles = right.roles
  permissions : left.permissions = right.permissions

namespace SameTables

variable {left middle right world : World}

theorem refl : SameTables world world := ⟨rfl, rfl, rfl⟩

theorem set (key : RedisKey) (value seconds : Nat) :
    SameTables (world.set key value seconds) world := ⟨rfl, rfl, rfl⟩

end SameTables

def createdPermissions (actor : AuthUserJWTData) (world : World) :
    List String → List String → Option (List String)
  | [], held => some held
  | name :: rest, held =>
      if (world.permissionByName name).isSome && (validatePermissions actor name).isOk then
        createdPermissions actor world rest (held.insert name)
      else none

def permissionsNamed (world : World) (names : NameSet) : Option (List String) :=
  let permissions := world.permissionsByNames names.val
  if permissions.length = names.val.length then some (permissions.map (·.name)) else none

def RbacCommand.accepted (actor : AuthUserJWTData) (world : World) : RbacCommand → Option World
  | .createRole roleName description securityLevel permissions =>
      if checkPermission actor ["role:create"] then
        if (validateRoleName actor roleName).isOk then
          if (checkSecurityLevel actor.securityLevel securityLevel).isOk then
            match world.roleByName roleName with
            | some _ => none
            | none => do
                let held ← createdPermissions actor world permissions.val []
                (world.insertRole roleName (some description) securityLevel held).toOption
          else none
        else none
      else none
  | .roleUpdate id name description securityLevel =>
      if checkPermission actor ["role:update"] then
        if (checkNewLevel actor securityLevel).isOk then do
          let role ← world.roles.find? id
          if (checkSecurityLevel actor.securityLevel role.securityLevel).isOk then
            if (validateNewName actor name).isOk then
              (world.updateRoleColumns id name description securityLevel).toOption
            else none
          else none
        else none
      else none
  | .addPermissionRole roleName permissions =>
      if checkPermission actor ["role:create"] then do
        let role ← world.roleByName roleName
        if (checkSecurityLevel actor.securityLevel role.securityLevel).isOk then do
          let names ← permissionsNamed world permissions
          some (world.addRolePermissions role.id names)
        else none
      else none
  | .deletePermissionRole roleName permissions =>
      if checkPermission actor ["role:update"] then do
        let role ← world.roleByName roleName
        let names ← permissionsNamed world permissions
        some (world.deleteRolePermissions role.id names)
      else none
  | .assignRole assignToUser roleName =>
      if checkPermission actor ["role:assign"] then do
        let role ← world.roleByName roleName
        let user ← world.userById assignToUser
        if (checkSecurityLevel actor.securityLevel role.securityLevel).isOk then
          some (world.addUserRole user.id role.id)
        else none
      else none
  | .removeRole removeFromUser roleName =>
      if checkPermission actor ["user:update", "role:remove"] then do
        let role ← world.roleByName roleName
        if (checkSecurityLevel actor.securityLevel role.securityLevel).isOk then do
          let user ← world.userById removeFromUser
          if role.id ∉ user.roles then none else some (world.removeUserRole user.id role.id)
        else none
      else none
  | .addPermissionToUser userId permissions =>
      if checkPermission actor ["permission:update", "user:update"] then do
        let user ← world.userById userId
        let names ← permissionsNamed world permissions
        some (world.addUserPermissions user.id names)
      else none
  | .deletePermissionToUser userId permissions =>
      if checkPermission actor ["permission:update", "user:update"] then do
        let user ← world.userById userId
        let names ← permissionsNamed world permissions
        match names.find? (· ∉ user.permissions) with
        | some _ => none
        | none => some (world.deleteUserPermissions user.id names)
      else none

def Does (handler : Handler Unit) (world : World) (expected : Option World) : Prop :=
  SameTables (handler.run world).1 (expected.getD world) ∧
    (handler.run world).2.isOk = expected.isSome

def OnTables (write : World → World) : Prop :=
  ∀ left right, SameTables left right → SameTables (write left) (write right)

def UniqueOnTables (write : World → Except AuthError World) : Prop :=
  ∀ left right, SameTables left right →
    (∃ error, write left = .error error ∧ write right = .error error) ∨
      ∃ first second, write left = .ok first ∧ write right = .ok second ∧
        SameTables first second

section Rules

variable {actor : AuthUserJWTData} {world : World} {expected : Option World}
  {next : Unit → Handler Unit}

theorem does_raise (error : AuthError) : Does (.raise error) world none := ⟨.refl, rfl⟩

theorem does_observe {Answer : Type} {label : Op} {read : World → Answer}
    {next : Answer → Handler Unit} (rest : Does (next (read world)) world expected) :
    Does (.observe label read >>= next) world expected := rest

theorem does_if {condition : Prop} [Decidable condition] {first second : Handler Unit}
    {left right : Option World} (yes : Does first world left) (no : Does second world right) :
    Does (if condition then first else second) world (if condition then left else right) := by
  by_cases holds : condition
  · rw [if_pos holds, if_pos holds]
    exact yes
  · rw [if_neg holds, if_neg holds]
    exact no

theorem does_lift (check : Except AuthError Unit) (rest : Does (next ()) world expected) :
    Does (liftM check >>= next) world (if check.isOk then expected else none) := by
  cases check with
  | ok answer => exact rest
  | error error => exact ⟨.refl, rfl⟩

theorem does_require (required : List String) (rest : Does (next ()) world expected) :
    Does (liftM (requirePermission actor required) >>= next) world
      (if checkPermission actor required then expected else none) := by
  have same : (requirePermission actor required).isOk = checkPermission actor required := by
    rw [requirePermission]
    cases checkPermission actor required with
    | true => rfl
    | false => rfl
  rw [← same]
  exact does_lift _ rest

theorem does_permissions (names : NameSet) {next : List Permission → Handler Unit}
    {expected : List String → Option World}
    (rest : ∀ permissions : List Permission,
      Does (next permissions) world (expected (permissions.map (·.name)))) :
    Does (permissionsOf names >>= next) world ((permissionsNamed world names).bind expected) := by
  rw [permissionsOf, Process.bind_assoc]
  refine does_observe ?_
  rw [permissionsNamed]
  by_cases complete : (world.permissionsByNames names.val).length = names.val.length
  · rw [if_neg (not_not_intro complete), if_pos complete]
    exact rest _
  · rw [if_pos complete, if_neg complete]
    exact does_raise _

theorem does_invalidateRole (name : String) {write : World → World} (tables : OnTables write) :
    Does (invalidateRole name >>= fun _ => commit write) world (some (write world)) :=
  ⟨tables _ _ (SameTables.set _ _ _), rfl⟩

theorem does_addUser (userId : Nat) {write : World → World} (tables : OnTables write) :
    Does (addUser userId >>= fun _ => commit write) world (some (write world)) :=
  ⟨tables _ _ (SameTables.set _ _ _), rfl⟩

theorem does_commitUnique {before : World} (same : SameTables before world)
    {write : World → Except AuthError World} (tables : UniqueOnTables write) :
    SameTables ((commitUnique write).run before).1 ((write world).toOption.getD world) ∧
      ((commitUnique write).run before).2.isOk = (write world).toOption.isSome := by
  rcases tables before world same with ⟨error, left, right⟩ | ⟨first, second, left, right, both⟩
  · simp only [commitUnique, Process.attempt, Process.run_act, Process.run_done, left, right]
    exact ⟨same, rfl⟩
  · simp only [commitUnique, Process.attempt, Process.run_act, Process.run_done, left, right]
    exact ⟨both, rfl⟩

theorem does_invalidateRole_unique (name : String) {write : World → Except AuthError World}
    (tables : UniqueOnTables write) :
    Does (invalidateRole name >>= fun _ => commitUnique write) world (write world).toOption :=
  does_commitUnique (SameTables.set (.invalidRole name) world.clock (8 * day / second)) tables

theorem does_createRolePermissions (names held : List String)
    {next : List String → Handler Unit} {expected : List String → Option World}
    (rest : ∀ held, Does (next held) world (expected held)) :
    Does (createRolePermissions actor names held >>= next) world
      ((createdPermissions actor world names held).bind expected) := by
  induction names generalizing held with
  | nil => exact rest held
  | cons name names ih =>
      rw [createRolePermissions, Process.bind_assoc, createdPermissions]
      refine does_observe ?_
      cases found : world.permissionByName name with
      | none => exact does_raise _
      | some permission =>
          have named : permission.name = name := Table.key_of_find? found
          cases valid : validatePermissions actor name with
          | error error => exact does_raise _
          | ok _ =>
              subst named
              exact ih (held.insert permission.name)

end Rules

section Tables

theorem onTables_updateRole (id : Nat) (change : Role → Role)
    (keeps : ∀ role, (change role).id = role.id) :
    OnTables fun world => world.updateRole id change keeps := by
  intro left right same
  refine ⟨same.users, ?_, same.permissions⟩
  simp only [World.updateRole, same.roles]

theorem onTables_updateUser (id : Nat) (change : User → User)
    (keeps : ∀ user, (change user).id = user.id) :
    OnTables fun world => world.updateUser id change keeps := by
  intro left right same
  refine ⟨?_, same.roles, same.permissions⟩
  simp only [World.updateUser, same.users]

theorem roleNameTaken_congr {left right : World} (same : SameTables left right) (id : Nat)
    (name : String) : left.roleNameTaken id name = right.roleNameTaken id name := by
  rw [World.roleNameTaken, World.roleNameTaken, same.roles]

theorem uniqueOnTables_insertRole (name : String) (description : Option String)
    (securityLevel : Int) (permissions : List String) :
    UniqueOnTables fun world => world.insertRole name description securityLevel permissions := by
  intro left right same
  have keys : left.roles.nextKey = right.roles.nextKey := by rw [same.roles]
  have names := roleNameTaken_congr same right.roles.nextKey name
  simp only [World.insertRole, keys, names]
  cases right.roleNameTaken right.roles.nextKey name with
  | true => exact .inl ⟨_, rfl, rfl⟩
  | false =>
      refine .inr ⟨_, _, rfl, rfl, same.users, ?_, same.permissions⟩
      simp only [same.roles]

theorem uniqueOnTables_updateRoleColumns (id : Nat) (name description : Option String)
    (securityLevel : Option Int) :
    UniqueOnTables fun world => world.updateRoleColumns id name description securityLevel := by
  intro left right same
  have names : left.roleNameTaken id = right.roleNameTaken id :=
    funext fun wanted => roleNameTaken_congr same id wanted
  simp only [World.updateRoleColumns, names]
  cases (name.filter (· ≠ "")).any (right.roleNameTaken id) with
  | true => exact .inl ⟨_, rfl, rfl⟩
  | false =>
      refine .inr ⟨_, _, rfl, rfl, ?_⟩
      exact onTables_updateRole id (Role.updated name description securityLevel) (fun _ => rfl)
        left right same

end Tables

theorem RbacCommand.does (actor : AuthUserJWTData) (world : World) (command : RbacCommand) :
    Does (command.handle actor) world (command.accepted actor world) := by
  cases command with
  | createRole roleName description securityLevel permissions =>
      refine does_require _ (does_lift _ (does_lift _ (does_observe ?_)))
      cases found : world.roleByName roleName with
      | some role => exact does_raise _
      | none =>
          refine does_createRolePermissions _ _ fun held => ?_
          exact does_commitUnique .refl (uniqueOnTables_insertRole _ _ _ _)
  | roleUpdate id name description securityLevel =>
      refine does_require _ (does_lift _ (does_observe ?_))
      cases found : world.roles.find? id with
      | none => exact does_raise _
      | some role =>
          exact does_lift _ (does_lift _
            (does_invalidateRole_unique _ (uniqueOnTables_updateRoleColumns _ _ _ _)))
  | addPermissionRole roleName permissions =>
      refine does_require _ (does_observe ?_)
      cases found : world.roleByName roleName with
      | none => exact does_raise _
      | some role =>
          refine does_lift _ (does_permissions permissions fun held => ?_)
          exact does_invalidateRole _ (onTables_updateRole _ _ _)
  | deletePermissionRole roleName permissions =>
      refine does_require _ (does_observe ?_)
      cases found : world.roleByName roleName with
      | none => exact does_raise _
      | some role =>
          refine does_permissions permissions fun held => ?_
          exact does_invalidateRole _ (onTables_updateRole _ _ _)
  | assignRole assignToUser roleName =>
      refine does_require _ (does_observe ?_)
      cases found : world.roleByName roleName with
      | none => exact does_raise _
      | some role =>
          refine does_observe ?_
          cases present : world.userById assignToUser with
          | none => exact does_raise _
          | some user => exact does_lift _ (does_addUser _ (onTables_updateUser _ _ _))
  | removeRole removeFromUser roleName =>
      refine does_require _ (does_observe ?_)
      cases found : world.roleByName roleName with
      | none => exact does_raise _
      | some role =>
          refine does_lift _ (does_observe ?_)
          cases present : world.userById removeFromUser with
          | none => exact does_raise _
          | some user =>
              exact does_if (does_raise _) (does_addUser _ (onTables_updateUser _ _ _))
  | addPermissionToUser userId permissions =>
      refine does_require _ (does_observe ?_)
      cases found : world.userById userId with
      | none => exact does_raise _
      | some user =>
          refine does_permissions permissions fun held => ?_
          exact does_addUser _ (onTables_updateUser _ _ _)
  | deletePermissionToUser userId permissions =>
      refine does_require _ (does_observe ?_)
      cases found : world.userById userId with
      | none => exact does_raise _
      | some user =>
          refine does_permissions permissions fun held => ?_
          rw [List.find?_map]
          cases absent : held.find? fun permission => permission.name ∉ user.permissions with
          | some permission =>
              simp only [Function.comp_def, absent, Option.map_some]
              exact does_raise _
          | none =>
              simp only [Function.comp_def, absent, Option.map_none]
              exact does_addUser _ (onTables_updateUser _ _ _)

end Messanger.Auth
