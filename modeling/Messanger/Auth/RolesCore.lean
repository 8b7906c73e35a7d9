import Messanger.Auth.Models

/-!
`AuthRBACManager` and the handlers that change roles and what users are given.
-/

namespace Messanger.Auth

open Relational Processes

section RBACManager

def systemRoles : List String := ["system_admin", "super_admin"]

def protectedPermissions : List String :=
  ["system:manage_settings", "role:create", "role:update", "role:assign", "role:remove",
    "permission:create", "permission:update", "permission:delete", "user:impersonate"]

def roleNameMinLen : Nat := 3

def roleNameMaxLen : Nat := 24

def systemPrefixes : List String := ["system_", "admin_"]

variable (jwtData : AuthUserJWTData)

def isSystemUser : Bool := systemRoles.any fun role => jwtData.roles.contains role

/-- `required - set(jwt_data.permissions)`. -/
def missingPermissions (required : List String) : List String :=
  required.filter fun permission => !jwtData.permissions.contains permission

def validateRoleName (roleName : String) : Except AuthError Unit :=
  if roleName.length < roleNameMinLen ∨ roleNameMaxLen < roleName.length then
    .error (.invalidRoleName roleName)
  else if systemPrefixes.any (fun start => start.isPrefixOf roleName) && !isSystemUser jwtData then
    .error (.accessDenied (missingPermissions jwtData ["role:create"]))
  else .ok ()

def validatePermissions (permission : String) : Except AuthError Unit :=
  if isSystemUser jwtData then .ok ()
  else if permission ∈ protectedPermissions then .error (.protectedPermission permission)
  else if permission ∉ jwtData.permissions then
    .error (.accessDenied (missingPermissions jwtData [permission]))
  else .ok ()

def checkSecurityLevel (userLevel roleLevel : Int) : Except AuthError Unit :=
  if roleLevel = 0 then .error (.accessDenied [])
  else if userLevel ≤ roleLevel then .error (.accessDenied [])
  else .ok ()

def checkPermission (required : List String) : Bool :=
  required.isEmpty || isSystemUser jwtData || (missingPermissions jwtData required).isEmpty

def requirePermission (required : List String) : Except AuthError Unit :=
  if checkPermission jwtData required then .ok ()
  else .error (.accessDenied (missingPermissions jwtData required))

end RBACManager

section Repositories

def invalidateRole (roleName : String) : Handler Unit := do
  let now ← .observe .clock (·.clock)
  .perform (.set (.invalidRole roleName)) fun world =>
    world.set (.invalidRole roleName) now (8 * day / second)

def accessTokenExpireMinutes : Nat := 5

def refreshTokenExpireDays : Nat := 60

def addUser (userId : Nat) (expiration : Option Nat := none) : Handler Unit := do
  let now ← .observe .clock (·.clock)
  .perform (.set (.user userId)) fun world =>
    world.set (.user userId) now
      ((expiration.getD ((accessTokenExpireMinutes + 1) * minute)) / second)

def permissionsOf (names : NameSet) : Handler (List Permission) := do
  let permissions ← .observe .select (·.permissionsByNames names.val)
  if permissions.length ≠ names.val.length then
    .raise (.notFoundPermissions (names.val.filter fun name =>
      !(permissions.map (·.name)).contains name))
  else pure permissions

end Repositories

section Writes

variable (world : World)

/-- What `role.name` may not repeat. -/
def World.roleNameTaken (id : Nat) (name : String) : Bool :=
  world.roles.rows.any fun role => role.name == name && role.id != id

def World.insertRole (name : String) (description : Option String) (securityLevel : Int)
    (permissions : List String) : Except AuthError World :=
  let id := world.roles.nextKey
  if world.roleNameTaken id name then .error (.integrity "roles.name")
  else .ok { world with
    roles := world.roles.insert ⟨id, name, description, securityLevel, permissions⟩ }

/-- The columns that `RoleUpdateCommand` gives. -/
def Role.updated (name description : Option String) (securityLevel : Option Int) (role : Role) :
    Role :=
  { role with
    name := (name.filter (· ≠ "")).getD role.name
    description := (description.filter (· ≠ "")).or role.description
    securityLevel := (securityLevel.filter (· ≠ 0)).getD role.securityLevel }

def World.updateRoleColumns (id : Nat) (name description : Option String)
    (securityLevel : Option Int) : Except AuthError World :=
  if (name.filter (· ≠ "")).any (world.roleNameTaken id) then .error (.integrity "roles.name")
  else .ok (world.updateRole id (Role.updated name description securityLevel) fun _ => rfl)

def World.addRolePermissions (id : Nat) (names : List String) : World :=
  world.updateRole id (fun role => names.foldl Role.addPermission role) (by
    intro role
    induction names generalizing role with
    | nil => rfl
    | cons name rest ih => exact ih (role.addPermission name))

def World.deleteRolePermissions (id : Nat) (names : List String) : World :=
  world.updateRole id (fun role => names.foldl Role.deletePermission role) (by
    intro role
    induction names generalizing role with
    | nil => rfl
    | cons name rest ih => exact ih (role.deletePermission name))

def World.addUserRole (userId roleId : Nat) : World :=
  world.updateUser userId (fun user => { user with roles := user.roles.insert roleId }) fun _ => rfl

def World.removeUserRole (userId roleId : Nat) : World :=
  world.updateUser userId (fun user => { user with roles := user.roles.filter (· ≠ roleId) })
    fun _ => rfl

def World.addUserPermissions (userId : Nat) (names : List String) : World :=
  world.updateUser userId (fun user =>
    { user with permissions := names.foldl (fun held name => held.insert name) user.permissions })
    fun _ => rfl

def World.deleteUserPermissions (userId : Nat) (names : List String) : World :=
  world.updateUser userId (fun user =>
    { user with permissions := user.permissions.filter (· ∉ names) }) fun _ => rfl

def commit (write : World → World) : Handler Unit := .perform .commit write

def commitUnique (write : World → Except AuthError World) : Handler Unit := .attempt .commit write

end Writes

section Handlers

variable (userJwtData : AuthUserJWTData)

def createRolePermissions : List String → List String → Handler (List String)
  | [], held => pure held
  | name :: rest, held => do
      let permission ← .observe .select (·.permissionByName name)
      match permission with
      | none => .raise (.notFoundPermissions [name])
      | some permission => do
          validatePermissions userJwtData name
          createRolePermissions rest (held.insert permission.name)

def createRole (roleName description : String) (securityLevel : Int) (permissions : NameSet) :
    Handler Unit := do
  requirePermission userJwtData ["role:create"]
  validateRoleName userJwtData roleName
  checkSecurityLevel userJwtData.securityLevel securityLevel
  let role ← .observe .select (·.roleByName roleName)
  match role with
  | some _ => .raise (.duplicateRole roleName)
  | none => do
      let held ← createRolePermissions userJwtData permissions.val []
      commitUnique fun world => world.insertRole roleName (some description) securityLevel held

/-- `if command.security_level is not None`. -/
def checkNewLevel : Option Int → Except AuthError Unit
  | none => .ok ()
  | some level => checkSecurityLevel userJwtData.securityLevel level

/-- `if command.name`. -/
def validateNewName : Option String → Except AuthError Unit
  | none => .ok ()
  | some name => if name = "" then .ok () else validateRoleName userJwtData name

def roleUpdate (id : Nat) (name description : Option String) (securityLevel : Option Int) :
    Handler Unit := do
  requirePermission userJwtData ["role:update"]
  checkNewLevel userJwtData securityLevel
  let role ← .observe .select (·.roles.find? id)
  match role with
  | none => .raise (.notFoundRole (toString id))
  | some role => do
      checkSecurityLevel userJwtData.securityLevel role.securityLevel
      validateNewName userJwtData name
      invalidateRole (role.updated name description securityLevel).name
      commitUnique fun world => world.updateRoleColumns id name description securityLevel

def addPermissionRole (roleName : String) (permissions : NameSet) : Handler Unit := do
  requirePermission userJwtData ["role:create"]
  let role ← .observe .select (·.roleByName roleName)
  match role with
  | none => .raise (.notFoundRole roleName)
  | some role => do
      checkSecurityLevel userJwtData.securityLevel role.securityLevel
      let permissions ← permissionsOf permissions
      invalidateRole role.name
      commit fun world => world.addRolePermissions role.id (permissions.map (·.name))

def deletePermissionRole (roleName : String) (permissions : NameSet) : Handler Unit := do
  requirePermission userJwtData ["role:update"]
  let role ← .observe .select (·.roleByName roleName)
  match role with
  | none => .raise (.notFoundRole roleName)
  | some role => do
      let permissions ← permissionsOf permissions
      invalidateRole role.name
      commit fun world => world.deleteRolePermissions role.id (permissions.map (·.name))

def assignRole (assignToUser : Nat) (roleName : String) : Handler Unit := do
  requirePermission userJwtData ["role:assign"]
  let role ← .observe .select (·.roleByName roleName)
  match role with
  | none => .raise (.notFoundRole roleName)
  | some role => do
      let assignUser ← .observe .select (·.userById assignToUser)
      match assignUser with
      | none => .raise (.notFoundUser (toString assignToUser) "id")
      | some assignUser => do
          checkSecurityLevel userJwtData.securityLevel role.securityLevel
          addUser assignUser.id
          commit fun world => world.addUserRole assignUser.id role.id

def removeRole (removeFromUser : Nat) (roleName : String) : Handler Unit := do
  requirePermission userJwtData ["user:update", "role:remove"]
  let role ← .observe .select (·.roleByName roleName)
  match role with
  | none => .raise (.notFoundRole roleName)
  | some role => do
      checkSecurityLevel userJwtData.securityLevel role.securityLevel
      let user ← .observe .select (·.userById removeFromUser)
      match user with
      | none => .raise (.notFoundUser (toString removeFromUser) "id")
      | some user =>
          if role.id ∉ user.roles then .raise (.notFoundRole role.name)
          else do
            addUser user.id
            commit fun world => world.removeUserRole user.id role.id

def addPermissionToUser (userId : Nat) (permissions : NameSet) : Handler Unit := do
  requirePermission userJwtData ["permission:update", "user:update"]
  let user ← .observe .select (·.userById userId)
  match user with
  | none => .raise (.notFoundUser (toString userId) "id")
  | some user => do
      let permissions ← permissionsOf permissions
      addUser user.id
      commit fun world => world.addUserPermissions user.id (permissions.map (·.name))

/-- `delete_permission` of the user refuses a permission the user does not hold. -/
def deletePermissionToUser (userId : Nat) (permissions : NameSet) : Handler Unit := do
  requirePermission userJwtData ["permission:update", "user:update"]
  let user ← .observe .select (·.userById userId)
  match user with
  | none => .raise (.notFoundUser (toString userId) "id")
  | some user => do
      let permissions ← permissionsOf permissions
      match permissions.find? fun permission => permission.name ∉ user.permissions with
      | some permission => .raise (.notFoundPermissions [permission.name])
      | none => do
          addUser user.id
          commit fun world => world.deleteUserPermissions user.id (permissions.map (·.name))

end Handlers

end Messanger.Auth
