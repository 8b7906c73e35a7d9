import Mathlib.Logic.Function.Basic
import Messanger.Library.Processes
import Messanger.Library.Table

/-!
Users, roles, sessions and linked accounts of the auth module, the keys it keeps in Redis, and the
errors it raises.  Times are microseconds of one clock.
-/

namespace Messanger.Auth

open Relational Processes

def second : Nat := 1000000

def minute : Nat := 60 * second

def day : Nat := 24 * 60 * minute

/-- A `set` of names, in the order in which it is gone through. -/
abbrev NameSet := { names : List String // names.Nodup }

structure Permission where
  name : String
  deriving DecidableEq, Repr

structure Role where
  id : Nat
  name : String
  description : Option String := none
  securityLevel : Int := 1
  /-- The names of the permissions. -/
  permissions : List String := []
  deriving DecidableEq, Repr

structure User where
  id : Nat
  email : String
  username : String
  passwordHash : Option String := none
  isVerified : Bool := false
  isDeleted : Bool := false
  /-- The ids of the roles. -/
  roles : List Nat := []
  permissions : List String := []
  deriving DecidableEq, Repr

structure Session where
  id : Nat
  userId : Nat
  deviceId : String
  lastActivity : Nat
  isActive : Bool := true
  deriving DecidableEq, Repr

inductive OAuthProviderEnum where
  | yandex
  | google
  | github
  deriving DecidableEq, Repr

structure OAuthAccount where
  id : Nat
  provider : OAuthProviderEnum
  providerUserId : String
  providerEmail : String
  isActive : Bool := true
  userId : Nat
  deriving DecidableEq, Repr

/-- The keys: a bare digest, `state:`, `revoked:`, `user:`, `invalid_role:` and
`invalid_permission:` with what follows. -/
inductive RedisKey where
  | token (digest : String)
  | state (state : String)
  | revoked (jti : String)
  | user (id : Nat)
  | invalidRole (name : String)
  | invalidPermission (name : String)
  deriving DecidableEq, Repr

/-- A number or a time, and when the key expires. -/
structure Stored where
  value : Nat
  expiresAt : Nat
  deriving DecidableEq, Repr

inductive MailTemplate where
  | verifyToken
  | resetToken
  deriving DecidableEq, Repr

structure Mail where
  recipient : String
  template : MailTemplate
  token : String
  deriving DecidableEq, Repr

inductive TokenType where
  | access
  | refresh
  deriving DecidableEq, Repr

/-- The payload of a JWT. -/
structure Token where
  type : TokenType
  sub : Nat
  username : String
  lvl : Int
  did : String
  jti : String
  exp : Nat
  iat : Nat
  roles : List String := []
  permissions : List String := []
  deriving DecidableEq, Repr

structure OAuthData where
  providerUserId : String
  email : String
  username : Option String := none
  deriving DecidableEq, Repr

structure TokenGroup where
  refreshToken : String
  accessToken : String
  deriving DecidableEq, Repr

structure AuthUserJWTData where
  id : Nat
  username : String
  roles : List String
  permissions : List String
  securityLevel : Int
  deviceId : String
  deriving DecidableEq, Repr

inductive AuthError where
  | notFoundUser (userBy userField : String)
  | wrongLoginData (username : String)
  | oauthStateNotFound (state : String)
  | oauthProviderUnavailable (provider : String)
  | oauthInactive
  | linkedAnotherUserOAuth (provider : String)
  | notFoundRole (name : String)
  | invalidRoleName (name : String)
  | notFoundOrInactiveSession
  | notFoundPermissions (missing : List String)
  | protectedPermission (name : String)
  | duplicateRole (name : String)
  | duplicatePermission (name : String)
  | duplicateUser (field value : String)
  | invalidUsername (username reason : String)
  | usernameTaken (username : String)
  | passwordMismatch
  | notExistProviderOAuth (provider : String)
  | unverifiedEmailOAuth (provider : String)
  | noEmailOAuth (provider : String)
  | tokenInBlacklist
  | invalidToken (token : Option String)
  | expiredToken (token : Option String)
  | accessDenied (needPermissions : List String)
  /-- `IntegrityError` of a unique index. -/
  | integrity (index : String)
  /-- Redis refuses an expiry that is not positive. -/
  | invalidExpireTime
  deriving DecidableEq, Repr

/-- The database, Redis, the mail queue and the clock. -/
structure World where
  clock : Nat
  users : Table User Nat User.id := .empty
  /-- The last id that was given to a user, be it of a transaction that never commits. -/
  userSeq : Nat := 0
  roles : Table Role Nat Role.id := .empty
  permissions : Table Permission String Permission.name := .empty
  sessions : Table Session Nat Session.id := .empty
  oauthAccounts : Table OAuthAccount Nat OAuthAccount.id := .empty
  redis : RedisKey → Option Stored := fun _ => none
  mails : List Mail := []

/-- What an action of a handler is. -/
inductive Op where
  | clock
  | select
  | flush
  | commit
  | get (key : RedisKey)
  | mget (keys : List RedisKey)
  | set (key : RedisKey)
  | del (key : RedisKey)
  | queue
  | provider
  deriving DecidableEq, Repr

abbrev Handler (Answer : Type) := Process World Op AuthError Answer

/-- What the handlers call and the repository does not contain. -/
structure Services where
  sha256 : String → String
  /-- With the salt it draws. -/
  hashPassword : String → String → String
  verifyPassword : String → String → Bool
  encode : Token → String
  decode : String → Option Token
  /-- The fingerprint of a user agent. -/
  deviceId : String → String
  /-- What the provider answers to a code. -/
  oauthUser : OAuthProviderEnum → String → Except AuthError OAuthData
  authUrl : OAuthProviderEnum → String → String
  /-- `str.strip`. -/
  strip : String → String

namespace World

variable (world : World)

section Reads

def userById (id : Nat) : Option User := (world.users.find? id).filter fun user => !user.isDeleted

def userByEmail (email : String) : Option User :=
  (world.users.select fun user => user.email == email && !user.isDeleted).head?

def userByUsername (username : String) : Option User :=
  (world.users.select fun user => user.username == username && !user.isDeleted).head?

def roleByName (name : String) : Option Role :=
  (world.roles.select fun role => role.name == name).head?

def rolesOf (user : User) : List Role := world.roles.select fun role => role.id ∈ user.roles

def permissionByName (name : String) : Option Permission := world.permissions.find? name

def permissionsByNames (names : List String) : List Permission :=
  world.permissions.select fun permission => permission.name ∈ names

def activeByDevice (userId : Nat) (deviceId : String) : Option Session :=
  (world.sessions.select fun session =>
    session.userId == userId && session.deviceId == deviceId && session.isActive).head?

def accountByProvider (provider : OAuthProviderEnum) (providerUserId : String) :
    Option OAuthAccount :=
  (world.oauthAccounts.select fun account =>
    account.provider == provider && account.providerUserId == providerUserId).head?

def get (key : RedisKey) : Option Nat :=
  match world.redis key with
  | some stored => if world.clock < stored.expiresAt then some stored.value else none
  | none => none

end Reads

section Writes

def set (key : RedisKey) (value seconds : Nat) : World :=
  { world with redis :=
      Function.update world.redis key (some ⟨value, world.clock + seconds * second⟩) }

def del (key : RedisKey) : World :=
  { world with redis := Function.update world.redis key none }

def updateUser (id : Nat) (change : User → User) (keeps : ∀ user, (change user).id = user.id) :
    World :=
  { world with users := world.users.update (fun user => user.id == id) change keeps }

def updateRole (id : Nat) (change : Role → Role) (keeps : ∀ role, (change role).id = role.id) :
    World :=
  { world with roles := world.roles.update (fun role => role.id == id) change keeps }

def updateSession (id : Nat) (change : Session → Session)
    (keeps : ∀ session, (change session).id = session.id) : World :=
  { world with sessions := world.sessions.update (fun session => session.id == id) change keeps }

end Writes

end World

section Lookups

theorem userById_id {world : World} {id : Nat} {user : User} (found : world.userById id = some user) :
    user.id = id := Table.key_of_find? (Option.filter_eq_some_iff.mp found).1

theorem stored_of_get {world : World} {key : RedisKey} {value : Nat}
    (found : world.get key = some value) :
    ∃ expiresAt, world.redis key = some ⟨value, expiresAt⟩ ∧ world.clock < expiresAt := by
  rw [World.get] at found
  split at found
  · rename_i stored there
    split at found
    · rename_i early
      cases found
      exact ⟨stored.expiresAt, there, early⟩
    · cases found
  · cases found

end Lookups

section Roles

namespace Role

variable (role : Role)

def addPermission (permission : String) : Role :=
  { role with permissions := role.permissions.insert permission }

def deletePermission (permission : String) : Role :=
  { role with permissions := role.permissions.filter (· ≠ permission) }

end Role

namespace AuthUserJWTData

def createFromUser (user : User) (roles : List Role) (deviceId : String) : AuthUserJWTData where
  id := user.id
  username := user.username
  roles := roles.map (·.name)
  permissions := roles.flatMap (·.permissions) ++ user.permissions
  securityLevel := roles.foldl (fun level role => max level role.securityLevel) 0
  deviceId := deviceId

end AuthUserJWTData

end Roles

end Messanger.Auth
