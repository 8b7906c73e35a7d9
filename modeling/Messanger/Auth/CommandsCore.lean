import Messanger.Auth.RoleEffects

/-!
The handlers for passwords, logins, sessions and linked accounts.  What a handler draws at random
(tokens, ids of JWTs, salts) is part of its command.
-/

namespace Messanger.Auth

open Relational Processes

def emailResetTokenExpireMinutes : Nat := 15

def oauthStateExpireMinutes : Nat := 10

inductive AuthAnswer where
  | none
  | tokens (group : TokenGroup)
  | url (url : String)
  deriving DecidableEq, Repr

section Accounts

variable (services : Services)

def usernameMinLength : Nat := 5

def usernameMaxLength : Nat := 32

def usernameReserved : List String :=
  ["admin", "administrator", "moderator", "support", "help", "helpdesk", "system", "official",
    "security", "abuse", "root", "superuser", "staff", "service", "notifications", "bot",
    "username", "settings", "privacy", "profile", "profiles", "contacts", "account", "chatix",
    "telegram", "deleted", "anonymous", "null", "undefined"]

/-- Only names of ASCII letters get here, of which `lower()` and `toLower` make the same. -/
def isReservedUsername (username : String) : Bool :=
  usernameReserved.contains (services.strip username).toLower

/-- `[A-Za-z][A-Za-z0-9_]*[A-Za-z0-9]`. -/
def usernameFormat (username : String) : Bool :=
  match username.toList with
  | first :: second :: rest =>
      first.isAlpha && (second :: rest).all (fun char => char.isAlphanum || char == '_') &&
        ((second :: rest).getLast (by simp)).isAlphanum
  | _ => false

def validateUsername (username : String) : Except AuthError String :=
  let stripped := services.strip username
  let cleaned := if "@".isPrefixOf stripped then (stripped.drop 1).toString else stripped
  if cleaned.length < usernameMinLength ∨ usernameMaxLength < cleaned.length then
    .error (.invalidUsername username "length")
  else if !usernameFormat cleaned then .error (.invalidUsername username "format")
  else if isReservedUsername services cleaned then .error (.invalidUsername username "reserved")
  else .ok cleaned

/-- `lower(username)` in the database, of names whose letters are ASCII. -/
def World.usernameTaken (world : World) (username : String) (excludeUserId : Option Nat) : Bool :=
  world.users.rows.any fun user =>
    user.username.toLower == username.toLower && some user.id != excludeUserId

def World.insertUser (world : World) (user : User) : Except AuthError World :=
  if (world.users.find? user.id).isSome then .error (.integrity "users_pkey")
  else if world.users.rows.any fun other => other.email == user.email then
    .error (.integrity "users.email")
  else if world.users.rows.any fun other =>
      other.username.toLower == user.username.toLower then
    .error (.integrity "uq_users_username_lower")
  else .ok { world with users := world.users.insert user }

def register (username email password passwordRepeat salt : String) : Handler Unit := do
  let emailUser ← .observe .select (·.userByEmail email)
  match emailUser with
  | some _ => .raise (.duplicateUser "email" email)
  | none =>
      if isReservedUsername services username then .raise (.invalidUsername username "reserved")
      else do
        let taken ← .observe .select (·.usernameTaken username none)
        if taken then .raise (.duplicateUser "username" username)
        else if password ≠ passwordRepeat then .raise .passwordMismatch
        else do
          let role ← .observe .select (·.roleByName "user")
          match role with
          | none => .raise (.notFoundRole "user")
          | some role =>
              commitUnique fun world => world.insertUser
                { id := max world.users.nextKey (world.userSeq + 1)
                  email
                  username
                  passwordHash := some (services.hashPassword salt password)
                  roles := [role.id] }

def World.renameUser (world : World) (userId : Nat) (username : String) : Except AuthError World :=
  if world.usernameTaken username (some userId) then .error (.usernameTaken username)
  else .ok (world.updateUser userId (fun user => { user with username }) fun _ => rfl)

def changeUsername (userJwtData : AuthUserJWTData) (username : String) : Handler Unit := do
  let user ← .observe .select (·.userById userJwtData.id)
  match user with
  | none => .raise (.notFoundUser (toString userJwtData.id) "id")
  | some user => do
      let cleaned ← validateUsername services username
      if cleaned = user.username then pure ()
      else do
        let taken ← .observe .select (·.usernameTaken cleaned (some user.id))
        if taken then .raise (.usernameTaken cleaned)
        else commitUnique fun world => world.renameUser user.id cleaned

end Accounts

section Permissions

variable (userJwtData : AuthUserJWTData)

def createPermission (name : String) : Handler Unit := do
  requirePermission userJwtData ["permission:create"]
  validatePermissions userJwtData name
  let permission ← .observe .select (·.permissionByName name)
  match permission with
  | some _ => .raise (.duplicatePermission name)
  | none =>
      commitUnique fun world =>
        if (world.permissionByName name).isSome then .error (.integrity "permissions.name")
        else .ok { world with permissions := world.permissions.insert ⟨name⟩ }

/-- The rows of `role_permissions` and `user_permissions` go with the permission. -/
def World.deletePermission (world : World) (name : String) : World :=
  { world with
    permissions := world.permissions.delete fun permission => permission.name == name
    roles := world.roles.update (fun _ => true) (fun role => role.deletePermission name) fun _ => rfl
    users := world.users.update (fun _ => true)
      (fun user => { user with permissions := user.permissions.filter (· ≠ name) }) fun _ => rfl }

def deletePermission (name : String) : Handler Unit := do
  requirePermission userJwtData ["permission:create"]
  validatePermissions userJwtData name
  if name ∈ protectedPermissions then .raise (.protectedPermission name)
  else do
    let permission ← .observe .select (·.permissionByName name)
    match permission with
    | none => .raise (.notFoundPermissions [name])
    | some permission => do
        let now ← .observe .clock (·.clock)
        .perform (.set (.invalidPermission permission.name)) fun world =>
          world.set (.invalidPermission permission.name) now (8 * day / second)
        commit fun world => world.deletePermission permission.name

end Permissions

section Tokens

variable (services : Services)

/-- `SendVerify` and `SendResetPassword` differ in the mail only. -/
def sendToken (template : MailTemplate) (email token : String) : Handler Unit := do
  let user ← .observe .select (·.userByEmail email)
  match user with
  | none => pure ()
  | some user => do
      let key := RedisKey.token (services.sha256 token)
      .perform (.set key) fun world =>
        world.set key user.id (emailResetTokenExpireMinutes * minute / second)
      .perform .queue fun world =>
        { world with mails := world.mails ++ [⟨user.email, template, token⟩] }

def sendVerify (email token : String) : Handler Unit := sendToken services .verifyToken email token

def sendResetPassword (email token : String) : Handler Unit :=
  sendToken services .resetToken email token

def verify (token : String) : Handler Unit := do
  let key := RedisKey.token (services.sha256 token)
  let userId ← .observe (.get key) (·.get key)
  match userId with
  | none => .raise (.invalidToken (some token))
  | some userId => do
      let user ← .observe .select (·.userById userId)
      match user with
      | none => .raise (.notFoundUser (toString userId) "id")
      | some user => do
          .perform (.del key) (·.del key)
          commit fun world => world.updateUser user.id (fun user => { user with isVerified := true })
            fun _ => rfl

def World.resetPassword (world : World) (userId : Nat) (passwordHash : String) : World :=
  world.updateUser userId (fun user => { user with passwordHash := some passwordHash }) fun _ => rfl

def resetPassword (token password passwordRepeat salt : String) : Handler Unit := do
  let key := RedisKey.token (services.sha256 token)
  let userId ← .observe (.get key) (·.get key)
  match userId with
  | none => .raise (.invalidToken (some token))
  | some userId => do
      let user ← .observe .select (·.userById userId)
      match user with
      | none => .raise (.notFoundUser "1" "id")
      | some user =>
          if password ≠ passwordRepeat then .raise .passwordMismatch
          else do
            .perform (.del key) (·.del key)
            addUser user.id (some (refreshTokenExpireDays * day))
            commit fun world => world.resetPassword user.id (services.hashPassword salt password)

/-- What `ChangePasswordCommandHandler` refuses; `verify_password` stands there without `not`. -/
def passwordRefused (user : User) (oldPassword newPassword newPasswordRepeat : String) : Bool :=
  match user.passwordHash with
  | none => true
  | some passwordHash =>
      services.verifyPassword oldPassword passwordHash || newPassword != newPasswordRepeat

def changePassword (userJwtData : AuthUserJWTData)
    (oldPassword newPassword newPasswordRepeat salt : String) : Handler Unit := do
  let user ← .observe .select (·.userById userJwtData.id)
  match user with
  | none => .raise (.notFoundUser "1" "id")
  | some user =>
      if passwordRefused services user oldPassword newPassword newPasswordRepeat then
        .raise .passwordMismatch
      else do
        addUser user.id (some (refreshTokenExpireDays * day))
        commit fun world => world.resetPassword user.id (services.hashPassword salt newPassword)

end Tokens

section JWTManager

variable (services : Services)

/-- `decode` and `validate_token`; PyJWT compares whole seconds of `exp` and `iat`. -/
def validateToken (token : String) (type : TokenType) : Handler Token := do
  let now ← .observe .clock (·.clock)
  match services.decode token with
  | none => .raise (.invalidToken (some token))
  | some payload =>
      if now < payload.iat / second * second then .raise (.invalidToken (some token))
      else if payload.exp / second * second ≤ now then .raise (.expiredToken (some token))
      else if payload.type ≠ type then .raise (.invalidToken (some token))
      else pure payload

def generatePayload (userData : AuthUserJWTData) (type : TokenType) (jti : String) (now : Nat) :
    Token where
  type := type
  sub := userData.id
  username := userData.username
  lvl := userData.securityLevel
  did := userData.deviceId
  jti := jti
  exp := now + match type with
    | .access => accessTokenExpireMinutes * minute
    | .refresh => refreshTokenExpireDays * day
  iat := now
  roles := match type with
    | .access => userData.roles
    | .refresh => []
  permissions := match type with
    | .access => userData.permissions
    | .refresh => []

def createTokenPair (securityUser : AuthUserJWTData) (jtis : String × String) :
    Handler TokenGroup := do
  let now ← .observe .clock (·.clock)
  pure
    { refreshToken := services.encode (generatePayload securityUser .refresh jtis.2 now)
      accessToken := services.encode (generatePayload securityUser .access jtis.1 now) }

def addJwtToken (jti : String) (seconds : Nat) : Handler Unit := do
  let now ← .observe .clock (·.clock)
  .attempt (.set (.revoked jti)) fun world =>
    if seconds = 0 then .error .invalidExpireTime
    else .ok (world.set (.revoked jti) now seconds)

def revokeToken (token : Token) : Handler Unit := do
  let currentTime ← .observe .clock (·.clock)
  addJwtToken token.jti ((token.exp - currentTime) / second)

def World.maxTime (world : World) (keys : List RedisKey) : Nat :=
  keys.foldl (fun latest key => max latest ((world.get key).getD 0)) 0

/-- `get_max_invalidation_time`; with no keys Redis is not asked. -/
def getMaxInvalidationTime (keys : List RedisKey) : Handler Nat :=
  if keys.isEmpty then pure 0 else .observe (.mget keys) (·.maxTime keys)

def requireNewer (token : Token) (time : Nat) : Except AuthError Unit :=
  if token.iat < time then .error .tokenInBlacklist else .ok ()

def refreshTokens (token : Token) (securityUser : AuthUserJWTData) (jtis : String × String) :
    Handler TokenGroup := do
  let blacklistedToken ← .observe (.get (.revoked token.jti)) (·.get (.revoked token.jti))
  requireNewer token (blacklistedToken.getD 0)
  let blacklistedUser ← .observe (.get (.user token.sub)) (·.get (.user token.sub))
  requireNewer token (blacklistedUser.getD 0)
  let invalidRole ← getMaxInvalidationTime (securityUser.roles.map .invalidRole)
  requireNewer token invalidRole
  let invalidPermission ←
    getMaxInvalidationTime (securityUser.permissions.map .invalidPermission)
  requireNewer token invalidPermission
  revokeToken token
  createTokenPair services securityUser jtis

end JWTManager

section Sessions

variable (services : Services)

def World.deactivateSession (world : World) (sessionId now : Nat) : World :=
  world.updateSession sessionId
    (fun session => { session with isActive := false, lastActivity := now }) fun _ => rfl

/-- `online()`. -/
def World.onlineSession (world : World) (sessionId now : Nat) : World :=
  world.updateSession sessionId (fun session => { session with lastActivity := now }) fun _ => rfl

/-- What the commit does for `get_or_create_session`. -/
def World.saveSession (world : World) (existing : Option Session) (userId : Nat) (deviceId : String)
    (now : Nat) : World :=
  match existing with
  | some session => world.onlineSession session.id now
  | none => { world with sessions :=
      world.sessions.insert ⟨world.sessions.nextKey, userId, deviceId, now, true⟩ }

def World.securityUser (world : World) (user : User) (deviceId : String) : AuthUserJWTData :=
  AuthUserJWTData.createFromUser user (world.rolesOf user) deviceId

def login (username password userAgent : String) (jtis : String × String) : Handler TokenGroup := do
  let found ← .observe .select fun world =>
    let user := if username.toList.contains '@' then world.userByEmail username
      else world.userByUsername username
    user.map fun user => (user, world.securityUser user (services.deviceId userAgent))
  match found with
  | none => .raise (.wrongLoginData username)
  | some (user, securityUser) =>
      if !user.passwordHash.any (services.verifyPassword password) then
        .raise (.wrongLoginData username)
      else do
        let deviceId := services.deviceId userAgent
        let existing ← .observe .select (·.activeByDevice user.id deviceId)
        let now ← .observe .clock (·.clock)
        commit fun world => world.saveSession existing user.id deviceId now
        createTokenPair services securityUser jtis

/-- The `except TokenInBlacklistError` branch. -/
def deactivateAndRaise (sessionId : Nat) (error : AuthError) : Handler TokenGroup :=
  if error = .tokenInBlacklist then do
    let now ← .observe .clock (·.clock)
    commit fun world => world.deactivateSession sessionId now
    .raise error
  else .raise error

def refreshToken (token : Option String) (jtis : String × String) : Handler TokenGroup := do
  match token with
  | none => .raise (.invalidToken none)
  | some token => do
      let payload ← validateToken services token .refresh
      let session ← .observe .select (·.activeByDevice payload.sub payload.did)
      match session with
      | none => .raise .notFoundOrInactiveSession
      | some session => do
          let now ← .observe .clock (·.clock)
          let found ← .observe .select fun world =>
            (world.userById payload.sub).map fun user => world.securityUser user payload.did
          match found with
          | none => .raise (.notFoundUser "" "id")
          | some securityUser => do
              let group ← (refreshTokens services payload securityUser jtis).rescue
                (deactivateAndRaise session.id)
              commit fun world => world.onlineSession session.id now
              pure group

def logout (token : Option String) : Handler Unit := do
  match token with
  | none => .raise (.invalidToken none)
  | some token => do
      let payload ← validateToken services token .refresh
      revokeToken payload
      let session ← .observe .select (·.activeByDevice payload.sub payload.did)
      match session with
      | none => .raise .notFoundOrInactiveSession
      | some session => do
          let now ← .observe .clock (·.clock)
          addJwtToken payload.jti ((refreshTokenExpireDays + 1) * day / second)
          commit fun world => world.deactivateSession session.id now

def userDeactivateSession (userJwtData : AuthUserJWTData) (sessionId : Nat) : Handler Unit := do
  let session ← .observe .select (·.sessions.find? sessionId)
  match session with
  | none => .raise .notFoundOrInactiveSession
  | some session =>
      if session.userId ≠ userJwtData.id ∧ !checkPermission userJwtData ["user:update"] then
        .raise .notFoundOrInactiveSession
      else do
        let now ← .observe .clock (·.clock)
        commit fun world => world.deactivateSession session.id now

def deleteUser (userJwtData : AuthUserJWTData) (userId : Nat) : Handler Unit := do
  let user ← .observe .select (·.userById userId)
  match user with
  | none => .raise (.notFoundUser (toString userId) "user_id")
  | some user =>
      if user.id ≠ userJwtData.id ∧ !checkPermission userJwtData ["user:update"] then
        .raise (.accessDenied ["user:delete", "user:owner"])
      else do
        addUser user.id (some (refreshTokenExpireDays * day))
        commit fun world => world.updateUser user.id (fun user => { user with isDeleted := true })
          fun _ => rfl

end Sessions

section OAuth

variable (services : Services)

def oauthProvider : String → Option OAuthProviderEnum
  | "yandex" => some .yandex
  | "google" => some .google
  | "github" => some .github
  | _ => none

/-- `add_oauth_state`, then `get_authorize_url`. -/
def createOAuthAuthorizeUrl (provider : String) (userId : Option Nat) (state : String) :
    Handler String := do
  .perform (.set (.state state)) fun world =>
    world.set (.state state) (userId.getD 0) (oauthStateExpireMinutes * minute / second)
  match oauthProvider provider with
  | none => .raise (.notExistProviderOAuth provider)
  | some provider => pure (services.authUrl provider state)

def processCallback (provider code : String) : Handler (OAuthProviderEnum × OAuthData) :=
  match oauthProvider provider with
  | none => .raise (.notExistProviderOAuth provider)
  | some provider => do
      let answer ← .observe .provider fun _ => services.oauthUser provider code
      match answer with
      | .error error => .raise error
      | .ok data => pure (provider, data)

def World.insertAccount (world : World) (provider : OAuthProviderEnum) (data : OAuthData)
    (userId : Nat) : Except AuthError World :=
  if world.oauthAccounts.rows.any fun account =>
      account.provider == provider && account.providerUserId == data.providerUserId then
    .error (.integrity "uq_oauth_accounts_provider_user")
  else if world.oauthAccounts.rows.any fun account =>
      account.userId == userId && account.provider == provider then
    .error (.integrity "uq_oauth_accounts_user_provider")
  else
    let account : OAuthAccount :=
      ⟨world.oauthAccounts.nextKey, provider, data.providerUserId, data.email, true, userId⟩
    .ok { world with oauthAccounts := world.oauthAccounts.insert account }

structure OAuthLogin where
  userId : Nat
  securityUser : AuthUserJWTData
  newUser : Option User := none
  newAccount : Bool := false

def oauthConnect (provider : String) (account : Option OAuthAccount) (userId : Nat)
    (deviceId : String) : Handler OAuthLogin := do
  if account.any fun account => account.userId != userId then
    .raise (.linkedAnotherUserOAuth provider)
  else do
    let found ← .observe .select fun world =>
      (world.userById userId).map fun user => world.securityUser user deviceId
    match found with
    | none => .raise (.notFoundUser (toString userId) "id")
    | some securityUser => pure { userId, securityUser, newAccount := account.isNone }

def oauthLinked (account : OAuthAccount) (deviceId : String) : Handler OAuthLogin := do
  if account.isActive = false then .raise .oauthInactive
  else do
    let found ← .observe .select fun world =>
      (world.userById account.userId).map fun user => world.securityUser user deviceId
    match found with
    | none => .raise (.notFoundUser "0" "id")
    | some securityUser => pure { userId := account.userId, securityUser }

/-- `create_oauth`, with the id the sequence gives. -/
def World.oauthUser (world : World) (email username : String) (roleId : Nat) : User :=
  { id := max world.users.nextKey (world.userSeq + 1), email, username, isVerified := true,
    roles := [roleId] }

/-- The branch of an anonymous state that makes a user; its name is what `generate` answers. -/
def oauthRegister (provider : String) (data : OAuthData) (username deviceId : String) :
    Handler OAuthLogin := do
  let role ← .observe .select (·.roleByName "user")
  match role with
  | none => .raise (.notFoundRole "user")
  | some role => do
      let known ← .observe .select (·.userByEmail data.email)
      match known with
      | some _ => .raise (.linkedAnotherUserOAuth provider)
      | none => do
          let user ← .transact .flush fun world =>
            let user := world.oauthUser data.email username role.id
            (world.insertUser user).map fun _ => (user, { world with userSeq := user.id })
          pure
            { userId := user.id
              securityUser := AuthUserJWTData.createFromUser user [role] deviceId
              newUser := some user
              newAccount := true }

def oauthLogin (provider : String) (data : OAuthData) (account : Option OAuthAccount)
    (userId : Nat) (username deviceId : String) : Handler OAuthLogin :=
  if userId ≠ 0 then oauthConnect provider account userId deviceId
  else
    match account with
    | some account => oauthLinked account deviceId
    | none => oauthRegister provider data username deviceId

def World.saveNewUser (world : World) : Option User → Except AuthError World
  | none => .ok world
  | some user => world.insertUser user

def World.saveNewAccount (world : World) (login : OAuthLogin) (provider : OAuthProviderEnum)
    (data : OAuthData) : Except AuthError World :=
  if login.newAccount then world.insertAccount provider data login.userId else .ok world

def World.saveOAuth (world : World) (login : OAuthLogin) (provider : OAuthProviderEnum)
    (data : OAuthData) (existing : Option Session) (deviceId : String) (now : Nat) :
    Except AuthError World := do
  let world ← world.saveNewUser login.newUser
  let world ← world.saveNewAccount login provider data
  .ok (world.saveSession existing login.userId deviceId now)

def processOAuthCallback (provider : String) (code : Option String)
    (state userAgent username : String) (jtis : String × String) : Handler TokenGroup := do
  match code with
  | none => .raise (.oauthProviderUnavailable provider)
  | some code => do
      let (providerEnum, data) ← processCallback services provider code
      let userId ← .observe (.get (.state state)) (·.get (.state state))
      match userId with
      | none => .raise (.oauthStateNotFound state)
      | some userId => do
          let deviceId := services.deviceId userAgent
          let account ← .observe .select
            (·.accountByProvider providerEnum data.providerUserId)
          let login ← oauthLogin provider data account userId username deviceId
          let existing ← .observe .select (·.activeByDevice login.userId deviceId)
          let now ← .observe .clock (·.clock)
          .perform (.del (.state state)) (·.del (.state state))
          commitUnique fun world => world.saveOAuth login providerEnum data existing deviceId now
          createTokenPair services login.securityUser jtis

end OAuth

/-- The commands, and time passing. -/
inductive AuthCommand where
  | elapse (time : Nat)
  | register (username email password passwordRepeat salt : String)
  | changeUsername (userJwtData : AuthUserJWTData) (username : String)
  | createPermission (userJwtData : AuthUserJWTData) (name : String)
  | deletePermission (userJwtData : AuthUserJWTData) (name : String)
  | rbac (userJwtData : AuthUserJWTData) (command : RbacCommand)
  | sendVerify (email token : String)
  | sendResetPassword (email token : String)
  | verify (token : String)
  | resetPassword (token password passwordRepeat salt : String)
  | changePassword (userJwtData : AuthUserJWTData)
      (oldPassword newPassword newPasswordRepeat salt : String)
  | login (username password userAgent : String) (jtis : String × String)
  | refreshToken (token : Option String) (jtis : String × String)
  | logout (token : Option String)
  | userDeactivateSession (userJwtData : AuthUserJWTData) (sessionId : Nat)
  | deleteUser (userJwtData : AuthUserJWTData) (userId : Nat)
  | createOAuthAuthorizeUrl (provider : String) (userId : Option Nat) (state : String)
  | processOAuthCallback (provider : String) (code : Option String)
      (state userAgent username : String) (jtis : String × String)

def answerNone (handler : Handler Unit) : Handler AuthAnswer := do
  handler
  pure .none

def answerTokens (handler : Handler TokenGroup) : Handler AuthAnswer := do
  let group ← handler
  pure (.tokens group)

def World.elapse (world : World) (time : Nat) : World := { world with clock := world.clock + time }

def AuthCommand.handle (services : Services) : AuthCommand → Handler AuthAnswer
  | .elapse time => answerNone (.perform .clock fun world => world.elapse time)
  | .register username email password passwordRepeat salt =>
      answerNone (Auth.register services username email password passwordRepeat salt)
  | .changeUsername userJwtData username =>
      answerNone (Auth.changeUsername services userJwtData username)
  | .createPermission userJwtData name => answerNone (Auth.createPermission userJwtData name)
  | .deletePermission userJwtData name => answerNone (Auth.deletePermission userJwtData name)
  | .rbac userJwtData command => answerNone (command.handle userJwtData)
  | .sendVerify email token => answerNone (Auth.sendVerify services email token)
  | .sendResetPassword email token => answerNone (Auth.sendResetPassword services email token)
  | .verify token => answerNone (Auth.verify services token)
  | .resetPassword token password passwordRepeat salt =>
      answerNone (Auth.resetPassword services token password passwordRepeat salt)
  | .changePassword userJwtData oldPassword newPassword newPasswordRepeat salt =>
      answerNone
        (Auth.changePassword services userJwtData oldPassword newPassword newPasswordRepeat salt)
  | .login username password userAgent jtis =>
      answerTokens (Auth.login services username password userAgent jtis)
  | .refreshToken token jtis => answerTokens (Auth.refreshToken services token jtis)
  | .logout token => answerNone (Auth.logout services token)
  | .userDeactivateSession userJwtData sessionId =>
      answerNone (Auth.userDeactivateSession userJwtData sessionId)
  | .deleteUser userJwtData userId => answerNone (Auth.deleteUser userJwtData userId)
  | .createOAuthAuthorizeUrl provider userId state => do
      let url ← Auth.createOAuthAuthorizeUrl services provider userId state
      pure (.url url)
  | .processOAuthCallback provider code state userAgent username jtis =>
      answerTokens
        (Auth.processOAuthCallback services provider code state userAgent username jtis)

abbrev AuthScene := Scene World Op AuthCommand AuthError AuthAnswer

abbrev AuthEntry := Entry World Op AuthCommand AuthError AuthAnswer

abbrev AuthSite := Site World Op AuthCommand AuthError AuthAnswer

def ReturnsPair (entry : AuthEntry) : Prop :=
  ∃ group, entry.outcome = some (.ok (.tokens group))

def returners (site : AuthSite) : List Nat :=
  site.history.filterMap fun entry =>
    match entry.outcome with
    | some (.ok (.tokens _)) => some entry.index
    | _ => none

theorem returnsPair_of_returners {site : AuthSite} {index : Nat} (member : index ∈ returners site) :
    ∃ entry ∈ site.history, entry.index = index ∧ ReturnsPair entry := by
  obtain ⟨entry, here, same⟩ := List.mem_filterMap.mp member
  split at same
  · rename_i group ended
    exact ⟨entry, here, Option.some.inj same, group, ended⟩
  · cases same

end Messanger.Auth
