import Messanger.Auth.CommandsCore

/-!
The key `user:` holds the time of the last change that makes the older tokens of a user worthless.
Some commands keep it for sixty days, as long as a token lives, and others for six minutes.
-/

namespace Messanger.Auth

open Relational Processes

/-- The world after the command, and how the command ended. -/
def World.execute (services : Services) (world : World) (command : AuthCommand) :
    World × Except AuthError AuthAnswer :=
  (command.handle services).run world

/-- What holds of each command of a run and of the world it finds. -/
def World.Along (services : Services) (Holds : World → AuthCommand → Prop) :
    World → List AuthCommand → Prop
  | _, [] => True
  | world, command :: rest =>
      Holds world command ∧ (world.execute services command).1.Along services Holds rest

/-- A signature is accepted on what `create_token_pair` has signed. -/
def Services.Authentic (services : Services) : Prop :=
  ∀ token payload, services.decode token = some payload →
    ∃ userData type jti now, payload = generatePayload userData type jti now

/-- The command is about to set the password of the user. -/
def SetsPassword (services : Services) (world : World) (userId : Nat) : AuthCommand → Prop
  | .resetPassword token _ _ _ => world.get (.token (services.sha256 token)) = some userId
  | .changePassword userJwtData _ _ _ _ => userJwtData.id = userId
  | _ => False

/-- A refresh token of the user that is older than the time. -/
def PresentsOld (services : Services) (userId time : Nat) : AuthCommand → Prop
  | .refreshToken (some token) _ => ∃ payload, services.decode token = some payload ∧
      payload.sub = userId ∧ payload.iat < time
  | _ => False

/-- The key of the user has not run out, or it was last set for the life of a token. -/
def World.userKeyStands (world : World) (userId time : Nat) : Prop :=
  ∀ stored, world.redis (.user userId) = some stored →
    world.clock < stored.expiresAt ∨ time + refreshTokenExpireDays * day ≤ stored.expiresAt

def World.Revoked (userId time : Nat) (world : World) : Prop :=
  time ≤ world.clock ∧ ∃ stored, world.redis (.user userId) = some stored ∧ time ≤ stored.value

section Preserving

variable {userId time : Nat} {world after : World}

structure KeepsKeys (before after : World) : Prop where
  clock : before.clock ≤ after.clock
  redis : ∀ userId, after.redis (.user userId) = before.redis (.user userId)

theorem revoked_of_keeps (kept : KeepsKeys world after) (revoked : world.Revoked userId time) :
    after.Revoked userId time := by
  obtain ⟨bound, stored, found, value⟩ := revoked
  have later := kept.clock
  exact ⟨by omega, stored, (kept.redis userId).trans found, value⟩

theorem keepsKeys_set {key : RedisKey} (other : ∀ userId, key ≠ .user userId)
    (value seconds : Nat) : KeepsKeys world (world.set key value seconds) where
  clock := Nat.le_refl _
  redis := fun userId => Function.update_of_ne (other userId).symm _ _

theorem keepsKeys_del {key : RedisKey} (other : ∀ userId, key ≠ .user userId) :
    KeepsKeys world (world.del key) where
  clock := Nat.le_refl _
  redis := fun userId => Function.update_of_ne (other userId).symm _ _

theorem preserves_commit {write : World → World}
    (kept : ∀ world, KeepsKeys world (write world)) :
    (commit write).Preserves (World.Revoked userId time) :=
  Process.preserves_perform fun world => revoked_of_keeps (kept world)

theorem preserves_commitUnique {write : World → Except AuthError World}
    (kept : ∀ world after, write world = .ok after → KeepsKeys world after) :
    (commitUnique write).Preserves (World.Revoked userId time) :=
  Process.preserves_attempt fun world after revoked done => revoked_of_keeps (kept world after done) revoked

theorem preserves_addUser (id : Nat) (expiration : Option Nat) :
    (addUser id expiration).Preserves (World.Revoked userId time) := by
  intro world revoked
  obtain ⟨bound, stored, found, value⟩ := revoked
  refine ⟨bound, ?_⟩
  simp only [addUser, Process.observe_bind, Process.run_act, Process.perform, Process.run_done,
    World.set, id_eq]
  by_cases same : userId = id
  · subst same
    exact ⟨_, Function.update_self _ _ _, bound⟩
  · refine ⟨stored, ?_, value⟩
    rw [Function.update_of_ne (by simpa using same)]
    exact found

theorem preserves_set {key : RedisKey} {label : Op} (other : ∀ userId, key ≠ .user userId)
    (value seconds : Nat) :
    (Process.perform label fun world => world.set key value seconds : Handler Unit).Preserves
      (World.Revoked userId time) :=
  Process.preserves_perform fun _ => revoked_of_keeps (keepsKeys_set other value seconds)

theorem preserves_del {key : RedisKey} {label : Op} (other : ∀ userId, key ≠ .user userId) :
    (Process.perform label fun world => world.del key : Handler Unit).Preserves
      (World.Revoked userId time) :=
  Process.preserves_perform fun _ => revoked_of_keeps (keepsKeys_del other)

theorem preserves_invalidateRole (name : String) :
    (invalidateRole name).Preserves (World.Revoked userId time) :=
  Process.preserves_bind (Process.preserves_observe _ _) fun _ => preserves_set (by simp) _ _

theorem preserves_permissionsOf (names : NameSet) :
    (permissionsOf names).Preserves (World.Revoked userId time) :=
  Process.preserves_bind (Process.preserves_observe _ _) fun _ =>
    Process.preserves_ite (Process.preserves_raise _) (Process.preserves_pure _)

theorem preserves_createRolePermissions (actor : AuthUserJWTData) (names held : List String) :
    (createRolePermissions actor names held).Preserves (World.Revoked userId time) := by
  induction names generalizing held with
  | nil => exact Process.preserves_pure _
  | cons name rest ih =>
      refine Process.preserves_bind (Process.preserves_observe _ _) fun permission => ?_
      cases permission with
      | none => exact Process.preserves_raise _
      | some permission =>
          exact Process.preserves_bind (Process.preserves_lift _) fun _ => ih _

theorem preserves_required {actor : AuthUserJWTData} {required : List String}
    {next : Unit → Handler Unit} (rest : (next ()).Preserves (World.Revoked userId time)) :
    (liftM (requirePermission actor required) >>= next).Preserves (World.Revoked userId time) :=
  Process.preserves_bind (Process.preserves_lift _) fun _ => rest

theorem preserves_found {Row Answer : Type} {label : Op} {read : World → Option Row}
    {next : Option Row → Handler Answer}
    (absent : (next none).Preserves (World.Revoked userId time))
    (present : ∀ row, (next (some row)).Preserves (World.Revoked userId time)) :
    (Process.observe label read >>= next).Preserves (World.Revoked userId time) := by
  refine Process.preserves_bind (Process.preserves_observe _ _) fun row => ?_
  cases row with
  | none => exact absent
  | some row => exact present row

theorem preserves_userWrite {id : Nat} {expiration : Option Nat} {write : World → World}
    (kept : ∀ world, KeepsKeys world (write world)) :
    (addUser id expiration >>= fun _ => commit write).Preserves (World.Revoked userId time) :=
  Process.preserves_bind (preserves_addUser id expiration) fun _ => preserves_commit kept

theorem preserves_roleWrite {name : String} {write : World → World}
    (kept : ∀ world, KeepsKeys world (write world)) :
    (invalidateRole name >>= fun _ => commit write).Preserves (World.Revoked userId time) :=
  Process.preserves_bind (preserves_invalidateRole name) fun _ => preserves_commit kept

theorem keepsKeys_refl (same : after.redis = world.redis) (clock : after.clock = world.clock) :
    KeepsKeys world after :=
  ⟨Nat.le_of_eq clock.symm, fun _ => congrFun same _⟩

theorem preserves_rbac (actor : AuthUserJWTData) (command : RbacCommand) :
    (command.handle actor).Preserves (World.Revoked userId time) := by
  cases command with
  | createRole roleName description securityLevel permissions =>
      refine preserves_required (Process.preserves_bind (Process.preserves_lift _) fun _ =>
        Process.preserves_bind (Process.preserves_lift _) fun _ => preserves_found ?_ ?_)
      · refine Process.preserves_bind (preserves_createRolePermissions _ _ _) fun held => ?_
        refine preserves_commitUnique fun world after done => ?_
        rw [World.insertRole] at done
        split at done
        · cases done
        · cases done
          exact keepsKeys_refl rfl rfl
      · exact fun _ => Process.preserves_raise _
  | roleUpdate id name description securityLevel =>
      refine preserves_required (Process.preserves_bind (Process.preserves_lift _) fun _ =>
        preserves_found (Process.preserves_raise _) fun role => ?_)
      refine Process.preserves_bind (Process.preserves_lift _) fun _ =>
        Process.preserves_bind (Process.preserves_lift _) fun _ =>
          Process.preserves_bind (preserves_invalidateRole _) fun _ => ?_
      refine preserves_commitUnique fun world after done => ?_
      rw [World.updateRoleColumns] at done
      split at done
      · cases done
      · cases done
        exact keepsKeys_refl rfl rfl
  | addPermissionRole roleName permissions =>
      refine preserves_required (preserves_found (Process.preserves_raise _) fun role => ?_)
      refine Process.preserves_bind (Process.preserves_lift _) fun _ =>
        Process.preserves_bind (preserves_permissionsOf _) fun _ => ?_
      exact preserves_roleWrite fun _ => keepsKeys_refl rfl rfl
  | deletePermissionRole roleName permissions =>
      refine preserves_required (preserves_found (Process.preserves_raise _) fun role => ?_)
      refine Process.preserves_bind (preserves_permissionsOf _) fun _ => ?_
      exact preserves_roleWrite fun _ => keepsKeys_refl rfl rfl
  | assignRole assignToUser roleName =>
      refine preserves_required (preserves_found (Process.preserves_raise _) fun role =>
        preserves_found (Process.preserves_raise _) fun user => ?_)
      refine Process.preserves_bind (Process.preserves_lift _) fun _ => ?_
      exact preserves_userWrite fun _ => keepsKeys_refl rfl rfl
  | removeRole removeFromUser roleName =>
      refine preserves_required (preserves_found (Process.preserves_raise _) fun role =>
        Process.preserves_bind (Process.preserves_lift _) fun _ =>
          preserves_found (Process.preserves_raise _) fun user => ?_)
      refine Process.preserves_ite (Process.preserves_raise _) ?_
      exact preserves_userWrite fun _ => keepsKeys_refl rfl rfl
  | addPermissionToUser userId permissions =>
      refine preserves_required (preserves_found (Process.preserves_raise _) fun user => ?_)
      refine Process.preserves_bind (preserves_permissionsOf _) fun _ => ?_
      exact preserves_userWrite fun _ => keepsKeys_refl rfl rfl
  | deletePermissionToUser userId permissions =>
      refine preserves_required (preserves_found (Process.preserves_raise _) fun user => ?_)
      refine Process.preserves_bind (preserves_permissionsOf _) fun names => ?_
      cases names.find? fun permission => permission.name ∉ user.permissions with
      | some permission => exact Process.preserves_raise _
      | none => exact preserves_userWrite fun _ => keepsKeys_refl rfl rfl

theorem keepsKeys_insertUser {user : User} (done : world.insertUser user = .ok after) :
    KeepsKeys world after := by
  rw [World.insertUser] at done
  split at done
  · cases done
  split at done
  · cases done
  split at done
  · cases done
  · cases done
    exact keepsKeys_refl rfl rfl

theorem preserves_register (services : Services)
    (username email password passwordRepeat salt : String) :
    (register services username email password passwordRepeat salt).Preserves
      (World.Revoked userId time) := by
  refine preserves_found ?_ fun _ => Process.preserves_raise _
  refine Process.preserves_ite (Process.preserves_raise _) ?_
  refine Process.preserves_bind (Process.preserves_observe _ _) fun taken => ?_
  refine Process.preserves_ite (Process.preserves_raise _) ?_
  refine Process.preserves_ite (Process.preserves_raise _) ?_
  refine preserves_found (Process.preserves_raise _) fun role => ?_
  exact preserves_commitUnique fun _ _ => keepsKeys_insertUser

theorem preserves_changeUsername (services : Services) (userJwtData : AuthUserJWTData)
    (username : String) :
    (changeUsername services userJwtData username).Preserves (World.Revoked userId time) := by
  refine preserves_found (Process.preserves_raise _) fun user => ?_
  refine Process.preserves_bind (Process.preserves_lift _) fun cleaned => ?_
  refine Process.preserves_ite (Process.preserves_pure _) ?_
  refine Process.preserves_bind (Process.preserves_observe _ _) fun taken => ?_
  refine Process.preserves_ite (Process.preserves_raise _) ?_
  refine preserves_commitUnique fun world after done => ?_
  rw [World.renameUser] at done
  split at done
  · cases done
  · cases done
    exact keepsKeys_refl rfl rfl

theorem preserves_createPermission (userJwtData : AuthUserJWTData) (name : String) :
    (createPermission userJwtData name).Preserves (World.Revoked userId time) := by
  refine preserves_required (Process.preserves_bind (Process.preserves_lift _) fun _ => ?_)
  refine preserves_found ?_ fun _ => Process.preserves_raise _
  refine preserves_commitUnique fun world after done => ?_
  split at done
  · cases done
  · cases done
    exact keepsKeys_refl rfl rfl

theorem preserves_deletePermission (userJwtData : AuthUserJWTData) (name : String) :
    (deletePermission userJwtData name).Preserves (World.Revoked userId time) := by
  refine preserves_required (Process.preserves_bind (Process.preserves_lift _) fun _ => ?_)
  refine Process.preserves_ite (Process.preserves_raise _) ?_
  refine preserves_found (Process.preserves_raise _) fun permission => ?_
  refine Process.preserves_bind (Process.preserves_observe _ _) fun now => ?_
  refine Process.preserves_bind (preserves_set (by simp) _ _) fun _ => ?_
  exact preserves_commit fun _ => keepsKeys_refl rfl rfl

theorem preserves_sendToken (services : Services) (template : MailTemplate)
    (email token : String) :
    (sendToken services template email token).Preserves (World.Revoked userId time) := by
  refine preserves_found (Process.preserves_pure _) fun user => ?_
  refine Process.preserves_bind (preserves_set (by simp) _ _) fun _ => ?_
  exact Process.preserves_perform fun _ => revoked_of_keeps (keepsKeys_refl rfl rfl)

theorem preserves_verify (services : Services) (token : String) :
    (verify services token).Preserves (World.Revoked userId time) := by
  refine preserves_found (Process.preserves_raise _) fun id => ?_
  refine preserves_found (Process.preserves_raise _) fun user => ?_
  refine Process.preserves_bind (preserves_del (by simp)) fun _ => ?_
  exact preserves_commit fun _ => keepsKeys_refl rfl rfl

theorem preserves_resetPassword (services : Services)
    (token password passwordRepeat salt : String) :
    (resetPassword services token password passwordRepeat salt).Preserves
      (World.Revoked userId time) := by
  refine preserves_found (Process.preserves_raise _) fun id => ?_
  refine preserves_found (Process.preserves_raise _) fun user => ?_
  refine Process.preserves_ite (Process.preserves_raise _) ?_
  refine Process.preserves_bind (preserves_del (by simp)) fun _ => ?_
  exact preserves_userWrite fun _ => keepsKeys_refl rfl rfl

theorem preserves_changePassword (services : Services) (userJwtData : AuthUserJWTData)
    (oldPassword newPassword newPasswordRepeat salt : String) :
    (changePassword services userJwtData oldPassword newPassword newPasswordRepeat salt).Preserves
      (World.Revoked userId time) := by
  refine preserves_found (Process.preserves_raise _) fun user => ?_
  refine Process.preserves_ite (Process.preserves_raise _) ?_
  exact preserves_userWrite fun _ => keepsKeys_refl rfl rfl

theorem preserves_validateToken (services : Services) (token : String) (type : TokenType) :
    (validateToken services token type).Preserves (World.Revoked userId time) := by
  refine Process.preserves_bind (Process.preserves_observe _ _) fun now => ?_
  cases services.decode token with
  | none => exact Process.preserves_raise _
  | some payload =>
      refine Process.preserves_ite (Process.preserves_raise _) ?_
      refine Process.preserves_ite (Process.preserves_raise _) ?_
      exact Process.preserves_ite (Process.preserves_raise _) (Process.preserves_pure _)

theorem preserves_createTokenPair (services : Services) (securityUser : AuthUserJWTData)
    (jtis : String × String) :
    (createTokenPair services securityUser jtis).Preserves (World.Revoked userId time) :=
  Process.preserves_bind (Process.preserves_observe _ _) fun _ => Process.preserves_pure _

theorem preserves_addJwtToken (jti : String) (seconds : Nat) :
    (addJwtToken jti seconds).Preserves (World.Revoked userId time) := by
  refine Process.preserves_bind (Process.preserves_observe _ _) fun now => ?_
  refine Process.preserves_attempt fun world after revoked done => ?_
  split at done
  · cases done
  · cases done
    exact revoked_of_keeps (keepsKeys_set (by simp) _ _) revoked

theorem preserves_revokeToken (token : Token) :
    (revokeToken token).Preserves (World.Revoked userId time) :=
  Process.preserves_bind (Process.preserves_observe _ _) fun _ => preserves_addJwtToken _ _

theorem preserves_getMaxInvalidationTime (keys : List RedisKey) :
    (getMaxInvalidationTime keys).Preserves (World.Revoked userId time) :=
  Process.preserves_ite (Process.preserves_pure _) (Process.preserves_observe _ _)

theorem preserves_refreshTokens (services : Services) (token : Token)
    (securityUser : AuthUserJWTData) (jtis : String × String) :
    (refreshTokens services token securityUser jtis).Preserves (World.Revoked userId time) := by
  refine Process.preserves_bind (Process.preserves_observe _ _) fun _ => ?_
  refine Process.preserves_bind (Process.preserves_lift _) fun _ => ?_
  refine Process.preserves_bind (Process.preserves_observe _ _) fun _ => ?_
  refine Process.preserves_bind (Process.preserves_lift _) fun _ => ?_
  refine Process.preserves_bind (preserves_getMaxInvalidationTime _) fun _ => ?_
  refine Process.preserves_bind (Process.preserves_lift _) fun _ => ?_
  refine Process.preserves_bind (preserves_getMaxInvalidationTime _) fun _ => ?_
  refine Process.preserves_bind (Process.preserves_lift _) fun _ => ?_
  refine Process.preserves_bind (preserves_revokeToken _) fun _ => ?_
  exact preserves_createTokenPair _ _ _

theorem keepsKeys_saveSession (existing : Option Session) (id : Nat) (deviceId : String)
    (now : Nat) : KeepsKeys world (world.saveSession existing id deviceId now) := by
  cases existing with
  | none => exact keepsKeys_refl rfl rfl
  | some session => exact keepsKeys_refl rfl rfl

theorem preserves_login (services : Services) (username password userAgent : String)
    (jtis : String × String) :
    (login services username password userAgent jtis).Preserves (World.Revoked userId time) := by
  refine preserves_found (Process.preserves_raise _) fun found => ?_
  refine Process.preserves_ite (Process.preserves_raise _) ?_
  refine Process.preserves_bind (Process.preserves_observe _ _) fun existing => ?_
  refine Process.preserves_bind (Process.preserves_observe _ _) fun now => ?_
  refine Process.preserves_bind (preserves_commit fun _ => ?_) fun _ => ?_
  · exact keepsKeys_saveSession _ _ _ _
  · exact preserves_createTokenPair _ _ _

theorem preserves_deactivateAndRaise (sessionId : Nat) (error : AuthError) :
    (deactivateAndRaise sessionId error).Preserves (World.Revoked userId time) := by
  refine Process.preserves_ite ?_ (Process.preserves_raise _)
  refine Process.preserves_bind (Process.preserves_observe _ _) fun now => ?_
  refine Process.preserves_bind (preserves_commit fun _ => ?_) fun _ => Process.preserves_raise _
  exact keepsKeys_refl rfl rfl

theorem preserves_refreshToken (services : Services) (token : Option String)
    (jtis : String × String) :
    (refreshToken services token jtis).Preserves (World.Revoked userId time) := by
  cases token with
  | none => exact Process.preserves_raise _
  | some token =>
      refine Process.preserves_bind (preserves_validateToken _ _ _) fun payload => ?_
      refine preserves_found (Process.preserves_raise _) fun session => ?_
      refine Process.preserves_bind (Process.preserves_observe _ _) fun now => ?_
      refine preserves_found (Process.preserves_raise _) fun securityUser => ?_
      refine Process.preserves_bind (Process.preserves_rescue (preserves_refreshTokens _ _ _ _)
        fun error => preserves_deactivateAndRaise _ error) fun group => ?_
      refine Process.preserves_bind (preserves_commit fun _ => ?_) fun _ => Process.preserves_pure _
      exact keepsKeys_refl rfl rfl

theorem preserves_logout (services : Services) (token : Option String) :
    (logout services token).Preserves (World.Revoked userId time) := by
  cases token with
  | none => exact Process.preserves_raise _
  | some token =>
      refine Process.preserves_bind (preserves_validateToken _ _ _) fun payload => ?_
      refine Process.preserves_bind (preserves_revokeToken _) fun _ => ?_
      refine preserves_found (Process.preserves_raise _) fun session => ?_
      refine Process.preserves_bind (Process.preserves_observe _ _) fun now => ?_
      refine Process.preserves_bind (preserves_addJwtToken _ _) fun _ => ?_
      exact preserves_commit fun _ => keepsKeys_refl rfl rfl

theorem preserves_userDeactivateSession (userJwtData : AuthUserJWTData) (sessionId : Nat) :
    (userDeactivateSession userJwtData sessionId).Preserves (World.Revoked userId time) := by
  refine preserves_found (Process.preserves_raise _) fun session => ?_
  refine Process.preserves_ite (Process.preserves_raise _) ?_
  refine Process.preserves_bind (Process.preserves_observe _ _) fun now => ?_
  exact preserves_commit fun _ => keepsKeys_refl rfl rfl

theorem preserves_deleteUser (userJwtData : AuthUserJWTData) (id : Nat) :
    (deleteUser userJwtData id).Preserves (World.Revoked userId time) := by
  refine preserves_found (Process.preserves_raise _) fun user => ?_
  refine Process.preserves_ite (Process.preserves_raise _) ?_
  exact preserves_userWrite fun _ => keepsKeys_refl rfl rfl

theorem preserves_createOAuthAuthorizeUrl (services : Services) (provider : String)
    (id : Option Nat) (state : String) :
    (createOAuthAuthorizeUrl services provider id state).Preserves (World.Revoked userId time) := by
  refine Process.preserves_bind (preserves_set (by simp) _ _) fun _ => ?_
  cases oauthProvider provider with
  | none => exact Process.preserves_raise _
  | some provider => exact Process.preserves_pure _

theorem preserves_oauthRegister (provider : String) (data : OAuthData)
    (username deviceId : String) :
    (oauthRegister provider data username deviceId).Preserves (World.Revoked userId time) := by
  refine preserves_found (Process.preserves_raise _) fun role => ?_
  refine preserves_found ?_ fun _ => Process.preserves_raise _
  refine Process.preserves_bind ?_ fun _ => Process.preserves_pure _
  refine Process.preserves_transact fun world user after revoked done => ?_
  simp only at done
  cases inserted : world.insertUser (world.oauthUser data.email username role.id) with
  | error error =>
      rw [inserted] at done
      cases done
  | ok other =>
      rw [inserted] at done
      cases done
      exact revoked_of_keeps (keepsKeys_refl rfl rfl) revoked

theorem keepsKeys_trans {middle : World} (first : KeepsKeys world middle)
    (second : KeepsKeys middle after) : KeepsKeys world after :=
  ⟨Nat.le_trans first.clock second.clock,
    fun userId => (second.redis userId).trans (first.redis userId)⟩

theorem keepsKeys_insertAccount {provider : OAuthProviderEnum} {data : OAuthData} {id : Nat}
    (done : world.insertAccount provider data id = .ok after) : KeepsKeys world after := by
  rw [World.insertAccount] at done
  split at done
  · cases done
  · split at done
    · cases done
    · cases done
      exact keepsKeys_refl rfl rfl

theorem keepsKeys_saveOAuth {login : OAuthLogin} {provider : OAuthProviderEnum} {data : OAuthData}
    {existing : Option Session} {deviceId : String} {now : Nat}
    (done : world.saveOAuth login provider data existing deviceId now = .ok after) :
    KeepsKeys world after := by
  rw [World.saveOAuth] at done
  cases users : world.saveNewUser login.newUser with
  | error error =>
      rw [users] at done
      cases done
  | ok first =>
      rw [users] at done
      cases accounts : first.saveNewAccount login provider data with
      | error error =>
          simp only [bind, Except.bind, accounts] at done
          cases done
      | ok second =>
          simp only [bind, Except.bind, accounts] at done
          cases done
          have one : KeepsKeys world first := by
            cases new : login.newUser with
            | none =>
                rw [new] at users
                cases users
                exact keepsKeys_refl rfl rfl
            | some user =>
                rw [new] at users
                exact keepsKeys_insertUser users
          have two : KeepsKeys first second := by
            rw [World.saveNewAccount] at accounts
            split at accounts
            · exact keepsKeys_insertAccount accounts
            · cases accounts
              exact keepsKeys_refl rfl rfl
          exact keepsKeys_trans one (keepsKeys_trans two (keepsKeys_saveSession _ _ _ _))

theorem preserves_processOAuthCallback (services : Services) (provider : String)
    (code : Option String) (state userAgent username : String) (jtis : String × String) :
    (processOAuthCallback services provider code state userAgent username jtis).Preserves
      (World.Revoked userId time) := by
  cases code with
  | none => exact Process.preserves_raise _
  | some code =>
      refine Process.preserves_bind ?_ fun answer => ?_
      · rw [processCallback]
        cases oauthProvider provider with
        | none => exact Process.preserves_raise _
        | some provider =>
            refine Process.preserves_bind (Process.preserves_observe _ _) fun data => ?_
            cases data with
            | error error => exact Process.preserves_raise _
            | ok data => exact Process.preserves_pure _
      · refine preserves_found (Process.preserves_raise _) fun id => ?_
        refine Process.preserves_bind (Process.preserves_observe _ _) fun account => ?_
        refine Process.preserves_bind ?_ fun login => ?_
        · refine Process.preserves_ite ?_ ?_
          · refine Process.preserves_ite (Process.preserves_raise _) ?_
            exact preserves_found (Process.preserves_raise _) fun _ => Process.preserves_pure _
          · cases account with
            | some account =>
                refine Process.preserves_ite (Process.preserves_raise _) ?_
                exact preserves_found (Process.preserves_raise _) fun _ => Process.preserves_pure _
            | none => exact preserves_oauthRegister _ _ _ _
        · refine Process.preserves_bind (Process.preserves_observe _ _) fun existing => ?_
          refine Process.preserves_bind (Process.preserves_observe _ _) fun now => ?_
          refine Process.preserves_bind (preserves_del (by simp)) fun _ => ?_
          refine Process.preserves_bind (preserves_commitUnique fun world after => ?_) fun _ => ?_
          · exact keepsKeys_saveOAuth
          · exact preserves_createTokenPair _ _ _

theorem preserves_handle (services : Services) (command : AuthCommand) :
    (command.handle services).Preserves (World.Revoked userId time) := by
  cases command with
  | elapse time =>
      refine Process.preserves_bind (Process.preserves_perform fun world revoked => ?_) fun _ =>
        Process.preserves_pure _
      exact revoked_of_keeps ⟨Nat.le_add_right _ _, fun _ => rfl⟩ revoked
  | register =>
      exact Process.preserves_bind (preserves_register _ _ _ _ _ _) fun _ =>
        Process.preserves_pure _
  | changeUsername =>
      exact Process.preserves_bind (preserves_changeUsername _ _ _) fun _ => Process.preserves_pure _
  | createPermission =>
      exact Process.preserves_bind (preserves_createPermission _ _) fun _ => Process.preserves_pure _
  | deletePermission =>
      exact Process.preserves_bind (preserves_deletePermission _ _) fun _ => Process.preserves_pure _
  | rbac => exact Process.preserves_bind (preserves_rbac _ _) fun _ => Process.preserves_pure _
  | sendVerify =>
      exact Process.preserves_bind (preserves_sendToken _ _ _ _) fun _ => Process.preserves_pure _
  | sendResetPassword =>
      exact Process.preserves_bind (preserves_sendToken _ _ _ _) fun _ => Process.preserves_pure _
  | verify => exact Process.preserves_bind (preserves_verify _ _) fun _ => Process.preserves_pure _
  | resetPassword =>
      exact Process.preserves_bind (preserves_resetPassword _ _ _ _ _) fun _ =>
        Process.preserves_pure _
  | changePassword =>
      exact Process.preserves_bind (preserves_changePassword _ _ _ _ _ _) fun _ =>
        Process.preserves_pure _
  | login => exact Process.preserves_bind (preserves_login _ _ _ _ _) fun _ => Process.preserves_pure _
  | refreshToken =>
      exact Process.preserves_bind (preserves_refreshToken _ _ _) fun _ => Process.preserves_pure _
  | logout => exact Process.preserves_bind (preserves_logout _ _) fun _ => Process.preserves_pure _
  | userDeactivateSession =>
      exact Process.preserves_bind (preserves_userDeactivateSession _ _) fun _ =>
        Process.preserves_pure _
  | deleteUser =>
      exact Process.preserves_bind (preserves_deleteUser _ _) fun _ => Process.preserves_pure _
  | createOAuthAuthorizeUrl =>
      exact Process.preserves_bind (preserves_createOAuthAuthorizeUrl _ _ _ _) fun _ =>
        Process.preserves_pure _
  | processOAuthCallback =>
      exact Process.preserves_bind (preserves_processOAuthCallback _ _ _ _ _ _ _) fun _ =>
        Process.preserves_pure _

end Preserving

section Refused

variable {services : Services} {world : World} {userId time : Nat}

theorem exp_le (authentic : services.Authentic) {token : String} {payload : Token}
    (decoded : services.decode token = some payload) :
    payload.exp ≤ payload.iat + refreshTokenExpireDays * day := by
  obtain ⟨userData, type, jti, now, rfl⟩ := authentic token payload decoded
  have short : accessTokenExpireMinutes * minute ≤ refreshTokenExpireDays * day := by decide
  cases type with
  | access =>
      simp only [generatePayload]
      omega
  | refresh => exact Nat.le_refl _

theorem refreshTokens_refused {payload : Token} {value : Nat}
    (found : world.get (.user payload.sub) = some value) (old : payload.iat < value)
    (securityUser : AuthUserJWTData) (jtis : String × String) :
    ((refreshTokens services payload securityUser jtis).run world).2 = .error .tokenInBlacklist := by
  simp only [refreshTokens, Process.observe_bind, Process.run_act, id_eq, Process.run_lift]
  cases first : requireNewer payload ((world.get (.revoked payload.jti)).getD 0) with
  | error error =>
      rw [requireNewer] at first
      split at first
      · cases first
        rfl
      · cases first
  | ok _ =>
      have second : requireNewer payload ((world.get (.user payload.sub)).getD 0) =
          .error .tokenInBlacklist := by
        rw [found, requireNewer, Option.getD_some, if_pos old]
      simp only [second]

theorem deactivateAndRaise_fails (sessionId : Nat) (error : AuthError) (world : World) :
    (deactivateAndRaise sessionId error).Fails world := by
  rw [deactivateAndRaise]
  split
  · exact fun _ same => nomatch same
  · exact Process.fails_raise _

theorem validateToken_run (services : Services) (token : String) (type : TokenType)
    (world : World) : ∃ outcome, (validateToken services token type).run world = (world, outcome) ∧
      ∀ payload, outcome = .ok payload → services.decode token = some payload ∧
        world.clock < payload.exp / second * second := by
  have opened : ∀ {rest : Nat → Handler Token} {outcome},
      (rest world.clock).run world = (world, outcome) →
        ((Process.observe .clock (·.clock) : Handler Nat) >>= rest).run world = (world, outcome) :=
    fun same => same
  cases decoded : services.decode token with
  | none =>
      refine ⟨.error (.invalidToken (some token)), opened ?_, fun _ same => nomatch same⟩
      rw [decoded]
      rfl
  | some payload =>
      by_cases early : world.clock < payload.iat / second * second
      · refine ⟨.error (.invalidToken (some token)), opened ?_, fun _ same => nomatch same⟩
        simp only [decoded, if_pos early]
        rfl
      · by_cases late : payload.exp / second * second ≤ world.clock
        · refine ⟨.error (.expiredToken (some token)), opened ?_, fun _ same => nomatch same⟩
          simp only [decoded, if_neg early, if_pos late]
          rfl
        · by_cases typed : payload.type ≠ type
          · refine ⟨.error (.invalidToken (some token)), opened ?_, fun _ same => nomatch same⟩
            simp only [decoded, if_neg early, if_neg late, if_pos typed]
            rfl
          · refine ⟨.ok payload, opened ?_, fun other same => ?_⟩
            · simp only [decoded, if_neg early, if_neg late, if_neg typed]
              rfl
            · cases same
              exact ⟨rfl, Nat.lt_of_not_le late⟩

theorem refreshToken_fails {token : String} {payload : Token} {jtis : String × String}
    (decoded : services.decode token = some payload)
    (refused : payload.exp / second * second ≤ world.clock ∨ ∀ securityUser,
      ((refreshTokens services payload securityUser jtis).run world).2 = .error .tokenInBlacklist) :
    (refreshToken services (some token) jtis).Fails world := by
  obtain ⟨outcome, ran, valid⟩ := validateToken_run services token .refresh world
  cases outcome with
  | error error =>
      refine Process.fails_bind ?_ _
      rw [Process.Fails, ran]
      rintro _ ⟨⟩
  | ok found =>
      obtain ⟨same, alive⟩ := valid found rfl
      have found_eq : found = payload := Option.some.inj (same.symm.trans decoded)
      subst found_eq
      refine Process.fails_ok_bind ran (Process.fails_observe ?_)
      cases world.activeByDevice found.sub found.did with
      | none => exact Process.fails_raise _
      | some session =>
          refine Process.fails_observe (Process.fails_observe ?_)
          cases (world.userById found.sub).map fun user => world.securityUser user found.did with
          | none => exact Process.fails_raise _
          | some securityUser =>
              rcases refused with expired | refused
              · omega
              · exact Process.fails_bind (Process.fails_rescue (refused securityUser) fun after =>
                  deactivateAndRaise_fails session.id _ after) _

theorem old_token_fails (authentic : services.Authentic) (revoked : world.Revoked userId time)
    (stands : world.userKeyStands userId time) {command : AuthCommand}
    (old : PresentsOld services userId time command) (answer : AuthAnswer) :
    (world.execute services command).2 ≠ .ok answer := by
  cases command with
  | refreshToken token jtis =>
      cases token with
      | none => exact old.elim
      | some token =>
          obtain ⟨payload, decoded, rfl, older⟩ := old
          obtain ⟨_, stored, found, value⟩ := revoked
          refine Process.fails_bind (refreshToken_fails decoded ?_) _ answer
          by_cases alive : world.clock < stored.expiresAt
          · right
            intro securityUser
            have present : world.get (.user payload.sub) = some stored.value := by
              rw [World.get, found]
              exact if_pos alive
            exact refreshTokens_refused present (by omega) securityUser jtis
          · left
            have long := (stands stored found).resolve_left alive
            have bound := exp_le authentic decoded
            have whole := Nat.div_mul_le_self payload.exp second
            omega
  | _ => exact old.elim

theorem revoked_of_userWrite (world : World) (id : Nat) (expiration : Option Nat)
    {write : World → World} (kept : ∀ world, KeepsKeys world (write world)) :
    ((addUser id expiration >>= fun _ => commit write).run world).1.Revoked id world.clock := by
  refine revoked_of_keeps (kept _) ⟨Nat.le_refl _, ?_⟩
  exact ⟨_, Function.update_self _ _ _, Nat.le_refl _⟩

theorem changePassword_revokes (services : Services) (world : World)
    (userJwtData : AuthUserJWTData) (oldPassword newPassword newPasswordRepeat salt : String) :
    let handler :=
      changePassword services userJwtData oldPassword newPassword newPasswordRepeat salt
    handler.Fails world ∨ (handler.run world).1.Revoked userJwtData.id world.clock := by
  intro handler
  cases found : world.userById userJwtData.id with
  | none =>
      left
      refine Process.fails_observe ?_
      rw [found]
      exact Process.fails_raise _
  | some user =>
      by_cases refused : passwordRefused services user oldPassword newPassword newPasswordRepeat = true
      · left
        refine Process.fails_observe ?_
        simp only [found, if_pos refused]
        exact Process.fails_raise _
      · right
        have ran : handler.run world =
            ((addUser user.id (some (refreshTokenExpireDays * day)) >>= fun _ =>
              commit fun world => world.resetPassword user.id
                (services.hashPassword salt newPassword)) : Handler Unit).run world := by
          simp only [handler, changePassword, Process.observe_bind, Process.run_act, id_eq, found,
            if_neg refused]
        rw [ran, ← userById_id found]
        exact revoked_of_userWrite world user.id _ fun _ => keepsKeys_refl rfl rfl

theorem resetPassword_revokes (services : Services) (world : World)
    (token password passwordRepeat salt : String)
    (sets : world.get (.token (services.sha256 token)) = some userId) :
    let handler := resetPassword services token password passwordRepeat salt
    handler.Fails world ∨ (handler.run world).1.Revoked userId world.clock := by
  intro handler
  cases found : world.userById userId with
  | none =>
      left
      refine Process.fails_observe ?_
      rw [sets]
      refine Process.fails_observe ?_
      rw [found]
      exact Process.fails_raise _
  | some user =>
      by_cases mismatch : password ≠ passwordRepeat
      · left
        refine Process.fails_observe ?_
        rw [sets]
        refine Process.fails_observe ?_
        simp only [found, if_pos mismatch]
        exact Process.fails_raise _
      · right
        have ran : handler.run world =
            ((addUser user.id (some (refreshTokenExpireDays * day)) >>= fun _ =>
              commit fun world => world.resetPassword user.id
                (services.hashPassword salt password)) : Handler Unit).run
              (world.del (.token (services.sha256 token))) := by
          simp only [handler, resetPassword, Process.observe_bind, Process.run_act, id_eq, sets,
            found, if_neg mismatch, Process.perform_bind]
        rw [ran, ← userById_id found]
        exact revoked_of_userWrite (world.del _) user.id _ fun _ => keepsKeys_refl rfl rfl

theorem revoked_of_setsPassword {command : AuthCommand}
    (sets : SetsPassword services world userId command) {answer : AuthAnswer}
    (succeeded : (world.execute services command).2 = .ok answer) :
    (world.execute services command).1.Revoked userId world.clock := by
  have answered : ∀ {handler : Handler Unit},
      handler.Fails world ∨ (handler.run world).1.Revoked userId world.clock →
        ((answerNone handler).run world).2 = .ok answer →
          ((answerNone handler).run world).1.Revoked userId world.clock := by
    intro handler either ok
    rcases either with failed | revoked
    · exact absurd ok (Process.fails_bind failed _ answer)
    · rw [answerNone, Process.run_bind]
      split
      · rename_i after done ran
        rw [ran] at revoked
        exact revoked
      · rename_i after error ran
        rw [ran] at revoked
        exact revoked
  cases command with
  | resetPassword token password passwordRepeat salt =>
      exact answered (resetPassword_revokes services world _ _ _ _ sets) succeeded
  | changePassword userJwtData oldPassword newPassword newPasswordRepeat salt =>
      have named : userJwtData.id = userId := sets
      subst named
      exact answered (changePassword_revokes services world _ _ _ _ _) succeeded
  | _ => exact sets.elim

theorem along_refused (authentic : services.Authentic) {commands : List AuthCommand}
    (revoked : world.Revoked userId time)
    (stands : world.Along services (fun world command =>
      PresentsOld services userId time command → world.userKeyStands userId time) commands) :
    world.Along services (fun world command => PresentsOld services userId time command →
      ∀ answer, (world.execute services command).2 ≠ .ok answer) commands := by
  induction commands generalizing world with
  | nil => trivial
  | cons command rest ih =>
      obtain ⟨here, later⟩ := stands
      refine ⟨fun old => old_token_fails authentic revoked (here old) old, ?_⟩
      exact ih (preserves_handle services command world revoked) later

/-- After a password was set no older refresh token of the user is exchanged, as long as none is
presented when the key of the user has run out after six minutes. -/
theorem old_tokens_refused (services : Services) (world : World) (userId : Nat)
    (command : AuthCommand) (answer : AuthAnswer) (later : List AuthCommand)
    (authentic : services.Authentic) (sets : SetsPassword services world userId command)
    (succeeded : (world.execute services command).2 = .ok answer)
    (stands : (world.execute services command).1.Along services (fun now next =>
      PresentsOld services userId world.clock next → now.userKeyStands userId world.clock) later) :
    (world.execute services command).1.Along services (fun now next =>
      PresentsOld services userId world.clock next →
        ∀ answer, (now.execute services next).2 ≠ .ok answer) later :=
  along_refused authentic (revoked_of_setsPassword sets succeeded) stands

end Refused

section Example

def holder : AuthUserJWTData := ⟨1, "holder", ["user"], [], 1, "device"⟩

def plainServices : Services where
  sha256 := id
  hashPassword := fun salt password => salt ++ password
  verifyPassword := fun password passwordHash => password == passwordHash
  encode := fun token => token.jti
  decode := fun token =>
    if token = "old" then some (generatePayload holder .refresh "old" 0) else none
  deviceId := id
  oauthUser := fun _ _ => .error (.oauthProviderUnavailable "")
  authUrl := fun _ state => state
  strip := id

theorem plainServices_authentic : plainServices.Authentic := by
  intro token payload decoded
  simp only [plainServices] at decoded
  split at decoded
  · cases decoded
    exact ⟨holder, .refresh, "old", 0, rfl⟩
  · cases decoded

def askedWorld : World where
  clock := second
  users := ⟨[{ id := 1, email := "e", username := "holder", passwordHash := some "h", roles := [1] }],
    by decide⟩
  roles := ⟨[{ id := 1, name := "user" }], by decide⟩
  sessions := ⟨[⟨1, 1, "device", 0, true⟩], by decide⟩
  redis := fun key => if key = .token "reset" then some ⟨1, 15 * minute⟩ else none

def quietWorld : World := { askedWorld with redis := fun _ => none }

def resets : AuthCommand := .resetPassword "reset" "new" "new" "salt"

def presentsOld : AuthCommand := .refreshToken (some "old") ("access", "refresh")

def assigner : AuthUserJWTData := ⟨2, "assigner", ["assigner"], ["role:assign"], 2, "device"⟩

def assigns : AuthCommand := .rbac assigner (.assignRole 1 "user")

theorem resets_sets : SetsPassword plainServices askedWorld 1 resets := by
  have kept : askedWorld.get (.token "reset") = some 1 := by decide +kernel
  exact kept

theorem resets_succeeds :
    ∃ answer, (askedWorld.execute plainServices resets).2 = .ok answer := by
  have ended : (askedWorld.execute plainServices resets).2.isOk = true := by decide +kernel
  cases outcome : (askedWorld.execute plainServices resets).2 with
  | error error =>
      rw [outcome] at ended
      cases ended
  | ok answer => exact ⟨answer, rfl⟩

theorem old_tokens_refused_next : ∃ answer, (askedWorld.execute plainServices resets).2 = .ok answer ∧
    (askedWorld.execute plainServices resets).1.Along plainServices (fun now next =>
      PresentsOld plainServices 1 second next →
        ∀ answer, (now.execute plainServices next).2 ≠ .ok answer) [presentsOld] := by
  obtain ⟨answer, succeeded⟩ := resets_succeeds
  refine ⟨answer, succeeded, old_tokens_refused plainServices askedWorld 1 resets answer
    [presentsOld] plainServices_authentic resets_sets succeeded ⟨fun _ stored found => ?_, trivial⟩⟩
  have long : (askedWorld.execute plainServices resets).1.redis (.user 1) =
      some ⟨second, second + refreshTokenExpireDays * day⟩ := by decide +kernel
  rw [found] at long
  cases long
  exact .inr (Nat.le_refl _)

/-- A role is assigned, six minutes pass, and the old token is exchanged. -/
theorem old_token_revived : plainServices.Authentic ∧
    SetsPassword plainServices askedWorld 1 resets ∧
    (∃ answer, (askedWorld.execute plainServices resets).2 = .ok answer) ∧
    ¬(askedWorld.execute plainServices resets).1.Along plainServices (fun now next =>
      PresentsOld plainServices 1 second next →
        ∀ answer, (now.execute plainServices next).2 ≠ .ok answer)
      [assigns, .elapse (7 * minute), presentsOld] := by
  refine ⟨plainServices_authentic, resets_sets, resets_succeeds, ?_⟩
  rintro ⟨_, _, refused, _⟩
  have fails := refused ⟨_, rfl, rfl, by decide⟩
  have exchanged : ((((askedWorld.execute plainServices resets).1.execute plainServices assigns).1
      |>.execute plainServices (.elapse (7 * minute))).1.execute plainServices presentsOld).2.isOk =
        true := by decide +kernel
  generalize ((((askedWorld.execute plainServices resets).1.execute plainServices assigns).1
      |>.execute plainServices (.elapse (7 * minute))).1.execute plainServices presentsOld).2 =
    outcome at fails exchanged
  cases outcome with
  | error error => cases exchanged
  | ok answer => exact fails answer rfl

end Example

end Messanger.Auth
