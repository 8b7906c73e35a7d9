import Messanger.Auth.OneTimeKeys
import Messanger.Auth.UserRevocation

/-!
Logging in through a provider.  The state of a login is looked up at the start of the callback and
deleted near its end, and the three branches in between check different things.
-/

namespace Messanger.Auth

open Relational Processes

section Rules

variable (services : Services)

def issuedState : AuthCommand → Option String
  | .createOAuthAuthorizeUrl _ _ state => some state
  | _ => none

def issuedTo (state : String) : AuthCommand → Option Nat
  | .createOAuthAuthorizeUrl _ userId other => if other = state then some (userId.getD 0) else none
  | _ => none

def callbackState : AuthCommand → Option String
  | .processOAuthCallback _ _ state _ _ _ => some state
  | _ => none

def providerAccount (world : World) (provider code : String) : Option OAuthAccount :=
  (oauthProvider provider).bind fun provider => (services.oauthUser provider code).toOption.bind
    fun data => world.accountByProvider provider data.providerUserId

def PairFor (userId : Nat) (group : TokenGroup) : Prop :=
  ∃ (securityUser : AuthUserJWTData) (jtis : String × String) (now : Nat),
    securityUser.id = userId ∧ group =
      { refreshToken := services.encode (generatePayload securityUser .refresh jtis.2 now)
        accessToken := services.encode (generatePayload securityUser .access jtis.1 now) }

def IssuedFor (before : List AuthEntry) (state : String) (userId : Nat) : Prop :=
  ∃ issue ∈ before, issue.label = .set (.state state) ∧ issuedTo state issue.tag = some userId

def LinkedTo (before : List AuthEntry) (index : Nat) (provider code : String) (userId : Nat) :
    Prop :=
  (∃ look ∈ before, look.index = index ∧ look.label = .select ∧ ∃ account,
      providerAccount services look.before provider code = some account ∧
        account.userId = userId) ∨
    ∃ save ∈ before, save.index = index ∧ save.label = .commit ∧
      save.before.users.find? userId = none ∧ (save.after.users.find? userId).isSome

/-- A pair is returned for the user of an active account, and the state was issued to that user or
to nobody. -/
def Returned (before : List AuthEntry) (entry : AuthEntry) : Prop :=
  ∀ group, entry.outcome = some (.ok (.tokens group)) →
    ∀ provider code state userAgent username jtis,
      entry.tag = .processOAuthCallback provider code state userAgent username jtis →
        ∃ value account, code = some value ∧
          providerAccount services entry.after provider value = some account ∧
          account.isActive = true ∧ PairFor services account.userId group ∧
          (IssuedFor before state account.userId ∨
            IssuedFor before state 0 ∧
              LinkedTo services before entry.index provider value account.userId)

def SameRows (entry : AuthEntry) : Prop :=
  entry.after.users.rows = entry.before.users.rows ∧
    entry.after.oauthAccounts.rows = entry.before.oauthAccounts.rows ∧
    entry.after.sessions.rows = entry.before.sessions.rows

def FailsClean (own : List AuthEntry) (entry : AuthEntry) : Prop :=
  (callbackState entry.tag).isSome → (∃ error, entry.outcome = some (.error error)) →
    ∀ action ∈ own, SameRows action

structure OAuthRules (scene : AuthScene) : Prop where
  once : ∀ first ∈ scene.history, ∀ second ∈ scene.history, ∀ state,
    callbackState first.tag = some state → callbackState second.tag = some state →
      ReturnsPair first → ReturnsPair second → first.index = second.index
  returned : Scene.Earlier (Returned services) scene.history
  clean : scene.AtEnd FailsClean

end Rules

section Terms

variable (services : Services)

def OAuthCommand : AuthCommand → Prop
  | .elapse _ | .createOAuthAuthorizeUrl _ _ _ | .processOAuthCallback _ _ _ _ _ _ => True
  | _ => False

def StateFresh (scene : AuthScene) (command : AuthCommand) : Prop :=
  ∀ state, issuedState command = some state → ∀ opened ∈ scene.opened,
    issuedState opened.tag ≠ some state

/-- No state is deleted that another callback has deleted, and no callback of a state that was
issued to a user meets an inactive account of that user. -/
def OAuthActs (scene : AuthScene) : AuthCommand → Op → Prop
  | .processOAuthCallback _ _ state _ _ _, .del _ => (scene.world.redis (.state state)).isSome
  | .processOAuthCallback provider (some code) state _ _ _, .select => ∀ account,
      providerAccount services scene.world provider code = some account →
        (∃ opened ∈ scene.opened, issuedTo state opened.tag = some account.userId) →
          account.isActive = true
  | _, _ => True

instance : DecidablePred OAuthCommand := fun command => by
  cases command <;> first | exact .isTrue trivial | exact .isFalse id

instance (scene : AuthScene) (command : AuthCommand) : Decidable (StateFresh scene command) :=
  inferInstanceAs (Decidable (∀ state ∈ issuedState command, ∀ opened ∈ scene.opened,
    issuedState opened.tag ≠ some state))

instance (scene : AuthScene) (command : AuthCommand) (label : Op) :
    Decidable (OAuthActs services scene command label) := by
  unfold OAuthActs
  split
  · infer_instance
  · exact inferInstanceAs (Decidable (∀ account ∈ providerAccount services scene.world _ _, _ → _))
  · infer_instance

def oauthTerms : Terms World Op AuthCommand AuthError AuthAnswer where
  Opens := fun scene command => OAuthCommand command ∧ StateFresh scene command
  Acts := fun scene _ command label _ => OAuthActs services scene command label

end Terms

section Law

variable {services : Services}

def IsStateKey (key : RedisKey) : Prop := ∃ state, key = .state state

structure OAuthLaw (services : Services) (scene : AuthScene) : Prop where
  keys : OneTime IsStateKey scene
  sent : ∀ entry ∈ scene.history, ∀ state, entry.label = .set (.state state) →
    issuedState entry.tag = some state ∧ ∀ stored, entry.after.redis (.state state) = some stored →
      issuedTo state entry.tag = some stored.value
  fresh : ∀ (first second : Nat) (left right : Opened AuthCommand) state,
    scene.opened[first]? = some left → scene.opened[second]? = some right →
      issuedState left.tag = some state → issuedState right.tag = some state → first = second
  grows : ∀ entry ∈ scene.history,
    entry.after.oauthAccounts.rows <+: scene.world.oauthAccounts.rows
  used : Scene.Earlier (fun before entry => ∀ state, callbackState entry.tag = some state →
    ReturnsPair entry → ∃ own ∈ before, own.index = entry.index ∧
      own.label = .del (.state state)) scene.history
  returned : Scene.Earlier (Returned services) scene.history
  clean : scene.AtEnd FailsClean

variable {scene now : AuthScene} {index : Nat} {tag : AuthCommand} {label : Op}
  {effect : World → World} {outcome : Option (Except AuthError AuthAnswer)}

theorem OAuthLaw.after (law : OAuthLaw services now) (running : now.Running index)
    (keys : OneTime IsStateKey (now.after index tag label effect outcome))
    (sent : ∀ state, label = .set (.state state) → issuedState tag = some state ∧
      ∀ stored, (effect now.world).redis (.state state) = some stored →
        issuedTo state tag = some stored.value)
    (grows : now.world.oauthAccounts.rows <+: (effect now.world).oauthAccounts.rows)
    (used : ∀ state, callbackState tag = some state →
      (∃ group, outcome = some (.ok (.tokens group))) →
        ∃ own ∈ now.history, own.index = index ∧ own.label = .del (.state state))
    (returned : Returned services now.history
      ⟨index, tag, label, now.world, effect now.world, outcome⟩)
    (clean : outcome.isSome → FailsClean
      (now.own index ++ [⟨index, tag, label, now.world, effect now.world, outcome⟩])
      ⟨index, tag, label, now.world, effect now.world, outcome⟩) :
    OAuthLaw services (now.after index tag label effect outcome) where
  keys := keys
  sent := by
    intro entry member state labelled
    rcases List.mem_append.mp member with before | last
    · exact law.sent entry before state labelled
    · rw [List.mem_singleton.mp last] at labelled ⊢
      exact sent state labelled
  fresh := law.fresh
  grows := by
    intro entry member
    rcases List.mem_append.mp member with before | last
    · exact (law.grows entry before).trans grows
    · rw [List.mem_singleton.mp last]
      exact List.prefix_refl _
  used := Scene.earlier_concat law.used used
  returned := Scene.earlier_concat law.returned returned
  clean := Scene.atEnd_after law.clean running clean

theorem OAuthLaw.opening (law : OAuthLaw services now) (fresh : StateFresh now tag) :
    OAuthLaw services (now.opening tag) where
  keys := law.keys.opening
  sent := law.sent
  fresh := by
    intro first second left right state foundLeft foundRight issuedLeft issuedRight
    rcases Scene.getElem?_opening foundLeft with oldLeft | ⟨rfl, rfl⟩
    · rcases Scene.getElem?_opening foundRight with oldRight | ⟨rfl, rfl⟩
      · exact law.fresh first second left right state oldLeft oldRight issuedLeft issuedRight
      · exact absurd issuedLeft (fresh state issuedRight left (List.mem_of_getElem? oldLeft))
    · rcases Scene.getElem?_opening foundRight with oldRight | ⟨rfl, rfl⟩
      · exact absurd issuedRight (fresh state issuedLeft right (List.mem_of_getElem? oldRight))
      · rfl
  grows := law.grows
  used := law.used
  returned := law.returned
  clean := law.clean

theorem OAuthLaw.quiet (law : OAuthLaw services now) (running : now.Running index)
    (clean : ∀ action ∈ now.own index, SameRows action)
    (rows : SameRows ⟨index, tag, label, now.world, effect now.world, outcome⟩)
    (unset : ∀ state, label ≠ .set (.state state)) (undeleted : ∀ state, label ≠ .del (.state state))
    (redis : ∀ state, (effect now.world).redis (.state state) = now.world.redis (.state state))
    (fails : ∀ group, outcome ≠ some (.ok (.tokens group))) :
    OAuthLaw services (now.after index tag label effect outcome) := by
  refine law.after running (law.keys.quiet ?_ ?_ ?_) (fun state same => absurd same (unset state))
    ?_ (fun _ _ returns => ?_) (fun group ended => absurd ended (fails group)) ?_
  · rintro _ ⟨state, rfl⟩
    exact unset state
  · rintro _ ⟨state, rfl⟩
    exact undeleted state
  · rintro _ ⟨state, rfl⟩
    exact redis state
  · exact ⟨[], (List.append_nil _).trans rows.2.1.symm⟩
  · obtain ⟨group, ended⟩ := returns
    exact absurd ended (fails group)
  · intro _ _ _ action member
    rcases List.mem_append.mp member with before | last
    · exact clean action before
    · rw [List.mem_singleton.mp last]
      exact rows

theorem OAuthLaw.del (law : OAuthLaw services now) (running : now.Running index) {state : String}
    (there : (now.world.redis (.state state)).isSome) :
    OAuthLaw services (now.after index tag (.del (.state state))
      (fun world => world.del (.state state)) none) :=
  law.after running (law.keys.del ⟨_, rfl⟩ there rfl) (fun _ same => nomatch same)
    (List.prefix_refl _) (fun _ _ ⟨_, ended⟩ => nomatch ended) (fun _ ended => nomatch ended)
    (fun ended => nomatch ended)

end Law

section Rows

variable {world after : World}

theorem insertUser_ok {user : User} (done : world.insertUser user = .ok after) :
    world.users.find? user.id = none ∧
      after = { world with users := world.users.insert user } := by
  rw [World.insertUser] at done
  split at done
  · cases done
  rename_i absent
  split at done
  · cases done
  split at done
  · cases done
  · cases done
    exact ⟨by simpa using absent, rfl⟩

variable {provider : OAuthProviderEnum} {providerUserId : String}

theorem providerAccount_eq {services : Services} {provider code : String}
    {providerEnum : OAuthProviderEnum} {data : OAuthData}
    (known : oauthProvider provider = some providerEnum)
    (answered : services.oauthUser providerEnum code = .ok data) (world : World) :
    providerAccount services world provider code =
      world.accountByProvider providerEnum data.providerUserId := by
  rw [providerAccount, known, Option.bind_some, answered]
  rfl

theorem accountByProvider_grows {account : OAuthAccount}
    (grows : world.oauthAccounts.rows <+: after.oauthAccounts.rows)
    (found : world.accountByProvider provider providerUserId = some account) :
    after.accountByProvider provider providerUserId = some account := by
  obtain ⟨more, rows⟩ := grows
  rw [World.accountByProvider, Table.select] at found ⊢
  rw [← rows, List.filter_append, List.head?_append, found]
  rfl

theorem insertAccount_ok {data : OAuthData} {userId : Nat}
    (done : world.insertAccount provider data userId = .ok after) :
    world.oauthAccounts.rows <+: after.oauthAccounts.rows ∧ after.users = world.users ∧
      after.redis = world.redis ∧ ∃ account, after.accountByProvider provider data.providerUserId = some account ∧
        account.userId = userId ∧ account.isActive = true := by
  rw [World.insertAccount] at done
  split at done
  · cases done
  rename_i absent
  split at done
  · cases done
  · cases done
    have rows := Table.rows_insert world.oauthAccounts
      ⟨world.oauthAccounts.nextKey, provider, data.providerUserId, data.email, true, userId⟩
      (Table.find?_nextKey _)
    refine ⟨⟨_, rows.symm⟩, rfl, rfl, ⟨world.oauthAccounts.nextKey, provider, data.providerUserId,
      data.email, true, userId⟩, ?_, rfl, rfl⟩
    simp only [List.any_eq_true, not_exists, not_and] at absent
    rw [World.accountByProvider, Table.select, rows, List.filter_append,
      List.filter_eq_nil_iff.mpr absent]
    simp

inductive Admits (userId : Nat) : Option OAuthAccount → OAuthLogin → Prop
  | linked {account : OAuthAccount} {securityUser : AuthUserJWTData} :
      account.isActive = true → account.userId = userId ∨ userId = 0 →
        securityUser.id = account.userId →
          Admits userId (some account) { userId := account.userId, securityUser }
  | connected {securityUser : AuthUserJWTData} : securityUser.id = userId →
      Admits userId none { userId, securityUser, newAccount := true }
  | registered {user : User} {securityUser : AuthUserJWTData} : userId = 0 →
      securityUser.id = user.id → Admits userId none
        { userId := user.id, securityUser, newUser := some user, newAccount := true }

theorem Admits.security {userId : Nat} {account : Option OAuthAccount} {login : OAuthLogin}
    (admits : Admits userId account login) : login.securityUser.id = login.userId := by
  cases admits with
  | linked _ _ same => exact same
  | connected same => exact same
  | registered _ same => exact same

theorem saveSession_users (world : World) (existing : Option Session) (userId : Nat)
    (deviceId : String) (now : Nat) :
    (world.saveSession existing userId deviceId now).users = world.users := by
  cases existing with
  | none => rfl
  | some session => rfl

theorem saveSession_accounts (world : World) (existing : Option Session) (userId : Nat)
    (deviceId : String) (now : Nat) :
    (world.saveSession existing userId deviceId now).oauthAccounts = world.oauthAccounts := by
  cases existing with
  | none => rfl
  | some session => rfl

theorem saveSession_redis (world : World) (existing : Option Session) (userId : Nat)
    (deviceId : String) (now : Nat) :
    (world.saveSession existing userId deviceId now).redis = world.redis := by
  cases existing with
  | none => rfl
  | some session => rfl

theorem saveOAuth_ok {userId now : Nat} {account : Option OAuthAccount} {login : OAuthLogin}
    {data : OAuthData} {existing : Option Session} {deviceId : String}
    (admits : Admits userId account login)
    (found : ∀ linked, account = some linked →
      world.accountByProvider provider data.providerUserId = some linked)
    (done : world.saveOAuth login provider data existing deviceId now = .ok after) :
    world.oauthAccounts.rows <+: after.oauthAccounts.rows ∧ after.redis = world.redis ∧
      (∃ linked, after.accountByProvider provider data.providerUserId = some linked ∧
        linked.userId = login.userId ∧ linked.isActive = true) ∧
      (login.userId = userId ∨ userId = 0 ∧
        ((∃ linked, account = some linked ∧ linked.userId = login.userId) ∨
          world.users.find? login.userId = none ∧ (after.users.find? login.userId).isSome)) := by
  cases admits with
  | @linked account securityUser active allowed _ =>
      cases done
      have there := found account rfl
      refine ⟨?_, saveSession_redis _ _ _ _ _, ⟨account, ?_, rfl, active⟩, ?_⟩
      · exact ⟨[], (List.append_nil _).trans (by rw [saveSession_accounts])⟩
      · rw [World.accountByProvider, saveSession_accounts]
        exact there
      · exact allowed.imp id fun nobody => ⟨nobody, .inl ⟨account, rfl, rfl⟩⟩
  | @connected securityUser _ =>
      simp only [World.saveOAuth, World.saveNewUser, World.saveNewAccount, if_pos, bind,
        Except.bind] at done
      cases inserted : world.insertAccount provider data userId with
      | error error =>
          rw [inserted] at done
          cases done
      | ok next =>
          rw [inserted] at done
          cases done
          obtain ⟨grows, _, redis, account, there, linked, active⟩ := insertAccount_ok inserted
          refine ⟨?_, ?_, ⟨account, ?_, linked, active⟩, .inl rfl⟩
          · rw [saveSession_accounts]
            exact grows
          · rw [saveSession_redis]
            exact redis
          · rw [World.accountByProvider, saveSession_accounts]
            exact there
  | @registered user securityUser nobody _ =>
      simp only [World.saveOAuth, World.saveNewUser, World.saveNewAccount, if_pos, bind,
        Except.bind] at done
      cases created : world.insertUser user with
      | error error =>
          rw [created] at done
          cases done
      | ok first =>
          simp only [created] at done
          cases inserted : first.insertAccount provider data user.id with
          | error error =>
              rw [inserted] at done
              cases done
          | ok next =>
              rw [inserted] at done
              cases done
              obtain ⟨absent, first_eq⟩ := insertUser_ok created
              obtain ⟨grows, users, redis, account, there, linked, active⟩ :=
                insertAccount_ok inserted
              subst first_eq
              refine ⟨?_, ?_, ⟨account, ?_, linked, active⟩, .inr ⟨nobody, .inr ⟨absent, ?_⟩⟩⟩
              · rw [saveSession_accounts]
                exact grows
              · rw [saveSession_redis]
                exact redis
              · rw [World.accountByProvider, saveSession_accounts]
                exact there
              · rw [saveSession_users, users, Table.find?_insert_self _ _ absent]
                rfl

end Rows

section Commands

variable {services : Services} {scene now : AuthScene} {index : Nat} {tag : AuthCommand}
  {label : Op} {provider code state : String} {userId : Nat} {account : Option OAuthAccount}

theorem keeps_quiet {rest : Handler AuthAnswer} {effect : World → World}
    (law : OAuthLaw services now) (running : now.Running index)
    (clean : ∀ action ∈ now.own index, SameRows action)
    (rows : SameRows ⟨index, tag, label, now.world, effect now.world, rest.outcome?⟩)
    (redis : ∀ state, (effect now.world).redis (.state state) = now.world.redis (.state state))
    (unset : ∀ state, label ≠ .set (.state state)) (undeleted : ∀ state, label ≠ .del (.state state))
    (fails : ∀ group, rest.outcome? ≠ some (.ok (.tokens group)))
    (keeps : Keeps (oauthTerms services) (OAuthLaw services) index tag rest
      (now.after index tag label effect none)) :
    OAuthLaw services (now.after index tag label effect rest.outcome?) ∧
      Keeps (oauthTerms services) (OAuthLaw services) index tag rest
        (now.after index tag label effect rest.outcome?) := by
  refine ⟨law.quiet running clean rows unset undeleted redis fails, ?_⟩
  cases rest with
  | done outcome => trivial
  | act label effect next => exact keeps

theorem keeps_look {rest : Handler AuthAnswer} (law : OAuthLaw services now)
    (running : now.Running index) (clean : ∀ action ∈ now.own index, SameRows action)
    (unset : ∀ state, label ≠ .set (.state state)) (undeleted : ∀ state, label ≠ .del (.state state))
    (fails : ∀ group, rest.outcome? ≠ some (.ok (.tokens group)))
    (keeps : Keeps (oauthTerms services) (OAuthLaw services) index tag rest
      (now.after index tag label id none)) :
    OAuthLaw services (now.after index tag label id rest.outcome?) ∧
      Keeps (oauthTerms services) (OAuthLaw services) index tag rest
        (now.after index tag label id rest.outcome?) :=
  keeps_quiet law running clean ⟨rfl, rfl, rfl⟩ (fun _ => rfl) unset undeleted fails keeps

theorem clean_after {effect : World → World} {outcome : Option (Except AuthError AuthAnswer)}
    (clean : ∀ action ∈ now.own index, SameRows action)
    (rows : SameRows ⟨index, tag, label, now.world, effect now.world, outcome⟩) :
    ∀ action ∈ (now.after index tag label effect outcome).own index, SameRows action := by
  intro action member
  rw [Scene.own_after] at member
  rcases List.mem_append.mp member with before | last
  · exact clean action before
  · rw [List.mem_singleton.mp last]
    exact rows

structure Called (services : Services) (provider code state : String) (userId : Nat)
    (account : Option OAuthAccount) (scene : AuthScene) (index : Nat) : Prop where
  clean : ∀ action ∈ scene.own index, SameRows action
  issued : IssuedFor scene.history state userId
  looked : ∃ look ∈ scene.history, look.index = index ∧ look.label = .select ∧
    look.after = look.before ∧ providerAccount services look.before provider code = account
  active : ∀ found, account = some found → found.userId = userId → found.isActive = true

theorem Called.meanwhile (called : Called services provider code state userId account scene index)
    (meanwhile : scene.Meanwhile index now) :
    Called services provider code state userId account now index where
  clean := by
    rw [meanwhile.own_eq]
    exact called.clean
  issued := by
    obtain ⟨issue, member, issued⟩ := called.issued
    exact ⟨issue, meanwhile.kept member, issued⟩
  looked := by
    obtain ⟨look, member, looked⟩ := called.looked
    exact ⟨look, meanwhile.kept member, looked⟩
  active := called.active

theorem Called.after {effect : World → World} {outcome : Option (Except AuthError AuthAnswer)}
    (called : Called services provider code state userId account scene index)
    (rows : SameRows ⟨index, tag, label, scene.world, effect scene.world, outcome⟩) :
    Called services provider code state userId account
      (scene.after index tag label effect outcome) index where
  clean := clean_after called.clean rows
  issued := by
    obtain ⟨issue, member, issued⟩ := called.issued
    exact ⟨issue, List.mem_append_left _ member, issued⟩
  looked := by
    obtain ⟨look, member, looked⟩ := called.looked
    exact ⟨look, List.mem_append_left _ member, looked⟩
  active := called.active

def finishOAuth (services : Services) (login : OAuthLogin) (provider : OAuthProviderEnum)
    (data : OAuthData) (state deviceId : String) (jtis : String × String) : Handler TokenGroup := do
  let existing ← .observe .select (·.activeByDevice login.userId deviceId)
  let now ← .observe .clock (·.clock)
  .perform (.del (.state state)) (·.del (.state state))
  commitUnique fun world => world.saveOAuth login provider data existing deviceId now
  createTokenPair services login.securityUser jtis

theorem keeps_finishOAuth {providerEnum : OAuthProviderEnum} {data : OAuthData} {login : OAuthLogin}
    {userAgent username deviceId : String} {jtis : String × String}
    (known : oauthProvider provider = some providerEnum)
    (answered : services.oauthUser providerEnum code = .ok data)
    (called : Called services provider code state userId account scene index)
    (admits : Admits userId account login)
    (tag_eq : tag = .processOAuthCallback provider (some code) state userAgent username jtis) :
    Keeps (oauthTerms services) (OAuthLaw services) index tag
      (answerTokens (finishOAuth services login providerEnum data state deviceId jtis)) scene := by
  simp only [answerTokens, finishOAuth, Process.bind_assoc]
  refine keeps_observe fun first met tagged running law acts existing _ => ?_
  have calledFirst := called.meanwhile met
  refine keeps_look law running calledFirst.clean (by simp) (by simp) (by rintro _ ⟨⟩) ?_
  refine keeps_observe fun next met tagged running law acts time _ => ?_
  have calledNext := (calledFirst.after ⟨rfl, rfl, rfl⟩).meanwhile met
  refine keeps_look law running calledNext.clean (by simp) (by simp) (by rintro _ ⟨⟩) ?_
  refine keeps_perform fun third met tagged running law acts => ?_
  have calledThird := (calledNext.after ⟨rfl, rfl, rfl⟩).meanwhile met
  subst tag_eq
  refine ⟨law.del running acts, ?_⟩
  rw [commitUnique, Process.attempt_bind]
  refine keeps_act fun fourth met tagged running law acts => ?_
  have deleted := met.last
  have calledFourth := (calledThird.after ⟨rfl, rfl, rfl⟩).meanwhile met
  cases saved : fourth.world.saveOAuth login providerEnum data existing deviceId time with
  | error error =>
      refine ⟨law.quiet running calledFourth.clean ?_ (by simp) (by simp) (fun _ => ?_)
        (by rintro _ ⟨⟩), trivial⟩
      · simp only [saved]
        exact ⟨rfl, rfl, rfl⟩
      · simp only [saved]
        rfl
  | ok after =>
      have found : ∀ linked, account = some linked →
          fourth.world.accountByProvider providerEnum data.providerUserId = some linked := by
        intro linked same
        obtain ⟨look, member, _, _, looks, there⟩ := calledFourth.looked
        rw [providerAccount_eq known answered, same, ← looks] at there
        exact accountByProvider_grows (law.grows look member) there
      obtain ⟨grows, redis, ⟨linked, there, linkedUser, active⟩, entitled⟩ :=
        saveOAuth_ok admits found saved
      have effect_eq : ((fourth.world.saveOAuth login providerEnum data existing deviceId
          time).toOption.getD fourth.world) = after := by
        rw [saved]
        rfl
      refine ⟨?_, ?_⟩
      · refine law.after running (law.keys.quiet (by simp) (by simp) fun _ _ => ?_) (by simp) ?_
          (by rintro _ _ ⟨_, ⟨⟩⟩) (by rintro _ ⟨⟩) (by rintro ⟨⟩)
        · rw [effect_eq, redis]
        · rw [effect_eq]
          exact grows
      simp only [createTokenPair, Process.bind_assoc]
      refine keeps_observe fun last met tagged running law acts made _ => ⟨?_, trivial⟩
      have committed := met.last
      rw [effect_eq] at committed
      have stands := accountByProvider_grows (law.grows _ committed) there
      refine law.after running (law.keys.quiet (by simp) (by simp) fun _ _ => rfl) (by simp)
        (List.prefix_refl _) (fun _ same _ => ?_) (fun group ended => ?_) fun _ _ failed => ?_
      · cases same
        exact ⟨_, met.kept_after deleted, rfl, rfl⟩
      · intro asked askedCode askedState askedAgent askedName askedJtis same
        cases same
        cases ended
        refine ⟨code, linked, rfl, ?_, active, ?_, ?_⟩
        · rw [providerAccount_eq known answered]
          exact stands
        · rw [linkedUser]
          exact ⟨login.securityUser, jtis, made, admits.security, rfl⟩
        · obtain ⟨issue, issued, issuedLabel, issuedFor⟩ := calledFourth.issued
          have issue_kept := met.kept_after issued
          rw [linkedUser]
          rcases entitled with same | ⟨nobody, ⟨other, same, otherUser⟩ | ⟨absent, new⟩⟩
          · exact .inl ⟨issue, issue_kept, issuedLabel, same ▸ issuedFor⟩
          · obtain ⟨look, member, looked, selects, _, there⟩ := calledFourth.looked
            exact .inr ⟨⟨issue, issue_kept, issuedLabel, nobody ▸ issuedFor⟩,
              .inl ⟨look, met.kept_after member, looked, selects, other, there.trans same, otherUser⟩⟩
          · exact .inr ⟨⟨issue, issue_kept, issuedLabel, nobody ▸ issuedFor⟩,
              .inr ⟨_, committed, rfl, rfl, absent, new⟩⟩
      · obtain ⟨_, same⟩ := failed
        cases same

theorem securityUser_id {world : World} {deviceId : String} {securityUser : AuthUserJWTData}
    (found : ((world.userById userId).map fun user => world.securityUser user deviceId) =
      some securityUser) : securityUser.id = userId := by
  obtain ⟨user, there, rfl⟩ := Option.map_eq_some_iff.mp found
  exact userById_id there

abbrev Continues (services : Services) (provider code state : String) (userId : Nat)
    (account : Option OAuthAccount) (index : Nat) (tag : AuthCommand)
    (rest : OAuthLogin → Handler AuthAnswer) : Prop :=
  ∀ login now, Called services provider code state userId account now index →
    Admits userId account login →
      (∀ group, (rest login).outcome? ≠ some (.ok (.tokens group))) ∧
        Keeps (oauthTerms services) (OAuthLaw services) index tag (rest login) now

theorem keeps_oauthConnect {deviceId : String} {rest : OAuthLogin → Handler AuthAnswer}
    (called : Called services provider code state userId account scene index)
    (continues : Continues services provider code state userId account index tag rest) :
    (∀ group, (oauthConnect provider account userId deviceId >>= rest).outcome? ≠
      some (.ok (.tokens group))) ∧
    Keeps (oauthTerms services) (OAuthLaw services) index tag
      (oauthConnect provider account userId deviceId >>= rest) scene := by
  rw [oauthConnect]
  by_cases another : (account.any fun account => account.userId != userId) = true
  · rw [if_pos another]
    exact ⟨fun _ same => (nomatch same), trivial⟩
  rw [if_neg another]
  refine ⟨fun _ same => (nomatch same), ?_⟩
  rw [Process.bind_assoc]
  refine keeps_observe fun now met tagged running law acts found known => ?_
  have calledNow := called.meanwhile met
  cases found with
  | none =>
      exact keeps_look law running calledNow.clean (by simp) (by simp)
        (fun _ same => nomatch same) trivial
  | some securityUser =>
      have security := securityUser_id known
      have admits : Admits userId account { userId, securityUser, newAccount := account.isNone } := by
        cases account with
        | none => exact .connected security
        | some account =>
            have same : account.userId = userId := by simpa using another
            subst same
            exact .linked (calledNow.active account rfl rfl) (.inl rfl) security
      obtain ⟨fails, keeps⟩ := continues _ (now.after index tag .select id none)
        (calledNow.after ⟨rfl, rfl, rfl⟩) admits
      exact keeps_look law running calledNow.clean (by simp) (by simp) fails keeps

theorem keeps_oauthLinked {deviceId : String} {linked : OAuthAccount}
    {rest : OAuthLogin → Handler AuthAnswer}
    (called : Called services provider code state 0 (some linked) scene index)
    (continues : Continues services provider code state 0 (some linked) index tag rest) :
    (∀ group, (oauthLinked linked deviceId >>= rest).outcome? ≠ some (.ok (.tokens group))) ∧
    Keeps (oauthTerms services) (OAuthLaw services) index tag
      (oauthLinked linked deviceId >>= rest) scene := by
  rw [oauthLinked]
  by_cases inactive : linked.isActive = false
  · rw [if_pos inactive]
    exact ⟨fun _ same => (nomatch same), trivial⟩
  rw [if_neg inactive]
  refine ⟨fun _ same => (nomatch same), ?_⟩
  rw [Process.bind_assoc]
  refine keeps_observe fun now met tagged running law acts found known => ?_
  have calledNow := called.meanwhile met
  cases found with
  | none =>
      exact keeps_look law running calledNow.clean (by simp) (by simp)
        (fun _ same => nomatch same) trivial
  | some securityUser =>
      obtain ⟨fails, keeps⟩ := continues _ (now.after index tag .select id none)
        (calledNow.after ⟨rfl, rfl, rfl⟩)
        (.linked (by simpa using inactive) (.inr rfl) (securityUser_id known))
      exact keeps_look law running calledNow.clean (by simp) (by simp) fails keeps

def World.flushUser (world : World) (email username : String) (roleId : Nat) :
    Except AuthError (User × World) :=
  let user := world.oauthUser email username roleId
  (world.insertUser user).map fun _ => (user, { world with userSeq := user.id })

theorem flushUser_ok {world after : World} {email username : String} {roleId : Nat} {user : User}
    (done : world.flushUser email username roleId = .ok (user, after)) :
    after = { world with userSeq := user.id } := by
  rw [World.flushUser] at done
  cases created : world.insertUser (world.oauthUser email username roleId) with
  | error error =>
      rw [created] at done
      cases done
  | ok inserted =>
      rw [created] at done
      cases done
      rfl

theorem keeps_oauthRegister {data : OAuthData} {username deviceId : String}
    {rest : OAuthLogin → Handler AuthAnswer}
    (called : Called services provider code state 0 none scene index)
    (continues : Continues services provider code state 0 none index tag rest) :
    Keeps (oauthTerms services) (OAuthLaw services) index tag
      (oauthRegister provider data username deviceId >>= rest) scene := by
  rw [oauthRegister, Process.bind_assoc]
  refine keeps_observe fun first met tagged running law acts role _ => ?_
  have calledFirst := called.meanwhile met
  cases role with
  | none =>
      exact keeps_look law running calledFirst.clean (by simp) (by simp)
        (fun _ same => nomatch same) trivial
  | some role =>
      refine keeps_look law running calledFirst.clean (by simp) (by simp)
        (fun _ same => nomatch same) ?_
      rw [Process.bind_assoc]
      refine keeps_observe fun next met tagged running law acts known _ => ?_
      have calledNext := (calledFirst.after ⟨rfl, rfl, rfl⟩).meanwhile met
      cases known with
      | some user =>
          exact keeps_look law running calledNext.clean (by simp) (by simp)
            (fun _ same => nomatch same) trivial
      | none =>
          refine keeps_look law running calledNext.clean (by simp) (by simp)
            (fun _ same => nomatch same) ?_
          rw [Process.bind_assoc]
          change Keeps _ _ _ _ (Process.transact Op.flush (fun world : World =>
            world.flushUser data.email username role.id) >>= _) _
          rw [Process.transact_bind]
          refine keeps_act fun third met tagged running law acts => ?_
          have calledThird := (calledNext.after ⟨rfl, rfl, rfl⟩).meanwhile met
          cases flushed : third.world.flushUser data.email username role.id with
          | error error =>
              have effect_eq : (((third.world.flushUser data.email username role.id).toOption.map
                  Prod.snd).getD third.world) = third.world := by
                rw [flushed]
                rfl
              refine keeps_quiet law running calledThird.clean ?_ (fun _ => ?_) (by simp) (by simp)
                (fun _ same => nomatch same) trivial
              · rw [effect_eq]
                exact ⟨rfl, rfl, rfl⟩
              · rw [effect_eq]
          | ok result =>
              obtain ⟨user, after⟩ := result
              have effect_eq : (((third.world.flushUser data.email username role.id).toOption.map
                  Prod.snd).getD third.world) = { third.world with userSeq := user.id } := by
                rw [flushed]
                exact flushUser_ok flushed
              have rows : ∀ outcome, SameRows ⟨index, tag, .flush, third.world,
                  ((third.world.flushUser data.email username role.id).toOption.map
                    Prod.snd).getD third.world, outcome⟩ := by
                rw [effect_eq]
                exact fun _ => ⟨rfl, rfl, rfl⟩
              obtain ⟨fails, keeps⟩ := continues
                { userId := user.id
                  securityUser := AuthUserJWTData.createFromUser user [role] deviceId
                  newUser := some user
                  newAccount := true } _ (calledThird.after (rows none)) (.registered rfl rfl)
              refine keeps_quiet law running calledThird.clean (rows _) (fun _ => ?_) (by simp)
                (by simp) fails keeps
              rw [effect_eq]

theorem keeps_oauthLogin (data : OAuthData) (username deviceId : String)
    {rest : OAuthLogin → Handler AuthAnswer}
    (called : Called services provider code state userId account scene index)
    (continues : Continues services provider code state userId account index tag rest) :
    (∀ group, (oauthLogin provider data account userId username deviceId >>= rest).outcome? ≠
      some (.ok (.tokens group))) ∧
    Keeps (oauthTerms services) (OAuthLaw services) index tag
      (oauthLogin provider data account userId username deviceId >>= rest) scene := by
  by_cases somebody : userId ≠ 0
  · have same : oauthLogin provider data account userId username deviceId =
        oauthConnect provider account userId deviceId := if_pos somebody
    rw [same]
    exact keeps_oauthConnect called continues
  · obtain rfl : userId = 0 := by omega
    cases account with
    | some linked => exact keeps_oauthLinked called continues
    | none => exact ⟨fun _ same => (nomatch same), keeps_oauthRegister called continues⟩

theorem keeps_processOAuthCallback {userAgent username : String} {jtis : String × String}
    (own : scene.own index = [])
    (tag_eq : tag = .processOAuthCallback provider (some code) state userAgent username jtis) :
    Keeps (oauthTerms services) (OAuthLaw services) index tag
      (answerTokens
        (processOAuthCallback services provider (some code) state userAgent username jtis)) scene := by
  simp only [answerTokens, processOAuthCallback, processCallback, Process.bind_assoc]
  cases known : oauthProvider provider with
  | none => trivial
  | some providerEnum =>
  simp only [Process.bind_assoc]
  refine keeps_observe fun first met tagged running law acts answer answered => ?_
  have cleanFirst : ∀ action ∈ first.own index, SameRows action := by
    rw [met.own_eq, own]
    rintro _ ⟨⟩
  cases answer with
  | error error =>
      exact keeps_look law running cleanFirst (by simp) (by simp) (by rintro _ ⟨⟩) trivial
  | ok data =>
  refine keeps_look law running cleanFirst (by simp) (by simp) (by rintro _ ⟨⟩) ?_
  refine keeps_observe fun next met tagged running law acts found value => ?_
  have cleanNext : ∀ action ∈ next.own index, SameRows action := by
    rw [met.own_eq]
    exact clean_after cleanFirst ⟨rfl, rfl, rfl⟩
  cases found with
  | none =>
      exact keeps_look law running cleanNext (by simp) (by simp) (by rintro _ ⟨⟩) trivial
  | some userId =>
  refine keeps_look law running cleanNext (by simp) (by simp) (by rintro _ ⟨⟩) ?_
  obtain ⟨expiresAt, stored, _⟩ := stored_of_get value
  obtain ⟨issue, issued, issueLabel, issueStored⟩ := law.keys.issued _ ⟨_, rfl⟩ _ stored
  have issuedUser := (law.sent issue issued state issueLabel).2 _ issueStored
  simp only [Process.bind_assoc]
  refine keeps_observe fun third met tagged running law acts account looked => ?_
  have cleanThird : ∀ action ∈ third.own index, SameRows action := by
    rw [met.own_eq]
    exact clean_after cleanNext ⟨rfl, rfl, rfl⟩
  have issueThird := met.kept_after issued
  have called : Called services provider code state userId account
      (third.after index tag .select id none) index := by
    refine ⟨clean_after cleanThird ⟨rfl, rfl, rfl⟩,
      ⟨issue, List.mem_append_left _ issueThird, issueLabel, issuedUser⟩,
      ⟨_, List.mem_append_right _ (List.mem_singleton_self _), rfl, rfl, rfl, ?_⟩, ?_⟩
    · rw [providerAccount_eq known answered]
      exact looked
    · intro linked same linkedUser
      obtain ⟨opened, member, _, openedTag⟩ := Scene.opened_of_entry tagged issueThird
      subst tag_eq
      refine acts linked ?_ ⟨opened, member, ?_⟩
      · rw [providerAccount_eq known answered, looked, same]
      · rw [openedTag, issuedUser, linkedUser]
  have continues : Continues services provider code state userId account index tag fun login =>
      answerTokens (finishOAuth services login providerEnum data state
        (services.deviceId userAgent) jtis) :=
    fun login now called admits => ⟨by rintro _ ⟨⟩,
      keeps_finishOAuth known answered called admits tag_eq⟩
  obtain ⟨fails, keeps⟩ := keeps_oauthLogin data username (services.deviceId userAgent) called
    continues
  simp only [answerTokens, finishOAuth, Process.bind_assoc] at fails keeps
  exact keeps_look law running cleanThird (by simp) (by simp) fails keeps

theorem keeps_createOAuthAuthorizeUrl {asked : Option Nat} {since : Nat}
    (found : scene.opened[index]? = some ⟨.createOAuthAuthorizeUrl provider asked state, since⟩)
    (own : scene.own index = []) :
    Keeps (oauthTerms services) (OAuthLaw services) index
      (.createOAuthAuthorizeUrl provider asked state)
      ((.createOAuthAuthorizeUrl provider asked state : AuthCommand).handle services) scene := by
  simp only [AuthCommand.handle, createOAuthAuthorizeUrl, Process.bind_assoc]
  refine keeps_perform fun now met tagged running law acts => ?_
  have unset : ∀ entry ∈ now.history, entry.label ≠ .set (.state state) := by
    intro entry member labelled
    obtain ⟨opened, _, openedFound, openedTag⟩ := Scene.opened_of_entry tagged member
    have mine : entry.index = index := law.fresh _ _ opened _ state openedFound (met.opened found)
      (openedTag ▸ (law.sent entry member state labelled).1) rfl
    have here := Scene.mem_own.mpr ⟨member, mine⟩
    rw [met.own_eq, own] at here
    cases here
  have kept : ∀ outcome, OAuthLaw services (now.after index
      (.createOAuthAuthorizeUrl provider asked state) (.set (.state state)) (fun world =>
        world.set (.state state) (asked.getD 0) (oauthStateExpireMinutes * minute / second))
      outcome) := by
    intro outcome
    refine law.after running (law.keys.set unset rfl) ?_ (List.prefix_refl _)
      (fun _ same => nomatch same) (fun _ _ _ _ _ _ _ _ same => nomatch same)
      fun _ callback => nomatch callback
    intro other same
    cases same
    refine ⟨rfl, fun stored there => ?_⟩
    simp only [World.set, Function.update_self, Option.some.injEq] at there
    rw [← there, issuedTo, if_pos rfl]
  cases oauthProvider provider with
  | none => exact ⟨kept _, trivial⟩
  | some known => exact ⟨kept _, trivial⟩

theorem keeps_callbacks {command : AuthCommand} (tagged : scene.Tagged)
    (law : OAuthLaw services scene) (opens : (oauthTerms services).Opens scene command) :
    OAuthLaw services (scene.opening command) ∧
      Keeps (oauthTerms services) (OAuthLaw services) scene.opened.length command
        (command.handle services) (scene.opening command) := by
  refine ⟨law.opening opens.2, ?_⟩
  have found : (scene.opening command).opened[scene.opened.length]? =
      some ⟨command, scene.history.length⟩ := List.getElem?_concat_length
  have own := Scene.own_opening tagged command
  cases command with
  | elapse time =>
      refine keeps_perform fun now met tagged running law acts => ⟨?_, trivial⟩
      refine law.quiet running ?_ ⟨rfl, rfl, rfl⟩ (by simp) (by simp) (fun _ => rfl)
        (fun _ same => nomatch same)
      rw [met.own_eq, own]
      exact fun _ member => nomatch member
  | createOAuthAuthorizeUrl provider asked state => exact keeps_createOAuthAuthorizeUrl found own
  | processOAuthCallback provider code state userAgent username jtis =>
      cases code with
      | none => trivial
      | some code => exact keeps_processOAuthCallback own rfl
  | _ => exact opens.1.elim

/-- In every run that starts without states and keeps the terms, the callbacks keep the rules. -/
theorem callbacks_by_rule (services : Services) (initial : World) (final : AuthSite)
    (empty : ∀ state, initial.redis (.state state) = none)
    (run : Runs (AuthCommand.handle services) (oauthTerms services) ⟨⟨initial, [], []⟩, []⟩ final) :
    OAuthRules services final.toScene := by
  have start : OAuthLaw services ⟨initial, [], []⟩ :=
    { keys := oneTime_initial fun key ⟨state, same⟩ => same ▸ empty state
      sent := fun _ member => nomatch member
      fresh := fun _ _ _ _ _ found => nomatch found
      grows := fun _ member => nomatch member
      used := Scene.earlier_nil
      returned := Scene.earlier_nil
      clean := fun _ member => nomatch member }
  have law := (Runs.keeps (fun _ _ tagged law opens => keeps_callbacks tagged law opens)
    (kept_initial start) run).inv
  refine ⟨?_, law.returned, law.clean⟩
  intro first firstMember second secondMember state firstState secondState firstEnds secondEnds
  obtain ⟨before, after, same⟩ := List.append_of_mem firstMember
  obtain ⟨taken, takenMember, takenIndex, takenLabel⟩ :=
    law.used before first after same state firstState firstEnds
  obtain ⟨earlier, later, split⟩ := List.append_of_mem secondMember
  obtain ⟨used, usedMember, usedIndex, usedLabel⟩ :=
    law.used earlier second later split state secondState secondEnds
  have one : taken = used := law.keys.del_unique ⟨_, rfl⟩
    (by rw [same]; exact List.mem_append_left _ takenMember)
    (by rw [split]; exact List.mem_append_left _ usedMember) takenLabel usedLabel
  rw [← takenIndex, one, usedIndex]

end Commands

section Example

def oneCode : Services :=
  { plainServices with
    oauthUser := fun provider code =>
      if code = "code" then .ok ⟨"remote", "e", none⟩
      else .error (.oauthProviderUnavailable (toString (repr provider))) }

def linkedWorld : World :=
  { quietWorld with
    oauthAccounts := ⟨[⟨1, .google, "remote", "e", true, 1⟩], by decide⟩ }

def asks : AuthCommand := .createOAuthAuthorizeUrl "google" none "state"

def callsBack : AuthCommand :=
  .processOAuthCallback "google" (some "code") "state" "device" "name" ("access", "refresh")

def loginMoves : List (Move AuthCommand) :=
  [Move.start asks, Move.exec 0, Move.start callsBack] ++ List.replicate 9 (Move.exec 1)

def oauthOpens (scene : AuthScene) (command : AuthCommand) : Bool :=
  decide (OAuthCommand command ∧ StateFresh scene command)

def oauthActs (scene : AuthScene) (_ : Nat) (command : AuthCommand) (label : Op)
    (_ : World → World) : Bool :=
  decide (OAuthActs oneCode scene command label)

theorem oauthOpens_sound {scene : AuthScene} {command : AuthCommand}
    (checked : oauthOpens scene command = true) :
    OAuthCommand command ∧ StateFresh scene command := of_decide_eq_true checked

theorem oauthActs_sound {scene : AuthScene} {index : Nat} {command : AuthCommand} {label : Op}
    {effect : World → World} (checked : oauthActs scene index command label effect = true) :
    OAuthActs oneCode scene command label := of_decide_eq_true checked

def loginSite : Option AuthSite :=
  Site.steps (AuthCommand.handle oneCode) oauthOpens oauthActs ⟨⟨linkedWorld, [], []⟩, []⟩ loginMoves

theorem callbacks_by_rule_login : ∃ final, loginSite = some final ∧ returners final = [1] ∧
    OAuthRules oneCode final.toScene := by
  have returned : loginSite.map returners = some [1] := by decide +kernel
  obtain ⟨final, reached, same⟩ := Option.map_eq_some_iff.mp returned
  refine ⟨final, reached, same, callbacks_by_rule oneCode linkedWorld final (fun _ => rfl) ?_⟩
  exact runs_of_steps loginMoves (fun _ _ => oauthOpens_sound) (fun _ _ _ _ _ => oauthActs_sound) .refl
    reached

def raceMoves : List (Move AuthCommand) :=
  [Move.start asks, Move.exec 0, Move.start callsBack, Move.start callsBack, Move.exec 1,
    Move.exec 1] ++
    List.replicate 9 (Move.exec 2) ++ List.replicate 7 (Move.exec 1)

def raceSite : Option AuthSite :=
  Site.steps (AuthCommand.handle oneCode) oauthOpens (fun _ _ _ _ _ => true)
    ⟨⟨linkedWorld, [], []⟩, []⟩ raceMoves

theorem state_used_twice : ∃ final, raceSite = some final ∧
    Runs (AuthCommand.handle oneCode) { oauthTerms oneCode with Acts := fun _ _ _ _ _ => True }
      ⟨⟨linkedWorld, [], []⟩, []⟩ final ∧ ¬OAuthRules oneCode final.toScene := by
  have both : raceSite.map returners = some [2, 1] := by decide +kernel
  obtain ⟨final, reached, same⟩ := Option.map_eq_some_iff.mp both
  refine ⟨final, reached, ?_, fun rules => ?_⟩
  · exact runs_of_steps raceMoves (fun _ _ => oauthOpens_sound) (fun _ _ _ _ _ _ => trivial) .refl
      reached
  · obtain ⟨first, firstMember, firstIndex, firstEnds⟩ :=
      returnsPair_of_returners (show 1 ∈ returners final by simp [same])
    obtain ⟨last, lastMember, lastIndex, lastEnds⟩ :=
      returnsPair_of_returners (show 2 ∈ returners final by simp [same])
    have tags : raceSite.map (fun site => site.history.all fun entry =>
        entry.index == 0 || callbackState entry.tag == some "state") = some true := by decide +kernel
    rw [reached, Option.map_some, Option.some.injEq, List.all_eq_true] at tags
    have states : ∀ entry ∈ final.history, entry.index ≠ 0 →
        callbackState entry.tag = some "state" := by
      intro entry member callback
      simpa [callback] using tags entry member
    have one := rules.once first firstMember last lastMember "state"
      (states first firstMember (by omega)) (states last lastMember (by omega)) firstEnds lastEnds
    omega

end Example

end Messanger.Auth
