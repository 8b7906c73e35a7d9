import Messanger.Auth.OneTimeKeys
import Messanger.Auth.UserRevocation

/-!
Who changes a password.  The tokens that are mailed for a verification and for a reset lie in Redis
under their digests, without their kind.
-/

namespace Messanger.Auth

open Relational Processes

def issuedToken : AuthCommand → Option String
  | .sendVerify _ token | .sendResetPassword _ token => some token
  | _ => none

def presentedToken : AuthCommand → Option String
  | .verify token | .resetPassword token _ _ _ => some token
  | _ => none

def handledToken (command : AuthCommand) : Option String :=
  (issuedToken command).or (presentedToken command)

def World.passwordHashOf (world : World) (userId : Nat) : Option (Option String) :=
  (world.users.find? userId).map (·.passwordHash)

variable (services : Services)

def tokenKey (token : String) : RedisKey := .token (services.sha256 token)

section Rule

def Rightful (world : World) (userId : Nat) (oldPassword newPassword newPasswordRepeat : String) :
    Prop :=
  ∃ user passwordHash, world.userById userId = some user ∧ user.passwordHash = some passwordHash ∧
    services.verifyPassword oldPassword passwordHash = true ∧ newPassword = newPasswordRepeat

/-- `SendResetPassword` has issued the token to the user, the command found it before its time was
over, and no command has used it yet. -/
def RightfulToken (before : List AuthEntry) (index userId : Nat) (token : String) : Prop :=
  (∃ issue ∈ before, ∃ email expiresAt, issue.tag = .sendResetPassword email token ∧
      issue.label = .set (tokenKey services token) ∧
      issue.after.redis (tokenKey services token) = some ⟨userId, expiresAt⟩ ∧
      ∃ look ∈ before, look.index = index ∧ look.label = .get (tokenKey services token) ∧
        look.before.clock < expiresAt) ∧
    (∀ other ∈ before, presentedToken other.tag = some token →
      ∀ answer, other.outcome ≠ some (.ok answer)) ∧
    ∀ other ∈ before, ∀ email, other.tag ≠ .sendVerify email token

def PasswordRule (before : List AuthEntry) (entry : AuthEntry) : Prop :=
  ∀ userId, entry.after.passwordHashOf userId ≠ entry.before.passwordHashOf userId →
    (∃ userJwtData oldPassword newPassword newPasswordRepeat salt,
      entry.tag = .changePassword userJwtData oldPassword newPassword newPasswordRepeat salt ∧
        userJwtData.id = userId ∧
        Rightful services entry.before userId oldPassword newPassword newPasswordRepeat) ∨
    ∃ token password passwordRepeat salt,
      entry.tag = .resetPassword token password passwordRepeat salt ∧
        RightfulToken services before entry.index userId token

def Accepts (entry : AuthEntry) : Prop :=
  ∀ userJwtData oldPassword newPassword newPasswordRepeat salt error,
    entry.tag = .changePassword userJwtData oldPassword newPassword newPasswordRepeat salt →
      entry.outcome = some (.error error) →
        ¬Rightful services entry.before userJwtData.id oldPassword newPassword newPasswordRepeat

/-- Passwords change by the two ways only, and a token works once. -/
structure PasswordLaw (scene : AuthScene) : Prop where
  rule : Scene.Earlier (PasswordRule services) scene.history
  accepts : ∀ entry ∈ scene.history, Accepts services entry
  once : ∀ first ∈ scene.history, ∀ second ∈ scene.history, ∀ token answer other,
    presentedToken first.tag = some token → presentedToken second.tag = some token →
      first.outcome = some (.ok answer) → second.outcome = some (.ok other) →
        first.index = second.index

end Rule

section Terms

def PasswordCommand : AuthCommand → Prop
  | .elapse _ | .sendVerify _ _ | .sendResetPassword _ _ | .verify _ | .resetPassword _ _ _ _
  | .changePassword _ _ _ _ _ => True
  | _ => False

def TokensApart (scene : AuthScene) (command : AuthCommand) : Prop :=
  (∀ token, issuedToken command = some token → ∀ opened ∈ scene.opened,
    issuedToken opened.tag ≠ some token) ∧
  ∀ token, handledToken command = some token → ∀ opened ∈ scene.opened, ∀ other,
    handledToken opened.tag = some other →
      issuedToken command = some token ∨ issuedToken opened.tag = some other →
        services.sha256 other = services.sha256 token → other = token

instance : DecidablePred PasswordCommand := fun command =>
  match command with
  | .elapse _ | .sendVerify _ _ | .sendResetPassword _ _ | .verify _ | .resetPassword _ _ _ _
  | .changePassword _ _ _ _ _ => .isTrue trivial
  | .register .. | .changeUsername .. | .createPermission .. | .deletePermission .. | .rbac ..
  | .login .. | .refreshToken .. | .logout _ | .userDeactivateSession .. | .deleteUser ..
  | .createOAuthAuthorizeUrl .. | .processOAuthCallback .. => .isFalse id

instance (scene : AuthScene) (command : AuthCommand) :
    Decidable (TokensApart services scene command) :=
  inferInstanceAs (Decidable ((∀ token ∈ issuedToken command, ∀ opened ∈ scene.opened,
    issuedToken opened.tag ≠ some token) ∧
    ∀ token ∈ handledToken command, ∀ opened ∈ scene.opened, ∀ other ∈ handledToken opened.tag,
      issuedToken command = some token ∨ issuedToken opened.tag = some other →
        services.sha256 other = services.sha256 token → other = token))

/-- No `ChangePassword` with two equal new passwords meets a user with a password, no token of
`SendVerify` is looked up by `ResetPassword`, and no token is deleted that another command has
deleted. -/
def PasswordActs (scene : AuthScene) : AuthCommand → Op → Prop
  | .changePassword userJwtData _ newPassword newPasswordRepeat _, .select =>
      newPassword ≠ newPasswordRepeat ∨ ∀ user, scene.world.userById userJwtData.id = some user →
        user.passwordHash = none
  | .resetPassword token _ _ _, .get _ => ∀ opened ∈ scene.opened, ∀ email,
      opened.tag ≠ .sendVerify email token
  | .resetPassword token _ _ _, .del _ => (scene.world.redis (tokenKey services token)).isSome
  | .verify token, .del _ => (scene.world.redis (tokenKey services token)).isSome
  | _, _ => True

instance (command : AuthCommand) (token : String) :
    Decidable (∀ email, command ≠ .sendVerify email token) :=
  match command with
  | .sendVerify _ other => decidable_of_iff (other ≠ token) (by simp)
  | .elapse _ | .register .. | .changeUsername .. | .createPermission .. | .deletePermission ..
  | .rbac .. | .sendResetPassword .. | .verify _ | .resetPassword .. | .changePassword ..
  | .login .. | .refreshToken .. | .logout _ | .userDeactivateSession .. | .deleteUser ..
  | .createOAuthAuthorizeUrl .. | .processOAuthCallback .. => .isTrue fun _ same => nomatch same

instance (scene : AuthScene) (command : AuthCommand) (label : Op) :
    Decidable (PasswordActs services scene command label) :=
  match command with
  | .changePassword userJwtData _ newPassword newPasswordRepeat _ =>
      match label with
      | .select => inferInstanceAs (Decidable (newPassword ≠ newPasswordRepeat ∨
          ∀ user ∈ scene.world.userById userJwtData.id, user.passwordHash = none))
      | .clock | .flush | .commit | .get _ | .mget _ | .set _ | .del _ | .queue | .provider =>
          .isTrue trivial
  | .resetPassword token _ _ _ =>
      match label with
      | .get _ => inferInstanceAs (Decidable (∀ opened ∈ scene.opened, ∀ email,
          opened.tag ≠ .sendVerify email token))
      | .del _ => inferInstanceAs (Decidable (scene.world.redis (tokenKey services token)).isSome)
      | .clock | .select | .flush | .commit | .mget _ | .set _ | .queue | .provider =>
          .isTrue trivial
  | .verify token =>
      match label with
      | .del _ => inferInstanceAs (Decidable (scene.world.redis (tokenKey services token)).isSome)
      | .clock | .select | .flush | .commit | .get _ | .mget _ | .set _ | .queue | .provider =>
          .isTrue trivial
  | .elapse _ | .register .. | .sendVerify .. | .changeUsername .. | .createPermission ..
  | .deletePermission .. | .rbac .. | .sendResetPassword .. | .login .. | .refreshToken ..
  | .logout _ | .userDeactivateSession .. | .deleteUser .. | .createOAuthAuthorizeUrl ..
  | .processOAuthCallback .. => .isTrue trivial

def passwordTerms : Terms World Op AuthCommand AuthError AuthAnswer where
  Opens := fun scene command => PasswordCommand command ∧ TokensApart services scene command
  Acts := fun scene _ command label _ => PasswordActs services scene command label

end Terms

section Law

variable {services}

def IsTokenKey (key : RedisKey) : Prop := ∃ digest, key = .token digest

structure TokenEntry (services : Services) (before : List AuthEntry) (entry : AuthEntry) :
    Prop where
  sent : ∀ digest, entry.label = .set (.token digest) →
    ∃ token, issuedToken entry.tag = some token ∧ services.sha256 token = digest
  used : ∀ token answer, presentedToken entry.tag = some token → entry.outcome = some (.ok answer) →
    ∃ own ∈ before, own.index = entry.index ∧ own.label = .del (tokenKey services token)
  rule : PasswordRule services before entry
  accepts : Accepts services entry

structure TokenLaw (services : Services) (scene : AuthScene) : Prop where
  keys : OneTime IsTokenKey scene
  entries : Scene.Earlier (TokenEntry services) scene.history
  fresh : ∀ (first second : Nat) (left right : Opened AuthCommand) token,
    scene.opened[first]? = some left → scene.opened[second]? = some right →
      issuedToken left.tag = some token → issuedToken right.tag = some token → first = second
  apart : ∀ left ∈ scene.opened, ∀ right ∈ scene.opened, ∀ token other,
    issuedToken left.tag = some token → handledToken right.tag = some other →
      services.sha256 token = services.sha256 other → token = other

variable {scene now : AuthScene} {index : Nat} {tag : AuthCommand} {label : Op}
  {effect : World → World} {outcome : Option (Except AuthError AuthAnswer)}

theorem TokenLaw.after (law : TokenLaw services now)
    (keys : OneTime IsTokenKey (now.after index tag label effect outcome))
    (entry : TokenEntry services now.history
      ⟨index, tag, label, now.world, effect now.world, outcome⟩) :
    TokenLaw services (now.after index tag label effect outcome) where
  keys := keys
  entries := Scene.earlier_concat law.entries entry
  fresh := law.fresh
  apart := law.apart

theorem handled_of_issued {command : AuthCommand} {token : String}
    (issued : issuedToken command = some token) : handledToken command = some token := by
  rw [handledToken, issued]
  rfl

theorem TokenLaw.opening (law : TokenLaw services now) (apart : TokensApart services now tag) :
    TokenLaw services (now.opening tag) where
  keys := law.keys.opening
  entries := law.entries
  fresh := by
    intro first second left right token foundLeft foundRight issuedLeft issuedRight
    rcases Scene.getElem?_opening foundLeft with oldLeft | ⟨rfl, rfl⟩
    · rcases Scene.getElem?_opening foundRight with oldRight | ⟨rfl, rfl⟩
      · exact law.fresh first second left right token oldLeft oldRight issuedLeft issuedRight
      · exact absurd issuedLeft (apart.1 token issuedRight left (List.mem_of_getElem? oldLeft))
    · rcases Scene.getElem?_opening foundRight with oldRight | ⟨rfl, rfl⟩
      · exact absurd issuedRight (apart.1 token issuedLeft right (List.mem_of_getElem? oldRight))
      · rfl
  apart := by
    intro left leftMember right rightMember token other issuedLeft handledRight same
    have handledLeft := handled_of_issued issuedLeft
    rcases List.mem_append.mp leftMember with oldLeft | newLeft
    · rcases List.mem_append.mp rightMember with oldRight | newRight
      · exact law.apart left oldLeft right oldRight token other issuedLeft handledRight same
      · rw [List.mem_singleton.mp newRight] at handledRight
        exact apart.2 other handledRight left oldLeft token handledLeft (.inr issuedLeft) same
    · rw [List.mem_singleton.mp newLeft] at handledLeft issuedLeft
      rcases List.mem_append.mp rightMember with oldRight | newRight
      · exact (apart.2 token handledLeft right oldRight other handledRight (.inl issuedLeft)
          same.symm).symm
      · rw [List.mem_singleton.mp newRight, handledLeft] at handledRight
        exact Option.some.inj handledRight

theorem TokenLaw.quiet (law : TokenLaw services now)
    (unset : ∀ digest, label ≠ .set (.token digest))
    (undeleted : ∀ digest, label ≠ .del (.token digest))
    (redis : ∀ digest, (effect now.world).redis (.token digest) =
      now.world.redis (.token digest))
    (hashes : ∀ userId, (effect now.world).passwordHashOf userId = now.world.passwordHashOf userId)
    (ends : ∀ token answer, presentedToken tag = some token → outcome ≠ some (.ok answer))
    (accepts : Accepts services ⟨index, tag, label, now.world, effect now.world, outcome⟩) :
    TokenLaw services (now.after index tag label effect outcome) := by
  refine law.after (law.keys.quiet ?_ ?_ ?_) ⟨?_, ?_, ?_, accepts⟩
  · rintro _ ⟨digest, rfl⟩
    exact unset digest
  · rintro _ ⟨digest, rfl⟩
    exact undeleted digest
  · rintro _ ⟨digest, rfl⟩
    exact redis digest
  · exact fun digest same => absurd same (unset digest)
  · exact fun token answer presented ended => absurd ended (ends token answer presented)
  · exact fun userId changed => absurd (hashes userId) changed

theorem TokenLaw.commit (law : TokenLaw services now)
    (redis : ∀ key, (effect now.world).redis key = now.world.redis key)
    (used : ∀ token answer, presentedToken tag = some token → outcome = some (.ok answer) →
      ∃ own ∈ now.history, own.index = index ∧ own.label = .del (tokenKey services token))
    (rule : PasswordRule services now.history
      ⟨index, tag, .commit, now.world, effect now.world, outcome⟩)
    (accepts : Accepts services ⟨index, tag, .commit, now.world, effect now.world, outcome⟩) :
    TokenLaw services (now.after index tag .commit effect outcome) :=
  law.after (law.keys.quiet (by simp) (by simp) fun key _ => redis key)
    ⟨by simp, used, rule, accepts⟩

end Law

section Commands

variable {services} {scene now : AuthScene} {index : Nat}

theorem hash_updateUser {world : World} {id : Nat} {change : User → User}
    {keeps : ∀ user, (change user).id = user.id} {userId : Nat}
    (same : ∀ user : User, user.id = userId → user.id = id →
      (change user).passwordHash = user.passwordHash) :
    (world.updateUser id change keeps).passwordHashOf userId = world.passwordHashOf userId := by
  rw [World.passwordHashOf, World.updateUser, Table.find?_update, World.passwordHashOf]
  cases found : world.users.find? userId with
  | none => rfl
  | some user =>
      simp only [Option.map_some, Option.some.injEq]
      split
      · rename_i here
        exact same user (Table.key_of_find? found) (beq_iff_eq.mp here)
      · rfl

theorem sent_of_label (law : TokenLaw services now) {entry : AuthEntry}
    (member : entry ∈ now.history) {digest : String} (label : entry.label = .set (.token digest)) :
    ∃ token, issuedToken entry.tag = some token ∧ services.sha256 token = digest := by
  obtain ⟨before, after, same⟩ := List.append_of_mem member
  exact (law.entries before entry after same).sent digest label

theorem token_of_label (law : TokenLaw services now) (tagged : now.Tagged) {task : Opened AuthCommand}
    (opened : task ∈ now.opened) {token : String} (handled : handledToken task.tag = some token)
    {entry : AuthEntry} (member : entry ∈ now.history)
    (label : entry.label = .set (tokenKey services token)) : issuedToken entry.tag = some token := by
  obtain ⟨other, issued, same⟩ := sent_of_label law member label
  obtain ⟨sender, senderMember, _, senderTag⟩ := Scene.opened_of_entry tagged member
  have issuedSender : issuedToken sender.tag = some other := by
    rw [senderTag, issued]
  rw [issued, law.apart sender senderMember task opened other token issuedSender handled same]

theorem law_set (law : TokenLaw services now) (tagged : now.Tagged) {task : Opened AuthCommand}
    (found : now.opened[index]? = some task) {token : String}
    (issued : issuedToken task.tag = some token)
    (own : ∀ entry ∈ now.own index, entry.label ≠ .set (tokenKey services token))
    (presented : presentedToken task.tag = none)
    {outcome : Option (Except AuthError AuthAnswer)} {effect : World → World}
    {value seconds : Nat}
    (effect_eq : effect now.world = now.world.set (tokenKey services token) value seconds)
    (accepts : Accepts services ⟨index, task.tag, .set (tokenKey services token), now.world,
      effect now.world, outcome⟩) :
    TokenLaw services (now.after index task.tag (.set (tokenKey services token)) effect outcome) := by
  refine law.after (law.keys.set ?_ effect_eq) ⟨?_, ?_, ?_, accepts⟩
  · intro other member label
    have sender := token_of_label law tagged (List.mem_of_getElem? found) (handled_of_issued issued)
      member label
    obtain ⟨opened, _, openedFound, openedTag⟩ := Scene.opened_of_entry tagged member
    have mine : other.index = index :=
      law.fresh _ _ opened task token openedFound found (openedTag ▸ sender) issued
    exact own other (Scene.mem_own.mpr ⟨member, mine⟩) label
  · intro digest same
    cases same
    exact ⟨token, issued, rfl⟩
  · exact fun other answer same => nomatch presented.symm.trans same
  · intro userId changed
    rw [effect_eq] at changed
    exact absurd rfl changed

theorem law_del (law : TokenLaw services now) {tag : AuthCommand} {token : String}
    (there : (now.world.redis (tokenKey services token)).isSome)
    (accepts : Accepts services ⟨index, tag, .del (tokenKey services token), now.world,
      now.world.del (tokenKey services token), none⟩) :
    TokenLaw services (now.after index tag (.del (tokenKey services token))
      (fun world => world.del (tokenKey services token)) none) :=
  law.after (law.keys.del ⟨_, rfl⟩ there rfl)
    ⟨fun _ same => (nomatch same), fun _ _ _ ended => (nomatch ended),
      fun _ changed => absurd rfl changed, accepts⟩

theorem keeps_sendToken (template : MailTemplate) (email token : String) (tag : AuthCommand)
    (issued : issuedToken tag = some token) (presented : presentedToken tag = none)
    (other : ∀ userJwtData oldPassword newPassword newPasswordRepeat salt,
      tag ≠ .changePassword userJwtData oldPassword newPassword newPasswordRepeat salt)
    {since : Nat} (found : scene.opened[index]? = some ⟨tag, since⟩) (own : scene.own index = []) :
    Keeps (passwordTerms services) (TokenLaw services) index tag
      (answerNone (sendToken services template email token)) scene := by
  have accepts : ∀ entry : AuthEntry, entry.tag = tag → Accepts services entry := by
    intro entry same userJwtData oldPassword newPassword newPasswordRepeat salt error tagged
    exact absurd (same.symm.trans tagged) (other _ _ _ _ _)
  rw [answerNone, sendToken, Process.bind_assoc]
  refine keeps_observe fun first meanwhile tagged running law acts user _ => ?_
  cases user with
  | none =>
      refine ⟨law.quiet (by simp) (by simp) (fun _ => rfl) (fun _ => rfl) ?_ (accepts _ rfl), trivial⟩
      simp [presented]
  | some user =>
      have firstOwn : first.own index = [] := meanwhile.own_eq.trans own
      have firstFound := meanwhile.opened found
      refine ⟨law.quiet (by simp) (by simp) (fun _ => rfl) (fun _ => rfl) ?_ (accepts _ rfl), ?_⟩
      · simp [presented]
      simp only [Process.bind_assoc]
      refine keeps_perform fun second meanwhile tagged running law acts => ⟨?_, ?_⟩
      · refine law_set law tagged (meanwhile.opened firstFound) issued ?_ presented rfl (accepts _ rfl)
        rw [meanwhile.own_eq, Scene.own_after, firstOwn]
        simp
      · refine keeps_perform fun third meanwhile tagged running law acts => ⟨?_, trivial⟩
        refine law.quiet (by simp) (by simp) (fun _ => rfl) (fun _ => rfl) ?_ (accepts _ rfl)
        simp [presented]

theorem accepts_other {entry : AuthEntry}
    (other : ∀ userJwtData oldPassword newPassword newPasswordRepeat salt,
      entry.tag ≠ .changePassword userJwtData oldPassword newPassword newPasswordRepeat salt) :
    Accepts services entry := by
  intro userJwtData oldPassword newPassword newPasswordRepeat salt error tagged
  exact absurd tagged (other _ _ _ _ _)

theorem keeps_elapse (time : Nat) :
    Keeps (passwordTerms services) (TokenLaw services) index (.elapse time)
      (AuthCommand.handle services (.elapse time)) scene := by
  refine keeps_perform fun now meanwhile tagged running law acts => ⟨?_, trivial⟩
  refine law.quiet (by simp) (by simp) (fun _ => rfl) (fun _ => rfl) ?_ (accepts_other (by simp))
  simp [presentedToken]

theorem keeps_verify (token : String) :
    Keeps (passwordTerms services) (TokenLaw services) index (.verify token)
      (answerNone (verify services token)) scene := by
  have accepts : ∀ entry : AuthEntry, entry.tag = .verify token → Accepts services entry :=
    fun entry same => accepts_other (by simp [same])
  rw [answerNone, verify, Process.bind_assoc]
  refine keeps_observe fun first meanwhile tagged running law acts userId _ => ?_
  cases userId with
  | none =>
      refine ⟨law.quiet (by simp) (by simp) (fun _ => rfl) (fun _ => rfl) ?_ (accepts _ rfl), trivial⟩
      simp [Process.raise, Process.outcome?]
  | some userId =>
      refine ⟨law.quiet (by simp) (by simp) (fun _ => rfl) (fun _ => rfl) ?_ (accepts _ rfl), ?_⟩
      · simp [Process.outcome?]
      simp only [Process.bind_assoc]
      refine keeps_observe fun second meanwhile tagged running law acts user _ => ?_
      cases user with
      | none =>
          refine ⟨law.quiet (by simp) (by simp) (fun _ => rfl) (fun _ => rfl) ?_ (accepts _ rfl),
            trivial⟩
          simp [Process.raise, Process.outcome?]
      | some user =>
          refine ⟨law.quiet (by simp) (by simp) (fun _ => rfl) (fun _ => rfl) ?_ (accepts _ rfl), ?_⟩
          · simp [Process.outcome?, Process.perform]
          simp only [Process.bind_assoc]
          refine keeps_perform fun third meanwhile tagged running law acts =>
            ⟨law_del law acts (accepts _ rfl), ?_⟩
          refine keeps_perform fun fourth meanwhile tagged running law acts => ⟨?_, trivial⟩
          have hashes : ∀ userId, ((fourth.world.updateUser user.id
              (fun user => { user with isVerified := true }) fun _ => rfl).passwordHashOf userId) =
              fourth.world.passwordHashOf userId :=
            fun userId => hash_updateUser fun _ _ _ => rfl
          refine law.commit (fun _ => rfl) ?_ ?_ (accepts _ rfl)
          · intro other answer presented ended
            cases presented
            exact ⟨_, meanwhile.last, rfl, rfl⟩
          · exact fun userId changed => absurd (hashes userId) changed

theorem unused_of_del (law : TokenLaw services now) (running : now.Running index)
    {token : String} {own : AuthEntry} (member : own ∈ now.history) (mine : own.index = index)
    (deletes : own.label = .del (tokenKey services token)) :
    ∀ other ∈ now.history, presentedToken other.tag = some token →
      ∀ answer, other.outcome ≠ some (.ok answer) := by
  intro other otherMember presented answer ended
  obtain ⟨before, after, same⟩ := List.append_of_mem otherMember
  obtain ⟨taken, takenMember, takenIndex, takenLabel⟩ :=
    (law.entries before other after same).used token answer presented ended
  have takenHere : taken ∈ now.history := by
    rw [same]
    exact List.mem_append_left _ takenMember
  have one : taken = own :=
    law.keys.del_unique ⟨_, rfl⟩ takenHere member takenLabel deletes
  have otherIndex : other.index = index := by
    rw [← takenIndex, one, mine]
  exact nomatch ended.symm.trans (running other otherMember otherIndex)

theorem reset_of_label (law : TokenLaw services now) (tagged : now.Tagged)
    {task : Opened AuthCommand} (opened : task ∈ now.opened) {token : String}
    (handled : handledToken task.tag = some token)
    (reset : ∀ opened ∈ now.opened, ∀ email, opened.tag ≠ .sendVerify email token)
    {issue : AuthEntry} (member : issue ∈ now.history)
    (label : issue.label = .set (tokenKey services token)) :
    ∃ email, issue.tag = .sendResetPassword email token := by
  have issued := token_of_label law tagged opened handled member label
  obtain ⟨sender, senderMember, _, senderTag⟩ := Scene.opened_of_entry tagged member
  rw [← senderTag] at issued ⊢
  cases tag : sender.tag <;> rw [tag] at issued <;> cases issued
  · exact absurd tag (reset sender senderMember _)
  · exact ⟨_, rfl⟩

theorem verify_none (law : TokenLaw services now) (tagged : now.Tagged) {issue other : AuthEntry}
    {email recipient token : String} (member : issue ∈ now.history)
    (reset : issue.tag = .sendResetPassword email token) (otherMember : other ∈ now.history) :
    other.tag ≠ .sendVerify recipient token := by
  intro verified
  obtain ⟨left, _, leftFound, leftTag⟩ := Scene.opened_of_entry tagged member
  obtain ⟨right, _, rightFound, rightTag⟩ := Scene.opened_of_entry tagged otherMember
  have issuedLeft : issuedToken left.tag = some token := by rw [leftTag, reset]; rfl
  have issuedRight : issuedToken right.tag = some token := by rw [rightTag, verified]; rfl
  have same := law.fresh _ _ left right token leftFound rightFound issuedLeft issuedRight
  rw [same, rightFound] at leftFound
  cases leftFound
  rw [reset] at leftTag
  rw [verified, leftTag] at rightTag
  cases rightTag

theorem hash_resetPassword {world : World} {id userId : Nat} {passwordHash : String}
    (different : userId ≠ id) :
    (world.resetPassword id passwordHash).passwordHashOf userId = world.passwordHashOf userId :=
  hash_updateUser fun _ same here => absurd (same.symm.trans here) different

theorem keeps_resetPassword (token password passwordRepeat salt : String) {since : Nat}
    (found : scene.opened[index]? =
      some ⟨.resetPassword token password passwordRepeat salt, since⟩) :
    Keeps (passwordTerms services) (TokenLaw services) index
      (.resetPassword token password passwordRepeat salt)
      (answerNone (resetPassword services token password passwordRepeat salt)) scene := by
  have accepts : ∀ entry : AuthEntry, entry.tag = .resetPassword token password passwordRepeat salt →
      Accepts services entry := fun entry same => accepts_other (by simp [same])
  rw [answerNone, resetPassword, Process.bind_assoc]
  refine keeps_observe fun first met tagged running law looked userId value => ?_
  cases userId with
  | none =>
      refine ⟨law.quiet (by simp) (by simp) (fun _ => rfl) (fun _ => rfl) ?_ (accepts _ rfl), trivial⟩
      simp [Process.raise, Process.outcome?]
  | some userId =>
      refine ⟨law.quiet (by simp) (by simp) (fun _ => rfl) (fun _ => rfl) ?_ (accepts _ rfl), ?_⟩
      · simp [Process.outcome?]
      have opened := List.mem_of_getElem? (met.opened found)
      obtain ⟨expiresAt, stored, unexpired⟩ := stored_of_get value
      obtain ⟨issue, issueMember, issueLabel, issueStored⟩ := law.keys.issued _ ⟨_, rfl⟩ _ stored
      obtain ⟨email, issueTag⟩ := reset_of_label law tagged opened rfl looked issueMember issueLabel
      simp only [Process.bind_assoc]
      refine keeps_observe fun second metSecond tagged running law acts user known => ?_
      cases user with
      | none =>
          refine ⟨law.quiet (by simp) (by simp) (fun _ => rfl) (fun _ => rfl) ?_ (accepts _ rfl),
            trivial⟩
          simp [Process.raise, Process.outcome?]
      | some user =>
          have user_id : user.id = userId := userById_id known
          by_cases same : password ≠ passwordRepeat
          · simp only [if_pos same]
            refine ⟨law.quiet (by simp) (by simp) (fun _ => rfl) (fun _ => rfl) ?_ (accepts _ rfl),
              trivial⟩
            simp [Process.raise, Process.outcome?]
          simp only [if_neg same]
          refine ⟨law.quiet (by simp) (by simp) (fun _ => rfl) (fun _ => rfl) ?_ (accepts _ rfl), ?_⟩
          · simp [Process.outcome?, Process.perform]
          simp only [Process.bind_assoc]
          refine keeps_perform fun third metThird tagged running law acts =>
            ⟨law_del law acts (accepts _ rfl), ?_⟩
          simp only [addUser, Process.bind_assoc]
          refine keeps_observe fun fourth metFourth tagged running law acts now _ => ⟨?_, ?_⟩
          · refine law.quiet (by simp) (by simp) (fun _ => rfl) (fun _ => rfl) ?_ (accepts _ rfl)
            simp [Process.outcome?, Process.perform]
          refine keeps_perform fun fifth metFifth tagged running law acts => ⟨?_, ?_⟩
          · refine law.quiet (by simp) (by simp) (fun _ => redis_set_other (by simp) _ _)
              (fun _ => rfl) ?_ (accepts _ rfl)
            simp [Process.outcome?, commit, Process.perform]
          refine keeps_perform fun last metLast tagged running law acts => ⟨?_, trivial⟩
          have kept : ∀ entry : AuthEntry, entry ∈ second.history → entry ∈ last.history :=
            fun entry member => metLast.kept_after (metFifth.kept_after (metFourth.kept_after
              (metThird.kept_after member)))
          have deleted := metLast.kept_after (metFifth.kept_after metFourth.last)
          have issued := kept issue (metSecond.kept_after issueMember)
          refine law.commit (fun _ => rfl) ?_ ?_ (accepts _ rfl)
          · intro other answer presented ended
            cases presented
            exact ⟨_, deleted, rfl, rfl⟩
          · intro changedId changed
            right
            have changed_id : changedId = userId := by
              by_contra different
              exact changed (hash_resetPassword (by rwa [user_id]))
            subst changed_id
            exact ⟨token, password, passwordRepeat, salt, rfl,
              ⟨issue, issued, email, expiresAt, issueTag, issueLabel, issueStored, _,
                kept _ metSecond.last, rfl, rfl, unexpired⟩,
              unused_of_del law running deleted rfl rfl,
              fun other member recipient => verify_none law tagged issued issueTag member⟩

theorem keeps_changePassword (userJwtData : AuthUserJWTData)
    (oldPassword newPassword newPasswordRepeat salt : String) :
    Keeps (passwordTerms services) (TokenLaw services) index
      (.changePassword userJwtData oldPassword newPassword newPasswordRepeat salt)
      (answerNone
        (changePassword services userJwtData oldPassword newPassword newPasswordRepeat salt))
      scene := by
  rw [answerNone, changePassword, Process.bind_assoc]
  refine keeps_observe fun now met tagged running law acts user known => ?_
  cases user with
  | none =>
      refine ⟨law.quiet (by simp) (by simp) (fun _ => rfl) (fun _ => rfl) (by simp [presentedToken]) ?_,
        trivial⟩
      intro actor old new newRepeat drawn error same ended
      cases same
      rintro ⟨user, passwordHash, there, _⟩
      rw [known] at there
      cases there
  | some user =>
      by_cases refused : passwordRefused services user oldPassword newPassword newPasswordRepeat = true
      · simp only [if_pos refused]
        refine ⟨law.quiet (by simp) (by simp) (fun _ => rfl) (fun _ => rfl)
          (by simp [presentedToken]) ?_, trivial⟩
        intro actor old new newRepeat drawn error same ended
        cases same
        rintro ⟨other, passwordHash, there, stored, _, twice⟩
        rcases acts with different | absent
        · exact different twice
        · rw [absent other there] at stored
          cases stored
      · exfalso
        rw [passwordRefused] at refused
        split at refused
        · exact refused rfl
        · rename_i passwordHash stored
          rcases acts with different | absent
          · simp [different] at refused
          · rw [absent user known] at stored
            cases stored

end Commands

section Law

theorem keeps_handle {scene : AuthScene} {command : AuthCommand} (tagged : scene.Tagged)
    (law : TokenLaw services scene) (opens : (passwordTerms services).Opens scene command) :
    TokenLaw services (scene.opening command) ∧
      Keeps (passwordTerms services) (TokenLaw services) scene.opened.length command
        (command.handle services) (scene.opening command) := by
  refine ⟨law.opening opens.2, ?_⟩
  have found : (scene.opening command).opened[scene.opened.length]? =
      some ⟨command, scene.history.length⟩ := List.getElem?_concat_length
  have own := Scene.own_opening tagged command
  cases command with
  | elapse time => exact keeps_elapse time
  | sendVerify email token =>
      exact keeps_sendToken .verifyToken email token _ rfl rfl (by simp) found own
  | sendResetPassword email token =>
      exact keeps_sendToken .resetToken email token _ rfl rfl (by simp) found own
  | verify token => exact keeps_verify token
  | resetPassword token password passwordRepeat salt =>
      exact keeps_resetPassword token password passwordRepeat salt found
  | changePassword userJwtData oldPassword newPassword newPasswordRepeat salt =>
      exact keeps_changePassword userJwtData oldPassword newPassword newPasswordRepeat salt
  | _ => exact opens.1.elim

theorem password_law {scene : AuthScene} (law : TokenLaw services scene) :
    PasswordLaw services scene where
  rule := Scene.earlier_mono law.entries fun _ _ holds => holds.rule
  accepts := by
    intro entry member
    obtain ⟨before, after, same⟩ := List.append_of_mem member
    exact (law.entries before entry after same).accepts
  once := by
    intro first firstMember second secondMember token answer other firstToken secondToken firstEnds
      secondEnds
    obtain ⟨before, after, same⟩ := List.append_of_mem firstMember
    obtain ⟨taken, takenMember, takenIndex, takenLabel⟩ :=
      (law.entries before first after same).used token answer firstToken firstEnds
    obtain ⟨earlier, later, split⟩ := List.append_of_mem secondMember
    obtain ⟨used, usedMember, usedIndex, usedLabel⟩ :=
      (law.entries earlier second later split).used token other secondToken secondEnds
    have one : taken = used := law.keys.del_unique ⟨_, rfl⟩
      (by rw [same]; exact List.mem_append_left _ takenMember)
      (by rw [split]; exact List.mem_append_left _ usedMember) takenLabel usedLabel
    rw [← takenIndex, one, usedIndex]

/-- In every run that starts without tokens and keeps the terms, passwords change by the rule. -/
theorem passwords_by_rule (initial : World) (final : AuthSite)
    (empty : ∀ digest, initial.redis (.token digest) = none)
    (run : Runs (AuthCommand.handle services) (passwordTerms services) ⟨⟨initial, [], []⟩, []⟩
      final) : PasswordLaw services final.toScene := by
  have start : TokenLaw services ⟨initial, [], []⟩ :=
    { keys := oneTime_initial fun key ⟨digest, same⟩ => same ▸ empty digest
      entries := Scene.earlier_nil
      fresh := fun _ _ _ _ _ found => nomatch found
      apart := fun _ member => nomatch member }
  have kept := Runs.keeps (fun _ _ tagged law opens => keeps_handle services tagged law opens)
    (kept_initial start) run
  exact password_law services kept.inv

end Law

section Example

def passwordOpens (scene : AuthScene) (command : AuthCommand) : Bool :=
  decide (PasswordCommand command ∧ TokensApart plainServices scene command)

def passwordActs (scene : AuthScene) (_ : Nat) (command : AuthCommand) (label : Op)
    (_ : World → World) : Bool :=
  decide (PasswordActs plainServices scene command label)

theorem passwordOpens_sound {scene : AuthScene} {command : AuthCommand}
    (checked : passwordOpens scene command = true) :
    (passwordTerms plainServices).Opens scene command :=
  of_decide_eq_true (p := PasswordCommand command ∧ TokensApart plainServices scene command) checked

theorem passwordActs_sound {scene : AuthScene} {index : Nat} {command : AuthCommand} {label : Op}
    {effect : World → World} (checked : passwordActs scene index command label effect = true) :
    (passwordTerms plainServices).Acts scene index command label effect :=
  of_decide_eq_true (p := PasswordActs plainServices scene command label) checked

def resetMoves : List (Move AuthCommand) :=
  [.start (.sendResetPassword "e" "reset"), .exec 0, .exec 0, .start resets, .exec 1, .exec 0,
    .start (.elapse (30 * second)), .exec 2, .exec 1, .exec 1, .exec 1, .exec 1, .exec 1]

def resetSite : Option AuthSite :=
  Site.steps (AuthCommand.handle plainServices) passwordOpens passwordActs ⟨⟨quietWorld, [], []⟩, []⟩
    resetMoves

theorem passwords_by_rule_reset : ∃ final, resetSite = some final ∧
    final.world.passwordHashOf 1 = some (some "saltnew") ∧
    PasswordLaw plainServices final.toScene := by
  have changed : resetSite.map (·.world.passwordHashOf 1) = some (some (some "saltnew")) := by
    decide +kernel
  obtain ⟨final, reached, hash⟩ := Option.map_eq_some_iff.mp changed
  refine ⟨final, reached, hash,
    passwords_by_rule plainServices quietWorld final (fun _ => rfl) ?_⟩
  exact runs_of_steps resetMoves (fun _ _ => passwordOpens_sound)
    (fun _ _ _ _ _ => passwordActs_sound) .refl reached

def openTerms : Terms World Op AuthCommand AuthError AuthAnswer :=
  { passwordTerms plainServices with Acts := fun _ _ _ _ _ => True }

def intrudes : AuthCommand := .changePassword holder "wrong" "new" "new" "salt"

def intrusionMoves : List (Move AuthCommand) := [.start intrudes, .exec 0, .exec 0, .exec 0, .exec 0]

def intrusion : Option AuthSite :=
  Site.steps (AuthCommand.handle plainServices) passwordOpens (fun _ _ _ _ _ => true)
    ⟨⟨quietWorld, [], []⟩, []⟩ intrusionMoves

/-- A wrong old password sets a new one. -/
theorem wrong_password_accepted : ∃ final, intrusion = some final ∧
    Runs (AuthCommand.handle plainServices) openTerms ⟨⟨quietWorld, [], []⟩, []⟩ final ∧
    ¬PasswordLaw plainServices final.toScene := by
  have last : (intrusion.bind (·.history.getLast?)).map (fun entry =>
      (entry.before.passwordHashOf 1, entry.after.passwordHashOf 1)) =
        some (some (some "h"), some (some "saltnew")) := by decide +kernel
  have tag : (intrusion.bind (·.history.getLast?)).map (·.tag) = some intrudes := rfl
  obtain ⟨entry, found, hashes⟩ := Option.map_eq_some_iff.mp last
  obtain ⟨final, reached, ended⟩ := Option.bind_eq_some_iff.mp found
  obtain ⟨before, split⟩ := List.getLast?_eq_some_iff.mp ended
  rw [found, Option.map_some, Option.some.injEq] at tag
  have run : Runs (AuthCommand.handle plainServices) openTerms ⟨⟨quietWorld, [], []⟩, []⟩ final :=
    runs_of_steps intrusionMoves (fun _ _ => passwordOpens_sound) (fun _ _ _ _ _ _ => trivial) .refl
      reached
  obtain ⟨hashBefore, hashAfter⟩ := Prod.mk.inj hashes
  refine ⟨final, reached, run, fun law => ?_⟩
  rcases law.rule before entry [] split 1 (by rw [hashBefore, hashAfter]; decide) with
    ⟨actor, old, new, newRepeat, salt, same, _, user, passwordHash, known, stored, verified, _⟩ |
    ⟨token, password, passwordRepeat, salt, same, _⟩
  · rw [tag] at same
    cases same
    have found := (Option.filter_eq_some_iff.mp known).1
    rw [World.passwordHashOf, found, Option.map_some, stored] at hashBefore
    cases hashBefore
    exact absurd verified (by decide)
  · exact nomatch tag.symm.trans same

end Example

end Messanger.Auth
