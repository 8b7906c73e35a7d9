import Messanger.Auth.RefreshTokens

/-!
What the end of a session does to the refresh tokens of its device.  A token names the user and the
device only, so that another session of the same device lets it in again.
-/

namespace Messanger.Auth

open Relational Processes

section Rules

variable (services : Services)

def Deactivates (before after : World) (userId : Nat) (deviceId : String) : Prop :=
  ∃ session ∈ before.sessions.rows, session.isActive = true ∧ session.userId = userId ∧
    session.deviceId = deviceId ∧
      ∃ row, after.sessions.find? session.id = some row ∧ row.isActive = false

def Outdated (payload : Token) (before : List AuthEntry) : Prop :=
  ∃ entry ∈ before, Deactivates entry.before entry.after payload.sub payload.did ∧
    payload.iat < entry.before.clock

def presentedPayload : AuthCommand → Option Token
  | .refreshToken (some token) _ => services.decode token
  | _ => none

/-- No refresh token is exchanged after a session of its user and device was deactivated. -/
def NoneOutlives (scene : AuthScene) : Prop :=
  Scene.Earlier (fun before entry => ∀ payload, presentedPayload services entry.tag = some payload →
    ReturnsPair entry → ¬Outdated payload before) scene.history

def ReadsClear (payload : Token) (entry : AuthEntry) : Prop :=
  entry.label = .get (.revoked payload.jti) ∧
    (entry.before.get (.revoked payload.jti)).getD 0 ≤ payload.iat

/-- An outdated token that gets as far as the look at the used ones is one of them, and no session
is deactivated while a command goes on that has found its token unused. -/
def SessionActs (scene : AuthScene) (index : Nat) (command : AuthCommand) (label : Op)
    (effect : World → World) : Prop :=
  (∀ payload, presentedPayload services command = some payload →
    label = .get (.revoked payload.jti) → Outdated payload scene.history →
      payload.iat < (scene.world.get (.revoked payload.jti)).getD 0) ∧
  ∀ other task payload, other ≠ index → scene.opened[other]? = some task →
    presentedPayload services task.tag = some payload → scene.Running other →
      (∃ look ∈ scene.own other, ReadsClear payload look) →
        Deactivates scene.world (effect scene.world) payload.sub payload.did →
          scene.world.clock ≤ payload.iat

def sessionTerms : Terms World Op AuthCommand AuthError AuthAnswer where
  Acts := SessionActs services

end Rules

section Law

variable {services : Services}

structure SessionLaw (services : Services) (scene : AuthScene) : Prop where
  clear : ∀ index task payload, scene.opened[index]? = some task →
    presentedPayload services task.tag = some payload → scene.Running index →
      (∃ look ∈ scene.own index, ReadsClear payload look) →
        ∀ entry ∈ scene.history, entry.index ≠ index →
          Deactivates entry.before entry.after payload.sub payload.did →
            entry.before.clock ≤ payload.iat
  kept : NoneOutlives services scene

variable {scene now : AuthScene} {index : Nat} {task : Opened AuthCommand} {label : Op}
  {effect : World → World} {outcome : Option (Except AuthError AuthAnswer)}

theorem SessionLaw.after (law : SessionLaw services now) (found : now.opened[index]? = some task)
    (acts : SessionActs services now index task.tag label effect)
    (returns : ∀ payload, presentedPayload services task.tag = some payload →
      (∃ group, outcome = some (.ok (.tokens group))) → ¬Outdated payload now.history) :
    SessionLaw services (now.after index task.tag label effect outcome) where
  clear := by
    intro other otherTask payload opened presented running passed entry member different ends
    have runningNow : now.Running other := fun old oldMember mine =>
      running old (List.mem_append_left _ oldMember) mine
    by_cases same : other = index
    · subst same
      have taskSame : otherTask = task := Option.some.inj (opened.symm.trans found)
      subst taskSame
      have old : entry ∈ now.history := by
        rcases List.mem_append.mp member with before | last
        · exact before
        · exact absurd (congrArg Entry.index (List.mem_singleton.mp last)) different
      obtain ⟨look, lookMember, labelled, newer⟩ := passed
      rw [Scene.own_after] at lookMember
      rcases List.mem_append.mp lookMember with before | last
      · exact law.clear other otherTask payload found presented runningNow
          ⟨look, before, labelled, newer⟩ entry old different ends
      · rw [List.mem_singleton.mp last] at labelled newer
        by_contra late
        have refused := acts.1 payload presented labelled ⟨entry, old, ends, by omega⟩
        simp only at newer
        omega
    · rw [(Scene.meanwhile_after (Ne.symm same)).own_eq] at passed
      rcases List.mem_append.mp member with before | last
      · exact law.clear other otherTask payload opened presented runningNow passed entry before
          different ends
      · rw [List.mem_singleton.mp last] at ends ⊢
        exact acts.2 other otherTask payload same opened presented runningNow passed ends
  kept := Scene.earlier_concat law.kept returns

theorem SessionLaw.opening {command : AuthCommand} (law : SessionLaw services now)
    (tagged : now.Tagged) : SessionLaw services (now.opening command) where
  clear := by
    intro other task payload opened presented running passed entry member different ends
    rcases Scene.getElem?_opening opened with old | ⟨rfl, _⟩
    · exact law.clear other task payload old presented running passed entry member different ends
    · obtain ⟨look, lookMember, _⟩ := passed
      rw [Scene.own_opening tagged] at lookMember
      cases lookMember
  kept := law.kept

end Law

section Commands

variable {services : Services} {scene now : AuthScene} {index : Nat} {task : Opened AuthCommand}
  {token : String} {payload : Token} {label : Op}

def IsPair (answer : AuthAnswer) : Prop := ∃ group, answer = .tokens group

theorem keeps_never {process : Handler AuthAnswer} (found : scene.opened[index]? = some task)
    (never : presentedPayload services task.tag = none ∨ process.Never IsPair) :
    Keeps (sessionTerms services) (SessionLaw services) index task.tag process scene := by
  induction process generalizing scene with
  | done outcome => trivial
  | act label effect next ih =>
      intro now met tagged running law acts
      have foundNow := met.opened found
      refine ⟨law.after foundNow acts fun payload presented returns => ?_,
        ih now.world foundNow (never.imp_right fun all => all now.world)⟩
      obtain ⟨group, ended⟩ := returns
      rcases never with absent | all
      · exact nomatch absent.symm.trans presented
      · have here := all now.world
        cases rest : next now.world with
        | act _ _ _ =>
            rw [rest] at ended
            cases ended
        | done outcome =>
            rw [rest] at ended here
            cases ended
            exact absurd ⟨group, rfl⟩ here

def Steady (scene : AuthScene) (index : Nat) : Prop :=
  ∀ entry ∈ scene.own index, entry.after.sessions = entry.before.sessions

theorem Steady.meanwhile (steady : Steady scene index) (met : scene.Meanwhile index now) :
    Steady now index := by
  rw [Steady, met.own_eq]
  exact steady

theorem Steady.after {effect : World → World} {outcome : Option (Except AuthError AuthAnswer)}
    (steady : Steady scene index)
    (sessions : (effect scene.world).sessions = scene.world.sessions) :
    Steady (scene.after index task.tag label effect outcome) index := by
  intro entry member
  rw [Scene.own_after] at member
  rcases List.mem_append.mp member with before | last
  · exact steady entry before
  · rw [List.mem_singleton.mp last]
    exact sessions

structure Refreshing (services : Services) (payload : Token) (scene : AuthScene) (index : Nat)
    (task : Opened AuthCommand) : Prop where
  opened : scene.opened[index]? = some task
  presented : presentedPayload services task.tag = some payload
  steady : Steady scene index

theorem Refreshing.meanwhile (refreshing : Refreshing services payload scene index task)
    (met : scene.Meanwhile index now) : Refreshing services payload now index task where
  opened := met.opened refreshing.opened
  presented := refreshing.presented
  steady := refreshing.steady.meanwhile met

theorem Refreshing.after {effect : World → World}
    {outcome : Option (Except AuthError AuthAnswer)}
    (refreshing : Refreshing services payload scene index task)
    (sessions : (effect scene.world).sessions = scene.world.sessions) :
    Refreshing services payload (scene.after index task.tag label effect outcome) index task where
  opened := refreshing.opened
  presented := refreshing.presented
  steady := refreshing.steady.after sessions

theorem keeps_step {rest : Handler AuthAnswer} {effect : World → World}
    (law : SessionLaw services now) (found : now.opened[index]? = some task)
    (acts : SessionActs services now index task.tag label effect)
    (unended : ∀ group, rest.outcome? ≠ some (.ok (.tokens group)))
    (keeps : Keeps (sessionTerms services) (SessionLaw services) index task.tag rest
      (now.after index task.tag label effect none)) :
    SessionLaw services (now.after index task.tag label effect rest.outcome?) ∧
      Keeps (sessionTerms services) (SessionLaw services) index task.tag rest
        (now.after index task.tag label effect rest.outcome?) := by
  refine ⟨law.after found acts fun _ _ ⟨group, ended⟩ => absurd ended (unended group), ?_⟩
  cases rest with
  | done outcome => trivial
  | act label effect next => exact keeps

structure Cleared (services : Services) (payload : Token) (scene : AuthScene) (index : Nat)
    (task : Opened AuthCommand) : Prop extends Refreshing services payload scene index task where
  passed : ∃ look ∈ scene.own index, ReadsClear payload look

theorem Cleared.meanwhile (cleared : Cleared services payload scene index task)
    (met : scene.Meanwhile index now) : Cleared services payload now index task where
  toRefreshing := cleared.toRefreshing.meanwhile met
  passed := by
    rw [met.own_eq]
    exact cleared.passed

theorem Cleared.after {effect : World → World} {outcome : Option (Except AuthError AuthAnswer)}
    (cleared : Cleared services payload scene index task)
    (sessions : (effect scene.world).sessions = scene.world.sessions) :
    Cleared services payload (scene.after index task.tag label effect outcome) index task where
  toRefreshing := cleared.toRefreshing.after sessions
  passed := by
    obtain ⟨look, member, clear⟩ := cleared.passed
    refine ⟨look, ?_, clear⟩
    rw [Scene.own_after]
    exact List.mem_append_left _ member

theorem not_outdated (law : SessionLaw services now) (running : now.Running index)
    (cleared : Cleared services payload now index task) : ¬Outdated payload now.history := by
  rintro ⟨entry, member, ends, older⟩
  by_cases mine : entry.index = index
  · obtain ⟨session, there, active, _, _, row, found, inactive⟩ := ends
    rw [cleared.steady entry (Scene.mem_own.mpr ⟨member, mine⟩),
      (Table.find?_some_iff _ _ _).mpr ⟨there, rfl⟩] at found
    cases found
    rw [active] at inactive
    cases inactive
  · have newer := law.clear index task payload cleared.opened cleared.presented running
      cleared.passed entry member mine ends
    omega

variable {sessionId time : Nat}

theorem ends_createTokenPair (securityUser : AuthUserJWTData) (jtis : String × String)
    (handler : AuthError → Handler TokenGroup)
    (cleared : Cleared services payload scene index task) :
    Keeps (sessionTerms services) (SessionLaw services) index task.tag
      ((createTokenPair services securityUser jtis).rescue handler >>= finishRefresh sessionId time)
      scene := by
  rw [createTokenPair, Process.rescue_observe, Process.bind_assoc]
  refine keeps_observe fun first met tagged running law acts made _ => ?_
  have clearedFirst := cleared.meanwhile met
  refine keeps_step law clearedFirst.opened acts (by rintro _ ⟨⟩) ?_
  refine keeps_perform fun next met tagged running law acts => ⟨?_, trivial⟩
  have clearedNext := (clearedFirst.after rfl).meanwhile met
  refine law.after clearedNext.opened acts fun other presented _ => ?_
  rw [clearedNext.presented, Option.some.injEq] at presented
  subst presented
  exact not_outdated law running clearedNext

theorem ends_revokeToken (securityUser : AuthUserJWTData) (jtis : String × String)
    (cleared : Cleared services payload scene index task) :
    Keeps (sessionTerms services) (SessionLaw services) index task.tag
      ((revokeToken payload >>= fun _ => createTokenPair services securityUser jtis).rescue
        (deactivateAndRaise sessionId) >>= finishRefresh sessionId time) scene := by
  simp only [revokeToken, addJwtToken, Process.bind_assoc, Process.rescue_observe]
  refine keeps_observe fun first met tagged running law acts currentTime _ => ?_
  have clearedFirst := cleared.meanwhile met
  refine keeps_step law clearedFirst.opened acts (by rintro _ ⟨⟩) ?_
  refine keeps_observe fun next met tagged running law acts now _ => ?_
  have clearedNext := (clearedFirst.after rfl).meanwhile met
  refine keeps_step law clearedNext.opened acts (by rintro _ ⟨⟩) ?_
  rw [Process.rescue_attempt, Process.act_bind]
  refine keeps_act fun last met tagged running law acts => ?_
  have clearedLast := (clearedNext.after rfl).meanwhile met
  by_cases late : (payload.exp - currentTime) / second = 0
  · simp only [if_pos late] at acts ⊢
    exact ⟨law.after clearedLast.opened acts (by rintro _ _ ⟨_, ⟨⟩⟩), trivial⟩
  · simp only [if_neg late] at acts ⊢
    refine keeps_step law clearedLast.opened acts (by rintro _ ⟨⟩) ?_
    exact ends_createTokenPair securityUser jtis _ (clearedLast.after rfl)

theorem ends_requireNewer (payload : Token) (invalidation : Nat) {rest : Unit → Handler TokenGroup}
    (opened : scene.opened[index]? = some task)
    (passed : invalidation ≤ payload.iat →
      ((rest ()).rescue (deactivateAndRaise sessionId) >>=
        finishRefresh sessionId time).outcome? = none ∧
      Keeps (sessionTerms services) (SessionLaw services) index task.tag
        ((rest ()).rescue (deactivateAndRaise sessionId) >>= finishRefresh sessionId time) scene) :
    ((liftM (requireNewer payload invalidation) >>= rest).rescue (deactivateAndRaise sessionId) >>=
      finishRefresh sessionId time).outcome? = none ∧
    Keeps (sessionTerms services) (SessionLaw services) index task.tag
      ((liftM (requireNewer payload invalidation) >>= rest).rescue
        (deactivateAndRaise sessionId) >>= finishRefresh sessionId time) scene := by
  by_cases old : payload.iat < invalidation
  · simp only [requireNewer, if_pos old, Process.lift_error_bind]
    exact ⟨rfl, keeps_never opened (.inr fun _ _ => trivial)⟩
  · simp only [requireNewer, if_neg old, Process.lift_ok_bind]
    exact passed (by omega)

theorem ends_invalidation (read : World → Nat) {rest : Unit → Handler TokenGroup}
    (refreshing : Refreshing services payload scene index task)
    (passed : ∀ now, scene.Meanwhile index now → read now.world ≤ payload.iat →
      ((rest ()).rescue (deactivateAndRaise sessionId) >>=
        finishRefresh sessionId time).outcome? = none ∧
      Keeps (sessionTerms services) (SessionLaw services) index task.tag
        ((rest ()).rescue (deactivateAndRaise sessionId) >>= finishRefresh sessionId time)
        (now.after index task.tag label id none)) :
    Keeps (sessionTerms services) (SessionLaw services) index task.tag
      ((.observe label read >>= fun invalidation =>
        liftM (requireNewer payload invalidation) >>= rest).rescue
          (deactivateAndRaise sessionId) >>= finishRefresh sessionId time) scene := by
  rw [Process.rescue_observe, Process.bind_assoc]
  refine keeps_observe fun now met tagged running law acts invalidation same => ?_
  have opened : (now.after index task.tag label id none).opened[index]? = some task :=
    met.opened refreshing.opened
  obtain ⟨unended, keeps⟩ := ends_requireNewer payload invalidation opened fun newer =>
    passed now met (by rwa [same])
  rw [unended]
  exact ⟨law.after opened acts fun _ _ ⟨_, ended⟩ => (nomatch ended), keeps⟩

theorem ends_maxTime (keys : List RedisKey) {rest : Unit → Handler TokenGroup}
    (cleared : Cleared services payload scene index task)
    (passed : ∀ now, Cleared services payload now index task →
      ((rest ()).rescue (deactivateAndRaise sessionId) >>=
        finishRefresh sessionId time).outcome? = none ∧
      Keeps (sessionTerms services) (SessionLaw services) index task.tag
        ((rest ()).rescue (deactivateAndRaise sessionId) >>= finishRefresh sessionId time) now) :
    ((getMaxInvalidationTime keys >>= fun invalidation =>
      liftM (requireNewer payload invalidation) >>= rest).rescue (deactivateAndRaise sessionId) >>=
        finishRefresh sessionId time).outcome? = none ∧
    Keeps (sessionTerms services) (SessionLaw services) index task.tag
      ((getMaxInvalidationTime keys >>= fun invalidation =>
        liftM (requireNewer payload invalidation) >>= rest).rescue
          (deactivateAndRaise sessionId) >>= finishRefresh sessionId time) scene := by
  rw [getMaxInvalidationTime]
  by_cases empty : keys.isEmpty = true
  · rw [if_pos empty]
    exact ends_requireNewer payload 0 cleared.opened fun _ => passed scene cleared
  · rw [if_neg empty]
    refine ⟨rfl, ends_invalidation _ cleared.toRefreshing fun now met _ => ?_⟩
    exact passed _ ((cleared.meanwhile met).after rfl)

theorem ends_refreshTokens (securityUser : AuthUserJWTData) (jtis : String × String)
    (refreshing : Refreshing services payload scene index task) :
    Keeps (sessionTerms services) (SessionLaw services) index task.tag
      ((refreshTokens services payload securityUser jtis).rescue (deactivateAndRaise sessionId) >>=
        finishRefresh sessionId time) scene := by
  refine ends_invalidation (fun world => (world.get (.revoked payload.jti)).getD 0) refreshing
    fun first met newer => ⟨rfl, ?_⟩
  have cleared : Cleared services payload
      (first.after index task.tag (.get (.revoked payload.jti)) id none) index task := by
    refine ⟨(refreshing.meanwhile met).after rfl, ⟨index, task.tag, _, first.world, first.world,
      none⟩, ?_, rfl, newer⟩
    rw [Scene.own_after]
    exact List.mem_append_right _ (List.mem_singleton_self _)
  refine ends_invalidation (fun world => (world.get (.user payload.sub)).getD 0) cleared.toRefreshing
    fun next met _ => ?_
  refine ends_maxTime _ ((cleared.meanwhile met).after rfl) fun now cleared => ?_
  refine ends_maxTime _ cleared fun now cleared => ⟨rfl, ?_⟩
  exact ends_revokeToken securityUser jtis cleared

theorem ends_refreshToken (jtis : String × String) (decoded : services.decode token = some payload)
    (refreshing : Refreshing services payload scene index task) :
    Keeps (sessionTerms services) (SessionLaw services) index task.tag
      (answerTokens (refreshToken services (some token) jtis)) scene := by
  simp only [answerTokens, refreshToken, validateToken, Process.bind_assoc]
  refine keeps_observe fun first met tagged running law acts now _ => ?_
  have refreshingFirst := refreshing.meanwhile met
  simp only [decoded]
  have refused : ∀ error, SessionLaw services (first.after index task.tag .clock id
      (some (.error error))) :=
    fun error => law.after refreshingFirst.opened acts (by rintro _ _ ⟨_, ⟨⟩⟩)
  split
  · exact ⟨refused _, trivial⟩
  split
  · exact ⟨refused _, trivial⟩
  split
  · exact ⟨refused _, trivial⟩
  simp only [Process.pure_bind_process]
  refine keeps_step law refreshingFirst.opened acts (by rintro _ ⟨⟩) ?_
  refine keeps_observe fun next met tagged running law acts session _ => ?_
  have refreshingNext := (refreshingFirst.after rfl).meanwhile met
  cases session with
  | none => exact keeps_step law refreshingNext.opened acts (by rintro _ ⟨⟩) trivial
  | some session =>
      refine keeps_step law refreshingNext.opened acts (by rintro _ ⟨⟩) ?_
      simp only [Process.bind_assoc]
      refine keeps_observe fun third met tagged running law acts time _ => ?_
      have refreshingThird := (refreshingNext.after rfl).meanwhile met
      refine keeps_step law refreshingThird.opened acts (by rintro _ ⟨⟩) ?_
      refine keeps_observe fun last met tagged running law acts user _ => ?_
      have refreshingLast := (refreshingThird.after rfl).meanwhile met
      cases user with
      | none => exact keeps_step law refreshingLast.opened acts (by rintro _ ⟨⟩) trivial
      | some securityUser =>
          simp only [Process.bind_assoc]
          refine keeps_step law refreshingLast.opened acts (by rintro _ ⟨⟩) ?_
          exact ends_refreshTokens securityUser jtis (refreshingLast.after rfl)

theorem keeps_sessions {command : AuthCommand} (tagged : scene.Tagged)
    (law : SessionLaw services scene) :
    SessionLaw services (scene.opening command) ∧
      Keeps (sessionTerms services) (SessionLaw services) scene.opened.length command
        (command.handle services) (scene.opening command) := by
  refine ⟨law.opening tagged, ?_⟩
  have opened : (scene.opening command).opened[scene.opened.length]? =
      some ⟨command, scene.history.length⟩ := List.getElem?_concat_length
  cases presented : presentedPayload services command with
  | none => exact keeps_never opened (.inl presented)
  | some payload =>
      have steady : Steady (scene.opening command) scene.opened.length := by
        rw [Steady, Scene.own_opening tagged]
        exact fun _ member => nomatch member
      cases command with
      | refreshToken token jtis =>
          cases token with
          | none => cases presented
          | some token => exact ends_refreshToken jtis presented ⟨opened, presented, steady⟩
      | _ => cases presented

/-- In every run of commands that keeps the terms no refresh token outlives a session of its user
and device. -/
theorem none_outlives (services : Services) (initial : World) (final : AuthSite)
    (run : Runs (AuthCommand.handle services) (sessionTerms services) ⟨⟨initial, [], []⟩, []⟩
      final) : NoneOutlives services final.toScene := by
  have start : SessionLaw services ⟨initial, [], []⟩ :=
    ⟨fun _ _ _ found => (nomatch found), Scene.earlier_nil⟩
  exact (Runs.keeps (fun _ _ tagged law _ => keeps_sessions tagged law) (kept_initial start)
    run).inv.kept

end Commands

section Example

instance (before after : World) (userId : Nat) (deviceId : String) :
    Decidable (Deactivates before after userId deviceId) :=
  inferInstanceAs (Decidable (∃ session ∈ before.sessions.rows, session.isActive = true ∧
    session.userId = userId ∧ session.deviceId = deviceId ∧
      ∃ row ∈ after.sessions.find? session.id, row.isActive = false))

instance (payload : Token) (before : List AuthEntry) : Decidable (Outdated payload before) :=
  inferInstanceAs (Decidable (∃ entry ∈ before, _ ∧ _))

def sessionActs (scene : AuthScene) (_ : Nat) (command : AuthCommand) (label : Op)
    (effect : World → World) : Bool :=
  ((presentedPayload plainServices command).all fun payload =>
    label ≠ .get (.revoked payload.jti) || !decide (Outdated payload scene.history)) &&
  (List.range scene.opened.length).all fun other =>
    ((scene.opened[other]?.bind fun task => presentedPayload plainServices task.tag).all
      fun payload => (scene.history.any fun entry => entry.index == other && entry.outcome.isSome) ||
        !decide (Deactivates scene.world (effect scene.world) payload.sub payload.did))

theorem sessionActs_sound {scene : AuthScene} {index : Nat} {command : AuthCommand} {label : Op}
    {effect : World → World} (checked : sessionActs scene index command label effect = true) :
    SessionActs plainServices scene index command label effect := by
  simp only [sessionActs, Bool.and_eq_true, List.all_eq_true, Bool.or_eq_true, Option.all_eq_true,
    List.any_eq_true, Bool.not_eq_true', decide_eq_false_iff_not, decide_eq_true_eq] at checked
  obtain ⟨unread, ended⟩ := checked
  refine ⟨fun payload presented labelled outdated => ?_,
    fun other task payload _ found presented running _ ends => ?_⟩
  · rcases unread payload presented with different | newer
    · exact absurd labelled different
    · exact absurd outdated newer
  · have bound := (List.getElem?_eq_some_iff.mp found).1
    rcases ended other (List.mem_range.mpr bound) payload (by rw [found]; exact presented) with
      ⟨entry, member, mine, last⟩ | kept
    · rw [running entry member (beq_iff_eq.mp mine)] at last
      cases last
    · exact absurd ends kept

def endedMoves : List (Move AuthCommand) :=
  [Move.start presentsOld] ++ List.replicate 12 (Move.exec 0) ++
    [Move.start (AuthCommand.userDeactivateSession holder 1), Move.exec 1, Move.exec 1, Move.exec 1,
      Move.start presentsOld] ++ List.replicate 2 (Move.exec 2)

def endedSite : Option AuthSite :=
  Site.steps (AuthCommand.handle plainServices) (fun _ _ => true) sessionActs
    ⟨⟨quietWorld, [], []⟩, []⟩ endedMoves

theorem none_outlives_ended : ∃ final, endedSite = some final ∧
    endings final = ([(0, true), (1, true), (2, false)], some false) ∧
      NoneOutlives plainServices final.toScene := by
  have ended : endedSite.map endings =
      some ([(0, true), (1, true), (2, false)], some false) := by decide +kernel
  obtain ⟨final, reached, same⟩ := Option.map_eq_some_iff.mp ended
  refine ⟨final, reached, same, none_outlives plainServices quietWorld final ?_⟩
  exact runs_of_steps endedMoves (fun _ _ _ => trivial) (fun _ _ _ _ _ => sessionActs_sound) .refl
    reached

def logsIn : AuthCommand := .login "holder" "h" "device" ("access", "refresh")

def revivalMoves : List (Move AuthCommand) :=
  [Move.start (AuthCommand.userDeactivateSession holder 1), Move.exec 0, Move.exec 0, Move.exec 0,
    Move.start logsIn] ++
    List.replicate 5 (Move.exec 1) ++ [Move.start presentsOld] ++ List.replicate 12 (Move.exec 2)

def revivalSite : Option AuthSite :=
  Site.steps (AuthCommand.handle plainServices) (fun _ _ => true) (fun _ _ _ _ _ => true)
    ⟨⟨quietWorld, [], []⟩, []⟩ revivalMoves

/-- The token of the session that was deactivated is exchanged by way of the new session. -/
theorem old_token_outlives : ∃ final, revivalSite = some final ∧
    Runs (AuthCommand.handle plainServices) {} ⟨⟨quietWorld, [], []⟩, []⟩ final ∧
      ¬NoneOutlives plainServices final.toScene := by
  have last : (revivalSite.bind (·.history.getLast?)).map (fun entry =>
      (presentedPayload plainServices entry.tag, entry.outcome.bind Except.toOption)) =
        some (some oldToken, some (.tokens ⟨"refresh", "access"⟩)) := by decide +kernel
  have outdated : revivalSite.map (fun site => decide (Outdated oldToken site.history.dropLast)) =
      some true := by decide +kernel
  obtain ⟨entry, found, same⟩ := Option.map_eq_some_iff.mp last
  obtain ⟨final, reached, ended⟩ := Option.bind_eq_some_iff.mp found
  obtain ⟨before, split⟩ := List.getLast?_eq_some_iff.mp ended
  obtain ⟨presented, answered⟩ := Prod.mk.inj same
  have returned : ReturnsPair entry := by
    obtain ⟨outcome, ends, ok⟩ := Option.bind_eq_some_iff.mp answered
    cases outcome with
    | error error => cases ok
    | ok answer =>
        cases ok
        exact ⟨_, ends⟩
  rw [reached, Option.map_some, Option.some.injEq, decide_eq_true_eq, split,
    List.dropLast_concat] at outdated
  refine ⟨final, reached, runs_of_steps revivalMoves (fun _ _ _ => trivial)
    (fun _ _ _ _ _ _ => trivial) .refl reached, fun none => ?_⟩
  exact none before entry [] split oldToken presented returned outdated

end Example

end Messanger.Auth
