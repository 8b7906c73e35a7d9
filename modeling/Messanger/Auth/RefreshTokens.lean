import Messanger.Auth.UserRevocation

/-!
One refresh token, presented again and again.  Its use is looked up first and written down at the
end, and a later use ends the session.
-/

namespace Messanger.Auth

open Relational Processes

section SingleUse

variable (token : String) (payload : Token)

def FollowsExchange (scene : AuthScene) (task : Opened AuthCommand) : Prop :=
  ∃ entry ∈ scene.history.take task.since, ReturnsPair entry

def foundSession (own : List AuthEntry) : Option Session :=
  (own.find? fun entry => entry.label == .select).bind fun look =>
    look.before.activeByDevice payload.sub payload.did

def Rejects (own : List AuthEntry) (entry : AuthEntry) : Prop :=
  (∃ error, entry.outcome = some (.error error)) ∧
    ∀ session, foundSession payload own = some session →
      ∃ row, entry.after.sessions.find? session.id = some row ∧ row.isActive = false

def Presents (command : AuthCommand) : Prop := ∃ jtis, command = .refreshToken (some token) jtis

structure SingleUse (scene : AuthScene) : Prop where
  once : ∀ first ∈ scene.history, ∀ second ∈ scene.history, ReturnsPair first → ReturnsPair second →
    first.index = second.index
  late : ∀ entry ∈ scene.history, entry.outcome.isSome → ∀ task,
    scene.opened[entry.index]? = some task → Presents token task.tag → FollowsExchange scene task →
      Rejects payload (scene.own entry.index) entry

def ExchangeActs (scene : AuthScene) : Op → Prop
  | .get key => key = .revoked payload.jti → ∀ stored, scene.world.redis key = some stored →
      scene.world.clock < stored.expiresAt
  | .set key => key = .revoked payload.jti → scene.world.redis key = none
  | _ => True

instance (scene : AuthScene) (label : Op) : Decidable (ExchangeActs payload scene label) :=
  match label with
  | .get key => inferInstanceAs (Decidable (key = .revoked payload.jti →
      ∀ stored ∈ scene.world.redis key, scene.world.clock < stored.expiresAt))
  | .set key =>
      inferInstanceAs (Decidable (key = .revoked payload.jti → scene.world.redis key = none))
  | .clock | .select | .flush | .commit | .mget _ | .del _ | .queue | .provider => .isTrue trivial

def exchangeTerms : Terms World Op AuthCommand AuthError AuthAnswer where
  Opens := fun _ command => Presents token command ∨ ∃ time, command = .elapse time
  Acts := fun scene _ _ label _ => ExchangeActs payload scene label

end SingleUse

section Law

variable {token : String} {payload : Token} {initial : World}

def Marks (payload : Token) (entry : AuthEntry) : Prop :=
  entry.label = .set (.revoked payload.jti) ∧
    (entry.after.redis (.revoked payload.jti)).isSome

structure ExchangeLaw (token : String) (payload : Token) (initial : World) (scene : AuthScene) :
    Prop where
  past : ∀ task ∈ scene.opened, task.since ≤ scene.history.length
  users : scene.world.users = initial.users
  sessions : ∀ id, (scene.world.sessions.find? id).isSome = (initial.sessions.find? id).isSome
  clock : payload.iat < scene.world.clock
  value : ∀ stored, scene.world.redis (.revoked payload.jti) = some stored →
    payload.iat < stored.value
  first : Scene.Earlier (fun before entry => Marks payload entry →
    ∀ other ∈ before, ¬Marks payload other) scene.history
  marked : ∀ entry ∈ scene.history, Marks payload entry →
    (scene.world.redis (.revoked payload.jti)).isSome
  exchanged : ∀ entry ∈ scene.history, ReturnsPair entry →
    (∃ mark ∈ scene.history, mark.index = entry.index ∧ Marks payload mark) ∧
      (initial.userById payload.sub).isSome
  late : ∀ entry ∈ scene.history, entry.outcome.isSome → ∀ task,
    scene.opened[entry.index]? = some task → Presents token task.tag → FollowsExchange scene task →
      Rejects payload (scene.own entry.index) entry

variable {scene now : AuthScene} {index : Nat} {task : Opened AuthCommand} {label : Op}
  {effect : World → World} {outcome : Option (Except AuthError AuthAnswer)}

theorem follows_iff_before {more : List AuthEntry} (past : task.since ≤ scene.history.length)
    (history : now.history = scene.history ++ more) :
    FollowsExchange now task ↔ FollowsExchange scene task := by
  rw [FollowsExchange, history, List.take_append_of_le_length past, FollowsExchange]

theorem ExchangeLaw.after (law : ExchangeLaw token payload initial now) (running : now.Running index)
    (found : now.opened[index]? = some task)
    (users : (effect now.world).users = now.world.users)
    (sessions : ∀ id, ((effect now.world).sessions.find? id).isSome =
      (now.world.sessions.find? id).isSome)
    (clock : now.world.clock ≤ (effect now.world).clock)
    (redis : (effect now.world).redis (.revoked payload.jti) =
        now.world.redis (.revoked payload.jti) ∨
      label = .set (.revoked payload.jti) ∧ ∀ stored,
        (effect now.world).redis (.revoked payload.jti) = some stored → payload.iat < stored.value)
    (unset : label = .set (.revoked payload.jti) → now.world.redis (.revoked payload.jti) = none)
    (ok : ∀ group, outcome = some (.ok (.tokens group)) →
      (∃ mark ∈ now.history, mark.index = index ∧ Marks payload mark) ∧
        (initial.userById payload.sub).isSome)
    (late : outcome.isSome → Presents token task.tag → FollowsExchange now task →
      Rejects payload
        (now.own index ++ [⟨index, task.tag, label, now.world, effect now.world, outcome⟩])
        ⟨index, task.tag, label, now.world, effect now.world, outcome⟩) :
    ExchangeLaw token payload initial (now.after index task.tag label effect outcome) where
  past := by
    intro other member
    have bound := law.past other member
    simp only [Scene.after, List.length_append, List.length_singleton]
    omega
  users := users.trans law.users
  sessions := fun id => (sessions id).trans (law.sessions id)
  clock := Nat.lt_of_lt_of_le law.clock clock
  value := by
    intro stored there
    rcases redis with same | ⟨_, newer⟩
    · exact law.value stored (same.symm.trans there)
    · exact newer stored there
  first := by
    refine Scene.earlier_concat law.first ?_
    rintro ⟨labelled, _⟩ other member marks
    have there := law.marked other member marks
    rw [unset labelled] at there
    cases there
  marked := by
    intro entry member marks
    rcases List.mem_append.mp member with before | last
    · have there := law.marked entry before marks
      rcases redis with same | ⟨labelled, _⟩
      · exact (congrArg Option.isSome same).trans there
      · rw [unset labelled] at there
        cases there
    · rw [List.mem_singleton.mp last] at marks
      exact marks.2
  exchanged := by
    rintro entry member ⟨group, ended⟩
    rcases List.mem_append.mp member with before | last
    · obtain ⟨⟨mark, markMember, mine, marks⟩, user⟩ := law.exchanged entry before ⟨group, ended⟩
      exact ⟨⟨mark, List.mem_append_left _ markMember, mine, marks⟩, user⟩
    · rw [List.mem_singleton.mp last] at ended ⊢
      obtain ⟨⟨mark, markMember, mine, marks⟩, user⟩ := ok group ended
      exact ⟨⟨mark, List.mem_append_left _ markMember, mine, marks⟩, user⟩
  late := by
    intro entry member ended other opened presents follows
    have past := law.past other (List.mem_of_getElem? opened)
    rw [follows_iff_before past rfl] at follows
    rcases List.mem_append.mp member with before | last
    · by_cases mine : entry.index = index
      · rw [running entry before mine] at ended
        cases ended
      · rw [(Scene.meanwhile_after (Ne.symm mine)).own_eq]
        exact law.late entry before ended other opened presents follows
    · rw [List.mem_singleton.mp last] at ended opened ⊢
      have same : other = task := Option.some.inj (opened.symm.trans found)
      subst same
      rw [Scene.own_after]
      exact late ended presents follows

theorem ExchangeLaw.opening {command : AuthCommand} (law : ExchangeLaw token payload initial now)
    (tagged : now.Tagged) : ExchangeLaw token payload initial (now.opening command) where
  past := by
    intro other member
    rcases List.mem_append.mp member with before | last
    · exact law.past other before
    · rw [List.mem_singleton.mp last]
      exact Nat.le_refl _
  users := law.users
  sessions := law.sessions
  clock := law.clock
  value := law.value
  first := law.first
  marked := law.marked
  exchanged := law.exchanged
  late := by
    intro entry member ended other opened presents follows
    obtain ⟨since, _, old⟩ := tagged entry member
    have bound := (List.getElem?_eq_some_iff.mp old).1
    rw [Scene.opening, List.getElem?_append_left bound] at opened
    exact law.late entry member ended other opened presents follows

theorem ExchangeLaw.quiet (law : ExchangeLaw token payload initial now) (running : now.Running index)
    (found : now.opened[index]? = some task)
    (users : (effect now.world).users = now.world.users)
    (sessions : ∀ id, ((effect now.world).sessions.find? id).isSome =
      (now.world.sessions.find? id).isSome)
    (clock : now.world.clock ≤ (effect now.world).clock)
    (redis : (effect now.world).redis (.revoked payload.jti) =
      now.world.redis (.revoked payload.jti))
    (unset : label ≠ .set (.revoked payload.jti)) :
    ExchangeLaw token payload initial (now.after index task.tag label effect none) :=
  law.after running found users sessions clock (.inl redis) (fun same => absurd same unset)
    (fun _ same => nomatch same) (fun same => nomatch same)

theorem ExchangeLaw.look (law : ExchangeLaw token payload initial now) (running : now.Running index)
    (found : now.opened[index]? = some task) (unset : label ≠ .set (.revoked payload.jti)) :
    ExchangeLaw token payload initial (now.after index task.tag label id none) :=
  law.quiet running found rfl (fun _ => rfl) (Nat.le_refl _) rfl unset

end Law

section Commands

variable {services : Services} {token : String} {payload : Token} {initial : World}
  {scene now : AuthScene} {index : Nat} {task : Opened AuthCommand} {session : Session}

theorem foundSession_append {own : List AuthEntry} (found : foundSession payload own = some session)
    (rest : List AuthEntry) : foundSession payload (own ++ rest) = some session := by
  obtain ⟨look, here, active⟩ := Option.bind_eq_some_iff.mp found
  rw [foundSession, List.find?_append, here]
  exact active

structure Exchanging (payload : Token) (initial : World) (scene : AuthScene) (index : Nat)
    (task : Opened AuthCommand) (session : Session) : Prop where
  opened : scene.opened[index]? = some task
  found : foundSession payload (scene.own index) = some session
  there : (initial.sessions.find? session.id).isSome

theorem Exchanging.meanwhile (knows : Exchanging payload initial scene index task session)
    (meanwhile : scene.Meanwhile index now) :
    Exchanging payload initial now index task session where
  opened := meanwhile.opened knows.opened
  found := by rw [meanwhile.own_eq, knows.found]
  there := knows.there

theorem Exchanging.after {label : Op} {effect : World → World}
    {outcome : Option (Except AuthError AuthAnswer)}
    (knows : Exchanging payload initial scene index task session) :
    Exchanging payload initial (scene.after index task.tag label effect outcome) index task
      session where
  opened := knows.opened
  found := by
    rw [Scene.own_after]
    exact foundSession_append knows.found _
  there := knows.there

/-- No pair had been returned when the command was started. -/
structure Fresh (scene : AuthScene) (task : Opened AuthCommand) : Prop where
  past : task.since ≤ scene.history.length
  none : ¬FollowsExchange scene task

theorem Fresh.meanwhile (fresh : Fresh scene task) (meanwhile : scene.Meanwhile index now) :
    Fresh now task := by
  obtain ⟨_, more, history, _⟩ := meanwhile
  refine ⟨?_, ?_⟩
  · have past := fresh.past
    rw [history, List.length_append]
    omega
  · rw [follows_iff_before fresh.past history]
    exact fresh.none

theorem Fresh.after {command : AuthCommand} {label : Op} {effect : World → World}
    {outcome : Option (Except AuthError AuthAnswer)} (fresh : Fresh scene task) :
    Fresh (scene.after index command label effect outcome) task := by
  refine ⟨?_, ?_⟩
  · have past := fresh.past
    simp only [Scene.after, List.length_append]
    omega
  · rw [follows_iff_before fresh.past rfl]
    exact fresh.none

theorem sessions_update (world : World) (id : Nat) (change : Session → Session)
    (keeps : ∀ session, (change session).id = session.id) (other : Nat) :
    ((world.updateSession id change keeps).sessions.find? other).isSome =
      (world.sessions.find? other).isSome := by
  rw [World.updateSession, Table.find?_update, Option.isSome_map]

theorem deactivated (world : World) (sessionId time : Nat)
    (there : (world.sessions.find? sessionId).isSome) :
    ∃ row, (world.deactivateSession sessionId time).sessions.find? sessionId = some row ∧
      row.isActive = false := by
  obtain ⟨row, found⟩ := Option.isSome_iff_exists.mp there
  refine ⟨{ row with isActive := false, lastActivity := time }, ?_, rfl⟩
  rw [World.deactivateSession, World.updateSession, Table.find?_update, found, Option.map_some,
    Table.key_of_find? found]
  simp

theorem keeps_deactivate (next : TokenGroup → Handler AuthAnswer)
    (knows : Exchanging payload initial scene index task session) :
    Keeps (exchangeTerms token payload) (ExchangeLaw token payload initial) index task.tag
      (deactivateAndRaise session.id .tokenInBlacklist >>= next) scene := by
  simp only [deactivateAndRaise, if_pos, Process.bind_assoc]
  refine keeps_observe fun first met tagged running law acts time _ => ?_
  have knowsFirst := knows.meanwhile met
  refine ⟨law.look running knowsFirst.opened (by simp), ?_⟩
  refine keeps_perform fun second met tagged running law acts => ⟨?_, trivial⟩
  have knowsSecond := (knowsFirst.after).meanwhile met
  refine law.after running knowsSecond.opened rfl (fun id => sessions_update _ _ _ _ _)
    (Nat.le_refl _) (.inl rfl) (by simp) (by simp [Process.raise, Process.outcome?]) ?_
  intro _ _ _
  refine ⟨⟨_, rfl⟩, fun other found => ?_⟩
  rw [foundSession_append knowsSecond.found] at found
  cases found
  exact deactivated _ _ _ ((law.sessions _).trans knowsSecond.there)

def finishRefresh (sessionId time : Nat) (group : TokenGroup) : Handler AuthAnswer := do
  commit fun world => world.onlineSession sessionId time
  pure (.tokens group)

theorem keeps_createTokenPair (securityUser : AuthUserJWTData) (jtis : String × String) (time : Nat)
    (handler : AuthError → Handler TokenGroup)
    (knows : Exchanging payload initial scene index task session) (fresh : Fresh scene task)
    (marks : ∃ mark ∈ scene.history, mark.index = index ∧ Marks payload mark)
    (user : (initial.userById payload.sub).isSome) :
    Keeps (exchangeTerms token payload) (ExchangeLaw token payload initial) index task.tag
      ((createTokenPair services securityUser jtis).rescue handler >>= finishRefresh session.id time)
      scene := by
  rw [createTokenPair, Process.rescue_observe, Process.bind_assoc]
  refine keeps_observe fun first met tagged running law acts made _ => ?_
  have knowsFirst := knows.meanwhile met
  refine ⟨law.look running knowsFirst.opened (by simp), ?_⟩
  have freshFirst := fresh.meanwhile met
  obtain ⟨mark, member, mine, marked⟩ := marks
  have kept := met.kept member
  refine keeps_perform fun second met tagged running law acts => ⟨?_, trivial⟩
  refine law.after running (knowsFirst.after.meanwhile met).opened rfl
    (fun id => sessions_update _ _ _ _ _) (Nat.le_refl _) (.inl rfl) (by simp) ?_ ?_
  · exact fun _ _ => ⟨⟨mark, met.kept_after kept, mine, marked⟩, user⟩
  · exact fun _ _ follows => absurd follows (freshFirst.after.meanwhile met).none

theorem keeps_revokeToken (securityUser : AuthUserJWTData) (jtis : String × String) (time : Nat)
    (knows : Exchanging payload initial scene index task session) (fresh : Fresh scene task)
    (user : (initial.userById payload.sub).isSome) :
    Keeps (exchangeTerms token payload) (ExchangeLaw token payload initial) index task.tag
      ((revokeToken payload >>= fun _ => createTokenPair services securityUser jtis).rescue
        (deactivateAndRaise session.id) >>= finishRefresh session.id time) scene := by
  simp only [revokeToken, addJwtToken, Process.bind_assoc, Process.rescue_observe]
  refine keeps_observe fun first met tagged running law acts currentTime _ => ?_
  have knowsFirst := knows.meanwhile met
  refine ⟨law.look running knowsFirst.opened (by simp), ?_⟩
  have freshFirst := fresh.meanwhile met
  refine keeps_observe fun second met tagged running law acts now time_eq => ?_
  have knowsSecond := knowsFirst.after.meanwhile met
  refine ⟨law.look running knowsSecond.opened (by simp), ?_⟩
  have newer : payload.iat < now := by
    rw [← time_eq]
    exact law.clock
  have freshSecond := freshFirst.after.meanwhile met
  rw [Process.rescue_attempt, Process.act_bind]
  refine keeps_act fun third met tagged running law acts => ?_
  have knowsThird := knowsSecond.after.meanwhile met
  have freshThird := freshSecond.after.meanwhile met
  have unset := acts rfl
  by_cases late : (payload.exp - currentTime) / Auth.second = 0
  · simp only [if_pos late]
    refine ⟨?_, trivial⟩
    refine law.after running knowsThird.opened rfl (fun _ => rfl) (Nat.le_refl _) (.inl rfl)
      (fun _ => unset) (by simp [deactivateAndRaise, Process.raise, Process.outcome?]) ?_
    exact fun _ _ follows => absurd follows freshThird.none
  · simp only [if_neg late]
    refine ⟨?_, keeps_createTokenPair securityUser jtis time _ knowsThird.after freshThird.after
      ⟨_, List.mem_append_right _ (List.mem_singleton_self _), rfl, rfl, ?_⟩ user⟩
    · refine law.after running knowsThird.opened rfl (fun _ => rfl) (Nat.le_refl _)
        (.inr ⟨rfl, ?_⟩) (fun _ => unset) ?_ ?_
      · intro stored there
        simp only [Except.toOption, Option.getD_some, World.set, Function.update_self,
          Option.some.injEq] at there
        rw [← there]
        exact newer
      · rintro _ ⟨⟩
      · rintro ⟨⟩
    · simp [Except.toOption, World.set]

theorem keeps_requireNewer (invalidation : Nat) {time : Nat} {rest : Unit → Handler TokenGroup}
    (knows : Exchanging payload initial scene index task session)
    (passed : invalidation ≤ payload.iat →
      ((rest ()).rescue (deactivateAndRaise session.id) >>=
        finishRefresh session.id time).outcome? = none ∧
      Keeps (exchangeTerms token payload) (ExchangeLaw token payload initial) index task.tag
        ((rest ()).rescue (deactivateAndRaise session.id) >>= finishRefresh session.id time) scene) :
    ((liftM (requireNewer payload invalidation) >>= rest).rescue (deactivateAndRaise session.id) >>=
      finishRefresh session.id time).outcome? = none ∧
    Keeps (exchangeTerms token payload) (ExchangeLaw token payload initial) index task.tag
      ((liftM (requireNewer payload invalidation) >>= rest).rescue
        (deactivateAndRaise session.id) >>= finishRefresh session.id time) scene := by
  by_cases old : payload.iat < invalidation
  · simp only [requireNewer, if_pos old, Process.lift_error_bind]
    exact ⟨rfl, keeps_deactivate _ knows⟩
  · simp only [requireNewer, if_neg old, Process.lift_ok_bind]
    exact passed (by omega)

theorem keeps_invalidation {label : Op} (read : World → Nat) {time : Nat}
    {rest : Unit → Handler TokenGroup} (unset : label ≠ .set (.revoked payload.jti))
    (knows : Exchanging payload initial scene index task session)
    (passed : ∀ now, scene.Meanwhile index now → ExchangeLaw token payload initial now →
      ExchangeActs payload now label → read now.world ≤ payload.iat →
        ((rest ()).rescue (deactivateAndRaise session.id) >>=
          finishRefresh session.id time).outcome? = none ∧
        Keeps (exchangeTerms token payload) (ExchangeLaw token payload initial) index task.tag
          ((rest ()).rescue (deactivateAndRaise session.id) >>= finishRefresh session.id time)
          (now.after index task.tag label id none)) :
    Keeps (exchangeTerms token payload) (ExchangeLaw token payload initial) index task.tag
      ((.observe label read >>= fun invalidation =>
        liftM (requireNewer payload invalidation) >>= rest).rescue
          (deactivateAndRaise session.id) >>= finishRefresh session.id time) scene := by
  rw [Process.rescue_observe, Process.bind_assoc]
  refine keeps_observe fun now met tagged running law acts invalidation same => ?_
  have knowsNow := knows.meanwhile met
  obtain ⟨unended, keeps⟩ := keeps_requireNewer invalidation knowsNow.after fun newer =>
    passed now met law acts (by rwa [same])
  rw [unended]
  exact ⟨law.look running knowsNow.opened unset, keeps⟩

theorem keeps_maxTime (keys : List RedisKey) {time : Nat} {rest : Unit → Handler TokenGroup}
    (knows : Exchanging payload initial scene index task session) (fresh : Fresh scene task)
    (passed : ∀ now, Exchanging payload initial now index task session → Fresh now task →
      ((rest ()).rescue (deactivateAndRaise session.id) >>=
        finishRefresh session.id time).outcome? = none ∧
      Keeps (exchangeTerms token payload) (ExchangeLaw token payload initial) index task.tag
        ((rest ()).rescue (deactivateAndRaise session.id) >>= finishRefresh session.id time) now) :
    ((getMaxInvalidationTime keys >>= fun invalidation =>
      liftM (requireNewer payload invalidation) >>= rest).rescue (deactivateAndRaise session.id) >>=
        finishRefresh session.id time).outcome? = none ∧
    Keeps (exchangeTerms token payload) (ExchangeLaw token payload initial) index task.tag
      ((getMaxInvalidationTime keys >>= fun invalidation =>
        liftM (requireNewer payload invalidation) >>= rest).rescue
          (deactivateAndRaise session.id) >>= finishRefresh session.id time) scene := by
  rw [getMaxInvalidationTime]
  by_cases empty : keys.isEmpty = true
  · rw [if_pos empty]
    exact keeps_requireNewer 0 knows fun _ => passed scene knows fresh
  · rw [if_neg empty]
    refine ⟨rfl, keeps_invalidation _ (by simp) knows fun now met _ _ _ => ?_⟩
    exact passed _ (knows.meanwhile met).after (fresh.meanwhile met).after

theorem fresh_of_newer (law : ExchangeLaw token payload initial now)
    (acts : ExchangeActs payload now (.get (.revoked payload.jti))) (opened : task ∈ now.opened)
    (newer : (now.world.get (.revoked payload.jti)).getD 0 ≤ payload.iat) : Fresh now task := by
  refine ⟨law.past task opened, ?_⟩
  rintro ⟨entry, taken, exchanged⟩
  obtain ⟨⟨mark, member, _, marks⟩, _⟩ := law.exchanged entry (List.mem_of_mem_take taken) exchanged
  obtain ⟨stored, there⟩ := Option.isSome_iff_exists.mp (law.marked mark member marks)
  have unexpired := acts rfl stored there
  have older := law.value stored there
  rw [World.get, there] at newer
  simp only [if_pos unexpired, Option.getD_some] at newer
  omega

theorem keeps_refreshTokens (securityUser : AuthUserJWTData) (jtis : String × String) (time : Nat)
    (knows : Exchanging payload initial scene index task session)
    (user : (initial.userById payload.sub).isSome) :
    Keeps (exchangeTerms token payload) (ExchangeLaw token payload initial) index task.tag
      ((refreshTokens services payload securityUser jtis).rescue (deactivateAndRaise session.id) >>=
        finishRefresh session.id time) scene := by
  refine keeps_invalidation (fun world => (world.get (.revoked payload.jti)).getD 0) (by simp) knows
    fun first met law acts newer => ⟨rfl, ?_⟩
  have knowsFirst := knows.meanwhile met
  have fresh := fresh_of_newer law acts (List.mem_of_getElem? knowsFirst.opened) newer
  refine keeps_invalidation (fun world => (world.get (.user payload.sub)).getD 0) (by simp)
    knowsFirst.after fun next met law acts newer => ?_
  refine keeps_maxTime _ (knowsFirst.after.meanwhile met).after (fresh.after.meanwhile met).after
    fun now knows fresh => ?_
  refine keeps_maxTime _ knows fresh fun now knows fresh => ⟨rfl, ?_⟩
  exact keeps_revokeToken securityUser jtis time knows fresh user

theorem activeByDevice_there {world : World} {userId : Nat} {deviceId : String}
    (found : world.activeByDevice userId deviceId = some session) :
    (world.sessions.find? session.id).isSome := by
  have member := List.mem_of_mem_head? found
  rw [Table.select, List.mem_filter] at member
  rw [(Table.find?_some_iff _ _ _).mpr ⟨member.1, rfl⟩]
  rfl

theorem keeps_refreshToken (jtis : String × String) (decoded : services.decode token = some payload)
    (opened : scene.opened[index]? = some task) (own : scene.own index = []) :
    Keeps (exchangeTerms token payload) (ExchangeLaw token payload initial) index task.tag
      (answerTokens (refreshToken services (some token) jtis)) scene := by
  simp only [answerTokens, refreshToken, validateToken, Process.bind_assoc]
  refine keeps_observe fun first met tagged running law acts now _ => ?_
  have ownFirst : first.own index = [] := met.own_eq.trans own
  have openedFirst := met.opened opened
  simp only [decoded]
  have rejected : ∀ error, ExchangeLaw token payload initial
      (first.after index task.tag .clock id (some (.error error))) := by
    intro error
    refine law.after running openedFirst rfl (fun _ => rfl) (Nat.le_refl _) (.inl rfl) (by simp)
      (by simp) fun _ _ _ => ⟨⟨_, rfl⟩, fun session found => ?_⟩
    rw [ownFirst] at found
    cases found
  split
  · exact ⟨rejected _, trivial⟩
  split
  · exact ⟨rejected _, trivial⟩
  split
  · exact ⟨rejected _, trivial⟩
  refine ⟨law.look running openedFirst (by simp), ?_⟩
  simp only [Process.pure_bind_process]
  refine keeps_observe fun next met tagged running law acts session found => ?_
  have ownNext : next.own index = [⟨index, task.tag, .clock, first.world, first.world, none⟩] := by
    rw [met.own_eq, Scene.own_after, ownFirst]
    rfl
  have openedNext := met.opened openedFirst
  cases session with
  | none =>
      refine ⟨law.after running openedNext rfl (fun _ => rfl) (Nat.le_refl _) (.inl rfl) (by simp)
        (by simp [Process.raise, Process.outcome?]) fun _ _ _ => ⟨⟨_, rfl⟩, fun other there => ?_⟩,
        trivial⟩
      rw [ownNext] at there
      cases found.symm.trans there
  | some session =>
      refine ⟨law.look running openedNext (by simp), ?_⟩
      have knows : Exchanging payload initial (next.after index task.tag .select id none) index task
          session := by
        refine ⟨openedNext, ?_, (law.sessions _).symm.trans (activeByDevice_there found)⟩
        rw [Scene.own_after, ownNext]
        exact found
      simp only [Process.bind_assoc]
      refine keeps_observe fun third met tagged running law acts time _ => ?_
      have knowsThird := knows.meanwhile met
      refine ⟨law.look running knowsThird.opened (by simp), ?_⟩
      refine keeps_observe fun last met tagged running law acts user known => ?_
      have knowsLast := knowsThird.after.meanwhile met
      cases user with
      | none =>
          refine ⟨law.after running knowsLast.opened rfl (fun _ => rfl) (Nat.le_refl _) (.inl rfl)
            (by simp) (by simp [Process.raise, Process.outcome?]) fun _ _ follows => ?_, trivial⟩
          obtain ⟨entry, taken, exchanged⟩ := follows
          obtain ⟨_, user⟩ := law.exchanged entry (List.mem_of_mem_take taken) exchanged
          rw [World.userById, ← law.users] at user
          rw [Option.map_eq_none_iff, World.userById] at known
          rw [known] at user
          cases user
      | some securityUser =>
          have user : (initial.userById payload.sub).isSome := by
            obtain ⟨user, here, _⟩ := Option.map_eq_some_iff.mp known
            rw [World.userById, ← law.users]
            exact Option.isSome_iff_exists.mpr ⟨user, here⟩
          simp only [Process.bind_assoc]
          refine ⟨law.look running knowsLast.opened (by simp), ?_⟩
          exact keeps_refreshTokens securityUser jtis time knowsLast.after user

theorem keeps_elapseTime (time : Nat) (opened : scene.opened[index]? = some task)
    (tag : task.tag = .elapse time) :
    Keeps (exchangeTerms token payload) (ExchangeLaw token payload initial) index task.tag
      (AuthCommand.handle services (.elapse time)) scene := by
  refine keeps_perform fun now met tagged running law acts => ⟨?_, trivial⟩
  refine law.after running (met.opened opened) rfl (fun _ => rfl) (Nat.le_add_right _ _) (.inl rfl)
    (by simp) (fun _ same => nomatch same) fun _ presents _ => ?_
  obtain ⟨jtis, same⟩ := presents
  rw [tag] at same
  cases same

theorem keeps_exchange {command : AuthCommand} (decoded : services.decode token = some payload)
    (tagged : scene.Tagged) (law : ExchangeLaw token payload initial scene)
    (opens : (exchangeTerms token payload).Opens scene command) :
    ExchangeLaw token payload initial (scene.opening command) ∧
      Keeps (exchangeTerms token payload) (ExchangeLaw token payload initial) scene.opened.length
        command (command.handle services) (scene.opening command) := by
  refine ⟨law.opening tagged, ?_⟩
  have opened : (scene.opening command).opened[scene.opened.length]? =
      some ⟨command, scene.history.length⟩ := List.getElem?_concat_length
  rcases opens with ⟨jtis, rfl⟩ | ⟨time, rfl⟩
  · exact keeps_refreshToken jtis decoded opened (Scene.own_opening tagged _)
  · exact keeps_elapseTime time opened rfl

/-- A refresh token is exchanged at most once, and the later commands that present it end the
session, as long as no two uses of it overlap. -/
theorem exchanged_once (services : Services) (token : String) (payload : Token) (initial : World)
    (final : AuthSite) (decoded : services.decode token = some payload)
    (older : payload.iat < initial.clock)
    (newer : ∀ stored, initial.redis (.revoked payload.jti) = some stored →
      payload.iat < stored.value)
    (run : Runs (AuthCommand.handle services) (exchangeTerms token payload) ⟨⟨initial, [], []⟩, []⟩
      final) : SingleUse token payload final.toScene := by
  have start : ExchangeLaw token payload initial ⟨initial, [], []⟩ :=
    { past := fun _ member => nomatch member
      users := rfl
      sessions := fun _ => rfl
      clock := older
      value := newer
      first := Scene.earlier_nil
      marked := fun _ member => nomatch member
      exchanged := fun _ member => nomatch member
      late := fun _ member => nomatch member }
  have law := (Runs.keeps (fun _ _ tagged law opens => keeps_exchange decoded tagged law opens)
    (kept_initial start) run).inv
  refine ⟨fun first firstMember second secondMember firstEnds secondEnds => ?_, law.late⟩
  obtain ⟨⟨mark, markMember, markIndex, marks⟩, _⟩ := law.exchanged first firstMember firstEnds
  obtain ⟨⟨other, otherMember, otherIndex, otherMarks⟩, _⟩ :=
    law.exchanged second secondMember secondEnds
  have one : mark = other := Scene.earlier_unique law.first markMember otherMember marks otherMarks
  rw [← markIndex, one, otherIndex]

end Commands

section Example

def presentations : List (Move AuthCommand) :=
  [Move.start presentsOld] ++ List.replicate 12 (Move.exec 0) ++ [Move.start presentsOld] ++
    List.replicate 7 (Move.exec 1)

def opensOld (_ : AuthScene) : AuthCommand → Bool
  | .refreshToken (some token) _ => token == "old"
  | _ => false

theorem opensOld_sound {scene : AuthScene} {command : AuthCommand}
    (checked : opensOld scene command = true) :
    Presents "old" command ∨ ∃ time, command = .elapse time := by
  rw [opensOld.eq_def] at checked
  split at checked
  · exact .inl ⟨_, by rw [beq_iff_eq.mp checked]⟩
  · cases checked

def oldToken : Token := generatePayload holder .refresh "old" 0

def actsOld (scene : AuthScene) (_ : Nat) (_ : AuthCommand) (label : Op)
    (_ : World → World) : Bool :=
  decide (ExchangeActs oldToken scene label)

theorem actsOld_sound {scene : AuthScene} {index : Nat} {command : AuthCommand} {label : Op}
    {effect : World → World} (checked : actsOld scene index command label effect = true) :
    (exchangeTerms "old" oldToken).Acts scene index command label effect :=
  of_decide_eq_true (p := ExchangeActs oldToken scene label) checked

def presentedSite : Option AuthSite :=
  Site.steps (AuthCommand.handle plainServices) opensOld actsOld ⟨⟨askedWorld, [], []⟩, []⟩
    presentations

def endings (site : AuthSite) : List (Nat × Bool) × Option Bool :=
  (site.history.filterMap fun entry => entry.outcome.map fun outcome => (entry.index, outcome.isOk),
    (site.world.sessions.find? 1).map (·.isActive))

theorem exchanged_once_presented : ∃ final, presentedSite = some final ∧
    endings final = ([(0, true), (1, false)], some false) ∧
      SingleUse "old" oldToken final.toScene := by
  have ended : presentedSite.map endings = some ([(0, true), (1, false)], some false) := by
    decide +kernel
  obtain ⟨final, reached, same⟩ := Option.map_eq_some_iff.mp ended
  refine ⟨final, reached, same, exchanged_once plainServices "old" oldToken askedWorld final rfl
    (by decide) (fun _ there => nomatch there) ?_⟩
  exact runs_of_steps presentations (fun _ _ => opensOld_sound) (fun _ _ _ _ _ => actsOld_sound) .refl
    reached

def turns : List (Move AuthCommand) :=
  [Move.start presentsOld, Move.start presentsOld] ++ List.replicate 6 (Move.exec 0) ++
    List.replicate 12 (Move.exec 1) ++ List.replicate 6 (Move.exec 0)

def turnsSite : Option AuthSite :=
  Site.steps (AuthCommand.handle plainServices) opensOld (fun _ _ _ _ _ => true)
    ⟨⟨askedWorld, [], []⟩, []⟩ turns

/-- Both commands look before either has written, and both return a pair. -/
theorem exchanged_twice : ∃ final, turnsSite = some final ∧
    Runs (AuthCommand.handle plainServices)
      { exchangeTerms "old" oldToken with Acts := fun _ _ _ _ _ => True }
      ⟨⟨askedWorld, [], []⟩, []⟩ final ∧ ¬SingleUse "old" oldToken final.toScene := by
  have both : turnsSite.map returners = some [1, 0] := by decide +kernel
  obtain ⟨final, reached, same⟩ := Option.map_eq_some_iff.mp both
  refine ⟨final, reached, ?_, fun law => ?_⟩
  · exact runs_of_steps turns (fun _ _ => opensOld_sound) (fun _ _ _ _ _ _ => trivial) .refl reached
  · obtain ⟨first, firstMember, firstIndex, firstEnds⟩ :=
      returnsPair_of_returners (show 0 ∈ returners final by simp [same])
    obtain ⟨last, lastMember, lastIndex, lastEnds⟩ :=
      returnsPair_of_returners (show 1 ∈ returners final by simp [same])
    have one := law.once first firstMember last lastMember firstEnds lastEnds
    omega

end Example

end Messanger.Auth
