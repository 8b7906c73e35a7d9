import Messanger.Websockets.Subscriptions
import Messanger.Websockets.Removal
import Messanger.Websockets.History

/-!
A client that reads a chat page by page with `subscribe` and `resume` while messages are sent and
deleted: what its pages hold together, and where the messages after the last page go.
-/

namespace Messanger

open Relational

namespace Hub

/-- What goes on beside the client: sends and deletions of messages, and at the gateways nothing
that takes its connection or its subscription away. -/
def Beside (route : Route) (channel : String) (_ : Hub) : Step → Prop
  | .store (.start program) => MessagingCommand program
  | .unregister connectionId => connectionId ≠ route.connectionId
  | .close other => other ≠ route
  | .unsubscribe other name => other ≠ route ∨ name ≠ channel
  | .expireConnection connectionId => connectionId ≠ route.connectionId
  | .expireSubscriptions name => name ≠ channel
  | .expireRoutes userId => userId ≠ route.userId
  | _ => True

def Replays (route : Route) (spelling : String) (cursor : Int) (hub : Hub) (replay : ReplayDTO)
    (next : Hub) : Prop :=
  ∃ index call shown, hub.calls[index]? = some call ∧ call.stage = .stored ∧ call.conn = route ∧
    call.chatId = spelling ∧ call.lastSeq = some cursor ∧ hub.step (.advance index) = some next ∧
      next.sent = hub.sent ++ [(route, Frame.history shown replay)]

/-- The client asks again from `next_last_seq` until there is no more. -/
inductive Rounds (route : Route) (spelling : String) :
    Int → Hub → List (Hub × ReplayDTO) → Hub → Prop
  | last {cursor : Int} {start before after : Hub} {replay : ReplayDTO} :
      Reaches (Beside route spelling) start before →
      Replays route spelling cursor before replay after → replay.hasMore = false →
      Rounds route spelling cursor start [(before, replay)] after
  | more {cursor : Int} {start before after final : Hub} {replay : ReplayDTO}
      {reads : List (Hub × ReplayDTO)} :
      Reaches (Beside route spelling) start before →
      Replays route spelling cursor before replay after → replay.hasMore = true →
      Rounds route spelling replay.nextLastSeq after reads final →
      Rounds route spelling cursor start ((before, replay) :: reads) final

/-- The client connects; nothing has been asked for it before. -/
def Connects (db : Db) (replayLimit : Nat) (route : Route) (channel : String) (start : Hub) : Prop :=
  ∃ hub, Reaches (Beside route channel) (idle db replayLimit) hub ∧
    hub.step (.register route.connectionId route.userId route.gatewayId) = some start ∧
      ∀ call ∈ hub.calls, call.conn ≠ route

def historyOf (reads : List (Hub × ReplayDTO)) : List (MessageId × Nat) :=
  reads.flatMap fun seen => seen.2.marks

theorem historyOf_cons (hub : Hub) (replay : ReplayDTO) (reads : List (Hub × ReplayDTO)) :
    historyOf ((hub, replay) :: reads) = replay.marks ++ historyOf reads := rfl

/-- What the client has when it has read its last page. -/
structure Served (chatId : ChatId) (route : Route) (channel : String) (cursor : Int)
    (reads : List (Hub × ReplayDTO)) (final : Hub) : Prop where
  increasing : (historyOf reads).Pairwise fun left right => left.2 < right.2
  complete : ∀ last page, reads.getLast? = some (last, page) → ∀ messageId message,
    last.store.db.liveMessage? messageId = some message → message.chatId = chatId →
      cursor < message.seq → (messageId, message.seq) ∈ historyOf reads
  progress : ∀ hub page, (hub, page) ∈ reads → page.hasMore = true →
    page.afterSeq < page.nextLastSeq
  stored : ∀ later, Reaches (Beside route channel) final later →
    (channel, route) ∈ later.redis.activeSubscriptions
  /-- The router drops the events of messages and chats that are deleted by then. -/
  routed : ∀ later routed messageId seq senderId messageType notify,
    Reaches (Beside route channel) final later →
    (later.store.db.liveMessage? messageId).isSome → (later.store.db.openChat? chatId).isSome →
    later.step (.route (.broker (.sendedMessage messageId chatId seq senderId messageType notify))) =
      some routed →
      ∃ entry ∈ routed.redis.streams, entry.gatewayId = route.gatewayId ∧
        route.userId ∈ entry.event.recipients ∧ entry.Of later.routings
          (.broker (.sendedMessage messageId chatId seq senderId messageType notify))

section Connection

variable {hub next after : Hub} {step : Step} {route : Route} {channel : String}

def Here (route : Route) (hub : Hub) : Prop :=
  ∃ conn, hub.conn? route.connectionId = some conn ∧ conn.route = route ∧ conn.closed = false

theorem here_alike (here : Here route hub) (alike : Alike hub after) : Here route after := by
  obtain ⟨conn, found, own, opened⟩ := here
  obtain ⟨queued, same⟩ := alike.conns route.connectionId
  refine ⟨{ conn with queued := queued conn }, ?_, own, opened⟩
  rw [same, found]
  rfl

theorem here_change {other : Route} {amend : WSConnection → WSConnection}
    {keeps : ∀ conn, (amend conn).connectionId = conn.connectionId} (here : Here route hub)
    (same : other = route → ∀ conn, conn.route = route →
      (amend conn).route = conn.route ∧ (amend conn).closed = conn.closed) :
    Here route (hub.change other amend keeps) := by
  obtain ⟨conn, found, own, opened⟩ := here
  by_cases mine : conn.route = other
  · obtain ⟨sameRoute, sameClosed⟩ := same (mine.symm.trans own) conn own
    refine ⟨amend conn, ?_, sameRoute.trans own, sameClosed.trans opened⟩
    rw [conn_change, found, Option.map_some, if_pos mine]
  · refine ⟨conn, ?_, own, opened⟩
    rw [conn_change, found, Option.map_some, if_neg mine]

structure Keeps (route : Route) (channel : String) (before after : Hub) : Prop where
  here : Here route after
  key : route.connectionId ∈ before.redis.connectionKeys →
    route.connectionId ∈ after.redis.connectionKeys
  online : route ∈ before.redis.userRoutes → route ∈ after.redis.userRoutes
  stored : (channel, route) ∈ before.redis.activeSubscriptions →
    (channel, route) ∈ after.redis.activeSubscriptions

theorem keeps_alike (here : Here route hub) (alike : Alike hub after) :
    Keeps route channel hub after := by
  refine ⟨here_alike here alike, ?_, ?_, ?_⟩
  all_goals
    rw [alike.redis]
    exact fun member => member

theorem keeps_unregister {connectionId : ConnectionId} (here : Here route hub)
    (other : connectionId ≠ route.connectionId) :
    Keeps route channel hub (hub.unregister connectionId) := by
  unfold unregister
  split
  · exact ⟨here, fun member => member, fun member => member, fun member => member⟩
  · rename_i gone found
    have goneId : gone.connectionId = connectionId := Table.key_of_find? found
    have apart : gone.route ≠ route := by
      intro same
      rw [← same] at other
      exact other goneId.symm
    obtain ⟨conn, present, own, opened⟩ := here
    refine ⟨⟨conn, ?_, own, opened⟩, fun member => ?_, fun member => ?_, fun member => ?_⟩
    · rw [conn?, Table.find?_delete]
      refine Option.filter_eq_some_iff.mpr ⟨present, ?_⟩
      rw [own]
      simpa using Ne.symm apart
    · refine List.mem_filter.mpr ⟨member, decide_eq_true ?_⟩
      intro same
      exact other (goneId.symm.trans same.symm)
    · exact List.mem_filter.mpr ⟨member, decide_eq_true (Ne.symm apart)⟩
    · refine List.mem_filter.mpr ⟨member, ?_⟩
      simp [Ne.symm apart]

theorem stored_addSubscriptions (channels : List String) (other : Route) (redis : Redis) :
    (∀ pair ∈ redis.activeSubscriptions, pair ∈ (channels.foldl (fun redis channel =>
      redis.addSubscription channel other) redis).activeSubscriptions) ∧
    (channels.foldl (fun redis channel => redis.addSubscription channel other)
      redis).connectionKeys = redis.connectionKeys ∧
    (channels.foldl (fun redis channel => redis.addSubscription channel other)
      redis).userRoutes = redis.userRoutes := by
  induction channels generalizing redis with
  | nil => exact ⟨fun _ member => member, rfl, rfl⟩
  | cons first rest ih =>
      obtain ⟨stored, keys, routes⟩ := ih (redis.addSubscription first other)
      refine ⟨fun pair member => stored pair ?_, keys, routes⟩
      exact List.mem_insert_of_mem member

theorem keeps_refresh (here : Here route hub) (found : WSConnection) :
    Keeps route channel hub (hub.refresh found) := by
  unfold refresh
  split
  · rename_i gone
    obtain ⟨conn, present, own, opened⟩ := here
    have apart : route.connectionId ≠ found.connectionId := by
      intro same
      rw [same, gone] at present
      cases present
    have other : found.route ≠ route := fun same => apart (congrArg Route.connectionId same).symm
    refine ⟨⟨conn, present, own, opened⟩, fun member => ?_, fun member => ?_, fun member => ?_⟩
    · exact List.mem_filter.mpr ⟨member, decide_eq_true apart⟩
    · exact List.mem_filter.mpr ⟨member, decide_eq_true (Ne.symm other)⟩
    · exact List.mem_filter.mpr ⟨member, by simp⟩
  · rename_i conn present
    split
    · rename_i closed
      refine keeps_unregister here ?_
      rintro same
      obtain ⟨own, mine, _, opened⟩ := here
      rw [← same, present] at mine
      cases mine
      rw [closed] at opened
      cases opened
    · obtain ⟨stored, keys, routes⟩ :=
        stored_addSubscriptions found.subscriptions found.route (hub.redis.setRouteUsers found.route)
      refine ⟨here, fun member => ?_, fun member => ?_, fun member => stored _ member⟩
      · rw [keys]
        exact List.mem_insert_of_mem member
      · rw [routes]
        exact List.mem_insert_of_mem member

theorem keeps_advance {call : ChatCall} {rest : Option ChatCall} (here : Here route hub)
    (advanced : hub.advance call = (after, rest)) : Keeps route channel hub after := by
  rcases advance_cases advanced with answers | ⟨_, rfl⟩ | ⟨_, answers⟩
  · exact keeps_alike here answers.alike
  · refine ⟨here_change here fun _ _ _ => ⟨rfl, rfl⟩, ?_, ?_, ?_⟩
    all_goals exact fun member => member
  · have alike := answers.alike
    have grown : Here route ({ hub with
        redis := hub.redis.addSubscription call.chatId call.conn }) := here
    refine ⟨here_alike grown alike, ?_, ?_, ?_⟩
    · rw [alike.redis]
      exact fun member => member
    · rw [alike.redis]
      exact fun member => member
    · rw [alike.redis]
      exact fun member => List.mem_insert_of_mem member

theorem keeps_step (beside : Beside route channel hub step) (here : Here route hub)
    (stepped : hub.step step = some next) : Keeps route channel hub next := by
  have same : Keeps route channel hub hub := keeps_alike here (.refl hub)
  cases step with
  | store label =>
      simp only [Hub.step] at stepped
      split at stepped
      · cases stepped
      · cases stepped
        exact ⟨same.here, same.key, same.online, same.stored⟩
  | register fresh userId gatewayId =>
      simp only [Hub.step] at stepped
      split at stepped
      · cases stepped
      · cases stepped
        obtain ⟨conn, found, own, opened⟩ := here
        refine ⟨⟨conn, ?_, own, opened⟩, fun member => ?_, fun member => ?_, same.stored⟩
        · rw [conn?, Table.find?_insert]
          exact Option.or_eq_some_iff.mpr (.inl found)
        · exact List.mem_insert_of_mem member
        · exact List.mem_insert_of_mem member
  | unregister gone =>
      cases stepped
      exact keeps_unregister here beside
  | close other =>
      cases stepped
      refine ⟨here_change here fun mine => absurd mine beside, same.key, same.online, same.stored⟩
  | drain other =>
      cases stepped
      exact ⟨here_change here fun _ _ _ => ⟨rfl, rfl⟩, same.key, same.online, same.stored⟩
  | resume other cursors =>
      simp only [Hub.step] at stepped
      split at stepped
      · cases stepped
        exact keeps_alike here (alike_trySend _ _ _)
      · cases stepped
        exact ⟨same.here, same.key, same.online, same.stored⟩
  | advance index =>
      obtain ⟨call, after, rest, _, advanced, rfl⟩ := step_advance stepped
      have keeps : Keeps route channel hub after := keeps_advance here advanced
      exact ⟨keeps.here, keeps.key, keeps.online, keeps.stored⟩
  | unsubscribe other name =>
      cases stepped
      have changed : Here route ({ hub.change other (fun conn =>
          { conn with subscriptions := conn.subscriptions.filter (· ≠ name) }) fun _ => rfl with
            redis := hub.redis.removeSubscription name other }) := by
        have kept : Here route (hub.change other (fun conn =>
            { conn with subscriptions := conn.subscriptions.filter (· ≠ name) }) fun _ => rfl) :=
          here_change here fun _ _ _ => ⟨rfl, rfl⟩
        exact kept
      refine ⟨here_alike changed (alike_trySend _ _ _), ?_, ?_, ?_⟩
      · rw [trySend_redis]
        exact fun member => member
      · rw [trySend_redis]
        exact fun member => member
      · rw [trySend_redis]
        intro member
        refine List.mem_filter.mpr ⟨member, decide_eq_true ?_⟩
        rintro pair
        cases pair
        rcases beside with apart | apart
        · exact apart rfl
        · exact apart rfl
  | refresh =>
      obtain ⟨found, rest, _, rfl⟩ := step_refresh stepped
      have keeps : Keeps route channel hub (hub.refresh found) := keeps_refresh here found
      exact ⟨keeps.here, keeps.key, keeps.online, keeps.stored⟩
  | expireConnection gone =>
      cases stepped
      refine ⟨here, fun member => ?_, same.online, same.stored⟩
      exact List.mem_filter.mpr ⟨member, decide_eq_true (Ne.symm beside)⟩
  | expireSubscriptions name =>
      cases stepped
      refine ⟨here, same.key, same.online, fun member => ?_⟩
      exact List.mem_filter.mpr ⟨member, decide_eq_true (Ne.symm beside)⟩
  | expireRoutes userId =>
      cases stepped
      refine ⟨here, same.key, fun member => ?_, same.stored⟩
      exact List.mem_filter.mpr ⟨member, decide_eq_true (Ne.symm beside)⟩
  | route event =>
      simp only [Hub.step] at stepped
      split at stepped
      · cases stepped
        exact ⟨same.here, same.key, same.online, same.stored⟩
      · cases stepped
  | process index acknowledged =>
      obtain ⟨entry, _, rfl⟩ := step_process stepped
      have delivered : Here route (hub.deliver entry) := here_alike here (alike_deliver hub entry)
      exact ⟨delivered, same.key, same.online, same.stored⟩
  | _ =>
      cases stepped
      exact ⟨same.here, same.key, same.online, same.stored⟩

end Connection

section Store

variable {hub next after : Hub} {step : Step} {route : Route} {channel : String}

theorem advance_same {call : ChatCall} {rest : Option ChatCall}
    (advanced : hub.advance call = (after, rest)) :
    after.store = hub.store ∧ after.replayLimit = hub.replayLimit := by
  rcases advance_cases advanced with answers | ⟨_, rfl⟩ | ⟨_, answers⟩
  · exact ⟨answers.alike.store, answers.alike.replayLimit⟩
  · exact ⟨rfl, rfl⟩
  · exact ⟨answers.alike.store, answers.alike.replayLimit⟩

theorem unregister_same (connectionId : ConnectionId) :
    (hub.unregister connectionId).store = hub.store ∧
      (hub.unregister connectionId).replayLimit = hub.replayLimit := by
  unfold unregister
  split
  · exact ⟨rfl, rfl⟩
  · exact ⟨rfl, rfl⟩

theorem refresh_same (found : WSConnection) : (hub.refresh found).store = hub.store ∧
    (hub.refresh found).replayLimit = hub.replayLimit := by
  unfold refresh
  split
  · exact ⟨rfl, rfl⟩
  · split
    · exact unregister_same _
    · exact ⟨rfl, rfl⟩

theorem step_store (stepped : hub.step step = some next) :
    next.replayLimit = hub.replayLimit ∧ (next.store = hub.store ∨
      ∃ label, step = .store label ∧ hub.store.step label = some next.store) := by
  cases step with
  | store label =>
      simp only [Hub.step] at stepped
      split at stepped
      · cases stepped
      · rename_i store moved
        cases stepped
        exact ⟨rfl, .inr ⟨label, rfl, moved⟩⟩
  | register fresh userId gatewayId =>
      simp only [Hub.step] at stepped
      split at stepped
      · cases stepped
      · cases stepped
        exact ⟨rfl, .inl rfl⟩
  | unregister gone =>
      cases stepped
      obtain ⟨store, limit⟩ := @unregister_same hub gone
      exact ⟨limit, .inl store⟩
  | resume other cursors =>
      simp only [Hub.step] at stepped
      split at stepped
      · cases stepped
        exact ⟨trySend_replayLimit, .inl trySend_store⟩
      · cases stepped
        exact ⟨rfl, .inl rfl⟩
  | advance index =>
      obtain ⟨call, after, rest, _, advanced, rfl⟩ := step_advance stepped
      obtain ⟨store, limit⟩ := advance_same advanced
      exact ⟨limit, .inl store⟩
  | unsubscribe other name =>
      cases stepped
      exact ⟨trySend_replayLimit, .inl trySend_store⟩
  | refresh =>
      obtain ⟨found, rest, _, rfl⟩ := step_refresh stepped
      obtain ⟨store, limit⟩ := @refresh_same hub found
      exact ⟨limit, .inl store⟩
  | route event =>
      simp only [Hub.step] at stepped
      split at stepped
      · cases stepped
        exact ⟨rfl, .inl rfl⟩
      · cases stepped
  | process index acknowledged =>
      obtain ⟨entry, _, rfl⟩ := step_process stepped
      exact ⟨(alike_deliver hub entry).replayLimit, .inl (alike_deliver hub entry).store⟩
  | _ =>
      cases stepped
      exact ⟨rfl, .inl rfl⟩

structure Steady (chatId : ChatId) (route : Route) (row : Option ChatMember) (replayLimit : Nat)
    (hub : Hub) : Prop where
  limit : hub.replayLimit = replayLimit
  numbers : (seqContract chatId).Sound hub.store
  member : (memberContract chatId route.userId row).Sound hub.store

variable {chatId : ChatId} {row : Option ChatMember} {replayLimit : Nat}

theorem steady_step (beside : Beside route channel hub step)
    (steady : Steady chatId route row replayLimit hub) (stepped : hub.step step = some next) :
    Steady chatId route row replayLimit next ∧ Outlives hub.store.db next.store.db := by
  obtain ⟨limit, same | ⟨label, rfl, moved⟩⟩ := step_store stepped
  · refine ⟨⟨limit.trans steady.limit, ?_, ?_⟩, ?_⟩
    · rw [same]
      exact steady.numbers
    · rw [same]
      exact steady.member
    · rw [same]
      exact outlives_refl _
  · have started : label.Admissible MessagingCommand (fun _ _ => True) hub.store := by
      cases label with
      | start program => exact beside
      | exec index => exact fun _ _ _ _ _ _ => trivial
      | rollback index => trivial
    refine ⟨⟨limit.trans steady.limit, ?_, ?_⟩, outlives_step moved⟩
    · exact Contract.sound_step (fun _ command => numbers_messagingCommand chatId command)
        steady.numbers started moved
    · exact Contract.sound_step (fun _ command => members_messagingCommand command)
        steady.member started moved

theorem steady_reaches {final : Hub} (steady : Steady chatId route row replayLimit hub)
    (run : Reaches (Beside route channel) hub final) :
    Steady chatId route row replayLimit final ∧ Outlives hub.store.db final.store.db := by
  induction run with
  | refl => exact ⟨steady, outlives_refl _⟩
  | step _ beside stepped ih =>
      obtain ⟨later, outlives⟩ := steady_step beside ih.1 stepped
      exact ⟨later, outlives_trans ih.2 outlives⟩

theorem isBanned_later {member : ChatMember} {now later : Nat} (free : member.isBanned now = false)
    (after : now ≤ later) : member.isBanned later = false := by
  unfold ChatMember.isBanned at free ⊢
  split
  · rfl
  · rename_i limit banned
    rw [banned] at free
    simp only [decide_eq_false_iff_not] at free ⊢
    omega

theorem admits_later (early : Steady chatId route row replayLimit hub)
    (late : Steady chatId route row replayLimit next) (after : hub.now ≤ next.now)
    (admitted : hub.admits route.userId chatId = true) :
    next.admits route.userId chatId = true := by
  have before : hub.store.db.member? chatId route.userId = row := early.member.inv
  have still : next.store.db.member? chatId route.userId = row := late.member.inv
  unfold admits at admitted ⊢
  rw [before] at admitted
  rw [still]
  cases row with
  | none => cases admitted
  | some member =>
      simp only [Bool.not_eq_true'] at admitted ⊢
      exact isBanned_later admitted after

end Store

section Calls

variable {hub next after : Hub} {step : Step} {route : Route} {channel : String}
  {chatId : ChatId} {row : Option ChatMember} {replayLimit : Nat}

theorem advance_stage {call rest : ChatCall} (advanced : hub.advance call = (after, some rest)) :
    (call.stage = .asked ∧ rest.stage = .checked) ∨
      (call.stage = .checked ∧ rest.stage = .held) ∨
      (call.stage = .held ∧ rest.stage = .stored ∧
        (call.chatId, call.conn) ∈ after.redis.activeSubscriptions) := by
  have added : ∀ frame, (call.chatId, call.conn) ∈
      (({ hub with redis := hub.redis.addSubscription call.chatId call.conn }).trySend call.conn
        frame).redis.activeSubscriptions := by
    intro frame
    rw [trySend_redis]
    exact List.mem_insert_self
  unfold advance at advanced
  split at advanced
  · rename_i stage
    split at advanced
    · cases advanced
    · split at advanced
      · cases advanced
        exact .inl ⟨stage, rfl⟩
      · cases advanced
  · rename_i stage
    cases advanced
    exact .inr (.inl ⟨stage, rfl⟩)
  · rename_i stage
    split at advanced
    · cases advanced
      exact .inr (.inr ⟨stage, rfl, added _⟩)
    · simp only [Prod.mk.injEq] at advanced
      obtain ⟨rfl, rest⟩ := advanced
      split at rest
      · cases rest
        exact .inr (.inr ⟨stage, rfl, added _⟩)
      · cases rest
    · cases advanced
  · split at advanced
    · cases advanced
    · cases advanced

/-- The connection is open, and a call for the chat past its check is that of a member; before it
reads its page the subscription is in Redis. -/
structure Attended (chatId : ChatId) (route : Route) (channel : String) (hub : Hub) : Prop where
  here : Here route hub
  key : route.connectionId ∈ hub.redis.connectionKeys
  online : route ∈ hub.redis.userRoutes
  admitted : ∀ call ∈ hub.calls, call.conn = route → call.chatId = channel →
    call.stage ≠ .asked → hub.admits route.userId chatId = true
  stored : ∀ call ∈ hub.calls, call.conn = route → call.chatId = channel →
    call.stage = .stored → (channel, route) ∈ hub.redis.activeSubscriptions

theorem attended_step (read : Python.uuid? channel = some chatId)
    (beside : Beside route channel hub step) (steady : Steady chatId route row replayLimit hub)
    (attended : Attended chatId route channel hub) (stepped : hub.step step = some next) :
    Attended chatId route channel next := by
  have keeps : Keeps route channel hub next := keeps_step beside attended.here stepped
  have later := admits_later steady (steady_step beside steady stepped).1 (step_now stepped)
  refine ⟨keeps.here, keeps.key attended.key, keeps.online attended.online, ?_, ?_⟩
  · intro call member own named past
    refine later ?_
    rcases step_call stepped member with old | asked | ⟨before, old, after, advanced, _⟩
    · exact attended.admitted call old own named past
    · exact absurd asked past
    · obtain ⟨sameConn, sameChat, checked⟩ := advance_rest advanced
      rw [sameConn] at own
      rw [sameChat] at named
      rcases advance_stage advanced with ⟨_, now⟩ | ⟨stage, _⟩ | ⟨stage, _, _⟩
      · obtain ⟨found, same, admitted⟩ := checked now
        rw [named, read] at same
        cases same
        rwa [own] at admitted
      · exact attended.admitted before old own named (by rw [stage]; decide)
      · exact attended.admitted before old own named (by rw [stage]; decide)
  · intro call member own named stage
    rcases step_call stepped member with old | asked | ⟨before, old, after, advanced, redis⟩
    · exact keeps.stored (attended.stored call old own named stage)
    · rw [asked] at stage
      cases stage
    · obtain ⟨sameConn, sameChat, _⟩ := advance_rest advanced
      rcases advance_stage advanced with ⟨_, now⟩ | ⟨_, now⟩ | ⟨_, _, added⟩
      · rw [now] at stage
        cases stage
      · rw [now] at stage
        cases stage
      · rwa [← sameConn, ← sameChat, own, named, redis] at added

theorem attended_reaches {final : Hub} (read : Python.uuid? channel = some chatId)
    (steady : Steady chatId route row replayLimit hub) (attended : Attended chatId route channel hub)
    (run : Reaches (Beside route channel) hub final) : Attended chatId route channel final := by
  induction run with
  | refl => exact attended
  | step run beside stepped ih =>
      exact attended_step read beside (steady_reaches steady run).1 ih stepped

theorem attended_connects {db : Db} {start : Hub}
    (connects : Connects db replayLimit route channel start) :
    Attended chatId route channel start := by
  obtain ⟨hub, _, registered, none⟩ := connects
  simp only [Hub.step] at registered
  split at registered
  · cases registered
  · rename_i free
    cases registered
    have found := Table.find?_insert_self hub.connections
      ⟨route.connectionId, route.userId, route.gatewayId, [], 0, false⟩ free
    refine ⟨⟨_, found, rfl, rfl⟩, List.mem_insert_self, List.mem_insert_self, ?_, ?_⟩
    · exact fun call member own => absurd own (none call member)
    · exact fun call member own => absurd own (none call member)

theorem steady_connects {db : Db} {start : Hub} (known : (db.chat? chatId).isSome)
    (numbered : Numbered chatId db) (connects : Connects db replayLimit route channel start) :
    Steady chatId route (db.member? chatId route.userId) replayLimit start := by
  obtain ⟨hub, run, registered, _⟩ := connects
  have idle : Steady chatId route (db.member? chatId route.userId) replayLimit
      (idle db replayLimit) :=
    ⟨rfl, Contract.sound_idle ⟨known, numbered⟩, Contract.sound_idle rfl⟩
  have before := (steady_reaches idle run).1
  have beside : Beside route channel hub
      (.register route.connectionId route.userId route.gatewayId) := trivial
  exact (steady_step beside before registered).1

theorem sent_added {frame : Frame} {added : Route × Frame}
    (sent : (hub.trySend route frame).sent = hub.sent ++ [added]) : added = (route, frame) := by
  rcases trySend_cases hub route frame with same | same
  · rw [same] at sent
    simp at sent
  · rw [same] at sent
    simpa using sent.symm

theorem replays_read {cursor : Int} {replay : ReplayDTO} (read : Python.uuid? channel = some chatId)
    (attended : Attended chatId route channel hub)
    (replays : Replays route channel cursor hub replay next) :
    replay = hub.store.db.replay chatId cursor hub.replayLimit ∧
      hub.admits route.userId chatId = true ∧ (channel, route) ∈ hub.redis.activeSubscriptions ∧
        Reaches (Beside route channel) hub next := by
  obtain ⟨index, call, shown, found, stage, own, named, cursorSeq, stepped, sent⟩ := replays
  have member := List.mem_of_getElem? found
  refine ⟨?_, attended.admitted call member own named (by rw [stage]; decide),
    attended.stored call member own named stage, ?_⟩
  swap
  · have beside : Beside route channel hub (.advance index) := trivial
    exact .step .refl beside stepped
  obtain ⟨pending, after, rest, present, advanced, rfl⟩ := step_advance stepped
  cases present.symm.trans found
  simp only [advance, stage, named, read, cursorSeq, Prod.mk.injEq] at advanced
  obtain ⟨rfl, _⟩ := advanced
  have taken := sent_added sent
  cases taken
  rfl

end Calls

section Reading

variable {start before after final : Hub} {route : Route} {channel : String} {cursor : Int}
  {chatId : ChatId} {row : Option ChatMember} {replayLimit : Nat} {replay : ReplayDTO}
  {reads : List (Hub × ReplayDTO)}

structure ReadFrom (chatId : ChatId) (route : Route) (channel : String) (row : Option ChatMember)
    (replayLimit : Nat) (cursor : Int) (start before : Hub) (replay : ReplayDTO) (after : Hub) :
    Prop where
  page : replay = before.store.db.replay chatId cursor replayLimit
  numbered : Numbered chatId before.store.db
  earlier : Outlives start.store.db before.store.db
  later : Outlives before.store.db after.store.db
  steady : Steady chatId route row replayLimit after
  attended : Attended chatId route channel after
  admitted : after.admits route.userId chatId = true
  stored : (channel, route) ∈ after.redis.activeSubscriptions

theorem round (read : Python.uuid? channel = some chatId)
    (steady : Steady chatId route row replayLimit start)
    (attended : Attended chatId route channel start)
    (run : Reaches (Beside route channel) start before)
    (replays : Replays route channel cursor before replay after) :
    ReadFrom chatId route channel row replayLimit cursor start before replay after := by
  obtain ⟨steadyBefore, earlier⟩ := steady_reaches steady run
  have attendedBefore := attended_reaches read steady attended run
  obtain ⟨page, admitted, stored, own⟩ := replays_read read attendedBefore replays
  obtain ⟨steadyAfter, later⟩ := steady_reaches steadyBefore own
  rw [steadyBefore.limit] at page
  obtain ⟨index, _, _, _, _, _, _, _, stepped, _⟩ := replays
  have beside : Beside route channel before (.advance index) := trivial
  have keeps : Keeps route channel before after := keeps_step beside attendedBefore.here stepped
  exact ⟨page, steadyBefore.numbers.inv.2, earlier, later, steadyAfter,
    attended_reaches read steadyBefore attendedBefore own,
    admits_later steadyBefore steadyAfter (step_now stepped) admitted, keeps.stored stored⟩

theorem rounds_end (read : Python.uuid? channel = some chatId)
    (rounds : Rounds route channel cursor start reads final) :
    Steady chatId route row replayLimit start → Attended chatId route channel start →
      Steady chatId route row replayLimit final ∧ Attended chatId route channel final ∧
        final.admits route.userId chatId = true ∧
          (channel, route) ∈ final.redis.activeSubscriptions := by
  induction rounds with
  | last run replays done =>
      intro steady attended
      have shown := round read steady attended run replays
      exact ⟨shown.steady, shown.attended, shown.admitted, shown.stored⟩
  | more run replays more rest ih =>
      intro steady attended
      have shown := round read steady attended run replays
      exact ih shown.steady shown.attended

theorem rounds_reads (read : Python.uuid? channel = some chatId)
    (rounds : Rounds route channel cursor start reads final) :
    Steady chatId route row replayLimit start → Attended chatId route channel start →
      (reads.Pairwise fun early late => Outlives early.1.store.db late.1.store.db) ∧
        ∀ seen ∈ reads, Outlives start.store.db seen.1.store.db ∧
          Numbered chatId seen.1.store.db ∧
            ∃ from_, seen.2 = seen.1.store.db.replay chatId from_ replayLimit := by
  induction rounds with
  | @last cursor start before after replay run replays done =>
      intro steady attended
      have shown := round read steady attended run replays
      refine ⟨List.pairwise_singleton _ _, fun seen member => ?_⟩
      rw [List.mem_singleton.mp member]
      exact ⟨shown.earlier, shown.numbered, cursor, shown.page⟩
  | @more cursor start before after final replay reads run replays more rest ih =>
      intro steady attended
      have shown := round read steady attended run replays
      obtain ⟨ordered, found⟩ := ih shown.steady shown.attended
      have behind : ∀ seen ∈ reads, Outlives before.store.db seen.1.store.db :=
        fun seen member => outlives_trans shown.later (found seen member).1
      refine ⟨List.pairwise_cons.mpr ⟨behind, ordered⟩, fun seen member => ?_⟩
      rcases List.mem_cons.mp member with rfl | listed
      · exact ⟨shown.earlier, shown.numbered, cursor, shown.page⟩
      · obtain ⟨_, numbered, page⟩ := found seen listed
        exact ⟨outlives_trans shown.earlier (behind seen listed), numbered, page⟩

theorem rounds_paging (read : Python.uuid? channel = some chatId)
    (rounds : Rounds route channel cursor start reads final) :
    Steady chatId route row replayLimit start → Attended chatId route channel start →
      Paging.Rounds Prod.snd replayLimit cursor.toNat
        (reads.map fun seen => seen.1.store.db.marks chatId) (historyOf reads) := by
  induction rounds with
  | @last cursor start before after replay run replays done =>
      intro steady attended
      have shown := round read steady attended run replays
      have whole : historyOf [(before, replay)] = replay.marks := List.flatMap_singleton _ _
      rw [whole, shown.page, replay_marks]
      rw [shown.page, replay_hasMore] at done
      exact .last done
  | more run replays more rest ih =>
      intro steady attended
      have shown := round read steady attended run replays
      have later := ih shown.steady shown.attended
      rw [Int.toNat_natCast, shown.page, replay_nextLastSeq] at later
      rw [shown.page, replay_hasMore] at more
      rw [historyOf_cons, shown.page, replay_marks]
      exact .more more later

end Reading

section Routing

variable {hub : Hub} {route : Route} {chatId : ChatId} {event : RoutedEvent}

theorem active_of_admits {userId : UserId} (admitted : hub.admits userId chatId = true) :
    userId ∈ hub.store.db.activeMembers hub.now chatId := by
  unfold admits at admitted
  split at admitted
  · cases admitted
  · rename_i member found
    obtain ⟨row, key⟩ := (Table.find?_some_iff _ _ _).mp found
    simp only [ChatMember.key, Prod.mk.injEq] at key
    refine (List.mem_insertionSort _).mpr (List.mem_map.mpr ⟨member, ?_, key.2⟩)
    refine List.mem_filter.mpr ⟨row, ?_⟩
    rw [key.1, admitted, beq_self_eq_true, Bool.and_self]

theorem dispatch_member {routing : Nat} (online : route ∈ hub.redis.userRoutes)
    (admitted : hub.admits route.userId event.chatId = true)
    (spread : fanoutStrategy? hub.store.db event = some .fanoutOnWrite)
    (shared : event.joinRequest? = none) (wanted : route.userId ∉ event.excludeUserIds) :
    ∃ entry ∈ dispatch hub.store.db hub.now hub.redis routing event,
      entry.gatewayId = route.gatewayId ∧ route.userId ∈ entry.event.recipients := by
  obtain ⟨batch, inside, listed⟩ :=
    (@mem_chunks UserId 500 _ route.userId).mpr (active_of_admits admitted)
  have kept : route.userId ∈ batch.filter fun userId => !event.excludeUserIds.contains userId :=
    List.mem_filter.mpr ⟨listed, by simpa using wanted⟩
  obtain ⟨entry, member, here, recipient⟩ :=
    @gatewayDeliveries_cover route.gatewayId route.userId routing event false _
      (covers_online.mpr ⟨kept, route, online, rfl, rfl⟩)
  refine ⟨entry, ?_, here, recipient⟩
  rw [dispatch, spread]
  simp only [shared, if_true]
  exact List.mem_append_right _ (List.mem_flatMap.mpr ⟨batch, inside, member⟩)

end Routing

section Served

variable {db : Db} {replayLimit : Nat} {route : Route} {channel : String} {cursor : Int}
  {chatId : ChatId} {row : Option ChatMember} {start hub final : Hub}
  {reads : List (Hub × ReplayDTO)}

theorem stored_reaches (attended : Attended chatId route channel hub)
    (steady : Steady chatId route row replayLimit hub) (read : Python.uuid? channel = some chatId)
    (stored : (channel, route) ∈ hub.redis.activeSubscriptions)
    (admitted : hub.admits route.userId chatId = true)
    (run : Reaches (Beside route channel) hub final) :
    (channel, route) ∈ final.redis.activeSubscriptions ∧
      final.admits route.userId chatId = true := by
  induction run with
  | refl => exact ⟨stored, admitted⟩
  | step run beside stepped ih =>
      have before := (steady_reaches steady run).1
      have here := (attended_reaches read steady attended run).here
      have keeps := keeps_step beside here stepped
      exact ⟨keeps.stored ih.1, admits_later before (steady_step beside before stepped).1
        (step_now stepped) ih.2⟩

theorem message_routed {routed : Hub} {messageId : MessageId} {seq : Nat}
    {senderId : Option UserId} {messageType : MessageType} {notify : Bool}
    (attended : Attended chatId route channel hub) (canonical : channel = Python.strUuid chatId)
    (stored : (channel, route) ∈ hub.redis.activeSubscriptions)
    (admitted : hub.admits route.userId chatId = true)
    (live : (hub.store.db.liveMessage? messageId).isSome)
    (opened : (hub.store.db.openChat? chatId).isSome)
    (stepped : hub.step (.route
      (.broker (.sendedMessage messageId chatId seq senderId messageType notify))) = some routed) :
    ∃ entry ∈ routed.redis.streams, entry.gatewayId = route.gatewayId ∧
      route.userId ∈ entry.event.recipients ∧ entry.Of hub.routings
        (.broker (.sendedMessage messageId chatId seq senderId messageType notify)) := by
  obtain ⟨chat, found⟩ := Option.isSome_iff_exists.mp opened
  have strategy : fanoutStrategy? hub.store.db
      (.broker (.sendedMessage messageId chatId seq senderId messageType notify)) =
        some (resolveFanoutStrategy chat.type chat.memberCount) := by
    rw [fanoutStrategy?, if_pos live, found]
    rfl
  simp only [Hub.step] at stepped
  split at stepped
  · rename_i published
    cases stepped
    have listed : ∃ entry ∈ dispatch hub.store.db hub.now hub.redis hub.routings
        (.broker (.sendedMessage messageId chatId seq senderId messageType notify)),
          entry.gatewayId = route.gatewayId ∧ route.userId ∈ entry.event.recipients := by
      by_cases all : resolveFanoutStrategy chat.type chat.memberCount = .fanoutOnWrite
      · rw [all] at strategy
        exact dispatch_member attended.online admitted strategy rfl
          (by simp [RoutedEvent.excludeUserIds])
      · exact dispatch_subscribed stored attended.key ⟨published, ⟨_, strategy, all⟩, rfl⟩ canonical
          (by simp [RoutedEvent.excludeUserIds])
    obtain ⟨entry, inside, gateway, recipient⟩ := listed
    exact ⟨entry, List.mem_append_right _ inside, gateway, recipient, (of_dispatch inside).1⟩
  · cases stepped

theorem history_complete (read : Python.uuid? channel = some chatId)
    (steady : Steady chatId route row replayLimit start)
    (attended : Attended chatId route channel start)
    (rounds : Rounds route channel cursor start reads final) {last : Hub} {page : ReplayDTO}
    (ends : reads.getLast? = some (last, page)) {messageId : MessageId} {message : Message}
    (live : last.store.db.liveMessage? messageId = some message) (here : message.chatId = chatId)
    (later : cursor < message.seq) : (messageId, message.seq) ∈ historyOf reads := by
  obtain ⟨ordered, found⟩ := rounds_reads read rounds steady attended
  have distinct : ∀ marks ∈ reads.map fun seen => seen.1.store.db.marks chatId,
      (marks.map Prod.snd).Nodup := by
    intro marks member
    obtain ⟨seen, listed, rfl⟩ := List.mem_map.mp member
    exact marks_distinct (found seen listed).2.1
  have settled : (reads.map fun seen => seen.1.store.db.marks chatId).Pairwise
      (Paging.Settled Prod.snd) := by
    refine List.pairwise_map.mpr (ordered.imp_of_mem ?_)
    intro early late before after outlives
    exact settled_marks (found early before).2.1 (found late after).2.1 outlives
  have source : (reads.map fun seen => seen.1.store.db.marks chatId).getLast? =
      some (last.store.db.marks chatId) := by
    rw [List.getLast?_map, ends]
    rfl
  obtain ⟨present, kept⟩ := Option.filter_eq_some_iff.mp live
  simp only [Bool.not_eq_true'] at kept
  have used : message.seq ∈ last.store.db.seqs chatId :=
    (mem_seqs_iff _ _ _).mpr ⟨message, ((Table.find?_some_iff _ _ _).mp present).1, here, rfl⟩
  have first : 1 ≤ message.seq :=
    (((found _ (List.mem_of_getLast? ends)).2.1.exact _).mp used).1
  refine Paging.rounds_complete (rounds_paging read rounds steady attended) distinct settled source
    (mem_marks.mpr ⟨message, present, here, kept, rfl⟩) ?_
  simp only
  omega

/-- A client that spells the chat as `str` does has, at the end of its pages, every message there
is, and gets every message after them. -/
theorem served_canonical (known : (db.chat? chatId).isSome) (numbered : Numbered chatId db)
    (read : Python.uuid? channel = some chatId) (canonical : channel = Python.strUuid chatId)
    (positive : 0 < replayLimit) (connects : Connects db replayLimit route channel start)
    (rounds : Rounds route channel cursor start reads final) :
    Served chatId route channel cursor reads final := by
  have steady := steady_connects known numbered connects
  have attended : Attended chatId route channel start := attended_connects connects
  obtain ⟨_, found⟩ := rounds_reads read rounds steady attended
  obtain ⟨steadyEnd, attendedEnd, admitted, stored⟩ := rounds_end read rounds steady attended
  constructor
  · refine Paging.rounds_sorted (rounds_paging read rounds steady attended) ?_
    intro marks member
    obtain ⟨seen, listed, rfl⟩ := List.mem_map.mp member
    exact marks_distinct (found seen listed).2.1
  · intro last page ends messageId message live here later
    exact history_complete read steady attended rounds ends live here later
  · intro hub page member more
    obtain ⟨_, _, asked, whole⟩ := found (hub, page) member
    simp only at whole
    rw [whole, replay_hasMore] at more
    rw [whole, replay_nextLastSeq]
    exact Paging.cursor_lt_next positive more
  · intro later run
    exact (stored_reaches attendedEnd steadyEnd read stored admitted run).1
  · intro later routed messageId seq senderId messageType notify run live opened stepped
    obtain ⟨still, member⟩ := stored_reaches attendedEnd steadyEnd read stored admitted run
    exact message_routed (attended_reaches read steadyEnd attendedEnd run) canonical still member
      live opened stepped

end Served

section Runs

theorem reaches_of_allowed {Allowed : Step → Prop} {initial hub final : Hub} (steps : List Step)
    (allowed : ∀ step ∈ steps, Allowed step)
    (stepped : hub.steps (fun _ _ => true) steps = some final)
    (reached : Reaches (fun _ step => Allowed step) initial hub) :
    Reaches (fun _ step => Allowed step) initial final := by
  induction steps generalizing hub with
  | nil =>
      cases stepped
      exact reached
  | cons step rest ih =>
      simp only [Hub.steps, if_true] at stepped
      split at stepped
      · cases stepped
      · rename_i next moved
        exact ih (fun other member => allowed other (List.mem_cons_of_mem _ member)) stepped
          (.step reached (allowed step List.mem_cons_self) moved)

def chattedGroup : Db :=
  applyAll
    [.allocateMessageSeq 1 3 0,
      .insertMessage { id := 10, chatId := 1, seq := 1, authorId := some 1, content := some "a" },
      .insertMessage { id := 11, chatId := 1, seq := 2, authorId := some 1, content := some "b" },
      .insertMessage { id := 12, chatId := 1, seq := 3, authorId := some 1, content := some "c" }]
    emptyGroup

theorem chattedGroup_numbered : Numbered 1 chattedGroup := by
  have seqs : chattedGroup.seqs 1 = [1, 2, 3] := by decide +kernel
  have counter : chattedGroup.seqCounter 1 = 3 := by decide +kernel
  refine ⟨?_, fun seq => ?_⟩
  · rw [seqs]
    decide
  · rw [seqs, counter]
    simp only [List.mem_cons, List.not_mem_nil, or_false]
    omega

def askingFirst : List Step :=
  [.subscribe memberRoute (Python.strUuid 1) (some 0), .advance 0, .advance 0, .advance 0]

def askingSecond : List Step :=
  [Step.store (.start (deleteMessage { id := 1 } 5 1 11).void)] ++
    List.replicate 6 (Step.store (.exec 0)) ++
    [Step.resume memberRoute [(Python.strUuid 1, 1)], Step.advance 0, Step.advance 0,
      Step.advance 0]

theorem askingFirst_beside (hub : Hub) :
    ∀ step ∈ askingFirst, Beside memberRoute (Python.strUuid 1) hub step := by
  intro step member
  simp only [askingFirst, List.mem_cons, List.not_mem_nil, or_false] at member
  rcases member with rfl | rfl | rfl | rfl
  all_goals trivial

theorem askingSecond_beside (hub : Hub) :
    ∀ step ∈ askingSecond, Beside memberRoute (Python.strUuid 1) hub step := by
  intro step member
  simp only [askingSecond, List.mem_append, List.mem_cons, List.mem_replicate, List.not_mem_nil,
    or_false] at member
  rcases member with (rfl | ⟨_, rfl⟩) | rfl | rfl | rfl | rfl
  · exact MessagingCommand.deleteMessage _ _ _ _
  all_goals trivial

/-- The client reads two pages of one message, the message between them deleted meanwhile. -/
theorem served_two_pages : ∃ start reads final,
    Connects chattedGroup 1 memberRoute (Python.strUuid 1) start ∧
      Rounds memberRoute (Python.strUuid 1) 0 start reads final ∧
        Served 1 memberRoute (Python.strUuid 1) 0 reads final ∧
          historyOf reads = [(10, 1), (12, 3)] := by
  have outcome : ((idle chattedGroup 1).step (.register 7 2 1)).bind (fun start =>
      (start.steps (fun _ _ => true) askingFirst).bind fun before =>
        (before.step (.advance 0)).bind fun after =>
          (after.steps (fun _ _ => true) askingSecond).bind fun again =>
            (again.step (.advance 0)).map fun final => decide
              (before.calls = [⟨.subscribe, memberRoute, Python.strUuid 1, some 0, .stored⟩] ∧
                again.calls = [⟨.resume, memberRoute, Python.strUuid 1, some 1, .stored⟩] ∧
                after.sent = before.sent ++ [(memberRoute, Frame.history (Python.strUuid 1)
                  (before.store.db.replay 1 0 1))] ∧
                final.sent = again.sent ++ [(memberRoute, Frame.history (Python.strUuid 1)
                  (again.store.db.replay 1 1 1))] ∧
                (before.store.db.replay 1 0 1).hasMore = true ∧
                (before.store.db.replay 1 0 1).nextLastSeq = 1 ∧
                (again.store.db.replay 1 1 1).hasMore = false ∧
                (before.store.db.replay 1 0 1).marks ++ (again.store.db.replay 1 1 1).marks =
                  [(10, 1), (12, 3)])) = some true := by decide +kernel
  obtain ⟨start, registered, outcome⟩ := Option.bind_eq_some_iff.mp outcome
  obtain ⟨before, asked, outcome⟩ := Option.bind_eq_some_iff.mp outcome
  obtain ⟨after, first, outcome⟩ := Option.bind_eq_some_iff.mp outcome
  obtain ⟨again, askedAgain, outcome⟩ := Option.bind_eq_some_iff.mp outcome
  obtain ⟨final, second, outcome⟩ := Option.map_eq_some_iff.mp outcome
  obtain ⟨firstCall, secondCall, firstSent, secondSent, more, next, done, marks⟩ :=
    of_decide_eq_true outcome
  have connects : Connects chattedGroup 1 memberRoute (Python.strUuid 1) start :=
    ⟨_, .refl, registered, by simp [idle]⟩
  have firstPage : Replays memberRoute (Python.strUuid 1) 0 before
      (before.store.db.replay 1 0 1) after :=
    ⟨0, _, _, by rw [firstCall]; rfl, rfl, rfl, rfl, rfl, first, firstSent⟩
  have secondPage : Replays memberRoute (Python.strUuid 1)
      (before.store.db.replay 1 0 1).nextLastSeq again (again.store.db.replay 1 1 1) final := by
    rw [next]
    exact ⟨0, _, _, by rw [secondCall]; rfl, rfl, rfl, rfl, rfl, second, secondSent⟩
  have rounds : Rounds memberRoute (Python.strUuid 1) 0 start
      [(before, before.store.db.replay 1 0 1), (again, again.store.db.replay 1 1 1)] final :=
    .more (reaches_of_allowed askingFirst (askingFirst_beside start) asked .refl) firstPage more
      (.last (reaches_of_allowed askingSecond (askingSecond_beside start) askedAgain .refl)
        secondPage done)
  refine ⟨start, _, final, connects, rounds, ?_, ?_⟩
  · exact served_canonical (by decide +kernel) chattedGroup_numbered (by decide +kernel) rfl
      (by decide) connects rounds
  · rw [historyOf_cons, historyOf_cons, ← marks]
    exact congrArg _ (List.append_nil _)

def bareSpelling : String := "00000000000000000000000000000001"

def askingBare : List Step :=
  [.subscribe memberRoute bareSpelling (some 0), .advance 0, .advance 0, .advance 0]

def sendingOne : List Step :=
  [Step.store (.start (sendBy 1 10))] ++ List.replicate 8 (Step.store (.exec 0))

/-- A client that leaves the hyphens out reads to the end, and a message sent then is routed to
nobody. -/
theorem bare_spelling_unserved : Python.uuid? bareSpelling = some 1 ∧ ∃ start reads final,
    Connects supergroup 50 memberRoute bareSpelling start ∧
      Rounds memberRoute bareSpelling 0 start reads final ∧
        ¬ Served 1 memberRoute bareSpelling 0 reads final := by
  have outcome : ((idle supergroup 50).step (.register 7 2 1)).bind (fun start =>
      (start.steps (fun _ _ => true) askingBare).bind fun before =>
        (before.step (.advance 0)).bind fun final =>
          (final.steps (fun _ _ => true) sendingOne).bind fun later =>
            (later.step (.route (.broker (.sendedMessage 10 1 1 (some 1) .text true)))).map
              fun routed => decide
                (before.calls = [⟨.subscribe, memberRoute, bareSpelling, some 0, .stored⟩] ∧
                  final.sent = before.sent ++ [(memberRoute, Frame.history (Python.strUuid 1)
                    (before.store.db.replay 1 0 50))] ∧
                  (before.store.db.replay 1 0 50).hasMore = false ∧
                  (later.store.db.liveMessage? 10).isSome ∧ (later.store.db.openChat? 1).isSome ∧
                  routed.redis.streams = [])) = some true := by decide +kernel
  obtain ⟨start, registered, outcome⟩ := Option.bind_eq_some_iff.mp outcome
  obtain ⟨before, asked, outcome⟩ := Option.bind_eq_some_iff.mp outcome
  obtain ⟨final, read, outcome⟩ := Option.bind_eq_some_iff.mp outcome
  obtain ⟨later, sent, outcome⟩ := Option.bind_eq_some_iff.mp outcome
  obtain ⟨routed, stepped, outcome⟩ := Option.map_eq_some_iff.mp outcome
  obtain ⟨call, frames, done, live, opened, nothing⟩ := of_decide_eq_true outcome
  have asking : ∀ step ∈ askingBare, Beside memberRoute bareSpelling start step := by
    intro step member
    simp only [askingBare, List.mem_cons, List.not_mem_nil, or_false] at member
    rcases member with rfl | rfl | rfl | rfl
    all_goals trivial
  have sending : ∀ step ∈ sendingOne, Beside memberRoute bareSpelling start step := by
    intro step member
    simp only [sendingOne, List.mem_append, List.mem_singleton, List.mem_replicate] at member
    rcases member with rfl | ⟨_, rfl⟩
    · exact MessagingCommand.posting (.sendMessage _ _ _ _ _ _)
    · trivial
  have page : Replays memberRoute bareSpelling 0 before (before.store.db.replay 1 0 50) final :=
    ⟨0, _, _, by rw [call]; rfl, rfl, rfl, rfl, rfl, read, frames⟩
  refine ⟨by decide +kernel, start, [(before, before.store.db.replay 1 0 50)], final,
    ⟨_, .refl, registered, by simp [idle]⟩,
    .last (reaches_of_allowed askingBare asking asked .refl) page done, ?_⟩
  intro served
  obtain ⟨entry, member, _⟩ := served.routed later routed 10 1 (some 1) .text true
    (reaches_of_allowed sendingOne sending sent .refl) live opened stepped
  rw [nothing] at member
  cases member

end Runs

end Hub

end Messanger
