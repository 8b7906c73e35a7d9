import Messanger.Websockets.Deliveries

/-!
Which events a subscription brings to its connection.  A subscription is stored under the spelling
the client chose, and the router looks under the one `str` writes.
-/

namespace Messanger

open Relational

namespace Hub

/-- The connection is alive with room in its queue, and subscribed to the channel in its memory
and in Redis. -/
structure Subscribed (route : Route) (channel : String) (hub : Hub) : Prop where
  conn : ∃ conn, hub.conn? route.connectionId = some conn ∧ conn.route = route ∧
    conn.accepts = true ∧ channel ∈ conn.subscriptions
  key : route.connectionId ∈ hub.redis.connectionKeys
  stored : (channel, route) ∈ hub.redis.activeSubscriptions

/-- The call for the spelling passed its check, was stored and answered with `ws.subscribed`. -/
def Accepted (initial : Hub) (route : Route) (spelling : String) (subscribed : Hub) : Prop :=
  ∃ before index call shown, Reaches (fun _ _ => True) initial before ∧
    before.calls[index]? = some call ∧ call.stage = .held ∧ call.conn = route ∧
      call.chatId = spelling ∧ before.step (.advance index) = some subscribed ∧
        (route, .subscribed shown call.lastSeq) ∈ subscribed.sent

structure ToSubscribers (event : RoutedEvent) (hub : Hub) : Prop where
  published : event.published hub.store.db = true
  strategy : ∃ strategy, fanoutStrategy? hub.store.db event = some strategy ∧
    strategy ≠ .fanoutOnWrite
  shared : event.joinRequest? = none

def Taken (gatewayId : GatewayId) (routing : Nat) (hub : Hub) : Prop :=
  ∀ entry ∈ hub.redis.streams, entry.gatewayId = gatewayId → entry.routing ≠ routing

/-- Every later event of the chat that is routed to its subscribers while the connection is alive
and subscribed as it asked for reaches the connection. -/
def DeliversLater (spelling : String) (chatId : ChatId) : Prop :=
  ∀ db replayLimit route subscribed before routed final event,
    Accepted (idle db replayLimit) route spelling subscribed →
    Reaches (fun hub _ => hub.Subscribed route spelling) subscribed before →
    before.Subscribed route spelling → before.ToSubscribers event → event.chatId = chatId →
    route.userId ∉ event.excludeUserIds → before.step (.route event) = some routed →
    Reaches (fun hub _ => hub.Subscribed route spelling) routed final →
    (∀ limit, event.expiresAt = some limit → final.now < limit) →
    final.Taken route.gatewayId before.routings →
      ∃ entry, (route, .delivery entry) ∈ final.sent ∧ entry.routing = before.routings ∧
        entry.event.payload = event

section Canonical

variable {hub next : Hub} {step : Step} {route : Route} {channel : String} {event : RoutedEvent}

theorem covers_subscribers {redis : Redis} (stored : (channel, route) ∈ redis.activeSubscriptions)
    (key : route.connectionId ∈ redis.connectionKeys) :
    ∃ routes ∈ activeSubscriberRoutes redis channel,
      routes.Covers route.gatewayId route.userId := by
  have listed : route ∈ (redis.activeSubscriptions.filter (·.1 == channel)).map (·.2) := by
    refine List.mem_map.mpr ⟨(channel, route), List.mem_filter.mpr ⟨stored, ?_⟩, rfl⟩
    exact beq_self_eq_true _
  obtain ⟨batch, inside, member⟩ := mem_chunks.mpr listed
  refine ⟨_, List.mem_map_of_mem inside, covers_routesByGateway.mpr ⟨route, ?_, rfl, rfl⟩⟩
  exact List.mem_filter.mpr ⟨member, List.contains_iff_mem.mpr key⟩

theorem dispatch_subscribed {routing : Nat}
    (stored : (channel, route) ∈ hub.redis.activeSubscriptions)
    (key : route.connectionId ∈ hub.redis.connectionKeys)
    (shared : hub.ToSubscribers event) (named : channel = Python.strUuid event.chatId)
    (wanted : route.userId ∉ event.excludeUserIds) :
    ∃ entry ∈ dispatch hub.store.db hub.now hub.redis routing event,
      entry.gatewayId = route.gatewayId ∧ route.userId ∈ entry.event.recipients := by
  obtain ⟨strategy, found, spread⟩ := shared.strategy
  obtain ⟨routes, listed, covers⟩ := covers_subscribers stored key
  obtain ⟨entry, member, here, recipient⟩ :=
    @gatewayDeliveries_cover route.gatewayId route.userId routing event true _
      (covers_without.mpr ⟨covers, wanted⟩)
  refine ⟨entry, ?_, here, recipient⟩
  rw [dispatch, found]
  simp only [shared.shared, if_neg spread]
  refine List.mem_append_right _ (List.mem_flatMap.mpr ⟨routes, ?_, member⟩)
  rwa [← named]

theorem deliver_subscribed {entry : StreamEntry} (subscribed : hub.Subscribed route channel)
    (here : entry.gatewayId = route.gatewayId) (named : route.userId ∈ entry.event.recipients)
    (channels : entry.event.channel = channel)
    (current : ∀ limit, entry.event.expiresAt = some limit → hub.now < limit) :
    (route, .delivery entry) ∈ (hub.deliver entry).sent := by
  obtain ⟨conn, found, own, accepts, held⟩ := subscribed.conn
  have target : route ∈ hub.targets entry := by
    refine mem_targets.mpr ⟨conn, ((Table.find?_some_iff _ _ _).mp found).1, own, ?_, ?_, ?_⟩
    · rw [← own] at named
      exact named
    · rw [here, ← own]
      rfl
    · exact fun _ => channels ▸ held
  have fresh : (entry.event.expiresAt.any fun limit => decide (limit ≤ hub.now)) = false := by
    cases limited : entry.event.expiresAt with
    | none => rfl
    | some limit =>
        have later := current limit limited
        simp only [Option.any_some, decide_eq_false_iff_not]
        omega
  rw [deliver, fresh]
  exact sendAll_accepted found own accepts target

def OnItsWay (route : Route) (event : RoutedEvent) (routing : Nat) (hub : Hub) : Prop :=
  (∃ entry ∈ hub.redis.streams, entry.gatewayId = route.gatewayId ∧
      route.userId ∈ entry.event.recipients ∧ entry.Of routing event) ∨
    ∃ entry, (route, .delivery entry) ∈ hub.sent ∧ entry.Of routing event

theorem onItsWay_step {routing : Nat} (way : OnItsWay route event routing hub)
    (subscribed : hub.Subscribed route channel) (named : channel = Python.strUuid event.chatId)
    (current : ∀ limit, event.expiresAt = some limit → hub.now < limit)
    (stepped : hub.step step = some next) : OnItsWay route event routing next := by
  rcases way with ⟨entry, member, here, recipient, own⟩ | ⟨entry, sent, own⟩
  · obtain quiet | ⟨other, rfl, rfl⟩ | ⟨index, acknowledged, processed, rfl, present, rfl⟩ :=
      step_cases stepped
    · exact .inl ⟨entry, quiet.streams ▸ member, here, recipient, own⟩
    · exact .inl ⟨entry, List.mem_append_left _ member, here, recipient, own⟩
    · rcases mem_or_mem_eraseIdx present member with rfl | kept
      · refine .inr ⟨entry, ?_, own⟩
        refine deliver_subscribed subscribed here recipient (own.channel.trans named.symm) ?_
        rw [own.expiresAt]
        exact current
      · refine .inl ⟨entry, ?_, here, recipient, own⟩
        simp only
        split
        · exact kept
        · exact member
  · exact .inr ⟨entry, step_kept stepped sent, own⟩

theorem delivers_canonical {chatId : ChatId} : DeliversLater (Python.strUuid chatId) chatId := by
  intro db replayLimit route subscribed before routed final event _ _ alive shared here wanted
    stepped run current taken
  have start : OnItsWay route event before.routings routed := by
    obtain ⟨entry, member, gateway, recipient⟩ :=
      @dispatch_subscribed before route (Python.strUuid chatId) event before.routings alive.stored
        alive.key shared (by rw [here]) wanted
    refine .inl ⟨entry, ?_, gateway, recipient, (of_dispatch member).1⟩
    simp only [Hub.step, shared.published, if_true] at stepped
    cases stepped
    exact List.mem_append_right _ member
  have way : OnItsWay route event before.routings final := by
    clear taken
    induction run with
    | refl => exact start
    | @step hub next label _ still moved ih =>
        have early : ∀ limit, event.expiresAt = some limit → hub.now < limit := fun limit limited =>
          Nat.lt_of_le_of_lt (step_now moved) (current limit limited)
        exact onItsWay_step (ih early) still (by rw [here]) early moved
  rcases way with ⟨entry, member, gateway, _, own⟩ | ⟨entry, sent, own⟩
  · exact absurd own.routing (taken entry member gateway)
  · exact ⟨entry, sent, own.routing, own.payload⟩

end Canonical

section OtherSpelling

variable {spelling : String} {chatId : ChatId}

def ownedSupergroup (chatId : ChatId) : Db :=
  applyAll
    [.insertChat { id := chatId, type := .supergroup, createdBy := 1, memberCount := 1 },
      .insertMember chatId 1 .owner, .publish [.updatedChat chatId 1]] {}

theorem ownedSupergroup_member :
    (ownedSupergroup chatId).member? chatId 1 =
      some { id := 1, chatId := chatId, userId := 1, roleId := .owner } := by
  simp [ownedSupergroup, applyAll_cons, applyAll_nil, Db.apply_eq, Db.apply, Db.member?,
    Table.find?_insert, ChatMember.key]

theorem ownedSupergroup_open : (ownedSupergroup chatId).openChat? chatId =
    some { id := chatId, type := .supergroup, createdBy := 1, memberCount := 1 } := by
  simp [ownedSupergroup, applyAll_cons, applyAll_nil, Db.apply_eq, Db.apply, Db.openChat?,
    Db.chat?, Table.find?_insert]

theorem ownedSupergroup_strategy : fanoutStrategy? (ownedSupergroup chatId)
    (.broker (.updatedChat chatId 1)) = some .activeSubscribers := by
  simp only [fanoutStrategy?, ChatEvent.chatId, ownedSupergroup_open]
  rfl

def ownerRoute : Route := ⟨1, 1, 7⟩

def ownerCall (spelling : String) (stage : CallStage) : ChatCall :=
  { kind := .subscribe, conn := ownerRoute, chatId := spelling, lastSeq := none, stage := stage }

def ownerHub (chatId : ChatId) (subscriptions : List String) (calls : List ChatCall)
    (stored : List (String × Route)) : Hub :=
  { store := System.idle (ownedSupergroup chatId)
    connections := Table.empty.insert
      { connectionId := 7, userId := 1, gatewayId := 1, subscriptions := subscriptions }
    redis := { activeSubscriptions := stored, connectionKeys := [7], userRoutes := [ownerRoute] }
    calls := calls }

def ownerAnswered (spelling : String) (chatId : ChatId) : Hub :=
  { (ownerHub chatId [spelling] [] [(spelling, ownerRoute)]).trySend ownerRoute
      (.subscribed (Python.strUuid chatId) none) with calls := [] }

theorem ownerAnswered_conn : (ownerAnswered spelling chatId).conn? 7 = some
    { connectionId := 7, userId := 1, gatewayId := 1, subscriptions := [spelling], queued := 1 } := by
  rfl

theorem ownerAnswered_accepted (read : Python.uuid? spelling = some chatId) :
    Accepted (idle (ownedSupergroup chatId) 50) ownerRoute spelling
      (ownerAnswered spelling chatId) := by
  have registered : (idle (ownedSupergroup chatId) 50).step (.register 7 1 1) =
      some (ownerHub chatId [] [] []) := rfl
  have asked : (ownerHub chatId [] [] []).step (.subscribe ownerRoute spelling none) =
      some (ownerHub chatId [] [ownerCall spelling .asked] []) := rfl
  have checked : (ownerHub chatId [] [ownerCall spelling .asked] []).step (.advance 0) =
      some (ownerHub chatId [] [ownerCall spelling .checked] []) := by
    have admitted : (ownerHub chatId [] [ownerCall spelling .asked] []).admits 1 chatId = true := by
      simp only [admits, ownerHub, System.idle, ownedSupergroup_member]
      rfl
    have advanced : (ownerHub chatId [] [ownerCall spelling .asked] []).advance
        (ownerCall spelling .asked) = (ownerHub chatId [] [ownerCall spelling .asked] [],
          some (ownerCall spelling .checked)) := by
      simp only [advance, ownerCall, read]
      exact if_pos admitted
    have first : (ownerHub chatId [] [ownerCall spelling .asked] []).calls[0]? =
        some (ownerCall spelling .asked) := rfl
    simp only [Hub.step, first, advanced]
    rfl
  have held : (ownerHub chatId [] [ownerCall spelling .checked] []).step (.advance 0) =
      some (ownerHub chatId [spelling] [ownerCall spelling .held] []) := rfl
  refine ⟨ownerHub chatId [spelling] [ownerCall spelling .held] [], 0, ownerCall spelling .held,
    Python.strUuid chatId, ?_, rfl, rfl, rfl, rfl, ?_, ?_⟩
  · exact (((Reaches.refl.step trivial registered).step trivial asked).step trivial checked).step
      trivial held
  · simp only [Hub.step, advance, ownerHub, ownerCall, List.getElem?_cons_zero, read]
    rfl
  · exact List.mem_singleton_self _

theorem ownerAnswered_subscribed :
    (ownerAnswered spelling chatId).Subscribed ownerRoute spelling where
  conn := ⟨_, ownerAnswered_conn, rfl, rfl, List.mem_singleton_self _⟩
  key := List.mem_singleton_self _
  stored := List.mem_singleton_self _

theorem other_spelling_unreached (read : Python.uuid? spelling = some chatId)
    (other : spelling ≠ Python.strUuid chatId) : ¬ DeliversLater spelling chatId := by
  intro delivers
  have nothing : dispatch (ownerAnswered spelling chatId).store.db
      (ownerAnswered spelling chatId).now (ownerAnswered spelling chatId).redis
      (ownerAnswered spelling chatId).routings (.broker (.updatedChat chatId 1)) = [] := by
    have subscribers : activeSubscriberRoutes (ownerAnswered spelling chatId).redis
        (Python.strUuid chatId) = [] := by
      have stored : (ownerAnswered spelling chatId).redis.activeSubscriptions =
          [(spelling, ownerRoute)] := rfl
      rw [activeSubscriberRoutes, stored, List.filter_cons_of_neg]
      · rfl
      · simpa using other
    have store : (ownerAnswered spelling chatId).store.db = ownedSupergroup chatId := rfl
    rw [store, dispatch, ownedSupergroup_strategy]
    simp only [RoutedEvent.joinRequest?, routeToRemovedMember, RoutedEvent.removedMember?,
      routeToActiveSubscribers, RoutedEvent.chatId, ChatEvent.chatId, subscribers]
    rfl
  have published : RoutedEvent.published (ownedSupergroup chatId)
      (.broker (.updatedChat chatId 1)) = true := by
    simp [RoutedEvent.published, ownedSupergroup, applyAll_cons, applyAll_nil, Db.apply_eq, Db.apply]
  have spread : fanoutStrategy? (ownerAnswered spelling chatId).store.db
      (.broker (.updatedChat chatId 1)) = some .activeSubscribers := ownedSupergroup_strategy
  have routed : (ownerAnswered spelling chatId).step (.route (.broker (.updatedChat chatId 1))) =
      some { ownerAnswered spelling chatId with routings := 1 } := by
    rw [Hub.step, if_pos, nothing]
    · rfl
    · exact published
  have taken : Taken 1 0 { ownerAnswered spelling chatId with routings := 1 } := by
    intro entry member
    cases member
  obtain ⟨entry, sent, _⟩ := delivers (ownedSupergroup chatId) 50 ownerRoute
    (ownerAnswered spelling chatId) (ownerAnswered spelling chatId)
    { ownerAnswered spelling chatId with routings := 1 }
    { ownerAnswered spelling chatId with routings := 1 } (.broker (.updatedChat chatId 1))
    (ownerAnswered_accepted read) .refl ownerAnswered_subscribed
    ⟨published, ⟨.activeSubscribers, spread, by decide⟩, rfl⟩ rfl
    (by simp [RoutedEvent.excludeUserIds]) routed .refl (by simp [RoutedEvent.expiresAt]) taken
  have only : (ownerAnswered spelling chatId).sent =
      [(ownerRoute, .subscribed (Python.strUuid chatId) none)] := rfl
  simp only [only, List.mem_singleton] at sent
  cases sent

end OtherSpelling

/-- A spelling that is accepted brings the later events of its chat to the connection if and only
if it is the one `str` writes. -/
theorem delivers_iff_canonical {spelling : String} {chatId : ChatId}
    (read : Python.uuid? spelling = some chatId) :
    DeliversLater spelling chatId ↔ spelling = Python.strUuid chatId := by
  constructor
  · intro delivers
    by_contra other
    exact other_spelling_unreached read other delivers
  · rintro rfl
    exact delivers_canonical

theorem delivers_lower_case : DeliversLater "00000000-0000-0000-0000-0000000000ab" 0xab :=
  (delivers_iff_canonical (by decide +kernel)).mpr (by decide +kernel)

/-- The same identifier in upper case and without hyphens. -/
theorem upper_case_unreached :
    Python.uuid? "000000000000000000000000000000AB" = some 0xab ∧
      ¬ DeliversLater "000000000000000000000000000000AB" 0xab := by
  have read : Python.uuid? "000000000000000000000000000000AB" = some 0xab := by decide +kernel
  exact ⟨read, other_spelling_unreached read (by decide +kernel)⟩

end Hub

end Messanger
