import Messanger.Websockets.WebsocketsCore

/-!
Which users the entries of a routing name, which connections an entry reaches, and the runs of the
gateways.
-/

namespace Messanger

open Relational

section Entries

variable {Item : Type}

theorem flatten_chunksAfter (size : Nat) (batch items : List Item) :
    (chunksAfter size batch items).flatten = batch ++ items := by
  induction items generalizing batch with
  | nil =>
      rw [chunksAfter]
      split
      · rename_i empty
        rw [List.isEmpty_iff.mp empty]
        rfl
      · simp
  | cons item rest ih =>
      rw [chunksAfter]
      split
      · rw [List.flatten_cons, ih, List.nil_append, List.append_assoc, List.singleton_append]
      · rw [ih, List.append_assoc, List.singleton_append]

theorem mem_chunks {size : Nat} {items : List Item} {item : Item} :
    (∃ chunk ∈ chunks size items, item ∈ chunk) ↔ item ∈ items := by
  rw [← List.mem_flatten, chunks, flatten_chunksAfter, List.nil_append]

def RouteMap.Covers (routes : RouteMap) (gatewayId : GatewayId) (userId : UserId) : Prop :=
  ∃ users, (gatewayId, users) ∈ routes ∧ userId ∈ users

variable {gatewayId : GatewayId} {userId : UserId}

theorem covers_routesByGateway {routes : List Route} :
    (routesByGateway routes).Covers gatewayId userId ↔
      ∃ route ∈ routes, route.gatewayId = gatewayId ∧ route.userId = userId := by
  constructor
  · rintro ⟨users, listed, member⟩
    obtain ⟨_, _, same⟩ := List.mem_map.mp listed
    cases same
    obtain ⟨route, among, rfl⟩ := List.mem_map.mp (List.mem_eraseDups.mp member)
    obtain ⟨inside, here⟩ := List.mem_filter.mp among
    exact ⟨route, inside, beq_iff_eq.mp here, rfl⟩
  · rintro ⟨route, inside, rfl, rfl⟩
    refine ⟨_, List.mem_map.mpr ⟨route.gatewayId, ?_, rfl⟩, ?_⟩
    · exact List.mem_eraseDups.mpr (List.mem_map_of_mem inside)
    · refine List.mem_eraseDups.mpr (List.mem_map_of_mem (List.mem_filter.mpr ⟨inside, ?_⟩))
      exact beq_self_eq_true _

theorem covers_without {routes : RouteMap} {excluded : List UserId} :
    (routes.without excluded).Covers gatewayId userId ↔
      routes.Covers gatewayId userId ∧ userId ∉ excluded := by
  constructor
  · rintro ⟨users, listed, member⟩
    obtain ⟨mapped, _⟩ := List.mem_filter.mp listed
    obtain ⟨⟨_, all⟩, original, same⟩ := List.mem_map.mp mapped
    cases same
    obtain ⟨inside, kept⟩ := List.mem_filter.mp member
    exact ⟨⟨all, original, inside⟩, by simpa using kept⟩
  · rintro ⟨⟨users, listed, member⟩, kept⟩
    have stays : userId ∈ users.filter fun userId => !excluded.contains userId :=
      List.mem_filter.mpr ⟨member, by simpa using kept⟩
    refine ⟨_, List.mem_filter.mpr ⟨List.mem_map.mpr ⟨_, listed, rfl⟩, ?_⟩, stays⟩
    have some := List.ne_nil_of_mem stays
    simpa using some

variable {routing : Nat} {event : RoutedEvent} {required : Bool} {routes : RouteMap}
  {entry : StreamEntry}

structure StreamEntry.Of (entry : StreamEntry) (routing : Nat) (event : RoutedEvent) : Prop where
  routing : entry.routing = routing
  payload : entry.event.payload = event
  channel : entry.event.channel = Python.strUuid event.chatId
  expiresAt : entry.event.expiresAt = event.expiresAt

theorem of_gatewayDeliveries (member : entry ∈ gatewayDeliveries routing event required routes) :
    entry.Of routing event ∧ entry.event.requireSubscription = required ∧
      ∀ userId ∈ entry.event.recipients, routes.Covers entry.gatewayId userId := by
  obtain ⟨⟨gatewayId, users⟩, listed, inside⟩ := List.mem_flatMap.mp member
  obtain ⟨recipients, batch, rfl⟩ := List.mem_map.mp inside
  refine ⟨⟨rfl, rfl, rfl, rfl⟩, rfl, fun userId named => ⟨users, listed, ?_⟩⟩
  exact (List.mem_insertionSort _).mp (mem_chunks.mp ⟨recipients, batch, named⟩)

theorem gatewayDeliveries_cover (covers : routes.Covers gatewayId userId) :
    ∃ entry ∈ gatewayDeliveries routing event required routes,
      entry.gatewayId = gatewayId ∧ userId ∈ entry.event.recipients := by
  obtain ⟨users, listed, member⟩ := covers
  obtain ⟨batch, inside, named⟩ := mem_chunks.mpr ((List.mem_insertionSort (· ≤ ·)).mpr member)
  exact ⟨_, List.mem_flatMap.mpr ⟨_, listed, List.mem_map.mpr ⟨batch, inside, rfl⟩⟩, rfl, named⟩

theorem covers_online {redis : Redis} {users : List UserId} :
    (lookupOnlineRoutes redis users).Covers gatewayId userId ↔
      userId ∈ users ∧
        ∃ route ∈ redis.userRoutes, route.gatewayId = gatewayId ∧ route.userId = userId := by
  rw [lookupOnlineRoutes, covers_routesByGateway]
  constructor
  · rintro ⟨route, member, here, rfl⟩
    obtain ⟨inside, wanted⟩ := List.mem_filter.mp member
    exact ⟨List.contains_iff_mem.mp wanted, route, inside, here, rfl⟩
  · rintro ⟨wanted, route, inside, here, rfl⟩
    exact ⟨route, List.mem_filter.mpr ⟨inside, List.contains_iff_mem.mpr wanted⟩, here, rfl⟩

def RoutedEvent.addressed (event : RoutedEvent) : List UserId :=
  event.removedMember?.toList ++ event.joinRequest?.getD []

variable {db : Db} {now : Nat} {redis : Redis}

theorem active_of_staff {chatId : ChatId} (member : userId ∈ db.joinRequestStaff now chatId) :
    userId ∈ db.activeMembers now chatId := by
  obtain ⟨row, selected, rfl⟩ := List.mem_map.mp (List.mem_of_mem_take member)
  simp only [Table.select, List.mem_filter, Bool.and_eq_true] at selected
  refine (List.mem_insertionSort _).mpr (List.mem_map_of_mem (List.mem_filter.mpr ⟨selected.1, ?_⟩))
  simp only [selected.2.1.1.1, selected.2.1.1.2, Bool.and_self]

theorem of_dispatch (member : entry ∈ dispatch db now redis routing event) :
    entry.Of routing event ∧
      (entry.event.requireSubscription = true ∨ ∀ userId ∈ entry.event.recipients,
        userId ∈ db.activeMembers now event.chatId ∨ userId ∈ event.addressed) := by
  unfold dispatch at member
  split at member
  · cases member
  · rename_i strategy _
    split at member
    · rename_i applicants request
      obtain ⟨own, _, covered⟩ := of_gatewayDeliveries member
      refine ⟨own, .inr fun userId named => ?_⟩
      have listed := List.mem_eraseDups.mp (covers_online.mp (covered userId named)).1
      rcases List.mem_append.mp listed with staff | applicant
      · exact .inl (active_of_staff staff)
      · refine .inr (List.mem_append_right _ ?_)
        rwa [request]
    · rcases List.mem_append.mp member with personal | shared
      · rw [routeToRemovedMember] at personal
        split at personal
        · rename_i target removed
          obtain ⟨own, _, covered⟩ := of_gatewayDeliveries personal
          refine ⟨own, .inr fun userId named => .inr (List.mem_append_left _ ?_)⟩
          rw [List.mem_singleton.mp (covers_online.mp (covered userId named)).1, removed]
          exact List.mem_singleton_self _
        · cases personal
      · split at shared
        · obtain ⟨batch, inside, listed⟩ := List.mem_flatMap.mp shared
          obtain ⟨own, _, covered⟩ := of_gatewayDeliveries listed
          refine ⟨own, .inr fun userId named => .inl ?_⟩
          have kept := List.mem_filter.mp (covers_online.mp (covered userId named)).1
          exact mem_chunks.mp ⟨batch, inside, kept.1⟩
        · obtain ⟨routes, _, listed⟩ := List.mem_flatMap.mp shared
          obtain ⟨own, asked, _⟩ := of_gatewayDeliveries listed
          exact ⟨own, .inl asked⟩

end Entries

namespace Hub

/-- A run, each step meeting the condition in the state it is made in. -/
inductive Reaches (Holds : Hub → Step → Prop) (initial : Hub) : Hub → Prop
  | refl : Reaches Holds initial initial
  | step {hub next : Hub} {step : Step} : Reaches Holds initial hub → Holds hub step →
      hub.step step = some next → Reaches Holds initial next

/-- No connection is open, no command under way. -/
def idle (db : Db) (replayLimit : Nat) : Hub :=
  { replayLimit := replayLimit, store := System.idle db }

def steps (ok : Hub → Step → Bool) (hub : Hub) : List Step → Option Hub
  | [] => some hub
  | step :: rest =>
      if ok hub step then
        match hub.step step with
        | none => none
        | some next => next.steps ok rest
      else none

theorem reaches_of_steps {Holds : Hub → Step → Prop} {ok : Hub → Step → Bool}
    (sound : ∀ hub step, ok hub step = true → Holds hub step) (steps : List Step) :
    ∀ {initial hub final : Hub}, Reaches Holds initial hub → hub.steps ok steps = some final →
      Reaches Holds initial final := by
  induction steps with
  | nil =>
      intro initial hub final reached stepped
      cases stepped
      exact reached
  | cons step rest ih =>
      intro initial hub final reached stepped
      rw [Hub.steps] at stepped
      split at stepped
      · rename_i checked
        split at stepped
        · cases stepped
        · rename_i next moved
          exact ih (.step reached (sound hub step checked) moved) stepped
      · cases stepped

section Sending

variable {hub after : Hub} {route other : Route} {frame : Frame} {entry : StreamEntry}

theorem trySend_cases (hub : Hub) (route : Route) (frame : Frame) :
    hub.trySend route frame = hub ∨
      hub.trySend route frame =
        { hub.change route (fun conn => { conn with queued := conn.queued + 1 }) fun _ => rfl with
          sent := hub.sent ++ [(route, frame)] } := by
  unfold trySend
  split
  · exact .inl rfl
  · split
    · exact .inr rfl
    · exact .inl rfl

@[simp] theorem trySend_store : (hub.trySend route frame).store = hub.store := by
  rcases trySend_cases hub route frame with same | same
  · rw [same]
  · rw [same]; rfl

@[simp] theorem trySend_now : (hub.trySend route frame).now = hub.now := by
  rcases trySend_cases hub route frame with same | same
  · rw [same]
  · rw [same]; rfl

@[simp] theorem trySend_redis : (hub.trySend route frame).redis = hub.redis := by
  rcases trySend_cases hub route frame with same | same
  · rw [same]
  · rw [same]; rfl

@[simp] theorem trySend_calls : (hub.trySend route frame).calls = hub.calls := by
  rcases trySend_cases hub route frame with same | same
  · rw [same]
  · rw [same]; rfl

@[simp] theorem trySend_ticks : (hub.trySend route frame).ticks = hub.ticks := by
  rcases trySend_cases hub route frame with same | same
  · rw [same]
  · rw [same]; rfl

@[simp] theorem trySend_routings : (hub.trySend route frame).routings = hub.routings := by
  rcases trySend_cases hub route frame with same | same
  · rw [same]
  · rw [same]; rfl

@[simp] theorem trySend_replayLimit :
    (hub.trySend route frame).replayLimit = hub.replayLimit := by
  rcases trySend_cases hub route frame with same | same
  · rw [same]
  · rw [same]; rfl

theorem mem_sent_trySend {sent : Route × Frame} (member : sent ∈ (hub.trySend route frame).sent) :
    sent ∈ hub.sent ∨ sent = (route, frame) := by
  rcases trySend_cases hub route frame with same | same
  · rw [same] at member
    exact .inl member
  · rw [same] at member
    exact (List.mem_append.mp member).imp id List.mem_singleton.mp

theorem sent_trySend {sent : Route × Frame} (member : sent ∈ hub.sent) :
    sent ∈ (hub.trySend route frame).sent := by
  rcases trySend_cases hub route frame with same | same
  · rwa [same]
  · rw [same]
    exact List.mem_append_left _ member

theorem conn_change {amend : WSConnection → WSConnection}
    {keeps : ∀ conn, (amend conn).connectionId = conn.connectionId} (connectionId : ConnectionId) :
    (hub.change route amend keeps).conn? connectionId =
      (hub.conn? connectionId).map fun conn => if conn.route = route then amend conn else conn := by
  rw [conn?, change, Table.find?_update]
  simp only [decide_eq_true_eq]

theorem conn_trySend (connectionId : ConnectionId) :
    ∃ queued : WSConnection → Nat, (hub.trySend route frame).conn? connectionId =
      (hub.conn? connectionId).map fun conn => { conn with queued := queued conn } := by
  rcases trySend_cases hub route frame with same | same
  · refine ⟨(·.queued), ?_⟩
    rw [same]
    simp
  · refine ⟨fun conn => if conn.route = route then conn.queued + 1 else conn.queued, ?_⟩
    rw [same]
    have changed := @conn_change hub route (fun conn => { conn with queued := conn.queued + 1 })
      (fun _ => rfl) connectionId
    refine changed.trans (congrArg (fun amend => Option.map amend _) (funext fun conn => ?_))
    by_cases own : conn.route = route
    · simp only [if_pos own]
    · simp only [if_neg own]

theorem trySend_accepted {conn : WSConnection}
    (found : hub.conn? route.connectionId = some conn) (own : conn.route = route)
    (accepts : conn.accepts = true) : (route, frame) ∈ (hub.trySend route frame).sent := by
  rw [trySend, found]
  simp only [own, accepts, and_self, if_true]
  exact List.mem_append_right _ (List.mem_singleton_self _)

def sendAll (hub : Hub) (routes : List Route) (frame : Frame) : Hub :=
  routes.foldl (fun hub route => hub.trySend route frame) hub

structure Alike (before after : Hub) : Prop where
  store : after.store = before.store
  now : after.now = before.now
  redis : after.redis = before.redis
  calls : after.calls = before.calls
  ticks : after.ticks = before.ticks
  routings : after.routings = before.routings
  replayLimit : after.replayLimit = before.replayLimit
  conns : ∀ connectionId, ∃ queued : WSConnection → Nat, after.conn? connectionId =
    (before.conn? connectionId).map fun conn => { conn with queued := queued conn }
  sent : ∀ sent ∈ before.sent, sent ∈ after.sent

theorem Alike.refl (hub : Hub) : Alike hub hub :=
  ⟨rfl, rfl, rfl, rfl, rfl, rfl, rfl, fun _ => ⟨(·.queued), by simp⟩, fun _ member => member⟩

theorem Alike.trans {middle : Hub} (first : Alike hub middle) (second : Alike middle after) :
    Alike hub after where
  store := second.store.trans first.store
  now := second.now.trans first.now
  redis := second.redis.trans first.redis
  calls := second.calls.trans first.calls
  ticks := second.ticks.trans first.ticks
  routings := second.routings.trans first.routings
  replayLimit := second.replayLimit.trans first.replayLimit
  conns := by
    intro connectionId
    obtain ⟨early, old⟩ := first.conns connectionId
    obtain ⟨late, new⟩ := second.conns connectionId
    refine ⟨fun conn => late { conn with queued := early conn }, ?_⟩
    rw [new, old, Option.map_map]
    rfl
  sent := fun sent member => second.sent sent (first.sent sent member)

theorem alike_trySend (hub : Hub) (route : Route) (frame : Frame) :
    Alike hub (hub.trySend route frame) :=
  ⟨trySend_store, trySend_now, trySend_redis, trySend_calls, trySend_ticks, trySend_routings,
    trySend_replayLimit, conn_trySend, fun _ => sent_trySend⟩

theorem alike_sendAll (routes : List Route) (frame : Frame) (hub : Hub) :
    Alike hub (hub.sendAll routes frame) := by
  induction routes generalizing hub with
  | nil => exact .refl hub
  | cons route rest ih => exact (alike_trySend hub route frame).trans (ih _)

theorem mem_sent_sendAll {routes : List Route} {sent : Route × Frame}
    (member : sent ∈ (hub.sendAll routes frame).sent) :
    sent ∈ hub.sent ∨ ∃ route ∈ routes, sent = (route, frame) := by
  induction routes generalizing hub with
  | nil => exact .inl member
  | cons first rest ih =>
      rcases ih member with earlier | ⟨route, listed, same⟩
      · rcases mem_sent_trySend earlier with old | new
        · exact .inl old
        · exact .inr ⟨first, List.mem_cons_self, new⟩
      · exact .inr ⟨route, List.mem_cons_of_mem _ listed, same⟩

theorem sendAll_accepted {routes : List Route} {conn : WSConnection}
    (found : hub.conn? route.connectionId = some conn) (own : conn.route = route)
    (accepts : conn.accepts = true) (listed : route ∈ routes) :
    (route, frame) ∈ (hub.sendAll routes frame).sent := by
  induction routes generalizing hub with
  | nil => cases listed
  | cons first rest ih =>
      by_cases here : route = first
      · subst here
        exact (alike_sendAll rest frame _).sent _ (trySend_accepted found own accepts)
      · have later := (List.mem_cons.mp listed).resolve_left here
        suffices kept : (hub.trySend first frame).conn? route.connectionId = some conn from
          ih kept later
        rcases trySend_cases hub first frame with same | same
        · rwa [same]
        · rw [same]
          refine (@conn_change hub first (fun conn => { conn with queued := conn.queued + 1 })
            (fun _ => rfl) route.connectionId).trans ?_
          rw [found, Option.map_some, if_neg]
          rw [own]
          exact here

theorem deliver_cases (hub : Hub) (entry : StreamEntry) :
    hub.deliver entry = hub ∨ hub.deliver entry = hub.sendAll (hub.targets entry) (.delivery entry) := by
  unfold deliver
  split
  · exact .inl rfl
  · exact .inr rfl

theorem alike_deliver (hub : Hub) (entry : StreamEntry) : Alike hub (hub.deliver entry) := by
  rcases deliver_cases hub entry with same | same
  · rw [same]
    exact .refl hub
  · rw [same]
    exact alike_sendAll _ _ _

theorem mem_targets {entry : StreamEntry} :
    route ∈ hub.targets entry ↔ ∃ conn ∈ hub.connections.rows, conn.route = route ∧
      conn.userId ∈ entry.event.recipients ∧ conn.gatewayId = entry.gatewayId ∧
        (entry.event.requireSubscription = true → entry.event.channel ∈ conn.subscriptions) := by
  simp only [targets, List.mem_flatMap, List.mem_map, Table.select, List.mem_filter,
    Bool.and_eq_true, Bool.or_eq_true, Bool.not_eq_true', beq_iff_eq, List.contains_iff_mem]
  constructor
  · rintro ⟨userId, named, conn, ⟨inside, ⟨rfl, here⟩, subscribed⟩, own⟩
    refine ⟨conn, inside, own, named, here, fun asked => ?_⟩
    rcases subscribed with free | held
    · rw [asked] at free
      cases free
    · exact held
  · rintro ⟨conn, inside, own, named, here, subscribed⟩
    refine ⟨conn.userId, named, conn, ⟨inside, ⟨rfl, here⟩, ?_⟩, own⟩
    cases asked : entry.event.requireSubscription with
    | false => exact .inl rfl
    | true => exact .inr (subscribed asked)

theorem mem_sent_deliver {entry : StreamEntry} {sent : Route × Frame}
    (member : sent ∈ (hub.deliver entry).sent) :
    sent ∈ hub.sent ∨ ∃ route ∈ hub.targets entry, sent = (route, .delivery entry) := by
  rcases deliver_cases hub entry with same | same
  · rw [same] at member
    exact .inl member
  · rw [same] at member
    exact mem_sent_sendAll member

end Sending

section Inversion

variable {hub next : Hub} {step : Step}

theorem Alike.conn {after : Hub} {connectionId : ConnectionId} {conn : WSConnection}
    (alike : Alike hub after) (found : after.conn? connectionId = some conn) :
    ∃ old, hub.conn? connectionId = some old ∧ old.route = conn.route ∧
      old.subscriptions = conn.subscriptions := by
  obtain ⟨queued, same⟩ := alike.conns connectionId
  rw [same] at found
  obtain ⟨old, present, rfl⟩ := Option.map_eq_some_iff.mp found
  exact ⟨old, present, rfl, rfl⟩

theorem conn_of_change {route : Route} {amend : WSConnection → WSConnection}
    {keeps : ∀ conn, (amend conn).connectionId = conn.connectionId} {connectionId : ConnectionId}
    {conn : WSConnection} (found : (hub.change route amend keeps).conn? connectionId = some conn) :
    ∃ old, hub.conn? connectionId = some old ∧
      (conn = old ∨ (old.route = route ∧ conn = amend old)) := by
  rw [conn_change] at found
  obtain ⟨old, present, same⟩ := Option.map_eq_some_iff.mp found
  refine ⟨old, present, ?_⟩
  split at same
  · rename_i own
    exact .inr ⟨own, same.symm⟩
  · exact .inl same.symm

theorem conn_of_unregister {gone connectionId : ConnectionId} {conn : WSConnection}
    (found : (hub.unregister gone).conn? connectionId = some conn) :
    hub.conn? connectionId = some conn := by
  unfold unregister at found
  split at found
  · exact found
  · rw [conn?, Table.find?_delete] at found
    exact (Option.filter_eq_some_iff.mp found).1

theorem step_advance {index : Nat} (stepped : hub.step (.advance index) = some next) :
    ∃ call after rest, hub.calls[index]? = some call ∧ hub.advance call = (after, rest) ∧
      next = { after with calls :=
        match rest with
        | some call => hub.calls.set index call
        | none => hub.calls.eraseIdx index } := by
  simp only [Hub.step] at stepped
  split at stepped
  · cases stepped
  · rename_i call present
    split at stepped
    · rename_i after rest advanced
      cases stepped
      exact ⟨call, after, some rest, present, advanced, rfl⟩
    · rename_i after advanced
      cases stepped
      exact ⟨call, after, none, present, advanced, rfl⟩

theorem step_refresh (stepped : hub.step .refresh = some next) :
    ∃ found rest, hub.ticks = found :: rest ∧ next = { hub.refresh found with ticks := rest } := by
  simp only [Hub.step] at stepped
  split at stepped
  · cases stepped
  · rename_i found rest ticks
    cases stepped
    exact ⟨found, rest, ticks, rfl⟩

theorem step_process {index : Nat} {acknowledged : Bool}
    (stepped : hub.step (.process index acknowledged) = some next) :
    ∃ entry, hub.redis.streams[index]? = some entry ∧
      next = { hub.deliver entry with redis := { hub.redis with
        streams := if acknowledged then hub.redis.streams.eraseIdx index
          else hub.redis.streams } } := by
  simp only [Hub.step] at stepped
  split at stepped
  · cases stepped
  · rename_i entry present
    cases stepped
    exact ⟨entry, present, rfl⟩

theorem conn_of_refresh {found : WSConnection} {connectionId : ConnectionId} {conn : WSConnection}
    (present : (hub.refresh found).conn? connectionId = some conn) :
    hub.conn? connectionId = some conn := by
  unfold refresh at present
  split at present
  · exact present
  · split at present
    · exact conn_of_unregister present
    · exact present

/-- At most one frame is sent, and it delivers no entry. -/
def Answers (start : Hub) (route : Route) (after : Hub) : Prop :=
  after = start ∨ ∃ frame, (∀ entry, frame ≠ .delivery entry) ∧ after = start.trySend route frame

theorem Answers.alike {start after : Hub} {route : Route} (answers : Answers start route after) :
    Alike start after := by
  rcases answers with rfl | ⟨frame, _, rfl⟩
  · exact .refl after
  · exact alike_trySend start route frame

theorem advance_cases {call : ChatCall} {after : Hub} {rest : Option ChatCall}
    (advanced : hub.advance call = (after, rest)) :
    Answers hub call.conn after ∨
      (call.stage = .checked ∧ after = hub.change call.conn (fun conn =>
        { conn with subscriptions := conn.subscriptions.insert call.chatId }) fun _ => rfl) ∨
      (call.stage = .held ∧ Answers
        { hub with redis := hub.redis.addSubscription call.chatId call.conn } call.conn after) := by
  unfold advance at advanced
  split at advanced
  · left
    split at advanced
    · cases advanced
      exact .inl rfl
    · split at advanced
      · cases advanced
        exact .inl rfl
      · cases advanced
        exact .inr ⟨_, by simp, rfl⟩
  · rename_i stage
    cases advanced
    exact .inr (.inl ⟨stage, rfl⟩)
  · rename_i stage
    refine .inr (.inr ⟨stage, ?_⟩)
    split at advanced
    · cases advanced
      exact .inr ⟨_, by simp, rfl⟩
    · cases advanced
      exact .inr ⟨_, by simp, rfl⟩
    · cases advanced
      exact .inl rfl
  · left
    split at advanced
    · cases advanced
      exact .inr ⟨_, by simp, rfl⟩
    · cases advanced
      exact .inl rfl

theorem advance_conn {call : ChatCall} {after : Hub} {rest : Option ChatCall}
    (advanced : hub.advance call = (after, rest)) {connectionId : ConnectionId} {conn : WSConnection}
    (found : after.conn? connectionId = some conn) :
    ∃ old, hub.conn? connectionId = some old ∧ old.route = conn.route ∧
      (conn.subscriptions = old.subscriptions ∨ (call.stage = .checked ∧ call.conn = conn.route ∧
        conn.subscriptions = old.subscriptions.insert call.chatId)) := by
  rcases advance_cases advanced with answers | ⟨stage, rfl⟩ | ⟨_, answers⟩
  · obtain ⟨old, present, route, same⟩ := answers.alike.conn found
    exact ⟨old, present, route, .inl same.symm⟩
  · obtain ⟨old, present, rfl | ⟨own, rfl⟩⟩ := conn_of_change found
    · exact ⟨conn, present, rfl, .inl rfl⟩
    · exact ⟨old, present, rfl, .inr ⟨stage, own.symm, rfl⟩⟩
  · obtain ⟨old, present, route, same⟩ := answers.alike.conn found
    exact ⟨old, present, route, .inl same.symm⟩

theorem advance_rest {call rest : ChatCall} {after : Hub}
    (advanced : hub.advance call = (after, some rest)) :
    rest.conn = call.conn ∧ rest.chatId = call.chatId ∧ (rest.stage = .checked →
      ∃ chatId, Python.uuid? call.chatId = some chatId ∧
        hub.admits call.conn.userId chatId = true) := by
  unfold advance at advanced
  split at advanced
  · split at advanced
    · cases advanced
    · rename_i chatId read
      split at advanced
      · rename_i admitted
        cases advanced
        exact ⟨rfl, rfl, fun _ => ⟨chatId, read, admitted⟩⟩
      · cases advanced
  · cases advanced
    exact ⟨rfl, rfl, fun stage => by cases stage⟩
  · split at advanced
    · cases advanced
      exact ⟨rfl, rfl, fun stage => by cases stage⟩
    · simp only [Prod.mk.injEq] at advanced
      split at advanced
      · cases advanced.2
        exact ⟨rfl, rfl, fun stage => by cases stage⟩
      · cases advanced.2
    · cases advanced
  · split at advanced
    · cases advanced
    · cases advanced

theorem unregister_calls (connectionId : ConnectionId) :
    (hub.unregister connectionId).calls = hub.calls := by
  unfold unregister
  split
  · rfl
  · rfl

theorem refresh_calls (found : WSConnection) : (hub.refresh found).calls = hub.calls := by
  unfold refresh
  split
  · rfl
  · split
    · exact unregister_calls _
    · rfl

structure Quiet (before after : Hub) : Prop where
  streams : after.redis.streams = before.redis.streams
  routings : after.routings = before.routings
  now : before.now ≤ after.now
  kept : ∀ sent ∈ before.sent, sent ∈ after.sent
  fresh : ∀ sent ∈ after.sent, sent ∈ before.sent ∨ ∀ entry, sent.2 ≠ .delivery entry

theorem quiet_trySend {start : Hub} {route : Route} {frame : Frame}
    (other : ∀ entry, frame ≠ .delivery entry) (streams : start.redis.streams = hub.redis.streams)
    (routings : start.routings = hub.routings) (now : start.now = hub.now)
    (sent : start.sent = hub.sent) : Quiet hub (start.trySend route frame) where
  streams := by rw [trySend_redis, streams]
  routings := by rw [trySend_routings, routings]
  now := by rw [trySend_now, now]
  kept := fun _ member => sent_trySend (sent ▸ member)
  fresh := by
    intro pair member
    rcases mem_sent_trySend member with old | rfl
    · exact .inl (sent ▸ old)
    · exact .inr other

theorem quiet_same {after : Hub} (streams : after.redis.streams = hub.redis.streams)
    (routings : after.routings = hub.routings) (now : hub.now ≤ after.now)
    (sent : after.sent = hub.sent) : Quiet hub after :=
  ⟨streams, routings, now, fun _ member => sent ▸ member, fun _ member => .inl (sent ▸ member)⟩

theorem quiet_advance {call : ChatCall} {after : Hub} {rest : Option ChatCall}
    (advanced : hub.advance call = (after, rest)) : Quiet hub after := by
  rcases advance_cases advanced with (rfl | ⟨frame, other, rfl⟩) | ⟨_, rfl⟩ |
    ⟨_, rfl | ⟨frame, other, rfl⟩⟩
  · exact quiet_same rfl rfl (Nat.le_refl _) rfl
  · exact quiet_trySend other rfl rfl rfl rfl
  · exact quiet_same rfl rfl (Nat.le_refl _) rfl
  · exact quiet_same rfl rfl (Nat.le_refl _) rfl
  · exact quiet_trySend other rfl rfl rfl rfl

theorem quiet_unregister (connectionId : ConnectionId) : Quiet hub (hub.unregister connectionId) := by
  unfold unregister
  split
  · exact quiet_same rfl rfl (Nat.le_refl _) rfl
  · exact quiet_same rfl rfl (Nat.le_refl _) rfl

theorem quiet_refresh (found : WSConnection) : Quiet hub (hub.refresh found) := by
  have added : ∀ (channels : List String) (redis : Redis),
      (channels.foldl (fun redis channel => redis.addSubscription channel found.route)
        redis).streams = redis.streams := by
    intro channels
    induction channels with
    | nil => exact fun _ => rfl
    | cons channel rest ih => exact fun redis => ih _
  unfold refresh
  split
  · exact quiet_same rfl rfl (Nat.le_refl _) rfl
  · split
    · exact quiet_unregister _
    · exact quiet_same (added _ _) rfl (Nat.le_refl _) rfl

theorem step_cases (stepped : hub.step step = some next) : Quiet hub next ∨
    (∃ event, step = .route event ∧ next = { hub with
      redis := { hub.redis with
        streams := hub.redis.streams ++ dispatch hub.store.db hub.now hub.redis hub.routings event }
      routings := hub.routings + 1 }) ∨
    ∃ index acknowledged entry, step = .process index acknowledged ∧
      hub.redis.streams[index]? = some entry ∧ next = { hub.deliver entry with
        redis := { hub.redis with
          streams := if acknowledged then hub.redis.streams.eraseIdx index
            else hub.redis.streams } } := by
  have same : Quiet hub hub := quiet_same rfl rfl (Nat.le_refl _) rfl
  cases step with
  | store label =>
      simp only [Hub.step] at stepped
      split at stepped
      · cases stepped
      · cases stepped
        exact .inl ⟨same.streams, same.routings, same.now, same.kept, same.fresh⟩
  | register connectionId userId gatewayId =>
      simp only [Hub.step] at stepped
      split at stepped
      · cases stepped
      · cases stepped
        exact .inl (quiet_same rfl rfl (Nat.le_refl _) rfl)
  | wait duration =>
      cases stepped
      exact .inl (quiet_same rfl rfl (Nat.le_add_right _ _) rfl)
  | unregister connectionId =>
      cases stepped
      exact .inl (quiet_unregister connectionId)
  | resume other cursors =>
      simp only [Hub.step] at stepped
      split at stepped
      · cases stepped
        exact .inl (quiet_trySend (by simp) rfl rfl rfl rfl)
      · cases stepped
        exact .inl (quiet_same rfl rfl (Nat.le_refl _) rfl)
  | advance index =>
      obtain ⟨call, after, rest, _, advanced, rfl⟩ := step_advance stepped
      have quiet := quiet_advance advanced
      exact .inl ⟨quiet.streams, quiet.routings, quiet.now, quiet.kept, quiet.fresh⟩
  | unsubscribe other chatId =>
      cases stepped
      exact .inl (quiet_trySend (by simp) rfl rfl rfl rfl)
  | refresh =>
      obtain ⟨found, rest, _, rfl⟩ := step_refresh stepped
      have quiet := @quiet_refresh hub found
      exact .inl ⟨quiet.streams, quiet.routings, quiet.now, quiet.kept, quiet.fresh⟩
  | route event =>
      simp only [Hub.step] at stepped
      split at stepped
      · cases stepped
        exact .inr (.inl ⟨event, rfl, rfl⟩)
      · cases stepped
  | process index acknowledged =>
      obtain ⟨entry, present, same⟩ := step_process stepped
      exact .inr (.inr ⟨index, acknowledged, entry, rfl, present, same⟩)
  | _ =>
      cases stepped
      exact .inl (quiet_same rfl rfl (Nat.le_refl _) rfl)

theorem step_streams (stepped : hub.step step = some next) {entry : StreamEntry}
    (member : entry ∈ next.redis.streams) : entry ∈ hub.redis.streams ∨
      ∃ event, step = .route event ∧
        entry ∈ dispatch hub.store.db hub.now hub.redis hub.routings event := by
  obtain quiet | ⟨event, rfl, rfl⟩ | ⟨index, acknowledged, processed, rfl, _, rfl⟩ :=
    step_cases stepped
  · exact .inl (quiet.streams ▸ member)
  · rcases List.mem_append.mp member with old | new
    · exact .inl old
    · exact .inr ⟨event, rfl, new⟩
  · simp only at member
    split at member
    · exact .inl (List.mem_of_mem_eraseIdx member)
    · exact .inl member

theorem step_sent (stepped : hub.step step = some next) {route : Route} {entry : StreamEntry}
    (member : (route, .delivery entry) ∈ next.sent) : (route, .delivery entry) ∈ hub.sent ∨
      (entry ∈ hub.redis.streams ∧ route ∈ hub.targets entry) := by
  obtain quiet | ⟨event, rfl, rfl⟩ | ⟨index, acknowledged, processed, rfl, present, rfl⟩ :=
    step_cases stepped
  · rcases quiet.fresh _ member with old | other
    · exact .inl old
    · exact absurd rfl (other entry)
  · exact .inl member
  · rcases mem_sent_deliver member with old | ⟨target, listed, same⟩
    · exact .inl old
    · cases same
      exact .inr ⟨List.mem_of_getElem? present, listed⟩

theorem step_kept (stepped : hub.step step = some next) {sent : Route × Frame}
    (member : sent ∈ hub.sent) : sent ∈ next.sent := by
  obtain quiet | ⟨event, rfl, rfl⟩ | ⟨index, acknowledged, processed, rfl, _, rfl⟩ :=
    step_cases stepped
  · exact quiet.kept sent member
  · exact member
  · exact (alike_deliver hub processed).sent sent member

theorem step_now (stepped : hub.step step = some next) : hub.now ≤ next.now := by
  obtain quiet | ⟨event, rfl, rfl⟩ | ⟨index, acknowledged, processed, rfl, _, rfl⟩ :=
    step_cases stepped
  · exact quiet.now
  · exact Nat.le_refl _
  · exact (alike_deliver hub processed).now.ge

theorem step_routings (stepped : hub.step step = some next) :
    hub.routings ≤ next.routings ∧ ∀ event, step = .route event →
      next.routings = hub.routings + 1 := by
  obtain quiet | ⟨event, rfl, rfl⟩ | ⟨index, acknowledged, processed, rfl, _, rfl⟩ :=
    step_cases stepped
  · refine ⟨quiet.routings.ge, ?_⟩
    rintro event rfl
    simp only [Hub.step] at stepped
    split at stepped
    · cases stepped
      rfl
    · cases stepped
  · exact ⟨Nat.le_succ _, fun _ _ => rfl⟩
  · refine ⟨(alike_deliver hub processed).routings.ge, ?_⟩
    rintro event same
    cases same

theorem step_conn (stepped : hub.step step = some next) {connectionId : ConnectionId}
    {conn : WSConnection} (found : next.conn? connectionId = some conn) :
    conn.subscriptions = [] ∨ ∃ old, hub.conn? connectionId = some old ∧ old.route = conn.route ∧
      (conn.subscriptions ⊆ old.subscriptions ∨ ∃ call ∈ hub.calls, call.stage = .checked ∧
        call.conn = conn.route ∧ conn.subscriptions = old.subscriptions.insert call.chatId) := by
  have same : hub.conn? connectionId = some conn → ∃ old, hub.conn? connectionId = some old ∧
      old.route = conn.route ∧ (conn.subscriptions ⊆ old.subscriptions ∨ ∃ call ∈ hub.calls,
        call.stage = .checked ∧ call.conn = conn.route ∧
          conn.subscriptions = old.subscriptions.insert call.chatId) :=
    fun present => ⟨conn, present, rfl, .inl (List.Subset.refl _)⟩
  have quiet : ∀ {middle : Hub}, Alike middle next →
      (∀ other, middle.conn? connectionId = some other → ∃ old, hub.conn? connectionId = some old ∧
        old.route = other.route ∧ other.subscriptions ⊆ old.subscriptions) →
      ∃ old, hub.conn? connectionId = some old ∧
        old.route = conn.route ∧ (conn.subscriptions ⊆ old.subscriptions ∨ ∃ call ∈ hub.calls,
          call.stage = .checked ∧ call.conn = conn.route ∧
            conn.subscriptions = old.subscriptions.insert call.chatId) := by
    intro middle alike earlier
    obtain ⟨other, present, route, shared⟩ := alike.conn found
    obtain ⟨old, before, sameRoute, fewer⟩ := earlier other present
    exact ⟨old, before, sameRoute.trans route, .inl (shared ▸ fewer)⟩
  have stays : ∀ other, hub.conn? connectionId = some other → ∃ old,
      hub.conn? connectionId = some old ∧ old.route = other.route ∧
        other.subscriptions ⊆ old.subscriptions :=
    fun other present => ⟨other, present, rfl, List.Subset.refl _⟩
  cases step with
  | store label =>
      simp only [Hub.step] at stepped
      split at stepped
      · cases stepped
      · cases stepped
        exact .inr (same found)
  | register fresh userId gatewayId =>
      simp only [Hub.step] at stepped
      split at stepped
      · cases stepped
      · cases stepped
        rw [conn?, Table.find?_insert] at found
        rcases Option.or_eq_some_iff.mp found with present | ⟨_, new⟩
        · exact .inr (same present)
        · split at new
          · cases new
            exact .inl rfl
          · cases new
  | unregister gone =>
      cases stepped
      exact .inr (same (conn_of_unregister found))
  | close route =>
      cases stepped
      obtain ⟨old, present, rfl | ⟨_, rfl⟩⟩ := conn_of_change found
      · exact .inr (same present)
      · exact .inr ⟨old, present, rfl, .inl (List.Subset.refl _)⟩
  | drain route =>
      cases stepped
      obtain ⟨old, present, rfl | ⟨_, rfl⟩⟩ := conn_of_change found
      · exact .inr (same present)
      · exact .inr ⟨old, present, rfl, .inl (List.Subset.refl _)⟩
  | resume other cursors =>
      simp only [Hub.step] at stepped
      split at stepped
      · cases stepped
        exact .inr (quiet (alike_trySend _ _ _) stays)
      · cases stepped
        exact .inr (same found)
  | advance index =>
      obtain ⟨call, after, rest, present, advanced, rfl⟩ := step_advance stepped
      obtain ⟨old, before, route, fewer | ⟨stage, own, more⟩⟩ := advance_conn advanced found
      · exact .inr ⟨old, before, route, .inl (by rw [fewer]; exact List.Subset.refl _)⟩
      · exact .inr ⟨old, before, route,
          .inr ⟨call, List.mem_of_getElem? present, stage, own, more⟩⟩
  | unsubscribe route chatId =>
      cases stepped
      refine .inr (quiet (alike_trySend _ _ _) fun other present => ?_)
      have changed : (hub.change route (fun conn => { conn with
          subscriptions := conn.subscriptions.filter (· ≠ chatId) }) fun _ => rfl).conn?
            connectionId = some other := present
      obtain ⟨old, before, rfl | ⟨_, rfl⟩⟩ := conn_of_change changed
      · exact ⟨other, before, rfl, List.Subset.refl _⟩
      · exact ⟨old, before, rfl, fun _ member => (List.mem_filter.mp member).1⟩
  | refresh =>
      obtain ⟨ticked, rest, _, rfl⟩ := step_refresh stepped
      exact .inr (same (conn_of_refresh found))
  | route event =>
      simp only [Hub.step] at stepped
      split at stepped
      · cases stepped
        exact .inr (same found)
      · cases stepped
  | process index acknowledged =>
      obtain ⟨processed, _, rfl⟩ := step_process stepped
      obtain ⟨old, before, route, shared⟩ := (alike_deliver hub processed).conn found
      exact .inr ⟨old, before, route, .inl (by rw [shared]; exact List.Subset.refl _)⟩
  | _ =>
      cases stepped
      exact .inr (same found)

theorem step_call (stepped : hub.step step = some next) {call : ChatCall}
    (member : call ∈ next.calls) : call ∈ hub.calls ∨ call.stage = .asked ∨
      ∃ old ∈ hub.calls, ∃ after, hub.advance old = (after, some call) ∧
        after.redis = next.redis := by
  cases step with
  | store label =>
      simp only [Hub.step] at stepped
      split at stepped
      · cases stepped
      · cases stepped
        exact .inl member
  | register fresh userId gatewayId =>
      simp only [Hub.step] at stepped
      split at stepped
      · cases stepped
      · cases stepped
        exact .inl member
  | unregister gone =>
      cases stepped
      exact .inl (unregister_calls gone ▸ member)
  | subscribe route chatId lastSeq =>
      cases stepped
      rcases List.mem_append.mp member with old | new
      · exact .inl old
      · rw [List.mem_singleton.mp new]
        exact .inr (.inl rfl)
  | resume other cursors =>
      simp only [Hub.step] at stepped
      split at stepped
      · cases stepped
        rw [trySend_calls] at member
        exact .inl member
      · cases stepped
        rcases List.mem_append.mp member with old | new
        · exact .inl old
        · obtain ⟨_, _, rfl⟩ := List.mem_map.mp new
          exact .inr (.inl rfl)
  | advance index =>
      obtain ⟨pending, after, rest, present, advanced, rfl⟩ := step_advance stepped
      cases rest with
      | none => exact .inl (List.mem_of_mem_eraseIdx member)
      | some rest =>
          rcases List.mem_or_eq_of_mem_set member with old | rfl
          · exact .inl old
          · exact .inr (.inr ⟨pending, List.mem_of_getElem? present, after, advanced, rfl⟩)
  | unsubscribe route chatId =>
      cases stepped
      rw [trySend_calls] at member
      exact .inl member
  | refresh =>
      obtain ⟨found, rest, _, rfl⟩ := step_refresh stepped
      exact .inl (refresh_calls found ▸ member)
  | route event =>
      simp only [Hub.step] at stepped
      split at stepped
      · cases stepped
        exact .inl member
      · cases stepped
  | process index acknowledged =>
      obtain ⟨processed, _, rfl⟩ := step_process stepped
      have calls := (alike_deliver hub processed).calls
      exact .inl (by rwa [← calls])
  | _ =>
      cases stepped
      exact .inl member

theorem step_calls (stepped : hub.step step = some next) {call : ChatCall}
    (member : call ∈ next.calls) (checked : call.stage = .checked) : call ∈ hub.calls ∨
      ∃ chatId, Python.uuid? call.chatId = some chatId ∧
        hub.admits call.conn.userId chatId = true := by
  rcases step_call stepped member with old | asked | ⟨before, _, after, advanced, _⟩
  · exact .inl old
  · rw [asked] at checked
    cases checked
  · obtain ⟨conn, chatId, admitted⟩ := advance_rest advanced
    rw [conn, chatId]
    exact .inr (admitted checked)

end Inversion

end Hub

end Messanger
