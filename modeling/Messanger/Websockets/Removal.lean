import Messanger.Websockets.Deliveries

/-!
What reaches the connections of a user who was kicked, banned or has left.  The router asks the
gateways for a subscription and not for a membership, and nothing drops the subscriptions of a
removed member: he is cut off only where he had none left.
-/

namespace Messanger

open Relational

namespace Hub

/-- The event of the user's removal from the chat has just been routed. -/
def RemovalRouted (initial : Hub) (userId : UserId) (chatId : ChatId) (removed : Hub) : Prop :=
  ∃ before event, Reaches (fun _ _ => True) initial before ∧
    event.removedMember? = some userId ∧ event.chatId = chatId ∧
      before.step (.route event) = some removed

/-- No connection of the user is subscribed to the channel of the chat, and no subscription of his
is between its membership check and its store. -/
structure Unsubscribed (userId : UserId) (chatId : ChatId) (hub : Hub) : Prop where
  conns : ∀ connectionId conn, hub.conn? connectionId = some conn → conn.userId = userId →
    Python.strUuid chatId ∉ conn.subscriptions
  calls : ∀ call ∈ hub.calls, call.conn.userId = userId → call.chatId = Python.strUuid chatId →
    call.stage ≠ .checked

/-- The user is no member of the chat or banned from it, and what is routed is not addressed to
him. -/
def Departed (userId : UserId) (chatId : ChatId) (hub : Hub) (step : Step) : Prop :=
  hub.admits userId chatId = false ∧
    ∀ event, step = .route event → event.chatId = chatId → userId ∉ event.addressed

variable {userId : UserId} {chatId : ChatId} {hub next : Hub} {step : Step}

theorem not_active (outside : hub.admits userId chatId = false) :
    userId ∉ hub.store.db.activeMembers hub.now chatId := by
  intro active
  obtain ⟨row, selected, rfl⟩ := List.mem_map.mp ((List.mem_insertionSort _).mp active)
  simp only [Table.select, List.mem_filter, Bool.and_eq_true, beq_iff_eq, Bool.not_eq_true']
    at selected
  obtain ⟨inside, rfl, free⟩ := selected
  have found : hub.store.db.member? row.chatId row.userId = some row :=
    (Table.mem_rows_iff _ row).mp inside
  simp only [admits, found, free] at outside
  cases outside

theorem unsubscribed_step (bounded : chatId < 2 ^ 128)
    (unsubscribed : Unsubscribed userId chatId hub)
    (departed : Departed userId chatId hub step) (stepped : hub.step step = some next) :
    Unsubscribed userId chatId next := by
  constructor
  · intro connectionId conn found own
    rcases step_conn stepped found with none | ⟨old, present, route, fewer | checked⟩
    · rw [none]
      exact List.not_mem_nil
    · have before : old.userId = userId := (congrArg Route.userId route).trans own
      exact fun subscribed => unsubscribed.conns _ old present before (fewer subscribed)
    · obtain ⟨call, member, stage, calls, more⟩ := checked
      have before : old.userId = userId := (congrArg Route.userId route).trans own
      rw [more, List.mem_insert_iff]
      rintro (here | subscribed)
      · refine unsubscribed.calls call member ?_ here.symm stage
        rw [calls]
        exact own
      · exact unsubscribed.conns _ old present before subscribed
  · intro call member own named checked
    rcases step_calls stepped member checked with old | ⟨admitted, read, admits⟩
    · exact unsubscribed.calls call old own named checked
    · rw [named, Python.uuid?_strUuid bounded] at read
      cases read
      rw [own, departed.1] at admits
      cases admits

structure Tagged (hub : Hub) : Prop where
  waiting : ∀ entry ∈ hub.redis.streams, entry.routing < hub.routings ∧
    entry.event.channel = Python.strUuid entry.event.payload.chatId
  sent : ∀ route entry, (route, .delivery entry) ∈ hub.sent → entry.routing < hub.routings

theorem tagged_step (tagged : Tagged hub) (stepped : hub.step step = some next) : Tagged next := by
  have grown := step_routings stepped
  constructor
  · intro entry member
    rcases step_streams stepped member with old | ⟨event, rfl, new⟩
    · have before := tagged.waiting entry old
      exact ⟨by omega, before.2⟩
    · have own := (of_dispatch new).1
      refine ⟨?_, ?_⟩
      · rw [own.routing, grown.2 event rfl]
        exact Nat.lt_succ_self _
      · rw [own.channel, own.payload]
  · intro route entry member
    rcases step_sent stepped member with old | ⟨waiting, _⟩
    · have before := tagged.sent route entry old
      omega
    · have before := (tagged.waiting entry waiting).1
      omega

theorem tagged_in_run {db : Db} {replayLimit : Nat} {Holds : Hub → Step → Prop} {final : Hub}
    (run : Reaches Holds (idle db replayLimit) final) : Tagged final := by
  induction run with
  | refl => exact ⟨by simp [idle], by simp [idle]⟩
  | step _ _ stepped ih => exact tagged_step ih stepped

/-- Of the routings from the given one on, nothing of the chat names the user without asking for a
subscription, and nothing has been delivered to him. -/
structure CutOff (userId : UserId) (chatId : ChatId) (routing : Nat) (hub : Hub) : Prop where
  waiting : ∀ entry ∈ hub.redis.streams, routing ≤ entry.routing →
    entry.event.payload.chatId = chatId → userId ∈ entry.event.recipients →
      entry.event.requireSubscription = true
  sent : ∀ route entry, (route, .delivery entry) ∈ hub.sent → routing ≤ entry.routing →
    entry.event.payload.chatId = chatId → route.userId ≠ userId

theorem cutOff_step {routing : Nat} (tagged : Tagged hub) (cut : CutOff userId chatId routing hub)
    (unsubscribed : Unsubscribed userId chatId hub)
    (departed : Departed userId chatId hub step) (stepped : hub.step step = some next) :
    CutOff userId chatId routing next := by
  constructor
  · intro entry member later here named
    rcases step_streams stepped member with old | ⟨event, rfl, new⟩
    · exact cut.waiting entry old later here named
    · obtain ⟨own, asked | listed⟩ := of_dispatch new
      · exact asked
      · rw [own.payload] at here
        rcases listed userId named with active | addressed
        · rw [here] at active
          exact absurd active (not_active departed.1)
        · exact absurd addressed (departed.2 event rfl here)
  · intro route entry member later here
    rcases step_sent stepped member with old | ⟨waiting, target⟩
    · exact cut.sent route entry old later here
    · obtain ⟨conn, inside, rfl, named, _, subscribed⟩ := mem_targets.mp target
      rintro rfl
      have asked := cut.waiting entry waiting later here named
      have held := subscribed asked
      rw [(tagged.waiting entry waiting).2, here] at held
      exact unsubscribed.conns _ conn ((Table.mem_rows_iff _ conn).mp inside) rfl held

/-- After a removal was routed nothing of the chat that is routed later reaches the user while he
is no member again, if he had no subscription left then and no event is addressed to him. -/
theorem removed_member_unreached {db : Db} {replayLimit : Nat} {removed final : Hub}
    (bounded : chatId < 2 ^ 128)
    (routed : RemovalRouted (idle db replayLimit) userId chatId removed)
    (unsubscribed : Unsubscribed userId chatId removed)
    (run : Reaches (Departed userId chatId) removed final) :
    ∀ route entry, (route, .delivery entry) ∈ final.sent → removed.routings ≤ entry.routing →
      entry.event.payload.chatId = chatId → route.userId ≠ userId := by
  obtain ⟨before, event, reached, _, _, stepped⟩ := routed
  have start := tagged_step (tagged_in_run reached) stepped
  suffices all : Tagged final ∧ Unsubscribed userId chatId final ∧
      CutOff userId chatId removed.routings final from all.2.2.sent
  induction run with
  | refl =>
      refine ⟨start, unsubscribed, fun entry member later => ?_, fun route entry member later => ?_⟩
      · have early := (start.waiting entry member).1
        omega
      · have early := start.sent route entry member
        omega
  | step _ departed moved ih =>
      obtain ⟨tagged, quiet, cut⟩ := ih
      exact ⟨tagged_step tagged moved, unsubscribed_step bounded quiet departed moved,
        cutOff_step tagged cut quiet departed moved⟩

section Runs

def departed (userId : UserId) (chatId : ChatId) (hub : Hub) (step : Step) : Bool :=
  !hub.admits userId chatId &&
    match step with
    | .route event => !(event.chatId == chatId && event.addressed.contains userId)
    | _ => true

theorem departed_sound (hub : Hub) (step : Step) (checked : departed userId chatId hub step = true) :
    Departed userId chatId hub step := by
  obtain ⟨outside, other⟩ := Bool.and_eq_true_iff.mp checked
  refine ⟨by simpa using outside, ?_⟩
  rintro event rfl here addressed
  simp [here, addressed] at other

def supergroup : Db :=
  applyAll
    [.insertChat { id := 1, type := .supergroup, createdBy := 1, memberCount := 2 },
      .insertMember 1 1 .owner, .insertMember 1 2 .member] {}

def memberRoute : Route := ⟨2, 1, 7⟩

def subscribing : List Step :=
  [.register 7 2 1, .subscribe memberRoute (Python.strUuid 1) none, .advance 0, .advance 0, .advance 0]

def kicking : List Step :=
  [Step.store (.start (kickMember { id := 1 } 5 1 2).void)] ++
    List.replicate 7 (Step.store (.exec 0))

def sendingLater : List Step :=
  [Step.process 0 true, Step.snapshot 1, Step.refresh, Step.snapshot 1, Step.refresh,
      Step.store (.start (sendMessage { id := 1 } 6 1 { content := some "hi" } none 10).void)] ++
    List.replicate 8 (Step.store (.exec 1)) ++
    [Step.route (.broker (.sendedMessage 10 1 1 (some 1) .text true))]

/-- The kicked member unsubscribed before he was kicked. -/
theorem removed_member_unreached_after_unsubscribe : ∃ removed final,
    RemovalRouted (idle supergroup 50) 2 1 removed ∧ Reaches (Departed 2 1) removed final ∧
      final.routings = removed.routings + 1 ∧
      ∀ route entry, (route, .delivery entry) ∈ final.sent → removed.routings ≤ entry.routing →
        entry.event.payload.chatId = 1 → route.userId ≠ 2 := by
  have outcome : ((idle supergroup 50).steps (fun _ _ => true)
      (subscribing ++ .unsubscribe memberRoute (Python.strUuid 1) :: kicking)).bind (fun before =>
        (before.step (.route (.broker (.kickedChatMember 1 1 2)))).bind fun removed =>
          (removed.steps (departed 2 1) sendingLater).map fun final =>
            (removed.connections.rows.map (·.subscriptions), removed.calls.isEmpty,
              decide (final.routings = removed.routings + 1))) =
                some ([[]], true, true) := by decide +kernel
  obtain ⟨before, reached, outcome⟩ := Option.bind_eq_some_iff.mp outcome
  obtain ⟨removed, routed, outcome⟩ := Option.bind_eq_some_iff.mp outcome
  obtain ⟨final, later, ends⟩ := Option.map_eq_some_iff.mp outcome
  simp only [Prod.mk.injEq, List.isEmpty_iff, decide_eq_true_eq] at ends
  have removal : RemovalRouted (idle supergroup 50) 2 1 removed :=
    ⟨before, _, reaches_of_steps (fun _ _ _ => trivial) _ .refl reached, rfl, rfl, routed⟩
  have run : Reaches (Departed 2 1) removed final :=
    reaches_of_steps departed_sound sendingLater .refl later
  refine ⟨removed, final, removal, run, ends.2.2,
    removed_member_unreached (by decide) removal ⟨?_, ?_⟩ run⟩
  · intro connectionId conn found _ subscribed
    have inside := ((Table.find?_some_iff _ _ _).mp found).1
    have none : conn.subscriptions ∈ removed.connections.rows.map (·.subscriptions) :=
      List.mem_map_of_mem inside
    rw [ends.1, List.mem_singleton] at none
    rw [none] at subscribed
    cases subscribed
  · intro call member
    rw [ends.2.1] at member
    cases member

def deliveredSince (routing : Nat) (hub : Hub) : List (Route × RoutedEvent) :=
  hub.sent.filterMap fun (route, frame) =>
    match frame with
    | .delivery entry => if routing ≤ entry.routing then some (route, entry.event.payload) else none
    | _ => none

/-- The subscription outlives the membership: the kicked member gets the next message. -/
theorem removed_member_reached : ∃ removed final,
    RemovalRouted (idle supergroup 50) 2 1 removed ∧ Reaches (Departed 2 1) removed final ∧
      ∃ entry, (memberRoute, .delivery entry) ∈ final.sent ∧ removed.routings ≤ entry.routing ∧
        entry.event.payload = .broker (.sendedMessage 10 1 1 (some 1) .text true) := by
  have outcome : ((idle supergroup 50).steps (fun _ _ => true) (subscribing ++ kicking)).bind
      (fun before => (before.step (.route (.broker (.kickedChatMember 1 1 2)))).bind fun removed =>
        (removed.steps (departed 2 1) (sendingLater ++ [.process 0 true, .process 0 true])).map
          (deliveredSince removed.routings)) =
            some [(memberRoute, .broker (.sendedMessage 10 1 1 (some 1) .text true))] := by
    decide +kernel
  obtain ⟨before, reached, outcome⟩ := Option.bind_eq_some_iff.mp outcome
  obtain ⟨removed, routed, outcome⟩ := Option.bind_eq_some_iff.mp outcome
  obtain ⟨final, later, delivered⟩ := Option.map_eq_some_iff.mp outcome
  refine ⟨removed, final,
    ⟨before, _, reaches_of_steps (fun _ _ _ => trivial) _ .refl reached, rfl, rfl, routed⟩,
    reaches_of_steps departed_sound _ .refl later, ?_⟩
  have member : (memberRoute, RoutedEvent.broker (.sendedMessage 10 1 1 (some 1) .text true)) ∈
      deliveredSince removed.routings final := by
    rw [delivered]
    exact List.mem_singleton_self _
  obtain ⟨⟨route, frame⟩, sent, shown⟩ := List.mem_filterMap.mp member
  cases frame with
  | delivery entry =>
      simp only [Option.ite_none_right_eq_some, Option.some.injEq, Prod.mk.injEq] at shown
      obtain ⟨since, rfl, payload⟩ := shown
      exact ⟨entry, sent, since, payload⟩
  | _ => cases shown

end Runs

end Hub

end Messanger
