import Messanger.Library.Gather
import Messanger.Library.Slices
import Messanger.Websockets.WebsocketsCore

/-!
The entries of a gateway stream, batch by batch.  The entries of a batch are processed together,
each as a task that offers its event to its connections, 1,024 of them at a time; the event loop
runs what is ready in the order in which it became ready.
-/

namespace Messanger

open Relational

namespace Gateway

/-- The connections of a gateway in memory.  `connectionsByUser` are the sets, walked in an order
that does not change while they do not. -/
structure ConnectionManager where
  connectionsById : Table WSConnection ConnectionId WSConnection.connectionId
  connectionsByUser : UserId → List ConnectionId
  distinct : ∀ userId, (connectionsByUser userId).Nodup
  registered : ∀ userId connectionId, connectionId ∈ connectionsByUser userId ↔
    ∃ conn, connectionsById.find? connectionId = some conn ∧ conn.userId = userId

/-- An entry of the stream; none is a field `event` that does not validate. -/
structure GatewayEntry where
  messageId : Nat
  event : Option DeliveryDTO
  deriving DecidableEq, Repr

def localSendBatchSize : Nat := 1024

section Processing

variable (manager : ConnectionManager) (now : Nat)

/-- A connection the event is for. -/
def wanted (event : DeliveryDTO) (conn : WSConnection) : Bool :=
  !event.requireSubscription || conn.subscriptions.contains event.channel

/-- The connections `send_to_users_local` picks. -/
def conns (event : DeliveryDTO) : List ConnectionId :=
  event.recipients.flatMap fun userId =>
    (manager.connectionsByUser userId).filter fun connectionId =>
      (manager.connectionsById.find? connectionId).any (wanted event)

/-- The sends of `_process_gateway_stream_entry`, batch after batch; an entry that is not valid
fails before the first of them. -/
def sends (entry : GatewayEntry) : List (List ConnectionId) :=
  match entry.event with
  | none => []
  | some event =>
      if event.expiresAt.any fun limit => decide (limit ≤ now) then []
      else Python.slices localSendBatchSize (conns manager event)

end Processing

/-- The entries `_process_entries` is given, and what holds while it runs. -/
structure Batch where
  manager : ConnectionManager
  now : Nat
  entries : List GatewayEntry

namespace Batch

variable (batch : Batch)

def jobs : List (List (List ConnectionId)) :=
  batch.entries.map (sends batch.manager batch.now)

/-- The event loop when the tasks of the entries have been created. -/
def start : Gather.Loop ConnectionId := .start batch.jobs

def put (loop : Gather.Loop ConnectionId) (connectionId : ConnectionId) : List GatewayEntry :=
  loop.log.filterMap fun sent => if sent.2 = connectionId then batch.entries[sent.1]? else none

/-- The entries acknowledged: none before the gather over the entries has ended, and then all that
did not fail. -/
def acknowledged (loop : Gather.Loop ConnectionId) : List GatewayEntry :=
  if loop.finished then batch.entries.filter fun entry => entry.event.isSome else []

end Batch

def names (manager : ConnectionManager) (connectionId : ConnectionId) (entry : GatewayEntry) :
    Bool :=
  match entry.event, manager.connectionsById.find? connectionId with
  | some event, some conn => event.recipients.contains conn.userId && wanted event conn
  | _, _ => false

/-- Batches processed one after the other, each to the end of its event loop. -/
def Consumed (batches : List Batch) (finals : List (Gather.Loop ConnectionId)) : Prop :=
  List.Forall₂ (fun batch final => Gather.Ends batch.jobs final) batches finals

/-- What a connection finds in its send queue. -/
def queue (batches : List Batch) (finals : List (Gather.Loop ConnectionId))
    (connectionId : ConnectionId) : List GatewayEntry :=
  (batches.zip finals).flatMap fun processed => processed.1.put processed.2 connectionId

/-- The entries of the stream for a connection. -/
def addressed (batches : List Batch) (connectionId : ConnectionId) : List GatewayEntry :=
  batches.flatMap fun batch => batch.entries.filter (names batch.manager connectionId)

/-- No entry is acknowledged before it was offered to all the connections it names. -/
def AcknowledgedLast (batch : Batch) : Prop :=
  ∀ count entry connectionId, entry ∈ batch.acknowledged (batch.start.after count) →
    names batch.manager connectionId entry = true →
      entry ∈ batch.put (batch.start.after count) connectionId

def sendNumber (manager : ConnectionManager) (connectionId : ConnectionId) (entry : GatewayEntry) :
    Nat :=
  match entry.event with
  | none => 0
  | some event =>
      (Python.slices localSendBatchSize (conns manager event)).findIdx (·.contains connectionId)

/-- No recipient with a connection is listed twice, and no connection is part of a later send of
an earlier entry. -/
structure InStep (batch : Batch) : Prop where
  once : ∀ entry ∈ batch.entries, ∀ event, entry.event = some event →
    ∀ connectionId conn, batch.manager.connectionsById.find? connectionId = some conn →
      names batch.manager connectionId entry = true → event.recipients.count conn.userId = 1
  ordered : batch.entries.Pairwise fun earlier later => ∀ connectionId,
    names batch.manager connectionId earlier = true →
      names batch.manager connectionId later = true →
        sendNumber batch.manager connectionId earlier ≤ sendNumber batch.manager connectionId later

variable {manager : ConnectionManager} {now : Nat} {connectionId : ConnectionId}
  {event : DeliveryDTO} {batch : Batch}

section Sends

theorem count_conns {conn : WSConnection}
    (found : manager.connectionsById.find? connectionId = some conn) :
    (conns manager event).count connectionId =
      if wanted event conn then event.recipients.count conn.userId else 0 := by
  rw [conns]
  induction event.recipients with
  | nil => simp
  | cons userId others ih =>
      rw [List.flatMap_cons, List.count_append, ih]
      have own : connectionId ∈ manager.connectionsByUser userId ↔ conn.userId = userId := by
        rw [manager.registered]
        constructor
        · rintro ⟨other, same, user⟩
          cases found.symm.trans same
          exact user
        · exact fun user => ⟨conn, found, user⟩
      have kept : ((manager.connectionsByUser userId).filter fun connectionId =>
          (manager.connectionsById.find? connectionId).any (wanted event)).count connectionId =
            if wanted event conn = true ∧ conn.userId = userId then 1 else 0 := by
        rw [List.Nodup.count ((manager.distinct userId).filter _)]
        simp [List.mem_filter, found, own, and_comm]
      rw [kept]
      by_cases picked : wanted event conn = true
      · by_cases here : conn.userId = userId
        · simp [picked, here]
          omega
        · simp [picked, here, Ne.symm here]
      · simp [picked]

theorem count_conns_none (absent : manager.connectionsById.find? connectionId = none) :
    (conns manager event).count connectionId = 0 := by
  refine List.count_eq_zero.mpr fun member => ?_
  obtain ⟨userId, _, inside⟩ := List.mem_flatMap.mp member
  simp [absent] at inside

theorem flatten_sends {entry : GatewayEntry} (valid : entry.event = some event)
    (live : event.expiresAt.any (fun limit => decide (limit ≤ now)) = false) :
    (sends manager now entry).flatten = conns manager event := by
  simp only [sends, valid, live, Bool.false_eq_true, if_false]
  exact Python.flatten_slices (by decide) _

theorem count_sends {entry : GatewayEntry} (valid : entry.event = some event)
    (live : event.expiresAt.any (fun limit => decide (limit ≤ now)) = false) {conn : WSConnection}
    (found : manager.connectionsById.find? connectionId = some conn) :
    (sends manager now entry).flatten.count connectionId =
      if names manager connectionId entry then event.recipients.count conn.userId else 0 := by
  rw [flatten_sends valid live, count_conns found]
  simp only [names, valid, found]
  by_cases listed : conn.userId ∈ event.recipients
  · simp [listed]
  · simp [listed, List.count_eq_zero.mpr listed]

theorem count_sends_unnamed {entry : GatewayEntry} (valid : entry.event = some event)
    (live : event.expiresAt.any (fun limit => decide (limit ≤ now)) = false)
    (unnamed : names manager connectionId entry = false) :
    (sends manager now entry).flatten.count connectionId = 0 := by
  cases found : manager.connectionsById.find? connectionId with
  | none => rw [flatten_sends valid live, count_conns_none found]
  | some conn => rw [count_sends valid live found, unnamed, if_neg Bool.false_ne_true]

theorem nil_not_mem_sends (entry : GatewayEntry) : [] ∉ sends manager now entry := by
  unfold sends
  split
  · exact List.not_mem_nil
  · split
    · exact List.not_mem_nil
    · exact Python.nil_not_mem_slices (by decide) _

end Sends

section Puts

variable {rounds : Nat} {loop : Gather.Loop ConnectionId}

theorem put_order (log : loop.log = Gather.order batch.jobs rounds) :
    batch.put loop connectionId = (List.range rounds).flatMap fun number =>
      batch.entries.flatMap fun entry => List.replicate
        (((sends batch.manager batch.now entry)[number]?.getD []).count connectionId) entry := by
  have copies : ∀ (id : Nat) (entry : GatewayEntry) (sent : List ConnectionId),
      batch.entries[id]? = some entry →
        (sent.map (Prod.mk id)).filterMap (fun sent =>
          if sent.2 = connectionId then batch.entries[sent.1]? else none) =
            List.replicate (sent.count connectionId) entry := by
    intro id entry sent here
    induction sent with
    | nil => rfl
    | cons other others ih =>
        rw [List.map_cons, List.count_cons]
        by_cases same : other = connectionId
        · rw [List.filterMap_cons_some (b := entry) (by rw [if_pos same, here]), ih]
          simp [same, List.replicate_succ]
        · rw [List.filterMap_cons_none (by rw [if_neg same]), ih]
          simp [same]
  rw [Batch.put, log, Gather.order, List.filterMap_flatMap]
  refine List.flatMap_congr fun number _ => ?_
  rw [Gather.layer, List.filterMap_flatMap, ← Python.flatMap_positions batch.entries, Batch.jobs,
    List.length_map]
  refine List.flatMap_congr fun id inside => ?_
  rw [List.getElem?_map]
  cases here : batch.entries[id]? with
  | none => rfl
  | some entry => exact copies id entry _ here

/-- The entries of a batch are valid and not expired. -/
def Batch.Valid (batch : Batch) : Prop :=
  ∀ entry ∈ batch.entries, ∃ event, entry.event = some event ∧
    event.expiresAt.any (fun limit => decide (limit ≤ batch.now)) = false

theorem count_put (distinct : batch.entries.Nodup) (log : loop.log = Gather.order batch.jobs rounds)
    (short : ∀ job ∈ batch.jobs, job.length ≤ rounds) {entry : GatewayEntry}
    (member : entry ∈ batch.entries) : (batch.put loop connectionId).count entry =
      (sends batch.manager batch.now entry).flatten.count connectionId := by
  rw [put_order log, List.count_flatMap,
    ← Python.flatten_positions _ (short _ (List.mem_map.mpr ⟨entry, member, rfl⟩)), List.count_flatMap]
  refine congrArg List.sum (List.map_congr_left fun number _ => ?_)
  exact Python.count_copies distinct _ member

theorem put_buckets (valid : batch.Valid) (log : loop.log = Gather.order batch.jobs rounds)
    (once : ∀ entry ∈ batch.entries, names batch.manager connectionId entry = true →
      (sends batch.manager batch.now entry).flatten.count connectionId = 1) :
    batch.put loop connectionId = Buckets.read (sendNumber batch.manager connectionId)
      (batch.entries.filter (names batch.manager connectionId)) rounds := by
  rw [put_order log, Buckets.read]
  refine List.flatMap_congr fun number _ => ?_
  rw [List.filter_filter]
  refine Python.copies_filter _ _ _ fun entry member => ?_
  obtain ⟨event, known, live⟩ := valid entry member
  cases named : names batch.manager connectionId entry with
  | true =>
      rw [Python.count_part _ _ (once entry member named), Bool.and_true]
      simp only [sends, known, live, Bool.false_eq_true, if_false, sendNumber, decide_eq_true_eq]
      exact if_congr eq_comm rfl rfl
  | false =>
      have none := count_sends_unnamed known live named
      rw [Bool.and_false, if_neg Bool.false_ne_true]
      refine List.count_eq_zero.mpr fun inside => List.count_eq_zero.mp none ?_
      cases found : (sends batch.manager batch.now entry)[number]? with
      | none =>
          rw [found] at inside
          cases inside
      | some part =>
          rw [found] at inside
          exact List.mem_flatten.mpr ⟨part, List.mem_of_getElem? found, inside⟩

theorem put_iff (valid : batch.Valid) (distinct : batch.entries.Nodup)
    (log : loop.log = Gather.order batch.jobs rounds)
    (short : ∀ job ∈ batch.jobs, job.length ≤ rounds) :
    (∀ connectionId, batch.put loop connectionId =
      batch.entries.filter (names batch.manager connectionId)) ↔ InStep batch := by
  have single : ∀ entry ∈ batch.entries, ∀ connectionId,
      names batch.manager connectionId entry = true →
        ∃ event conn, entry.event = some event ∧
          batch.manager.connectionsById.find? connectionId = some conn ∧
          (sends batch.manager batch.now entry).flatten.count connectionId =
            event.recipients.count conn.userId := by
    intro entry member connectionId named
    obtain ⟨event, known, live⟩ := valid entry member
    cases found : batch.manager.connectionsById.find? connectionId with
    | none => simp [names, known, found] at named
    | some conn => exact ⟨event, conn, known, rfl, by rw [count_sends known live found, if_pos named]⟩
  have numbered : ∀ connectionId, ∀ entry ∈ batch.entries.filter
      (names batch.manager connectionId),
      (sends batch.manager batch.now entry).flatten.count connectionId = 1 →
        sendNumber batch.manager connectionId entry < rounds := by
    intro connectionId entry member once
    have listed := (List.mem_filter.mp member).1
    obtain ⟨event, known, live⟩ := valid entry listed
    refine lt_of_lt_of_le ?_ (short _ (List.mem_map.mpr ⟨entry, listed, rfl⟩))
    obtain ⟨part, inside, here⟩ := List.mem_flatten.mp (List.count_pos_iff.mp
      (once ▸ Nat.one_pos : 0 < (sends batch.manager batch.now entry).flatten.count connectionId))
    simp only [sends, known, live, Bool.false_eq_true, if_false, sendNumber] at inside ⊢
    exact List.findIdx_lt_length_of_exists ⟨part, inside, List.contains_iff_mem.mpr here⟩
  constructor
  · intro delivered
    have once : ∀ connectionId, ∀ entry ∈ batch.entries,
        names batch.manager connectionId entry = true →
          (sends batch.manager batch.now entry).flatten.count connectionId = 1 := by
      intro connectionId entry member named
      rw [← count_put distinct log short member, delivered connectionId,
        List.Nodup.count (distinct.filter _), if_pos (List.mem_filter.mpr ⟨member, named⟩)]
    refine ⟨fun entry member event known connectionId conn found named => ?_, ?_⟩
    · obtain ⟨other, own, same, here, counted⟩ := single entry member connectionId named
      cases known.symm.trans same
      cases found.symm.trans here
      rw [← counted]
      exact once connectionId entry member named
    · have risen : ∀ connectionId, batch.entries.Pairwise fun earlier later =>
          names batch.manager connectionId earlier = true →
            names batch.manager connectionId later = true →
              sendNumber batch.manager connectionId earlier ≤
                sendNumber batch.manager connectionId later := by
        intro connectionId
        refine List.pairwise_filter.mp ((Buckets.read_eq_iff fun entry member =>
          numbered connectionId entry member (once connectionId entry (List.mem_filter.mp member).1
            (List.mem_filter.mp member).2)).mp ?_)
        rw [← put_buckets valid log (once connectionId), delivered connectionId]
      rw [List.pairwise_iff_getElem]
      exact fun i j first second before connectionId =>
        List.pairwise_iff_getElem.mp (risen connectionId) i j first second before
  · intro inStep connectionId
    have once : ∀ entry ∈ batch.entries, names batch.manager connectionId entry = true →
        (sends batch.manager batch.now entry).flatten.count connectionId = 1 := by
      intro entry member named
      obtain ⟨event, conn, known, found, counted⟩ := single entry member connectionId named
      rw [counted]
      exact inStep.once entry member event known connectionId conn found named
    rw [put_buckets valid log once]
    refine (Buckets.read_eq_iff fun entry member => numbered connectionId entry member
      (once entry (List.mem_filter.mp member).1 (List.mem_filter.mp member).2)).mpr ?_
    exact List.pairwise_filter.mpr (inStep.ordered.imp fun ordered => ordered connectionId)

end Puts

section Runs

def Batch.rounds (batch : Batch) : Nat := (batch.jobs.map List.length).foldr max 0

theorem length_le_rounds (batch : Batch) : ∀ job ∈ batch.jobs, job.length ≤ batch.rounds := by
  intro job member
  unfold Batch.rounds
  generalize batch.jobs = jobs at member ⊢
  induction jobs with
  | nil => cases member
  | cons first others ih =>
      rw [List.map_cons, List.foldr_cons]
      rcases List.mem_cons.mp member with rfl | later
      · exact Nat.le_max_left _ _
      · exact (ih later).trans (Nat.le_max_right _ _)

theorem nil_not_mem_jobs (batch : Batch) : ∀ job ∈ batch.jobs, [] ∉ job := by
  intro job member
  obtain ⟨entry, _, rfl⟩ := List.mem_map.mp member
  exact nil_not_mem_sends entry

theorem jobs_ne_nil (filled : batch.entries ≠ []) : batch.jobs ≠ [] := by
  simpa [Batch.jobs] using filled

theorem order_nil (empty : batch.entries = []) (rounds : Nat) :
    Gather.order batch.jobs rounds = [] := by
  refine List.flatMap_eq_nil_iff.mpr fun number _ => ?_
  simp [Batch.jobs, empty, Gather.layer]

theorem batch_ends (batch : Batch) : ∃ final, Gather.Ends batch.jobs final := by
  by_cases empty : batch.entries = []
  · exact ⟨batch.start, 0, rfl, by simp [Batch.start, Gather.Loop.start, Batch.jobs, empty]⟩
  · obtain ⟨final, ends, _⟩ := Gather.ends_start (jobs_ne_nil empty) (nil_not_mem_jobs batch)
      (length_le_rounds batch)
    exact ⟨final, ends⟩

theorem log_of_ends {final : Gather.Loop ConnectionId} (ends : Gather.Ends batch.jobs final) :
    final.log = Gather.order batch.jobs batch.rounds := by
  by_cases empty : batch.entries = []
  · obtain ⟨count, rfl, _⟩ := ends
    have still : (Gather.Loop.start batch.jobs).ready = [] := by
      simp [Gather.Loop.start, Batch.jobs, empty]
    rw [order_nil empty, Gather.after_still still]
    rfl
  · obtain ⟨other, same, _, log⟩ := Gather.ends_start (jobs_ne_nil empty) (nil_not_mem_jobs batch)
      (length_le_rounds batch)
    rw [ends.unique same, log]

theorem acknowledgedLast (valid : batch.Valid) (distinct : batch.entries.Nodup) :
    AcknowledgedLast batch := by
  intro count entry connectionId acknowledged named
  unfold Batch.acknowledged at acknowledged
  split at acknowledged
  · rename_i told
    have member := (List.mem_filter.mp acknowledged).1
    obtain ⟨event, known, live⟩ := valid entry member
    have log : (batch.start.after count).log = Gather.order batch.jobs batch.rounds :=
      Gather.finished_last (jobs_ne_nil (List.ne_nil_of_mem member)) (nil_not_mem_jobs batch)
        (length_le_rounds batch) told
    rw [← List.count_pos_iff, count_put distinct log (length_le_rounds batch) member]
    cases found : batch.manager.connectionsById.find? connectionId with
    | none => simp [names, known, found] at named
    | some conn =>
        rw [count_sends known live found, if_pos named]
        simp only [names, known, found, Bool.and_eq_true] at named
        exact List.count_pos_iff.mpr (List.contains_iff_mem.mp named.1)
  · cases acknowledged

theorem parts_of_queue {batches : List Batch} (put : Batch → List GatewayEntry)
    (wanted : Batch → List GatewayEntry) (apart : (batches.flatMap Batch.entries).Nodup)
    (first : ∀ batch ∈ batches, ∀ entry ∈ put batch, entry ∈ batch.entries)
    (second : ∀ batch ∈ batches, ∀ entry ∈ wanted batch, entry ∈ batch.entries)
    (same : batches.flatMap put = batches.flatMap wanted) :
    ∀ batch ∈ batches, put batch = wanted batch := by
  have parted : ∀ (part : Batch → List GatewayEntry) (batch : Batch) (others : List Batch),
      ((batch :: others).flatMap Batch.entries).Nodup →
        (∀ other ∈ batch :: others, ∀ entry ∈ part other, entry ∈ other.entries) →
          ((batch :: others).flatMap part).filter (fun entry => decide (entry ∈ batch.entries)) =
              part batch ∧
            ((batch :: others).flatMap part).filter (fun entry => !decide (entry ∈ batch.entries)) =
              others.flatMap part := by
    intro part batch others apart inside
    rw [List.flatMap_cons] at apart ⊢
    have across := (List.nodup_append.mp apart).2.2
    have own : ∀ entry ∈ part batch, decide (entry ∈ batch.entries) = true := fun entry member =>
      decide_eq_true (inside batch List.mem_cons_self entry member)
    have foreign : ∀ entry ∈ others.flatMap part, decide (entry ∈ batch.entries) = false := by
      intro entry member
      obtain ⟨other, listed, here⟩ := List.mem_flatMap.mp member
      refine decide_eq_false fun both => across entry both entry ?_ rfl
      exact List.mem_flatMap.mpr ⟨other, listed, inside other (List.mem_cons_of_mem _ listed) entry here⟩
    constructor
    · rw [List.filter_append, List.filter_eq_self.mpr own, List.filter_eq_nil_iff.mpr
        fun entry member => by rw [foreign entry member]; exact Bool.false_ne_true, List.append_nil]
    · rw [List.filter_append, List.filter_eq_nil_iff.mpr fun entry member => by
        rw [own entry member]; exact Bool.false_ne_true, List.nil_append]
      exact List.filter_eq_self.mpr fun entry member => by rw [foreign entry member]; rfl
  induction batches with
  | nil => exact fun _ member => nomatch member
  | cons batch others ih =>
      have left := parted put batch others apart first
      have right := parted wanted batch others apart second
      intro target member
      rcases List.mem_cons.mp member with rfl | later
      · rw [← left.1, ← right.1, same]
      · refine ih ?_ (fun other listed => first other (List.mem_cons_of_mem _ listed))
          (fun other listed => second other (List.mem_cons_of_mem _ listed)) ?_ target later
        · rw [List.flatMap_cons] at apart
          exact (List.nodup_append.mp apart).2.1
        · rw [← left.2, ← right.2, same]

theorem queue_eq {batches : List Batch} {finals : List (Gather.Loop ConnectionId)}
    (consumed : Consumed batches finals) (reference : Batch → Gather.Loop ConnectionId)
    (logs : ∀ batch, (reference batch).log = Gather.order batch.jobs batch.rounds) :
    queue batches finals connectionId =
      batches.flatMap fun batch => batch.put (reference batch) connectionId := by
  induction consumed with
  | nil => rfl
  | @cons batch final batches finals ends _ ih =>
      rw [queue, List.zip_cons_cons, List.flatMap_cons, List.flatMap_cons, ← ih, queue]
      refine congrArg (· ++ _) ?_
      rw [Batch.put, Batch.put, log_of_ends ends, logs batch]

theorem put_inside {loop : Gather.Loop ConnectionId} {entry : GatewayEntry}
    (member : entry ∈ batch.put loop connectionId) : entry ∈ batch.entries := by
  obtain ⟨sent, _, offered⟩ := List.mem_filterMap.mp member
  split at offered
  · exact List.mem_of_getElem? offered
  · cases offered

end Runs

/-- Batches of valid, unexpired entries come to their ends, each entry acknowledged after it was
offered to all it names; and every queue holds the entries for its connection, in stream order and
once each, just when each batch goes in step. -/
theorem gateway_delivers {batches : List Batch} (valid : ∀ batch ∈ batches, batch.Valid)
    (unrepeated : (batches.flatMap Batch.entries).Nodup) :
    (∃ finals, Consumed batches finals) ∧
      ∀ finals, Consumed batches finals →
        (((∀ connectionId, queue batches finals connectionId = addressed batches connectionId) ∧
            ∀ batch ∈ batches, AcknowledgedLast batch) ↔
          ∀ batch ∈ batches, InStep batch) := by
  have own : ∀ batch ∈ batches, batch.entries.Nodup := by
    intro batch member
    exact (List.nodup_flatMap.mp unrepeated).1 batch member
  refine ⟨?_, fun finals consumed => ?_⟩
  · clear valid unrepeated own
    induction batches with
    | nil => exact ⟨[], .nil⟩
    | cons batch others ih =>
        obtain ⟨finals, consumed⟩ := ih
        obtain ⟨final, ends⟩ := batch_ends batch
        exact ⟨final :: finals, .cons ends consumed⟩
  · choose reference ends using batch_ends
    have logs : ∀ batch, (reference batch).log = Gather.order batch.jobs batch.rounds :=
      fun batch => log_of_ends (ends batch)
    rw [and_iff_left fun batch member => acknowledgedLast (valid batch member) (own batch member)]
    have settled : ∀ batch ∈ batches, (∀ connectionId, batch.put (reference batch) connectionId =
        batch.entries.filter (names batch.manager connectionId)) ↔ InStep batch := by
      intro batch member
      exact put_iff (valid batch member) (own batch member) (logs batch) (length_le_rounds batch)
    constructor
    · intro delivered batch member
      refine (settled batch member).mp fun connectionId => ?_
      have same := delivered connectionId
      rw [queue_eq consumed reference logs, addressed] at same
      exact parts_of_queue _ _ unrepeated (fun _ _ _ => put_inside)
        (fun _ _ _ inside => (List.mem_filter.mp inside).1) same batch member
    · intro inStep connectionId
      rw [queue_eq consumed reference logs, addressed]
      exact List.flatMap_congr fun batch member =>
        (settled batch member).mpr (inStep batch member) connectionId

section Crowd

variable (count : Nat)

def crowdRows : Table WSConnection ConnectionId WSConnection.connectionId where
  rows := (List.range count).map fun n => { connectionId := n, userId := n, gatewayId := 0 }
  unique := by
    rw [List.map_map]
    exact List.nodup_range.map fun _ _ same => same

theorem crowdRows_find {conn : WSConnection} :
    (crowdRows count).find? connectionId = some conn ↔ connectionId < count ∧
      conn = { connectionId := connectionId, userId := connectionId, gatewayId := 0 } := by
  rw [Table.find?_some_iff]
  constructor
  · rintro ⟨member, rfl⟩
    obtain ⟨n, inside, rfl⟩ := List.mem_map.mp member
    exact ⟨List.mem_range.mp inside, rfl⟩
  · rintro ⟨inside, rfl⟩
    exact ⟨List.mem_map.mpr ⟨connectionId, List.mem_range.mpr inside, rfl⟩, rfl⟩

def crowd : ConnectionManager where
  connectionsById := crowdRows count
  connectionsByUser userId := if userId < count then [userId] else []
  distinct userId := by
    split
    · exact List.nodup_singleton _
    · exact List.nodup_nil
  registered userId connectionId := by
    simp only [crowdRows_find]
    constructor
    · intro member
      split at member
      · rename_i inside
        rw [List.mem_singleton.mp member]
        exact ⟨_, ⟨inside, rfl⟩, rfl⟩
      · cases member
    · rintro ⟨_, ⟨inside, rfl⟩, rfl⟩
      rw [if_pos inside]
      exact List.mem_singleton_self _

def notice (recipients : List UserId) : DeliveryDTO where
  payload := .broker (.leftChatMember 1 7)
  channel := "1"
  requireSubscription := false
  recipients := recipients
  expiresAt := none

def crowdBatch (single : UserId) : Batch :=
  ⟨crowd count, 0, [⟨1, some (notice (List.range count))⟩, ⟨2, some (notice [single])⟩]⟩

theorem crowdBatch_valid (single : UserId) : (crowdBatch count single).Valid := by
  intro entry member
  rcases List.mem_cons.mp member with same | member
  · exact ⟨_, congrArg GatewayEntry.event same, rfl⟩
  · exact ⟨_, congrArg GatewayEntry.event (List.mem_singleton.mp member), rfl⟩

theorem crowdBatch_unrepeated (single : UserId) : (crowdBatch count single).entries.Nodup := by
  refine List.nodup_cons.mpr ⟨fun member => ?_, List.nodup_singleton _⟩
  exact absurd (congrArg GatewayEntry.messageId (List.mem_singleton.mp member)) (by decide : (1 : Nat) ≠ 2)

variable {count}

theorem names_notice {recipients : List UserId} {userId messageId : Nat} (known : userId < count)
    (listed : userId ∈ recipients) :
    names (crowd count) userId ⟨messageId, some (notice recipients)⟩ = true := by
  have found : (crowd count).connectionsById.find? userId =
      some { connectionId := userId, userId := userId, gatewayId := 0 } :=
    (crowdRows_find count).mpr ⟨known, rfl⟩
  simp only [names, found]
  exact Bool.and_eq_true_iff.mpr ⟨List.contains_iff_mem.mpr listed, rfl⟩

theorem conns_notice {recipients : List UserId} (known : ∀ userId ∈ recipients, userId < count) :
    conns (crowd count) (notice recipients) = recipients := by
  refine (List.flatMap_congr fun userId listed => ?_).trans (List.flatMap_singleton' recipients)
  have found : (crowd count).connectionsById.find? userId =
      some { connectionId := userId, userId := userId, gatewayId := 0 } :=
    (crowdRows_find count).mpr ⟨known userId listed, rfl⟩
  have own : (crowd count).connectionsByUser userId = [userId] := if_pos (known userId listed)
  rw [own, List.filter_singleton, found]
  rfl

end Crowd

theorem gateway_delivers_crowd :
    (∃ finals, Consumed [crowdBatch 1025 1024] finals) ∧
      ∀ finals, Consumed [crowdBatch 1025 1024] finals →
        (((∀ connectionId, queue [crowdBatch 1025 1024] finals connectionId =
              addressed [crowdBatch 1025 1024] connectionId) ∧
            ∀ batch ∈ [crowdBatch 1025 1024], AcknowledgedLast batch) ↔
          ∀ batch ∈ [crowdBatch 1025 1024], InStep batch) := by
  refine gateway_delivers (fun batch member => ?_) ?_
  · rw [List.mem_singleton.mp member]
    exact crowdBatch_valid 1025 1024
  · rw [List.flatMap_singleton]
    exact crowdBatch_unrepeated 1025 1024

/-- The second entry of a batch overtakes the first one on the way to the last connection. -/
theorem second_entry_first :
    ¬ ∀ batches : List Batch, (∀ batch ∈ batches, batch.Valid) →
      (batches.flatMap Batch.entries).Nodup → ∀ finals, Consumed batches finals →
        ∀ connectionId, queue batches finals connectionId = addressed batches connectionId := by
  intro claimed
  have valid := crowdBatch_valid 1025 1024
  have unrepeated := crowdBatch_unrepeated 1025 1024
  obtain ⟨final, ends⟩ := batch_ends (crowdBatch 1025 1024)
  have delivered := claimed [crowdBatch 1025 1024]
    (fun batch member => by rw [List.mem_singleton.mp member]; exact valid)
    (by rw [List.flatMap_singleton]; exact unrepeated) [final] (.cons ends .nil)
  have inStep := (put_iff valid unrepeated (log_of_ends ends) (length_le_rounds _)).mp
    fun connectionId => by
      have same := delivered connectionId
      rw [queue, addressed, List.zip_cons_cons, List.zip_nil_left, List.flatMap_singleton,
        List.flatMap_singleton] at same
      exact same
  have overtaken := (List.pairwise_cons.mp inStep.ordered).1 _ (List.mem_singleton_self _) 1024
    (names_notice (by omega) (List.mem_range.mpr (by omega)))
    (names_notice (by omega) (List.mem_singleton_self _))
  have late : sendNumber (crowd 1025) 1024 ⟨1, some (notice (List.range 1025))⟩ = 1 := by
    simp only [sendNumber]
    rw [conns_notice fun _ => List.mem_range.mp]
    decide +kernel
  have soon : sendNumber (crowd 1025) 1024 ⟨2, some (notice [1024])⟩ = 0 := by
    simp only [sendNumber]
    rw [conns_notice fun userId member => (List.mem_singleton.mp member).symm ▸ Nat.lt_succ_self _]
    decide +kernel
  have refuted : (1 : Nat) ≤ 0 := by
    rw [← soon]
    exact late ▸ overtaken
  omega

end Gateway

end Messanger
