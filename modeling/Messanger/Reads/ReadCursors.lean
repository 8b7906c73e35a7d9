import Messanger.Reads.ReadsCore

/-!
No read cursor is lost and none goes back.  Every cursor that was put into the queue is covered,
at each moment, by the stored one or by one that waits, is claimed or is being put back.
-/

namespace Messanger

open Relational

section Receipts

variable {receipts : ReadReceipts} {cursor : PendingReadCursor} {field : ReadField}

theorem find?_upsert :
    (receipts.upsert cursor).find? field =
      ((receipts.find? field).map fun row =>
        if row.key = cursor.field ∧ row.lastReadMessageSeq < cursor.messageSeq then
          { row with lastReadMessageSeq := cursor.messageSeq }
        else row).or
      (if cursor.field = field then some ⟨cursor.chatId, cursor.userId, cursor.messageSeq⟩
        else none) := by
  refine (Table.find?_insert _ _ _).trans (congrArg (fun found => Option.or found _) ?_)
  refine (Table.find?_update receipts _ _ _ field).trans ?_
  simp only [decide_eq_true_eq]

theorem seq?_upsert :
    (receipts.upsert cursor).seq? field =
      if cursor.field = field then some (max ((receipts.seq? field).getD 0) cursor.messageSeq)
      else receipts.seq? field := by
  simp only [ReadReceipts.seq?, find?_upsert]
  cases found : receipts.find? field with
  | none => split <;> simp
  | some row =>
      have key : row.key = field := Table.key_of_find? found
      by_cases same : cursor.field = field
      · by_cases behind : row.lastReadMessageSeq < cursor.messageSeq
        · have ahead : max row.lastReadMessageSeq cursor.messageSeq = cursor.messageSeq := by omega
          simp [key, same, behind, ahead]
        · have ahead : max row.lastReadMessageSeq cursor.messageSeq = row.lastReadMessageSeq := by
            omega
          simp [same, behind, ahead]
      · have other : ¬ field = cursor.field := fun equal => same equal.symm
        simp [key, same, other]

theorem advances_iff :
    receipts.advances cursor = true ↔
      receipts.seq? cursor.field ≠
        some (max ((receipts.seq? cursor.field).getD 0) cursor.messageSeq) := by
  unfold ReadReceipts.advances
  cases receipts.seq? cursor.field with
  | none => simp
  | some stored =>
      simp only [decide_eq_true_eq, Option.getD_some, ne_eq, Option.some.injEq]
      omega

theorem seq?_markReadMany_other {cursors : List PendingReadCursor}
    (absent : field ∉ cursors.map PendingReadCursor.field) :
    (receipts.markReadMany cursors).2.seq? field = receipts.seq? field := by
  induction cursors generalizing receipts with
  | nil => rfl
  | cons first rest ih =>
      rw [List.map_cons, List.mem_cons, not_or] at absent
      have tail : ((receipts.upsert first).markReadMany rest).2.seq? field = receipts.seq? field := by
        rw [ih absent.2, seq?_upsert, if_neg (fun same => absent.1 same.symm)]
      simp only [ReadReceipts.markReadMany]
      split
      · exact tail
      · exact tail

theorem seq?_markReadMany {cursors : List PendingReadCursor}
    (distinct : (cursors.map PendingReadCursor.field).Nodup) (member : cursor ∈ cursors) :
    (receipts.markReadMany cursors).2.seq? cursor.field =
      some (max ((receipts.seq? cursor.field).getD 0) cursor.messageSeq) := by
  induction cursors generalizing receipts with
  | nil => cases member
  | cons first rest ih =>
      rw [List.map_cons, List.nodup_cons] at distinct
      have tail : ((receipts.upsert first).markReadMany rest).2.seq? cursor.field =
          some (max ((receipts.seq? cursor.field).getD 0) cursor.messageSeq) := by
        rcases List.mem_cons.mp member with rfl | later
        · rw [seq?_markReadMany_other distinct.1, seq?_upsert, if_pos rfl]
        · have other : first.field ≠ cursor.field := by
            intro same
            exact distinct.1 (same ▸ List.mem_map_of_mem later)
          rw [ih distinct.2 later, seq?_upsert, if_neg other]
      simp only [ReadReceipts.markReadMany]
      split
      · exact tail
      · exact tail

theorem advanced_subset {cursors : List PendingReadCursor}
    (member : field ∈ (receipts.markReadMany cursors).1) :
    field ∈ cursors.map PendingReadCursor.field := by
  induction cursors generalizing receipts with
  | nil => cases member
  | cons first rest ih =>
      simp only [ReadReceipts.markReadMany] at member
      rw [List.map_cons, List.mem_cons]
      split at member
      · rcases List.mem_cons.mp member with same | later
        · exact .inl same
        · exact .inr (ih later)
      · exact .inr (ih member)

theorem mem_advanced {cursors : List PendingReadCursor}
    (distinct : (cursors.map PendingReadCursor.field).Nodup) (member : cursor ∈ cursors) :
    cursor.field ∈ (receipts.markReadMany cursors).1 ↔ receipts.advances cursor = true := by
  induction cursors generalizing receipts with
  | nil => cases member
  | cons first rest ih =>
      rw [List.map_cons, List.nodup_cons] at distinct
      simp only [ReadReceipts.markReadMany]
      rcases List.mem_cons.mp member with rfl | later
      · have absent : cursor.field ∉ ((receipts.upsert cursor).markReadMany rest).1 :=
          fun listed => distinct.1 (advanced_subset listed)
        split
        · rename_i ahead
          simp [ahead]
        · rename_i behind
          simp [absent, behind]
      · have other : first.field ≠ cursor.field := by
          intro same
          exact distinct.1 (same ▸ List.mem_map_of_mem later)
        have unchanged : (receipts.upsert first).advances cursor = receipts.advances cursor := by
          unfold ReadReceipts.advances
          rw [seq?_upsert, if_neg other]
        have tail : cursor.field ∈ ((receipts.upsert first).markReadMany rest).1 ↔
            receipts.advances cursor = true := by
          rw [ih distinct.2 later, unchanged]
        split
        · rw [List.mem_cons, tail, or_iff_right (fun same => other same.symm)]
        · exact tail

end Receipts

def PendingReadCursor.entry (cursor : PendingReadCursor) : ReadField × Nat × Bool :=
  (cursor.field, cursor.messageSeq, cursor.supportReadEvent)

section Enqueue

variable {queue : ReadQueue} {cursor : PendingReadCursor} {ms : Nat}

theorem enqueue_cases :
    (∃ current, queue.payload? cursor.field = some current ∧
      cursor.messageSeq ≤ current.messageSeq ∧ queue.enqueue cursor ms = queue) ∨
    ((∀ current, queue.payload? cursor.field = some current →
        current.messageSeq < cursor.messageSeq) ∧
      queue.enqueue cursor ms =
        queue.put cursor.field { cursor with readAt := ms } (ms + readReceiptsWindowMs)) := by
  cases found : queue.payload? cursor.field with
  | none =>
      refine .inr ⟨fun _ none => ?_, by simp [ReadQueue.enqueue, found]⟩
      cases none
  | some current =>
      by_cases behind : cursor.messageSeq ≤ current.messageSeq
      · exact .inl ⟨current, rfl, behind, by simp [ReadQueue.enqueue, found, behind]⟩
      · refine .inr ⟨fun other same => ?_, by simp [ReadQueue.enqueue, found, behind]⟩
        cases same
        exact Nat.lt_of_not_le behind

theorem payload?_enqueue_other {field : ReadField} (other : cursor.field ≠ field) :
    (queue.enqueue cursor ms).payload? field = queue.payload? field := by
  rcases @enqueue_cases queue cursor ms with ⟨_, _, _, same⟩ | ⟨_, replaced⟩
  · rw [same]
  · rw [replaced, Queue.payload?_put, if_neg other]

theorem payload?_enqueue :
    ∃ waiting, (queue.enqueue cursor ms).payload? cursor.field = some waiting ∧
      cursor.messageSeq ≤ waiting.messageSeq ∧
      (queue.payload? cursor.field = some waiting ∨ waiting.entry = cursor.entry) ∧
      ∀ before, queue.payload? cursor.field = some before →
        before.messageSeq ≤ waiting.messageSeq := by
  rcases @enqueue_cases queue cursor ms with ⟨current, found, behind, same⟩ | ⟨ahead, replaced⟩
  · refine ⟨current, by rw [same]; exact found, behind, .inl found, fun before waited => ?_⟩
    cases found.symm.trans waited
    exact le_refl _
  · refine ⟨{ cursor with readAt := ms }, ?_, le_refl _, .inr rfl, fun before waited => ?_⟩
    · rw [replaced, Queue.payload?_put, if_pos rfl]
    · exact Nat.le_of_lt (ahead before waited)

theorem backed_enqueue (backed : queue.Backed) : (queue.enqueue cursor ms).Backed := by
  rcases @enqueue_cases queue cursor ms with ⟨_, _, _, same⟩ | ⟨_, replaced⟩
  · rw [same]
    exact backed
  · rw [replaced]
    exact backed.put _ _ _

end Enqueue

/-- The read events of one cursor. -/
def readEvents (field : ReadField) (events : List ChatEvent) : List ChatEvent :=
  events.filter fun event =>
    match event with
    | .readedMessage chatId _ readerId => decide ((chatId, readerId) = field)
    | _ => false

theorem readEvents_append (field : ReadField) (left right : List ChatEvent) :
    readEvents field (left ++ right) = readEvents field left ++ readEvents field right :=
  List.filter_append left right

theorem readEvents_batch (field : ReadField) (chosen : PendingReadCursor → Bool) :
    ∀ cursors : List PendingReadCursor, (cursors.map PendingReadCursor.field).Nodup →
      readEvents field ((cursors.filter chosen).map readedEvent) =
        match cursors.find? fun cursor => decide (cursor.field = field) with
        | some cursor => if chosen cursor then [readedEvent cursor] else []
        | none => [] := by
  intro cursors
  induction cursors with
  | nil => intro _; rfl
  | cons first rest ih =>
      intro distinct
      rw [List.map_cons, List.nodup_cons] at distinct
      have head : readEvents field [readedEvent first] =
          if first.field = field then [readedEvent first] else [] := by
        by_cases same : first.field = field
        · simp [readEvents, readedEvent, ← PendingReadCursor.field.eq_1, same]
        · simp [readEvents, readedEvent, ← PendingReadCursor.field.eq_1, same]
      have split : readEvents field (((first :: rest).filter chosen).map readedEvent) =
          (if chosen first then readEvents field [readedEvent first] else []) ++
            readEvents field ((rest.filter chosen).map readedEvent) := by
        cases taken : chosen first with
        | false => simp [taken]
        | true =>
            rw [List.filter_cons_of_pos taken, List.map_cons, if_pos rfl, ← readEvents_append]
            rfl
      rw [split, ih distinct.2, head]
      by_cases same : first.field = field
      · have absent : rest.find? (fun cursor => decide (cursor.field = field)) = none := by
          rw [List.find?_eq_none]
          intro cursor member here
          rw [decide_eq_true_eq] at here
          exact distinct.1 (same.trans here.symm ▸ List.mem_map_of_mem member)
        rw [absent, List.find?_cons_of_pos (by simp [same]), if_pos same, List.append_nil]
      · rw [List.find?_cons_of_neg (by simp [same]), if_neg same, ite_self, List.nil_append]

section Tables

variable {db : Db}

theorem chat_after_write (write : Write) {chatId : ChatId} {chat : Chat}
    (found : db.chat? chatId = some chat) :
    ∃ later, (Db.apply write db).chat? chatId = some later ∧ later.type = chat.type ∧
      chat.seqCounter ≤ later.seqCounter := by
  cases write
  case insertChat new =>
    refine ⟨chat, ?_, rfl, le_refl _⟩
    refine (Table.find?_insert db.chats new chatId).trans ?_
    rw [show db.chats.find? chatId = some chat from found, Option.some_or]
  case patchChat target patch =>
    refine ⟨if chat.id = target then patch.apply chat else chat, ?_, ?_, ?_⟩
    · rw [Db.apply, Db.chat_updateChat, found, Option.map_some]
    · split <;> rfl
    · split <;> exact le_refl _
  case shiftMemberCount target delta =>
    refine ⟨if chat.id = target then { chat with memberCount := chat.memberCount + delta } else chat,
      ?_, ?_, ?_⟩
    · rw [Db.apply, Db.chat_updateChat, found, Option.map_some]
    · split <;> rfl
    · split <;> exact le_refl _
  case allocateMessageSeq target count date =>
    refine ⟨if chat.id = target then { chat with
      seqCounter := chat.seqCounter + count, lastActivityAt := some date } else chat, ?_, ?_, ?_⟩
    · rw [Db.apply, Db.chat_updateChat, found, Option.map_some]
    · split <;> rfl
    · split
      · exact Nat.le_add_right _ _
      · exact le_refl _
  all_goals exact ⟨chat, found, rfl, le_refl _⟩

theorem chat_after_log (log : List Write) {chatId : ChatId} {chat : Chat}
    (found : db.chat? chatId = some chat) :
    ∃ later, (applyAll log db).chat? chatId = some later ∧ later.type = chat.type ∧
      chat.seqCounter ≤ later.seqCounter := by
  induction log generalizing db chat with
  | nil => exact ⟨chat, found, rfl, le_refl _⟩
  | cons write rest ih =>
      obtain ⟨middle, there, sameType, grown⟩ := chat_after_write write found
      obtain ⟨later, reached, type, counter⟩ := ih there
      exact ⟨later, reached, type.trans sameType, Nat.le_trans grown counter⟩

theorem readEvents_write (field : ReadField) {write : Write} (quiet : write.publishesRead = false) :
    readEvents field (Db.apply write db).outbox = readEvents field db.outbox := by
  cases write
  case publish events =>
    have none : readEvents field events = [] := by
      rw [readEvents, List.filter_eq_nil_iff]
      intro event member read
      have unread := (List.any_eq_false.mp quiet) event member
      cases event <;> simp_all
    simp only [Db.apply, readEvents_append, none, List.append_nil]
  all_goals rfl

theorem readEvents_log (field : ReadField) {log : List Write}
    (quiet : ∀ write ∈ log, write.publishesRead = false) :
    readEvents field (applyAll log db).outbox = readEvents field db.outbox := by
  induction log generalizing db with
  | nil => rfl
  | cons write rest ih =>
      have tail : readEvents field (applyAll rest (Db.apply write db)).outbox =
          readEvents field (Db.apply write db).outbox :=
        ih fun other member => quiet other (List.mem_cons_of_mem _ member)
      rw [applyAll_cons]
      exact tail.trans (readEvents_write field (quiet write List.mem_cons_self))

variable {tables after : ReadTables} {cursors : List PendingReadCursor}

structure Flushed (tables : ReadTables) (cursors : List PendingReadCursor) (after : ReadTables) :
    Prop where
  distinct : (cursors.map PendingReadCursor.field).Nodup
  receipts : after.receipts = (tables.receipts.markReadMany cursors).2
  chats : after.db.chats = tables.db.chats
  outbox : after.db.outbox = tables.db.outbox ++ (cursors.filter fun cursor =>
    cursor.supportReadEvent &&
      (tables.receipts.markReadMany cursors).1.contains cursor.field).map readedEvent

theorem flush_ok (flushed : flush tables cursors = some after) : Flushed tables cursors after := by
  simp only [flush] at flushed
  obtain ⟨distinct, same⟩ := Option.ite_none_right_eq_some.mp flushed
  cases same
  refine ⟨distinct, rfl, ?_, ?_⟩
  · dsimp only
    split <;> rfl
  · dsimp only
    split
    · rename_i none
      rw [List.isEmpty_iff.mp none, List.append_nil]
    · rfl

theorem Flushed.seq?_of_mem (flushed : Flushed tables cursors after) {cursor : PendingReadCursor}
    (member : cursor ∈ cursors) :
    after.receipts.seq? cursor.field =
      some (max ((tables.receipts.seq? cursor.field).getD 0) cursor.messageSeq) := by
  rw [flushed.receipts]
  exact seq?_markReadMany flushed.distinct member

theorem Flushed.seq?_other (flushed : Flushed tables cursors after) {field : ReadField}
    (absent : field ∉ cursors.map PendingReadCursor.field) :
    after.receipts.seq? field = tables.receipts.seq? field := by
  rw [flushed.receipts]
  exact seq?_markReadMany_other absent

theorem Flushed.seq?_mono (flushed : Flushed tables cursors after) {field : ReadField} {seq : Nat}
    (stored : tables.receipts.seq? field = some seq) :
    ∃ later, after.receipts.seq? field = some later ∧ seq ≤ later := by
  by_cases named : field ∈ cursors.map PendingReadCursor.field
  · obtain ⟨cursor, member, rfl⟩ := List.mem_map.mp named
    refine ⟨_, flushed.seq?_of_mem member, ?_⟩
    rw [stored, Option.getD_some]
    exact Nat.le_max_left _ _
  · exact ⟨seq, (flushed.seq?_other named).trans stored, le_refl _⟩

end Tables

def Held (system : ReadSystem) (cursor : PendingReadCursor) : Prop :=
  (∃ batch ∈ system.claimed, cursor ∈ batch) ∨ ∃ batch ∈ system.failed, cursor ∈ batch

def InFlight (system : ReadSystem) (cursor : PendingReadCursor) : Prop :=
  system.queue.payload? cursor.field = some cursor ∨ Held system cursor

def Covered (system : ReadSystem) (field : ReadField) (seq : Nat) : Prop :=
  (∃ stored, system.tables.receipts.seq? field = some stored ∧ seq ≤ stored) ∨
    ∃ cursor, InFlight system cursor ∧ cursor.field = field ∧ seq ≤ cursor.messageSeq

def Fits (db : Db) (cursor : PendingReadCursor) : Prop :=
  ∃ chat, db.chat? cursor.chatId = some chat ∧ cursor.messageSeq ≤ chat.seqCounter ∧
    cursor.supportReadEvent = chat.supportReadEvent

structure Sound (system : ReadSystem) : Prop where
  backed : system.queue.Backed
  keyed : ∀ field cursor, system.queue.payload? field = some cursor → cursor.field = field
  distinct : ∀ batch ∈ system.claimed, (batch.map PendingReadCursor.field).Nodup
  marks : ∀ cursor ∈ system.marking, Fits system.tables.db cursor
  recorded : ∀ cursor ∈ system.enqueued, Fits system.tables.db cursor
  flight : ∀ cursor, InFlight system cursor → ∃ source ∈ system.enqueued,
    source.entry = cursor.entry
  stored : ∀ field seq, system.tables.receipts.seq? field = some seq →
    ∃ source ∈ system.enqueued, source.field = field ∧ source.messageSeq = seq
  covered : ∀ cursor ∈ system.enqueued, Covered system cursor.field cursor.messageSeq

section Steps

variable {system next : ReadSystem}

theorem fits_same_entry {db : Db} {source cursor : PendingReadCursor}
    (same : source.entry = cursor.entry) (fits : Fits db source) : Fits db cursor := by
  simp only [PendingReadCursor.entry, PendingReadCursor.field, Prod.mk.injEq] at same
  obtain ⟨⟨sameChat, _⟩, sameSeq, sameEvent⟩ := same
  unfold Fits at fits ⊢
  rw [← sameChat, ← sameSeq, ← sameEvent]
  exact fits

theorem fits_after_log {db : Db} {cursor : PendingReadCursor} (fits : Fits db cursor)
    (log : List Write) : Fits (applyAll log db) cursor := by
  obtain ⟨chat, found, bound, event⟩ := fits
  obtain ⟨later, reached, type, counter⟩ := chat_after_log log found
  refine ⟨later, reached, Nat.le_trans bound counter, ?_⟩
  rw [event, Chat.supportReadEvent, Chat.supportReadEvent, type]

theorem covered_mono {field : ReadField} {seq : Nat} (covered : Covered system field seq)
    (mono : ∀ field seq, system.tables.receipts.seq? field = some seq →
      ∃ later, next.tables.receipts.seq? field = some later ∧ seq ≤ later)
    (overtaken : ∀ cursor, InFlight system cursor → Covered next cursor.field cursor.messageSeq) :
    Covered next field seq := by
  rcases covered with ⟨stored, found, below⟩ | ⟨cursor, flying, rfl, below⟩
  · obtain ⟨later, reached, grown⟩ := mono field stored found
    exact .inl ⟨later, reached, Nat.le_trans below grown⟩
  · rcases overtaken cursor flying with ⟨stored, found, above⟩ | ⟨other, reached, same, above⟩
    · exact .inl ⟨stored, found, Nat.le_trans below above⟩
    · exact .inr ⟨other, reached, same, Nat.le_trans below above⟩

theorem covered_of_flight {cursor : PendingReadCursor} (flying : InFlight system cursor) :
    Covered system cursor.field cursor.messageSeq := .inr ⟨cursor, flying, rfl, le_refl _⟩

theorem covered_enqueue {cursor : PendingReadCursor} {ms : Nat} {before : ReadQueue}
    (queue : next.queue = before.enqueue cursor ms) {other : PendingReadCursor}
    (either : before.payload? other.field = some other ∨ other.entry = cursor.entry)
    (keyed : ∀ field cursor, next.queue.payload? field = some cursor → cursor.field = field) :
    Covered next other.field other.messageSeq := by
  obtain ⟨waiting, found, ahead, _, above⟩ := @payload?_enqueue before cursor ms
  rw [← queue] at found
  have waits : InFlight next waiting := .inl (by rw [keyed _ _ found]; exact found)
  rcases either with waited | same
  · by_cases here : cursor.field = other.field
    · refine .inr ⟨waiting, waits, (keyed _ _ found).trans here, above other ?_⟩
      rw [here]
      exact waited
    · refine .inr ⟨other, .inl ?_, rfl, le_refl _⟩
      rw [queue, payload?_enqueue_other here]
      exact waited
  · simp only [PendingReadCursor.entry, Prod.mk.injEq] at same
    refine .inr ⟨waiting, waits, ?_, ?_⟩
    · rw [same.1]
      exact keyed _ _ found
    · rw [same.2.1]
      exact ahead

theorem keyed_enqueue {cursor : PendingReadCursor} {ms : Nat} {before : ReadQueue}
    (keyed : ∀ field cursor, before.payload? field = some cursor → cursor.field = field) :
    ∀ field waiting, (before.enqueue cursor ms).payload? field = some waiting →
      waiting.field = field := by
  intro field waiting found
  by_cases here : cursor.field = field
  · obtain ⟨other, there, _, either, _⟩ := @payload?_enqueue before cursor ms
    rw [here] at there
    cases there.symm.trans found
    rcases either with old | same
    · exact (keyed _ _ old).trans here
    · exact (congrArg Prod.fst same).trans here
  · rw [payload?_enqueue_other here] at found
    exact keyed field waiting found

theorem waiting_enqueue {cursor other : PendingReadCursor} {ms : Nat} {before : ReadQueue}
    (waits : (before.enqueue cursor ms).payload? other.field = some other) :
    before.payload? other.field = some other ∨
      (∀ current, before.payload? cursor.field = some current →
        current.messageSeq < cursor.messageSeq) ∧ other = { cursor with readAt := ms } := by
  rcases @enqueue_cases before cursor ms with ⟨_, _, _, same⟩ | ⟨ahead, replaced⟩
  · rw [same] at waits
    exact .inl waits
  · rw [replaced, Queue.payload?_put] at waits
    split at waits
    · cases waits
      exact .inr ⟨ahead, rfl⟩
    · exact .inl waits

theorem flight_released {cursors : List PendingReadCursor} {index : Nat}
    (found : system.claimed[index]? = some cursors) {tables : ReadTables}
    {failed : List (List PendingReadCursor)}
    (back : ∀ batch ∈ failed, batch ∈ system.failed ∨ batch = cursors) {cursor : PendingReadCursor}
    (flying : InFlight { system with
      tables := tables, claimed := system.claimed.eraseIdx index, failed := failed } cursor) :
    InFlight system cursor := by
  rcases flying with waits | ⟨batch, member, inside⟩ | ⟨batch, member, inside⟩
  · exact .inl waits
  · exact .inr (.inl ⟨batch, List.mem_of_mem_eraseIdx member, inside⟩)
  · rcases back batch member with old | rfl
    · exact .inr (.inr ⟨batch, old, inside⟩)
    · exact .inr (.inl ⟨batch, List.mem_of_getElem? found, inside⟩)

theorem flight_requeueNext {index ms : Nat} (stepped : system.requeueNext index ms = some next)
    {other : PendingReadCursor} (flying : InFlight next other) :
    InFlight system other ∨ ∃ cursor rest, system.failed[index]? = some (cursor :: rest) ∧
      (∀ current, system.queue.payload? cursor.field = some current →
        current.messageSeq < cursor.messageSeq) ∧ other = { cursor with readAt := ms } := by
  obtain ⟨cursors, found, stepped⟩ := Option.bind_eq_some_iff.mp stepped
  have listed := List.mem_of_getElem? found
  cases cursors with
  | nil =>
      cases stepped
      rcases flying with waits | claimed | ⟨batch, member, inside⟩
      · exact .inl (.inl waits)
      · exact .inl (.inr (.inl claimed))
      · exact .inl (.inr (.inr ⟨batch, List.mem_of_mem_eraseIdx member, inside⟩))
  | cons cursor rest =>
      cases stepped
      rcases flying with waits | claimed | ⟨batch, member, inside⟩
      · rcases waiting_enqueue waits with before | ⟨ahead, same⟩
        · exact .inl (.inl before)
        · exact .inr ⟨cursor, rest, found, ahead, same⟩
      · exact .inl (.inr (.inl claimed))
      · rcases List.mem_or_eq_of_mem_set member with old | rfl
        · exact .inl (.inr (.inr ⟨batch, old, inside⟩))
        · exact .inl (.inr (.inr ⟨_, listed, List.mem_cons_of_mem _ inside⟩))

theorem markAsRead_ends (user : UserJWTData) (now : Nat) (chatId : ChatId) (messageSeq : Nat)
    (db : Db) : (markAsRead user now chatId messageSeq).Ends db db fun cursor _ => Fits db cursor := by
  unfold markAsRead
  simp only [Tx.bind_eq, Tx.pure_eq]
  refine Tx.ends_statement fun found answered => Tx.ends_require fun _ => Tx.ends_done ?_
  obtain ⟨chatFound, _⟩ := Db.chatAndMember_ok answered
  exact ⟨found.chat, (Option.filter_eq_some_iff.mp chatFound).1, Nat.min_le_right _ _, rfl⟩

theorem sound_commit (sound : Sound system) (log : List Write) :
    Sound { system with tables := { system.tables with db := applyAll log system.tables.db } } where
  backed := sound.backed
  keyed := sound.keyed
  distinct := sound.distinct
  marks cursor member := fits_after_log (sound.marks cursor member) log
  recorded cursor member := fits_after_log (sound.recorded cursor member) log
  flight := sound.flight
  stored := sound.stored
  covered := sound.covered

theorem sound_markAsRead (sound : Sound system) {cursor : PendingReadCursor}
    (fits : Fits system.tables.db cursor) :
    Sound { system with marking := system.marking ++ [cursor] } where
  backed := sound.backed
  keyed := sound.keyed
  distinct := sound.distinct
  marks other member := by
    rcases List.mem_append.mp member with old | new
    · exact sound.marks other old
    · rw [List.mem_singleton.mp new]
      exact fits
  recorded := sound.recorded
  flight := sound.flight
  stored := sound.stored
  covered := sound.covered

theorem sound_enqueueMark (sound : Sound system) {index ms : Nat}
    (stepped : system.enqueueMark index ms = some next) : Sound next := by
  obtain ⟨cursor, found, same⟩ := Option.bind_eq_some_iff.mp stepped
  have enqueued : next.queue = system.queue.enqueue cursor ms := by
    cases same
    rfl
  have keyed : ∀ field waiting, next.queue.payload? field = some waiting →
      waiting.field = field := by
    rw [enqueued]
    exact keyed_enqueue sound.keyed
  have listed := List.mem_of_getElem? found
  cases same
  refine ⟨backed_enqueue sound.backed, keyed, sound.distinct, fun other member => ?_,
    fun other member => ?_, fun other flying => ?_, fun field seq stored => ?_,
    fun other member => ?_⟩
  · exact sound.marks other (List.mem_of_mem_eraseIdx member)
  · rcases List.mem_append.mp member with old | new
    · exact sound.recorded other old
    · rw [List.mem_singleton.mp new]
      exact sound.marks cursor listed
  · have either : InFlight system other ∨ other.entry = cursor.entry := by
      rcases flying with waits | held
      · exact (waiting_enqueue waits).imp .inl fun taken => by rw [taken.2]; rfl
      · exact .inl (.inr held)
    rcases either with before | same
    · obtain ⟨source, member, same⟩ := sound.flight other before
      exact ⟨source, List.mem_append_left _ member, same⟩
    · exact ⟨cursor, by simp, same.symm⟩
  · obtain ⟨source, member, same⟩ := sound.stored field seq stored
    exact ⟨source, List.mem_append_left _ member, same⟩
  · rcases List.mem_append.mp member with old | new
    · refine covered_mono (sound.covered other old)
        (fun field seq stored => ⟨seq, stored, le_refl _⟩) fun flying before => ?_
      rcases before with waits | held
      · exact covered_enqueue enqueued (.inl waits) keyed
      · exact .inr ⟨flying, .inr held, rfl, le_refl _⟩
    · rw [List.mem_singleton.mp new]
      exact covered_enqueue enqueued (.inr rfl) keyed

section Claiming

variable (before : ReadField → ReadField → Bool) (ms : Nat)

theorem payload?_claimBatch (field : ReadField) :
    (system.claimBatch before ms).queue.payload? field =
      if field ∈ system.queue.dueFields before ms readReceiptsMaxKeysPerTick then none
      else system.queue.payload? field := by
  have claimed : (system.claimBatch before ms).queue.payload? field = _ := Queue.payload?_claim
  rw [claimed]
  by_cases named : field ∈ system.queue.dueFields before ms readReceiptsMaxKeysPerTick
  · rw [if_pos named, if_pos named]
  · rw [if_neg named, if_neg named]

theorem claimed_fields {queue : ReadQueue}
    (keyed : ∀ field cursor, queue.payload? field = some cursor → cursor.field = field)
    (fields : List ReadField) :
    ((Queue.claim fields queue).1.map Prod.snd).map PendingReadCursor.field =
      (Queue.claim fields queue).1.map Prod.fst := by
  rw [List.map_map]
  exact List.map_congr_left fun row member => keyed row.1 row.2 (Queue.mem_claim.mp member).2

theorem mem_claimBatch {batch : List PendingReadCursor} :
    batch ∈ (system.claimBatch before ms).claimed ↔ batch ∈ system.claimed ∨
      (system.queue.claimDue before ms readReceiptsMaxKeysPerTick).1 ≠ [] ∧
        batch = (system.queue.claimDue before ms readReceiptsMaxKeysPerTick).1.map Prod.snd := by
  have split : (system.claimBatch before ms).claimed =
      if (system.queue.claimDue before ms readReceiptsMaxKeysPerTick).1.isEmpty then system.claimed
      else system.claimed ++
        [(system.queue.claimDue before ms readReceiptsMaxKeysPerTick).1.map Prod.snd] := rfl
  rw [split]
  cases (system.queue.claimDue before ms readReceiptsMaxKeysPerTick).1 with
  | nil => simp
  | cons first rest => simp

theorem flight_claimBatch
    (keyed : ∀ field cursor, system.queue.payload? field = some cursor → cursor.field = field)
    (cursor : PendingReadCursor) :
    InFlight (system.claimBatch before ms) cursor ↔ InFlight system cursor := by
  let claimed := (system.queue.claimDue before ms readReceiptsMaxKeysPerTick).1
  have held : Held (system.claimBatch before ms) cursor ↔
      Held system cursor ∨ (cursor.field, cursor) ∈ claimed := by
    constructor
    · rintro (⟨batch, listed, member⟩ | failed)
      · rcases (mem_claimBatch before ms).mp listed with old | ⟨_, rfl⟩
        · exact .inl (.inl ⟨batch, old, member⟩)
        · obtain ⟨⟨field, taken⟩, there, rfl⟩ := List.mem_map.mp member
          have own : taken.field = field := keyed field taken (Queue.mem_claim.mp there).2
          refine .inr ?_
          dsimp only
          rw [own]
          exact there
      · exact .inl (.inr failed)
    · rintro ((⟨batch, listed, member⟩ | failed) | taken)
      · exact .inl ⟨batch, (mem_claimBatch before ms).mpr (.inl listed), member⟩
      · exact .inr failed
      · refine .inl ⟨claimed.map Prod.snd,
          (mem_claimBatch before ms).mpr (.inr ⟨List.ne_nil_of_mem taken, rfl⟩), ?_⟩
        exact List.mem_map.mpr ⟨(cursor.field, cursor), taken, rfl⟩
  have taken : (cursor.field, cursor) ∈ claimed ↔
      cursor.field ∈ system.queue.dueFields before ms readReceiptsMaxKeysPerTick ∧
        system.queue.payload? cursor.field = some cursor := Queue.mem_claim
  unfold InFlight
  rw [held, taken, payload?_claimBatch]
  by_cases named : cursor.field ∈ system.queue.dueFields before ms readReceiptsMaxKeysPerTick
  · simp only [named, if_true, true_and]
    tauto
  · simp only [named, if_false, false_and, or_false]

theorem sound_claimBatch (sound : Sound system) : Sound (system.claimBatch before ms) := by
  have flight := flight_claimBatch before ms sound.keyed
  refine ⟨sound.backed.claim _, fun field cursor found => ?_, fun batch listed => ?_,
    sound.marks, sound.recorded, fun cursor flying => sound.flight cursor ((flight cursor).mp flying),
    sound.stored, fun cursor member => ?_⟩
  · rw [payload?_claimBatch] at found
    split at found
    · cases found
    · exact sound.keyed field cursor found
  · rcases (mem_claimBatch before ms).mp listed with old | ⟨_, rfl⟩
    · exact sound.distinct batch old
    · rw [Queue.claimDue, claimed_fields sound.keyed]
      exact Queue.claim_nodup
  · refine covered_mono (sound.covered cursor member)
      (fun field seq stored => ⟨seq, stored, le_refl _⟩) fun flying there => ?_
    exact covered_of_flight ((flight flying).mpr there)

end Claiming

theorem sound_released (sound : Sound system) {cursors : List PendingReadCursor} {index : Nat}
    (found : system.claimed[index]? = some cursors) {tables : ReadTables}
    {failed : List (List PendingReadCursor)}
    (outcome : (tables = system.tables ∧ failed = system.failed ++ [cursors]) ∨
      Flushed system.tables cursors tables ∧
        (failed = system.failed ∨ failed = system.failed ++ [cursors])) :
    Sound { system with
      tables := tables, claimed := system.claimed.eraseIdx index, failed := failed } := by
  have listed := List.mem_of_getElem? found
  have flying : ∀ cursor ∈ cursors, InFlight system cursor :=
    fun cursor member => .inr (.inl ⟨cursors, listed, member⟩)
  have chats : tables.db.chats = system.tables.db.chats := by
    rcases outcome with ⟨same, _⟩ | ⟨flushed, _⟩
    · rw [same]
    · exact flushed.chats
  have fits : ∀ {cursor}, Fits system.tables.db cursor → Fits tables.db cursor := by
    intro cursor before
    unfold Fits Db.chat? at before ⊢
    rw [chats]
    exact before
  have mono : ∀ field seq, system.tables.receipts.seq? field = some seq →
      ∃ later, tables.receipts.seq? field = some later ∧ seq ≤ later := by
    intro field seq stored
    rcases outcome with ⟨same, _⟩ | ⟨flushed, _⟩
    · rw [same]
      exact ⟨seq, stored, le_refl _⟩
    · exact flushed.seq?_mono stored
  have back : ∀ batch ∈ failed, batch ∈ system.failed ∨ batch = cursors := by
    intro batch member
    rcases outcome with ⟨_, same⟩ | ⟨_, same | same⟩
    · simpa [same] using member
    · exact .inl (same ▸ member)
    · simpa [same] using member
  have kept : ∀ batch ∈ system.failed, batch ∈ failed := by
    intro batch member
    rcases outcome with ⟨_, same⟩ | ⟨_, same | same⟩
    · simp [same, member]
    · rw [same]
      exact member
    · simp [same, member]
  refine ⟨sound.backed, sound.keyed, fun batch member => ?_, fun cursor member => ?_,
    fun cursor member => ?_, fun cursor after => ?_, fun field seq stored => ?_,
    fun cursor member => ?_⟩
  · exact sound.distinct batch (List.mem_of_mem_eraseIdx member)
  · exact fits (sound.marks cursor member)
  · exact fits (sound.recorded cursor member)
  · exact sound.flight cursor (flight_released found back after)
  · rcases outcome with ⟨same, _⟩ | ⟨flushed, _⟩
    · exact sound.stored field seq (same ▸ stored)
    · by_cases named : field ∈ cursors.map PendingReadCursor.field
      · obtain ⟨cursor, member, rfl⟩ := List.mem_map.mp named
        have value := flushed.seq?_of_mem member
        rw [show tables.receipts.seq? cursor.field = some seq from stored, Option.some.injEq] at value
        obtain ⟨source, recorded, entry⟩ := sound.flight cursor (flying cursor member)
        simp only [PendingReadCursor.entry, Prod.mk.injEq] at entry
        cases before : system.tables.receipts.seq? cursor.field with
        | none =>
            rw [before, Option.getD_none, Nat.zero_max] at value
            exact ⟨source, recorded, entry.1, entry.2.1.trans value.symm⟩
        | some old =>
            rw [before, Option.getD_some] at value
            rcases Nat.le_total cursor.messageSeq old with behind | ahead
            · rw [Nat.max_eq_left behind] at value
              exact sound.stored _ seq (value ▸ before)
            · rw [Nat.max_eq_right ahead] at value
              exact ⟨source, recorded, entry.1, entry.2.1.trans value.symm⟩
      · exact sound.stored field seq ((flushed.seq?_other named).symm.trans stored)
  · refine covered_mono (sound.covered cursor member) mono fun other before => ?_
    rcases before with waits | ⟨batch, member, inside⟩ | ⟨batch, member, inside⟩
    · exact covered_of_flight (.inl waits)
    · rcases mem_or_mem_eraseIdx found member with rfl | still
      · rcases outcome with ⟨_, same⟩ | ⟨flushed, _⟩
        · exact covered_of_flight (.inr (.inr ⟨batch, by simp [same], inside⟩))
        · exact .inl ⟨_, flushed.seq?_of_mem inside, Nat.le_max_right _ _⟩
      · exact covered_of_flight (.inr (.inl ⟨batch, still, inside⟩))
    · exact covered_of_flight (.inr (.inr ⟨batch, kept batch member, inside⟩))

theorem sound_flushBatch (sound : Sound system) {index : Nat} {ending : FlushEnd}
    (stepped : system.flushBatch index ending = some next) : Sound next := by
  obtain ⟨cursors, found, stepped⟩ := Option.bind_eq_some_iff.mp stepped
  cases ending with
  | rolledBack =>
      cases stepped
      exact sound_released sound found (.inl ⟨rfl, rfl⟩)
  | succeeded =>
      obtain ⟨tables, flushed, same⟩ := Option.bind_eq_some_iff.mp stepped
      cases same
      exact sound_released sound found (.inr ⟨flush_ok flushed, .inl rfl⟩)
  | committedThenRaised =>
      obtain ⟨tables, flushed, same⟩ := Option.bind_eq_some_iff.mp stepped
      cases same
      exact sound_released sound found (.inr ⟨flush_ok flushed, .inr rfl⟩)

theorem sound_requeueNext (sound : Sound system) {index ms : Nat}
    (stepped : system.requeueNext index ms = some next) : Sound next := by
  have flight : ∀ other, InFlight next other → ∃ source ∈ system.enqueued,
      source.entry = other.entry := by
    intro other flying
    rcases flight_requeueNext stepped flying with before | ⟨cursor, rest, found, _, rfl⟩
    · exact sound.flight other before
    · exact sound.flight cursor (.inr (.inr ⟨_, List.mem_of_getElem? found, List.mem_cons_self⟩))
  obtain ⟨cursors, found, stepped⟩ := Option.bind_eq_some_iff.mp stepped
  cases cursors with
  | nil =>
      cases stepped
      refine ⟨sound.backed, sound.keyed, sound.distinct, sound.marks, sound.recorded, flight,
        sound.stored, fun cursor member => ?_⟩
      refine covered_mono (sound.covered cursor member)
        (fun field seq stored => ⟨seq, stored, le_refl _⟩) fun other before => ?_
      refine covered_of_flight ?_
      rcases before with waits | claimed | ⟨batch, member, inside⟩
      · exact .inl waits
      · exact .inr (.inl claimed)
      · rcases mem_or_mem_eraseIdx found member with rfl | still
        · cases inside
        · exact .inr (.inr ⟨batch, still, inside⟩)
  | cons cursor rest =>
      have enqueued : next.queue = system.queue.enqueue cursor ms := by
        cases stepped
        rfl
      have keyed : ∀ field waiting, next.queue.payload? field = some waiting →
          waiting.field = field := by
        rw [enqueued]
        exact keyed_enqueue sound.keyed
      cases stepped
      refine ⟨backed_enqueue sound.backed, keyed, sound.distinct, sound.marks, sound.recorded, flight,
        sound.stored, fun other member => ?_⟩
      refine covered_mono (sound.covered other member)
        (fun field seq stored => ⟨seq, stored, le_refl _⟩) fun flyingOne before => ?_
      rcases before with waits | claimed | ⟨batch, member, inside⟩
      · exact covered_enqueue enqueued (.inl waits) keyed
      · exact covered_of_flight (.inr (.inl claimed))
      · rcases mem_or_mem_set found member with rfl | still
        · rcases List.mem_cons.mp inside with rfl | later
          · exact covered_enqueue enqueued (.inr rfl) keyed
          · exact covered_of_flight
              (.inr (.inr ⟨rest, List.mem_set (List.getElem?_eq_some_iff.mp found).1 rest, later⟩))
        · exact covered_of_flight (.inr (.inr ⟨batch, still, inside⟩))

theorem sound_step (sound : Sound system) {label : ReadLabel}
    (stepped : system.step label = some next) : Sound next := by
  cases label with
  | commit log =>
      obtain ⟨_, same⟩ := Option.ite_none_left_eq_some.mp stepped
      cases same
      exact sound_commit sound log
  | markAsRead user now chatId messageSeq =>
      simp only [ReadSystem.step] at stepped
      rcases outcome : (markAsRead user now chatId messageSeq).exec system.tables.db
        with ⟨error | cursor, final⟩
      · rw [outcome] at stepped
        cases stepped
        exact sound
      · rw [outcome] at stepped
        cases stepped
        exact sound_markAsRead sound
          (Tx.ends_ok (markAsRead_ends user now chatId messageSeq system.tables.db) outcome)
  | enqueue index ms => exact sound_enqueueMark sound stepped
  | claimDue before ms =>
      cases stepped
      exact sound_claimBatch before ms sound
  | flush index ending => exact sound_flushBatch sound stepped
  | requeue index ms => exact sound_requeueNext sound stepped

end Steps

def Db.supportsReadEvent (db : Db) (chatId : ChatId) : Bool :=
  (db.chat? chatId).any (·.supportReadEvent)

section Commits

variable {system next : ReadSystem}

theorem seq_of_advances {receipts : ReadReceipts} {cursor : PendingReadCursor}
    (ahead : receipts.advances cursor = true) :
    max ((receipts.seq? cursor.field).getD 0) cursor.messageSeq = cursor.messageSeq := by
  unfold ReadReceipts.advances at ahead
  cases stored : receipts.seq? cursor.field with
  | none => simp
  | some old =>
      rw [stored] at ahead
      rw [Option.getD_some]
      exact Nat.max_eq_right (Nat.le_of_lt (of_decide_eq_true ahead))

/-- The read events of one cursor that a step publishes. -/
def stepEvents (system next : ReadSystem) (field : ReadField) : List ChatEvent :=
  if next.tables.receipts.seq? field ≠ system.tables.receipts.seq? field ∧
      system.tables.db.supportsReadEvent field.1 = true then
    [.readedMessage field.1 ((next.tables.receipts.seq? field).getD 0) field.2]
  else []

theorem stepEvents_same {field : ReadField}
    (same : next.tables.receipts.seq? field = system.tables.receipts.seq? field) :
    stepEvents system next field = [] := if_neg fun changed => changed.1 same

theorem events_flushed {cursors : List PendingReadCursor}
    (flushed : Flushed system.tables cursors next.tables)
    (fits : ∀ cursor ∈ cursors, Fits system.tables.db cursor) (field : ReadField) :
    readEvents field next.tables.db.outbox =
      readEvents field system.tables.db.outbox ++ stepEvents system next field := by
  rw [flushed.outbox, readEvents_append, readEvents_batch field _ cursors flushed.distinct]
  congr 1
  cases found : cursors.find? fun cursor => decide (cursor.field = field) with
  | none =>
      have absent : field ∉ cursors.map PendingReadCursor.field := by
        intro named
        obtain ⟨cursor, member, same⟩ := List.mem_map.mp named
        exact (List.find?_eq_none.mp found) cursor member (decide_eq_true same)
      exact (stepEvents_same (flushed.seq?_other absent)).symm
  | some cursor =>
      have member := List.mem_of_find?_eq_some found
      have same : cursor.field = field := by simpa using List.find?_some found
      subst same
      obtain ⟨chat, there, _, event⟩ := fits cursor member
      have supports : system.tables.db.supportsReadEvent cursor.field.1 =
          cursor.supportReadEvent := by
        rw [Db.supportsReadEvent, show system.tables.db.chat? cursor.field.1 = some chat from there,
          event]
        rfl
      have listed : (system.tables.receipts.markReadMany cursors).1.contains cursor.field =
          system.tables.receipts.advances cursor := by
        rw [Bool.eq_iff_iff, List.contains_iff_mem, mem_advanced flushed.distinct member]
      simp only [stepEvents, supports, listed, flushed.seq?_of_mem member]
      cases ahead : system.tables.receipts.advances cursor with
      | false =>
          have behind : ¬ system.tables.receipts.advances cursor = true := by simp [ahead]
          rw [advances_iff, not_not] at behind
          simp [← behind]
      | true =>
          have moved := advances_iff.mp ahead
          rw [seq_of_advances ahead] at moved ⊢
          simp only [moved.symm, ne_eq, not_false_eq_true, true_and, Bool.and_true,
            Option.getD_some]
          rfl

theorem step_tables {label : ReadLabel} (stepped : system.step label = some next) :
    (∃ log : List Write, (∀ write ∈ log, write.publishesRead = false) ∧
      next.tables = { system.tables with db := applyAll log system.tables.db }) ∨
    next.tables = system.tables ∨
    ∃ batch ∈ system.claimed, flush system.tables batch = some next.tables := by
  cases label with
  | commit log =>
      obtain ⟨quiet, same⟩ := Option.ite_none_left_eq_some.mp stepped
      cases same
      refine .inl ⟨log, fun write member => ?_, rfl⟩
      exact Bool.eq_false_iff.mpr fun read => quiet (List.any_eq_true.mpr ⟨write, member, read⟩)
  | markAsRead user now chatId messageSeq =>
      simp only [ReadSystem.step] at stepped
      split at stepped
      · cases stepped
        exact .inr (.inl rfl)
      · cases stepped
        exact .inr (.inl rfl)
  | enqueue index ms =>
      obtain ⟨cursor, _, same⟩ := Option.bind_eq_some_iff.mp stepped
      cases same
      exact .inr (.inl rfl)
  | claimDue before ms =>
      cases stepped
      exact .inr (.inl rfl)
  | flush index ending =>
      obtain ⟨cursors, found, stepped⟩ := Option.bind_eq_some_iff.mp stepped
      have listed := List.mem_of_getElem? found
      cases ending with
      | rolledBack =>
          cases stepped
          exact .inr (.inl rfl)
      | succeeded =>
          obtain ⟨tables, flushed, same⟩ := Option.bind_eq_some_iff.mp stepped
          cases same
          exact .inr (.inr ⟨cursors, listed, flushed⟩)
      | committedThenRaised =>
          obtain ⟨tables, flushed, same⟩ := Option.bind_eq_some_iff.mp stepped
          cases same
          exact .inr (.inr ⟨cursors, listed, flushed⟩)
  | requeue index ms =>
      obtain ⟨cursors, _, stepped⟩ := Option.bind_eq_some_iff.mp stepped
      cases cursors with
      | nil =>
          cases stepped
          exact .inr (.inl rfl)
      | cons cursor rest =>
          cases stepped
          exact .inr (.inl rfl)

theorem events_step (sound : Sound system) {label : ReadLabel}
    (stepped : system.step label = some next) (field : ReadField) :
    readEvents field next.tables.db.outbox =
      readEvents field system.tables.db.outbox ++ stepEvents system next field := by
  rcases step_tables stepped with ⟨log, quiet, tables⟩ | tables | ⟨batch, listed, flushed⟩
  · rw [stepEvents_same (by rw [tables]), List.append_nil, tables]
    exact readEvents_log field quiet
  · rw [stepEvents_same (by rw [tables]), List.append_nil, tables]
  · refine events_flushed (flush_ok flushed) (fun cursor member => ?_) field
    obtain ⟨source, recorded, entry⟩ := sound.flight cursor (.inr (.inl ⟨batch, listed, member⟩))
    exact fits_same_entry entry (sound.recorded source recorded)

theorem seq?_step {label : ReadLabel} (stepped : system.step label = some next) {field : ReadField}
    {seq : Nat} (stored : system.tables.receipts.seq? field = some seq) :
    ∃ later, next.tables.receipts.seq? field = some later ∧ seq ≤ later := by
  rcases step_tables stepped with ⟨_, _, tables⟩ | tables | ⟨_, _, flushed⟩
  · exact ⟨seq, by rw [tables]; exact stored, le_refl _⟩
  · exact ⟨seq, by rw [tables]; exact stored, le_refl _⟩
  · exact (flush_ok flushed).seq?_mono stored

end Commits

theorem sound_idle (db : Db) : Sound { tables := { db := db } } where
  backed := Queue.backed_empty
  keyed _ _ found := nomatch found
  distinct _ listed := nomatch listed
  marks _ listed := nomatch listed
  recorded _ listed := nomatch listed
  flight cursor flying := by
    rcases flying with waits | ⟨_, listed, _⟩ | ⟨_, listed, _⟩
    · cases waits
    · cases listed
    · cases listed
  stored _ _ found := nomatch found
  covered _ listed := nomatch listed

theorem sound_run {db : Db} {system : ReadSystem}
    (run : ReadSystem.Reaches { tables := { db := db } } system) : Sound system := by
  induction run with
  | refl => exact sound_idle db
  | step _ stepped ih => exact sound_step ih stepped

/-- The numbers that were ever put into the queue for a cursor. -/
def ReadSystem.seqsOf (system : ReadSystem) (field : ReadField) : List Nat :=
  (system.enqueued.filter fun cursor => decide (cursor.field = field)).map (·.messageSeq)

theorem mem_seqsOf {system : ReadSystem} {field : ReadField} {seq : Nat} :
    seq ∈ system.seqsOf field ↔
      ∃ cursor ∈ system.enqueued, cursor.field = field ∧ cursor.messageSeq = seq := by
  simp [ReadSystem.seqsOf, and_assoc]

theorem stored_max {system : ReadSystem} (sound : Sound system)
    (empty : system.queue.due.rows = []) (unclaimed : system.claimed = [])
    (settled : system.failed = []) (field : ReadField) :
    system.tables.receipts.seq? field = (system.seqsOf field).max? := by
  have landed : ∀ cursor, ¬ InFlight system cursor := by
    rintro cursor (waits | ⟨_, listed, _⟩ | ⟨_, listed, _⟩)
    · rw [sound.backed.payload?_none empty] at waits
      cases waits
    · rw [unclaimed] at listed
      cases listed
    · rw [settled] at listed
      cases listed
  have above : ∀ seq ∈ system.seqsOf field, ∃ stored,
      system.tables.receipts.seq? field = some stored ∧ seq ≤ stored := by
    intro seq member
    obtain ⟨cursor, recorded, rfl, rfl⟩ := mem_seqsOf.mp member
    rcases sound.covered cursor recorded with stored | ⟨other, flying, _⟩
    · exact stored
    · exact absurd flying (landed other)
  cases found : system.tables.receipts.seq? field with
  | none =>
      symm
      rw [List.max?_eq_none_iff, List.eq_nil_iff_forall_not_mem]
      intro seq member
      obtain ⟨stored, there, _⟩ := above seq member
      rw [found] at there
      cases there
  | some stored =>
      symm
      rw [List.max?_eq_some_iff]
      refine ⟨mem_seqsOf.mpr (sound.stored field stored found), fun seq member => ?_⟩
      obtain ⟨other, there, below⟩ := above seq member
      cases found.symm.trans there
      exact below

/-- Whatever the order of marks, claims, flushes, failures and requeues: a stored cursor never
goes back, is the largest enqueued number once nothing is on its way, stays within the chat's
counter, is named once by a batch, and is announced exactly when a commit advances it. -/
theorem read_cursors_in_run (db : Db) (system : ReadSystem)
    (run : ReadSystem.Reaches { tables := { db := db } } system) :
    (∀ label next field seq, system.step label = some next →
      system.tables.receipts.seq? field = some seq →
        ∃ later, next.tables.receipts.seq? field = some later ∧ seq ≤ later) ∧
    (system.queue.due.rows = [] → system.claimed = [] → system.failed = [] →
      ∀ field, system.tables.receipts.seq? field = (system.seqsOf field).max?) ∧
    (∀ field seq, system.tables.receipts.seq? field = some seq →
      ∃ chat, system.tables.db.chat? field.1 = some chat ∧ seq ≤ chat.seqCounter) ∧
    (∀ batch ∈ system.claimed, (batch.map PendingReadCursor.field).Nodup) ∧
    ∀ label next, system.step label = some next → ∀ field,
      readEvents field next.tables.db.outbox =
        readEvents field system.tables.db.outbox ++ stepEvents system next field := by
  have sound := sound_run run
  refine ⟨fun label next field seq stepped stored => seq?_step stepped stored,
    fun empty unclaimed settled field => stored_max sound empty unclaimed settled field,
    fun field seq stored => ?_, sound.distinct,
    fun label next stepped field => events_step sound stepped field⟩
  obtain ⟨source, recorded, rfl, rfl⟩ := sound.stored field seq stored
  obtain ⟨chat, found, below, _⟩ := sound.recorded source recorded
  exact ⟨chat, found, below⟩

def readGroup : Db :=
  applyAll
    [.insertChat { id := 1, type := .group, createdBy := 1, memberCount := 2, seqCounter := 5 },
      .insertMember 1 1 .owner, .insertMember 1 2 .member] {}

/-- User 2 reads up to 3, the flush of it fails after its commit, and he reads on before the
batch is put back. -/
def overtakenRequeue : List ReadLabel :=
  [.markAsRead { id := 2 } 0 1 3, .enqueue 0 0, .claimDue (fun _ _ => true) 500,
    .markAsRead { id := 2 } 0 1 9, .enqueue 0 600, .flush 0 .committedThenRaised,
    .requeue 0 700, .requeue 0 700, .claimDue (fun _ _ => true) 1200, .flush 0 .succeeded]

def ReadSystem.steps (system : ReadSystem) : List ReadLabel → Option ReadSystem
  | [] => some system
  | label :: labels => (system.step label).bind fun next => next.steps labels

theorem reaches_steps {initial system final : ReadSystem} (labels : List ReadLabel)
    (run : ReadSystem.Reaches initial system) (stepped : system.steps labels = some final) :
    ReadSystem.Reaches initial final := by
  induction labels generalizing system with
  | nil =>
      cases stepped
      exact run
  | cons label labels ih =>
      obtain ⟨next, first, rest⟩ := Option.bind_eq_some_iff.mp stepped
      exact ih (.step run first) rest

theorem read_cursor_after_requeue :
    ∃ system, ReadSystem.steps { tables := { db := readGroup } } overtakenRequeue = some system ∧
      system.tables.receipts.seq? (1, 2) = some 5 ∧
      system.tables.receipts.seq? (1, 2) = (system.seqsOf (1, 2)).max? := by
  have outcome : (ReadSystem.steps { tables := { db := readGroup } } overtakenRequeue).map
      (fun system => (system.tables.receipts.seq? (1, 2), system.queue.due.rows.isEmpty,
        system.claimed.isEmpty, system.failed.isEmpty)) = some (some 5, true, true, true) := by
    decide +kernel
  obtain ⟨system, reached, facts⟩ := Option.map_eq_some_iff.mp outcome
  simp only [Prod.mk.injEq, List.isEmpty_iff] at facts
  have run := reaches_steps overtakenRequeue .refl reached
  exact ⟨system, reached, facts.1, (read_cursors_in_run readGroup system run).2.1 facts.2.1
    facts.2.2.1 facts.2.2.2 (1, 2)⟩

end Messanger
