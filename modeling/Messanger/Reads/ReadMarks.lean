import Messanger.Reads.ReadBadges

/-!
The times that the readers of a message are shown with.  A mark carries the time of the cursor that
was flushed, and the readers are found by the first mark that reaches the message.
-/

namespace Messanger

open Relational

def ReadReceiptMarks.firstMark (marks : ReadReceiptMarks) (chatId : ChatId) (userId : UserId)
    (messageSeq : Nat) : Option ReadReceiptMark :=
  ((marks.select fun mark => mark.chatId == chatId && mark.userId == userId &&
    decide (messageSeq ≤ mark.seq)).insertionSort fun left right => left.seq ≤ right.seq).head?

structure MessageReader where
  userId : UserId
  readAt : Nat
  deriving DecidableEq, Repr

def ReadTables.getMessageReaders (tables : ReadTables) (now : Nat) (chatId : ChatId)
    (messageSeq : Nat) (excludeUserId : UserId) (limit : Nat) : List MessageReader :=
  let members := tables.db.members.select fun member =>
    member.chatId == chatId && member.userId != excludeUserId && !member.isBanned now
  let readers := members.filterMap fun member =>
    (tables.marks.firstMark chatId member.userId messageSeq).map fun mark =>
      (⟨member.userId, mark.readAt⟩ : MessageReader)
  (readers.insertionSort fun left right =>
    right.readAt < left.readAt ∨ (left.readAt = right.readAt ∧ left.userId ≤ right.userId)).take limit

/-- The answer of `_ENQUEUE_LUA`. -/
def ReadQueue.accepts (queue : ReadQueue) (cursor : PendingReadCursor) : Bool :=
  match queue.payload? cursor.field with
  | some current => decide (current.messageSeq < cursor.messageSeq)
  | none => true

/-- The cursor of a `MarkAsRead` that a step accepts, with the time of its enqueue. -/
def ReadSystem.accepted (system : ReadSystem) : ReadLabel → Option PendingReadCursor
  | .enqueue index ms =>
      ((system.marking[index]?).filter system.queue.accepts).map fun cursor =>
        { cursor with readAt := ms }
  | _ => none

/-- The runs whose steps all meet a condition, with the cursors accepted so far. -/
inductive ReadSystem.Runs (Meets : ReadSystem → List PendingReadCursor → ReadLabel → Prop)
    (initial : ReadSystem) : ReadSystem → List PendingReadCursor → Prop
  | refl : Runs Meets initial initial []
  | step {system next : ReadSystem} {history : List PendingReadCursor} {label : ReadLabel} :
      Runs Meets initial system history → Meets system history label →
      system.step label = some next →
      Runs Meets initial next (history ++ (system.accepted label).toList)

/-- The times shown for a reader: they do not decrease along the messages, and none is later than
all enqueues of the reader that reach the message. -/
structure TimesShown (tables : ReadTables) (history : List PendingReadCursor) : Prop where
  ordered : ∀ now later chatId messageSeq laterSeq excluded other limit laterLimit,
    ∀ left ∈ tables.getMessageReaders now chatId messageSeq excluded limit,
    ∀ right ∈ tables.getMessageReaders later chatId laterSeq other laterLimit,
      left.userId = right.userId → messageSeq ≤ laterSeq → left.readAt ≤ right.readAt
  timely : ∀ now chatId messageSeq excluded limit,
    ∀ reader ∈ tables.getMessageReaders now chatId messageSeq excluded limit,
      ∃ cursor ∈ history, cursor.field = (chatId, reader.userId) ∧ messageSeq ≤ cursor.messageSeq ∧
        reader.readAt ≤ cursor.readAt

/-- The steps that keep the order of the times.  An accepted cursor that is ahead of the receipt must
not be overtaken by a worker that holds a higher one, and must come after what was accepted before;
a cursor that is put back keeps its time, or is not ahead, or gives way to the one that waits. -/
def KeepsOrder (system : ReadSystem) (history : List PendingReadCursor) : ReadLabel → Prop
  | .enqueue index ms =>
      ∀ cursor, system.marking[index]? = some cursor → system.queue.accepts cursor = true →
        (∀ earlier ∈ history, earlier.field = cursor.field → earlier.readAt ≤ ms) ∧
        (system.tables.receipts.advances cursor = true → ∀ held, Held system held →
          held.field = cursor.field → system.tables.receipts.advances held = true →
            held.messageSeq ≤ cursor.messageSeq)
  | .requeue index ms =>
      ∀ cursor rest, system.failed[index]? = some (cursor :: rest) →
        system.queue.accepts cursor = true → system.tables.receipts.advances cursor = true →
          cursor.readAt = ms
  | _ => True

section Readers

variable {tables : ReadTables} {marks : ReadReceiptMarks} {chatId : ChatId} {userId : UserId}
  {messageSeq : Nat} {mark : ReadReceiptMark}

theorem firstMark_some (found : marks.firstMark chatId userId messageSeq = some mark) :
    mark ∈ marks.rows ∧ (mark.chatId, mark.userId) = (chatId, userId) ∧ messageSeq ≤ mark.seq ∧
      ∀ other ∈ marks.rows, (other.chatId, other.userId) = (chatId, userId) →
        messageSeq ≤ other.seq → mark.seq ≤ other.seq := by
  have selected : ∀ other, other ∈ (marks.select fun mark => mark.chatId == chatId &&
      mark.userId == userId && decide (messageSeq ≤ mark.seq)).insertionSort
        (fun left right => left.seq ≤ right.seq) ↔
      other ∈ marks.rows ∧ (other.chatId, other.userId) = (chatId, userId) ∧
        messageSeq ≤ other.seq := by
    intro other
    simp only [List.mem_insertionSort, Table.select, List.mem_filter, Bool.and_eq_true, beq_iff_eq,
      decide_eq_true_eq, Prod.mk.injEq]
  have sorted := List.pairwise_insertionSort (fun left right : ReadReceiptMark =>
    left.seq ≤ right.seq) (marks.select fun mark => mark.chatId == chatId &&
      mark.userId == userId && decide (messageSeq ≤ mark.seq))
  obtain ⟨rest, split⟩ := List.head?_eq_some_iff.mp found
  rw [split] at selected sorted
  have own := (selected mark).mp List.mem_cons_self
  refine ⟨own.1, own.2.1, own.2.2, fun other stored same reaches => ?_⟩
  rcases List.mem_cons.mp ((selected other).mpr ⟨stored, same, reaches⟩) with rfl | later
  · exact le_refl _
  · exact List.rel_of_pairwise_cons sorted later

theorem mem_getMessageReaders {now : Nat} {excluded : UserId} {limit : Nat} {reader : MessageReader}
    (shown : reader ∈ tables.getMessageReaders now chatId messageSeq excluded limit) :
    ∃ mark, tables.marks.firstMark chatId reader.userId messageSeq = some mark ∧
      mark.readAt = reader.readAt := by
  have listed := (List.mem_insertionSort _).mp (List.mem_of_mem_take shown)
  obtain ⟨member, _, first⟩ := List.mem_filterMap.mp listed
  obtain ⟨mark, found, rfl⟩ := Option.map_eq_some_iff.mp first
  exact ⟨mark, found, rfl⟩

theorem accepts_iff {queue : ReadQueue} {cursor : PendingReadCursor} :
    queue.accepts cursor = true ↔ ∀ current, queue.payload? cursor.field = some current →
      current.messageSeq < cursor.messageSeq := by
  unfold ReadQueue.accepts
  cases queue.payload? cursor.field with
  | none => simp
  | some current => simp

end Readers

def Timed (system : ReadSystem) (field : ReadField) (seq readAt : Nat) : Prop :=
  (∃ mark ∈ system.tables.marks.rows,
    (mark.chatId, mark.userId) = field ∧ mark.seq = seq ∧ mark.readAt = readAt) ∨
  ∃ cursor, InFlight system cursor ∧ system.tables.receipts.advances cursor = true ∧
    cursor.field = field ∧ cursor.messageSeq = seq ∧ cursor.readAt = readAt

def MarksStored (tables : ReadTables) : Prop :=
  ∀ mark ∈ tables.marks.rows, ∃ seq,
    tables.receipts.seq? (mark.chatId, mark.userId) = some seq ∧ mark.seq ≤ seq

structure InOrder (system : ReadSystem) (history : List PendingReadCursor) : Prop where
  stored : MarksStored system.tables
  ordered : ∀ field seq readAt laterSeq laterAt, Timed system field seq readAt →
    Timed system field laterSeq laterAt → seq < laterSeq → readAt ≤ laterAt
  timely : ∀ field seq readAt, Timed system field seq readAt → ∃ cursor ∈ history,
    cursor.field = field ∧ seq ≤ cursor.messageSeq ∧ readAt ≤ cursor.readAt

theorem InOrder.shown {system : ReadSystem} {history : List PendingReadCursor}
    (order : InOrder system history) : TimesShown system.tables history := by
  constructor
  · intro now later chatId messageSeq laterSeq excluded other limit laterLimit left shown right
      shownLater same below
    obtain ⟨mark, first, time⟩ := mem_getMessageReaders shown
    obtain ⟨laterMark, laterFirst, laterTime⟩ := mem_getMessageReaders shownLater
    rw [← same] at laterFirst
    obtain ⟨stored, own, _, least⟩ := firstMark_some first
    obtain ⟨laterStored, laterOwn, laterReaches, _⟩ := firstMark_some laterFirst
    have before := least laterMark laterStored laterOwn (Nat.le_trans below laterReaches)
    rw [← time, ← laterTime]
    rcases Nat.lt_or_eq_of_le before with lower | equal
    · exact order.ordered _ _ _ _ _ (.inl ⟨mark, stored, own, rfl, rfl⟩)
        (.inl ⟨laterMark, laterStored, laterOwn, rfl, rfl⟩) lower
    · -- The key of the marks is the reader and the number.
      have key : mark.key = laterMark.key := by
        simp only [Prod.mk.injEq] at own laterOwn
        simp only [ReadReceiptMark.key, own, laterOwn, equal]
      rw [system.tables.marks.row_unique stored laterStored key]
  · intro now chatId messageSeq excluded limit reader shown
    obtain ⟨mark, first, time⟩ := mem_getMessageReaders shown
    obtain ⟨stored, own, reaches, _⟩ := firstMark_some first
    obtain ⟨cursor, member, same, above, timely⟩ :=
      order.timely _ _ _ (.inl ⟨mark, stored, own, rfl, rfl⟩)
    exact ⟨cursor, member, same, Nat.le_trans reaches above, time ▸ timely⟩

section Steps

variable {system next : ReadSystem} {history : List PendingReadCursor} {field : ReadField}
  {seq readAt : Nat}

theorem mem_addMarks {marks : ReadReceiptMarks} {cursors : List PendingReadCursor}
    {mark : ReadReceiptMark} (member : mark ∈ (marks.addMarks cursors).rows) :
    mark ∈ marks.rows ∨ ∃ cursor ∈ cursors,
      (⟨cursor.chatId, cursor.userId, cursor.messageSeq, cursor.readAt⟩ : ReadReceiptMark) = mark := by
  induction cursors generalizing marks with
  | nil => exact .inl member
  | cons first rest ih =>
      rcases ih member with inserted | ⟨cursor, later, same⟩
      · rcases Table.mem_insert inserted with old | new
        · exact .inl old
        · exact .inr ⟨first, List.mem_cons_self, new.symm⟩
      · exact .inr ⟨cursor, List.mem_cons_of_mem _ later, same⟩

theorem mem_marks_flush {tables after : ReadTables} {cursors : List PendingReadCursor}
    (flushed : flush tables cursors = some after) {mark : ReadReceiptMark}
    (member : mark ∈ after.marks.rows) :
    mark ∈ tables.marks.rows ∨ ∃ cursor ∈ cursors, tables.receipts.advances cursor = true ∧
      (⟨cursor.chatId, cursor.userId, cursor.messageSeq, cursor.readAt⟩ : ReadReceiptMark) = mark := by
  have distinct := (flush_ok flushed).distinct
  simp only [flush, if_pos distinct, Option.some.injEq] at flushed
  subst flushed
  refine (mem_addMarks member).imp_right ?_
  rintro ⟨cursor, chosen, same⟩
  simp only [List.mem_filter, Bool.and_eq_true, List.contains_iff_mem] at chosen
  exact ⟨cursor, chosen.1, (mem_advanced distinct chosen.1).mp chosen.2.2, same⟩

theorem advances_before {receipts after : ReadReceipts} {cursor : PendingReadCursor}
    (mono : ∀ seq, receipts.seq? cursor.field = some seq →
      ∃ later, after.seq? cursor.field = some later ∧ seq ≤ later)
    (ahead : after.advances cursor = true) : receipts.advances cursor = true := by
  unfold ReadReceipts.advances at ahead ⊢
  cases stored : receipts.seq? cursor.field with
  | none => rfl
  | some seq =>
      obtain ⟨later, reached, grown⟩ := mono seq stored
      rw [reached] at ahead
      exact decide_eq_true (Nat.lt_of_le_of_lt grown (of_decide_eq_true ahead))

theorem timed_released {cursors : List PendingReadCursor} {index : Nat}
    (found : system.claimed[index]? = some cursors) {tables : ReadTables}
    {failed : List (List PendingReadCursor)}
    (back : ∀ batch ∈ failed, batch ∈ system.failed ∨ batch = cursors)
    (outcome : tables = system.tables ∨ flush system.tables cursors = some tables)
    (timed : Timed { system with
      tables := tables, claimed := system.claimed.eraseIdx index, failed := failed } field seq readAt) :
    Timed system field seq readAt := by
  have listed := List.mem_of_getElem? found
  rcases timed with ⟨mark, stored, own, number, time⟩ | ⟨cursor, flying, ahead, same⟩
  · rcases outcome with rfl | flushed
    · exact .inl ⟨mark, stored, own, number, time⟩
    · rcases mem_marks_flush flushed stored with old | ⟨cursor, member, ahead, rfl⟩
      · exact .inl ⟨mark, old, own, number, time⟩
      · exact .inr ⟨cursor, .inr (.inl ⟨cursors, listed, member⟩), ahead, own, number, time⟩
  · refine .inr ⟨cursor, flight_released found back flying, advances_before ?_ ahead, same⟩
    intro seq stored
    rcases outcome with rfl | flushed
    · exact ⟨seq, stored, le_refl _⟩
    · exact (flush_ok flushed).seq?_mono stored

theorem timed_flushBatch {index : Nat} {ending : FlushEnd}
    (stepped : system.flushBatch index ending = some next) (timed : Timed next field seq readAt) :
    Timed system field seq readAt := by
  obtain ⟨cursors, found, stepped⟩ := Option.bind_eq_some_iff.mp stepped
  have back : ∀ batch ∈ system.failed ++ [cursors], batch ∈ system.failed ∨ batch = cursors :=
    fun batch member => by simpa using member
  cases ending with
  | rolledBack =>
      cases stepped
      exact timed_released found back (.inl rfl) timed
  | succeeded =>
      obtain ⟨tables, flushed, same⟩ := Option.bind_eq_some_iff.mp stepped
      cases same
      exact timed_released found (fun batch member => .inl member) (.inr flushed) timed
  | committedThenRaised =>
      obtain ⟨tables, flushed, same⟩ := Option.bind_eq_some_iff.mp stepped
      cases same
      exact timed_released found back (.inr flushed) timed

theorem timed_step (keyed : system.queue.Keyed) {label : ReadLabel}
    (keeps : KeepsOrder system history label) (stepped : system.step label = some next)
    (timed : Timed next field seq readAt) :
    Timed system field seq readAt ∨ ∃ cursor, system.accepted label = some cursor ∧
      system.tables.receipts.advances cursor = true ∧
        cursor.field = field ∧ cursor.messageSeq = seq ∧ cursor.readAt = readAt := by
  cases label with
  | commit log =>
      obtain ⟨_, same⟩ := Option.ite_none_left_eq_some.mp stepped
      cases same
      exact .inl timed
  | markAsRead user now chatId messageSeq =>
      simp only [ReadSystem.step] at stepped
      split at stepped
      · cases stepped
        exact .inl timed
      · cases stepped
        exact .inl timed
  | enqueue index ms =>
      obtain ⟨cursor, found, same⟩ := Option.bind_eq_some_iff.mp stepped
      cases same
      rcases timed with marked | ⟨other, waits | held, ahead, same⟩
      · exact .inl (.inl marked)
      · rcases waiting_enqueue waits with before | ⟨taken, rfl⟩
        · exact .inl (.inr ⟨other, .inl before, ahead, same⟩)
        · refine .inr ⟨_, ?_, ahead, same⟩
          simp only [ReadSystem.accepted, found, Option.filter_some, accepts_iff.mpr taken, if_true,
            Option.map_some]
      · exact .inl (.inr ⟨other, .inr held, ahead, same⟩)
  | claimDue before ms =>
      cases stepped
      rcases timed with marked | ⟨cursor, flying, same⟩
      · exact .inl (.inl marked)
      · exact .inl (.inr ⟨cursor, (flight_claimBatch before ms keyed cursor).mp flying, same⟩)
  | flush index ending => exact .inl (timed_flushBatch stepped timed)
  | requeue index ms =>
      have tables : next.tables = system.tables := by
        obtain ⟨cursors, _, stepped⟩ := Option.bind_eq_some_iff.mp stepped
        cases cursors with
        | nil =>
            cases stepped
            rfl
        | cons cursor rest =>
            cases stepped
            rfl
      rcases timed with marked | ⟨other, flying, ahead, same⟩
      · rw [tables] at marked
        exact .inl (.inl marked)
      · rw [tables] at ahead
        rcases flight_requeueNext stepped flying with before | ⟨cursor, rest, found, taken, rfl⟩
        · exact .inl (.inr ⟨other, before, ahead, same⟩)
        · have kept := keeps cursor rest found (accepts_iff.mpr taken) ahead
          have failed := List.mem_of_getElem? found
          refine .inl (.inr ⟨cursor, .inr (.inr ⟨_, failed, List.mem_cons_self⟩), ahead, same.1,
            same.2.1, kept.trans same.2.2⟩)

theorem marksStored_step (stored : MarksStored system.tables) {label : ReadLabel}
    (stepped : system.step label = some next) : MarksStored next.tables := by
  rcases step_tables stepped with ⟨_, _, tables⟩ | tables | ⟨batch, _, flushed⟩
  · rw [tables]
    exact stored
  · rw [tables]
    exact stored
  · intro mark member
    rcases mem_marks_flush flushed member with old | ⟨cursor, claimed, _, rfl⟩
    · obtain ⟨seq, found, below⟩ := stored mark old
      obtain ⟨later, reached, grown⟩ := (flush_ok flushed).seq?_mono found
      exact ⟨later, reached, Nat.le_trans below grown⟩
    · exact ⟨_, (flush_ok flushed).seq?_of_mem claimed, Nat.le_max_right _ _⟩

theorem accepted_last (order : InOrder system history) {label : ReadLabel}
    (keeps : KeepsOrder system history label) {cursor : PendingReadCursor}
    (accepted : system.accepted label = some cursor)
    (ahead : system.tables.receipts.advances cursor = true)
    (timed : Timed system cursor.field seq readAt) :
    seq ≤ cursor.messageSeq ∧ readAt ≤ cursor.readAt := by
  cases label with
  | enqueue index ms =>
      obtain ⟨taken, chosen, rfl⟩ := Option.map_eq_some_iff.mp accepted
      obtain ⟨found, accepts⟩ := Option.filter_eq_some_iff.mp chosen
      obtain ⟨after, unclaimed⟩ := keeps taken found accepts
      constructor
      · rcases timed with ⟨mark, stored, own, rfl, _⟩ | ⟨other, flying, live, own, rfl, _⟩
        · -- A mark is not ahead of the receipt, the cursor is.
          obtain ⟨last, there, below⟩ := order.stored mark stored
          unfold ReadReceipts.advances at ahead
          rw [← own, there] at ahead
          exact Nat.le_trans below (Nat.le_of_lt (of_decide_eq_true ahead))
        · rcases flying with waits | held
          · rw [own] at waits
            exact Nat.le_of_lt (accepts_iff.mp accepts other waits)
          · exact unclaimed ahead other held own live
      · obtain ⟨earlier, member, own, _, below⟩ := order.timely _ _ _ timed
        exact Nat.le_trans below (after earlier member own)
  | commit => cases accepted
  | markAsRead => cases accepted
  | claimDue => cases accepted
  | flush => cases accepted
  | requeue => cases accepted

theorem inOrder_step (sound : Sound system) (order : InOrder system history) {label : ReadLabel}
    (keeps : KeepsOrder system history label) (stepped : system.step label = some next) :
    InOrder next (history ++ (system.accepted label).toList) := by
  refine ⟨marksStored_step order.stored stepped, fun field seq readAt laterSeq laterAt timed later
    lower => ?_, fun field seq readAt timed => ?_⟩
  · rcases timed_step sound.keyed keeps stepped timed with old | ⟨cursor, accepted, ahead, rfl, rfl, rfl⟩
    · rcases timed_step sound.keyed keeps stepped later with before | ⟨cursor, accepted, ahead, rfl, rfl, rfl⟩
      · exact order.ordered field seq readAt laterSeq laterAt old before lower
      · exact (accepted_last order keeps accepted ahead old).2
    · rcases timed_step sound.keyed keeps stepped later with before | ⟨other, same, _, _, rfl, rfl⟩
      · -- What was there is not past the cursor that is accepted.
        have last := (accepted_last order keeps accepted ahead before).1
        omega
      · cases accepted.symm.trans same
        exact le_refl _
  · rcases timed_step sound.keyed keeps stepped timed with old | ⟨cursor, accepted, _, rfl, rfl, rfl⟩
    · obtain ⟨cursor, member, facts⟩ := order.timely field seq readAt old
      exact ⟨cursor, List.mem_append_left _ member, facts⟩
    · exact ⟨cursor, by simp [accepted], rfl, le_refl _, le_refl _⟩

end Steps

theorem inOrder_idle (db : Db) : InOrder { tables := { db := db } } [] := by
  have none : ∀ field seq readAt, ¬ Timed { tables := { db := db } } field seq readAt := by
    rintro field seq readAt (⟨mark, stored, _⟩ | ⟨cursor, waits | ⟨_, listed, _⟩ | ⟨_, listed, _⟩, _⟩)
    · cases stored
    · cases waits
    · cases listed
    · cases listed
  refine ⟨fun mark stored => ?_, fun field seq readAt _ _ timed => absurd timed (none field seq readAt),
    fun field seq readAt timed => absurd timed (none field seq readAt)⟩
  cases stored

theorem ReadSystem.Runs.reaches {Meets : ReadSystem → List PendingReadCursor → ReadLabel → Prop}
    {initial system : ReadSystem} {history : List PendingReadCursor}
    (run : ReadSystem.Runs Meets initial system history) : ReadSystem.Reaches initial system := by
  induction run with
  | refl => exact .refl
  | step _ _ stepped ih => exact .step ih stepped

def ReadSystem.trace (system : ReadSystem) (history : List PendingReadCursor) :
    List ReadLabel → Option (ReadSystem × List PendingReadCursor)
  | [] => some (system, history)
  | label :: labels => (system.step label).bind fun next =>
      next.trace (history ++ (system.accepted label).toList) labels

def ReadSystem.Along (Meets : ReadSystem → List PendingReadCursor → ReadLabel → Prop)
    (system : ReadSystem) (history : List PendingReadCursor) : List ReadLabel → Prop
  | [] => True
  | label :: labels => Meets system history label ∧ ∀ next, system.step label = some next →
      next.Along Meets (history ++ (system.accepted label).toList) labels

theorem runs_trace {Meets : ReadSystem → List PendingReadCursor → ReadLabel → Prop}
    {initial system final : ReadSystem} {history later : List PendingReadCursor}
    (labels : List ReadLabel) (run : ReadSystem.Runs Meets initial system history)
    (along : system.Along Meets history labels)
    (traced : system.trace history labels = some (final, later)) :
    ReadSystem.Runs Meets initial final later := by
  induction labels generalizing system history with
  | nil =>
      cases traced
      exact run
  | cons label labels ih =>
      obtain ⟨next, stepped, rest⟩ := Option.bind_eq_some_iff.mp traced
      exact ih (.step run along.1 stepped) (along.2 next stepped) rest

theorem along_any (system : ReadSystem) (history : List PendingReadCursor)
    (labels : List ReadLabel) : system.Along (fun _ _ _ => True) history labels := by
  induction labels generalizing system history with
  | nil => exact trivial
  | cons label labels ih => exact ⟨trivial, fun next _ => ih next _⟩

/-- User 2 reads up to 5; before the worker that has claimed this flushes it, he marks 3 as read and
another worker flushes that. -/
def lowerFlushedFirst : List ReadLabel :=
  [.markAsRead { id := 2 } 0 1 5, .enqueue 0 0, .claimDue (fun _ _ => true) 500,
    .markAsRead { id := 2 } 0 1 3, .enqueue 0 600, .claimDue (fun _ _ => true) 1200,
    .flush 1 .succeeded, .flush 0 .succeeded]

/-- Message 3 is then shown as read at 600 and message 4 as read at 0. -/
theorem times_out_of_order : ¬ ∀ (db : Db) (system : ReadSystem) (history : List PendingReadCursor),
    ReadSystem.Runs (fun _ _ _ => True) { tables := { db := db } } system history →
      TimesShown system.tables history := by
  intro claim
  have outcome : (ReadSystem.trace { tables := { db := readGroup } } [] lowerFlushedFirst).map
      (fun reached => (reached.1.tables.getMessageReaders 0 1 3 1 100,
        reached.1.tables.getMessageReaders 0 1 4 1 100)) = some ([⟨2, 600⟩], [⟨2, 0⟩]) := by
    decide +kernel
  obtain ⟨⟨system, history⟩, reached, facts⟩ := Option.map_eq_some_iff.mp outcome
  simp only [Prod.mk.injEq] at facts
  have shown := claim readGroup system history (runs_trace _ .refl (along_any _ _ _) reached)
  have later := shown.ordered 0 0 1 3 4 1 1 100 100 ⟨2, 600⟩ (by rw [facts.1]; simp) ⟨2, 0⟩
    (by rw [facts.2]; simp) rfl (by decide)
  simp at later

/-- In a run whose steps keep the order of the times, the times shown for a reader do not decrease
along the messages and none is later than all enqueues that reach its message. -/
theorem times_shown_in_run (db : Db) (system : ReadSystem) (history : List PendingReadCursor)
    (run : ReadSystem.Runs KeepsOrder { tables := { db := db } } system history) :
    TimesShown system.tables history := by
  suffices order : InOrder system history from order.shown
  induction run with
  | refl => exact inOrder_idle db
  | step before keeps stepped ih => exact inOrder_step (sound_run before.reaches) ih keeps stepped

theorem times_shown_once : ∃ system history,
    ReadSystem.Runs KeepsOrder { tables := { db := readGroup } } system history ∧
      system.tables.getMessageReaders 0 1 2 1 100 = [⟨2, 40⟩] ∧
      TimesShown system.tables history := by
  let labels : List ReadLabel := [.markAsRead { id := 2 } 0 1 3, .enqueue 0 40,
    .claimDue (fun _ _ => true) 540, .flush 0 .succeeded]
  have outcome : (ReadSystem.trace { tables := { db := readGroup } } [] labels).map
      (fun reached => reached.1.tables.getMessageReaders 0 1 2 1 100) = some [⟨2, 40⟩] := by
    decide +kernel
  obtain ⟨⟨system, history⟩, reached, shown⟩ := Option.map_eq_some_iff.mp outcome
  have along : ReadSystem.Along KeepsOrder { tables := { db := readGroup } } [] labels := by
    refine ⟨trivial, fun marked stepped => ⟨fun cursor _ _ => ⟨fun earlier none => ?_,
      fun _ held holds => ?_⟩, fun _ _ => ⟨trivial, fun _ _ => ⟨trivial, fun _ _ => trivial⟩⟩⟩⟩
    · cases none
    · have empty : marked.claimed = [] ∧ marked.failed = [] := by
        simp only [ReadSystem.step] at stepped
        split at stepped
        · cases stepped
          exact ⟨rfl, rfl⟩
        · cases stepped
          exact ⟨rfl, rfl⟩
      rcases holds with ⟨_, listed, _⟩ | ⟨_, listed, _⟩
      · rw [empty.1] at listed
        cases listed
      · rw [empty.2] at listed
        cases listed
  have run := runs_trace labels .refl along reached
  exact ⟨system, history, run, shown, times_shown_in_run readGroup system history run⟩

end Messanger
