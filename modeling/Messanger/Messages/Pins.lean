import Messanger.Footprint
import Messanger.Statements
import Messanger.Websockets.History

/-!
The pins of a chat while any requests of the module interleave.  `PinMessage` counts and inserts
while it holds the row of the chat; everybody else only takes pins away, or deletes their messages.
-/

namespace Messanger

open Relational

section Places

variable {db before after : Db} {chatId : ChatId} {pin : ChatPinnedMessage}

def PinStands (db : Db) (pin : ChatPinnedMessage) : Prop :=
  ∃ message, db.message? pin.messageId = some message ∧ message.chatId = pin.chatId ∧
    message.seq = pin.messageSeq

def PinsStand (db : Db) : Prop := ∀ pin ∈ db.pins.rows, PinStands db pin

theorem pinStands_later (stands : PinStands before pin) (outlives : Outlives before after) :
    PinStands after pin := by
  obtain ⟨message, found, inChat, place⟩ := stands
  obtain ⟨later, present, sameChat, samePlace, _⟩ := outlives _ message found
  exact ⟨later, present, sameChat.trans inChat, samePlace.trans place⟩

theorem live_of_outlived (outlives : Outlives before after) {messageId : MessageId} {message : Message}
    (there : before.message? messageId = some message)
    (live : (after.liveMessage? messageId).isSome) : (before.liveMessage? messageId).isSome := by
  obtain ⟨later, present, _, _, gone⟩ := outlives _ message there
  obtain ⟨shown, found⟩ := Option.isSome_iff_exists.mp live
  obtain ⟨stored, kept⟩ := Option.filter_eq_some_iff.mp found
  rw [present, Option.some.injEq] at stored
  subst stored
  have lives : message.isDeleted = false := by
    by_contra deleted
    rw [gone (Bool.not_eq_false _ ▸ deleted)] at kept
    cases kept
  rw [Db.liveMessage?, there, Option.filter_some, lives]
  rfl

theorem pinnedCount_le (stands : PinsStand before) (outlives : Outlives before after)
    (fewer : ∀ pin ∈ after.pins.rows, pin ∈ before.pins.rows) :
    after.pinnedCount chatId ≤ before.pinnedCount chatId := by
  refine Table.count_le fun pin member counted => ⟨pin, fewer pin member, rfl, ?_⟩
  obtain ⟨message, there, _⟩ := stands pin (fewer pin member)
  rw [Bool.and_eq_true] at counted ⊢
  exact ⟨counted.1, live_of_outlived outlives there counted.2⟩

def Write.pinsIn (chatId : ChatId) : Write → Bool
  | .insertPin pin => pin.chatId == chatId
  | _ => false

theorem pinnedCount_insertPin (pin : ChatPinnedMessage) :
    (Db.apply (.insertPin pin) db).pinnedCount chatId ≤
      db.pinnedCount chatId + if pin.chatId == chatId then 1 else 0 := by
  have same : (Db.apply (.insertPin pin) db).pinnedCount chatId = (db.pins.insert pin).count
      fun other => other.chatId == chatId && (db.liveMessage? other.messageId).isSome := rfl
  rw [same]
  cases taken : db.pins.find? pin.key with
  | some stored =>
      rw [Table.insert_taken _ _ (by rw [taken]; rfl)]
      exact Nat.le_add_right _ _
  | none =>
      rw [Table.count_insert _ _ _ taken]
      cases pin.chatId == chatId with
      | false => exact Nat.le_refl _
      | true =>
          refine Nat.add_le_add_left ?_ _
          split
          · exact Nat.le_refl _
          · exact Nat.zero_le _

theorem pins_apply (write : Write) (stands : PinsStand db)
    (fresh : ∀ pin, write = .insertPin pin → PinStands db pin) :
    PinsStand (Db.apply write db) ∧ ∀ chatId, (Db.apply write db).pinnedCount chatId ≤
      db.pinnedCount chatId + if write.pinsIn chatId then 1 else 0 := by
  have outlives := outlives_apply write db
  have quiet : (∀ pin ∈ (Db.apply write db).pins.rows, pin ∈ db.pins.rows) →
      PinsStand (Db.apply write db) ∧ ∀ chatId, (Db.apply write db).pinnedCount chatId ≤
        db.pinnedCount chatId + if write.pinsIn chatId then 1 else 0 := fun fewer =>
    ⟨fun pin member => pinStands_later (stands pin (fewer pin member)) outlives,
      fun _ => Nat.le_trans (pinnedCount_le stands outlives fewer) (Nat.le_add_right _ _)⟩
  cases write
  case insertPin pin =>
    refine ⟨fun other member => ?_, fun chatId => pinnedCount_insertPin pin⟩
    rcases Table.mem_insert member with old | rfl
    · exact stands other old
    · exact fresh other rfl
  case deletePin => exact quiet fun pin member => List.mem_of_mem_filter member
  all_goals exact quiet fun pin member => member

theorem pins_applyAll (log : List Write) (stands : PinsStand db)
    (fresh : ∀ pin, .insertPin pin ∈ log → PinStands db pin) :
    PinsStand (applyAll log db) ∧ ∀ chatId, (applyAll log db).pinnedCount chatId ≤
      db.pinnedCount chatId + log.countP (·.pinsIn chatId) := by
  induction log generalizing db with
  | nil => exact ⟨stands, fun _ => Nat.le_refl _⟩
  | cons write rest ih =>
      obtain ⟨still, most⟩ := pins_apply write stands fun pin same =>
        fresh pin (same ▸ List.mem_cons_self)
      obtain ⟨last, more⟩ := ih still fun pin member =>
        pinStands_later (fresh pin (List.mem_cons_of_mem _ member)) (outlives_apply write db)
      rw [applyAll_cons, Db.apply_eq]
      refine ⟨last, fun chatId => ?_⟩
      have first := most chatId
      have later := more chatId
      rw [List.countP_cons]
      omega

end Places

section Pinning

def pinPact : Pact Db Write RowKey Request where
  Rely held before after := Outlives before after ∧ PinsStand after ∧
    ∀ chatId, .chat chatId ∈ held → after.pinnedCount chatId ≤ before.pinnedCount chatId
  trans _ _ _ _ left right := ⟨outlives_trans left.1 right.1, right.2.1,
    fun chatId locked => Nat.le_trans (right.2.2 chatId locked) (left.2.2 chatId locked)⟩
  fewer _ _ _ _ among relied :=
    ⟨relied.1, relied.2.1, fun chatId locked => relied.2.2 chatId (among _ locked)⟩
  Commits _ held log db := PinsStand db → PinsStand (applyAll log db) ∧ ∀ chatId,
    (applyAll log db).pinnedCount chatId ≤ db.pinnedCount chatId ∨
      .chat chatId ∈ held ∧ (applyAll log db).pinnedCount chatId ≤ 100

def PinsWithin (db : Db) : Prop := PinsStand db ∧ ∀ chatId, db.pinnedCount chatId ≤ 100

theorem Chat.pinMessage_made {chat : Chat} {message : Message} {pinnedBy : UserId}
    {pinnedCount now : Nat} {pin : ChatPinnedMessage}
    (pinned : chat.pinMessage message pinnedBy pinnedCount now = .ok pin) :
    pinnedCount < 100 ∧ message.chatId = chat.id ∧
      pin = ⟨chat.id, message.id, message.seq, pinnedBy, now⟩ := by
  unfold Chat.pinMessage at pinned
  split at pinned
  · cases pinned
  · rename_i fine
    split at pinned
    · cases pinned
    · split at pinned
      · cases pinned
      · rename_i room
        cases pinned
        exact ⟨Nat.lt_of_not_le room, not_not.mp fun other => fine (.inl other), rfl⟩

theorem emits_unpinned {request : Request}
    (other : ∀ chatId messageId noticeId, request.command ≠ .pinMessage chatId messageId noticeId) :
    (handle request).Emits fun write => ∀ pin, write ≠ .insertPin pin := by
  refine Tx.emits_mono (handle_emits request) fun write allowed pin same => ?_
  subst same
  obtain ⟨user, now, command⟩ := request
  cases command
  case pinMessage chatId messageId noticeId => exact other chatId messageId noticeId rfl
  all_goals exact allowed

theorem unpinned_commits {request : Request} {held : List RowKey} {log : List Write} {db : Db}
    (none : ∀ write ∈ log, ∀ pin, write ≠ .insertPin pin) :
    pinPact.Commits request held log db := by
  intro stands
  obtain ⟨still, most⟩ := pins_applyAll log stands fun pin member => (none _ member pin rfl).elim
  refine ⟨still, fun chatId => .inl ?_⟩
  have quiet : log.countP (·.pinsIn chatId) = 0 := by
    refine List.countP_eq_zero.mpr fun write member counted => ?_
    cases write
    case insertPin pin => exact none _ member pin rfl
    all_goals cases counted
  have total := most chatId
  omega

theorem rely_holding {chatId : ChatId} {held : List RowKey} {first second third : Db}
    (locked : .chat chatId ∈ held) (before : pinPact.Rely [.chat chatId] first second)
    (after : pinPact.Rely held second third) : pinPact.Rely [.chat chatId] first third := by
  refine pinPact.trans _ _ _ _ before (pinPact.fewer _ held _ _ (fun key member => ?_) after)
  rw [List.mem_singleton.mp member]
  exact locked

theorem pinned_commits {request : Request} {held : List RowKey} {log : List Write} {db : Db}
    {chatId : ChatId} (locked : .chat chatId ∈ held) (room : db.pinnedCount chatId < 100)
    (fresh : ∀ pin, .insertPin pin ∈ log → PinStands db pin)
    (single : log.countP (·.pinsIn chatId) ≤ 1)
    (others : ∀ other, other ≠ chatId → log.countP (·.pinsIn other) = 0) :
    pinPact.Commits request held log db := by
  intro stands
  obtain ⟨still, most⟩ := pins_applyAll log stands fresh
  refine ⟨still, fun other => ?_⟩
  have total := most other
  by_cases here : other = chatId
  · subst here
    exact .inr ⟨locked, by omega⟩
  · rw [others other here] at total
    exact .inl total

theorem pinMessage_obeys (user : UserJWTData) (now : Nat) (chatId : ChatId)
    (messageId noticeId : MessageId) (tag : Request) (db : Db) :
    (pinMessage user now chatId messageId noticeId).Obeys pinPact tag [] [] db
      fun _ _ _ _ => True := by
  refine Tx.obeys_statement fun first _ _ found answered => ?_
  cases answered
  refine Tx.obeys_orRaise fun chat opened => ?_
  have locks : (if (Db.openChat? (applyAll [] first) chatId).isSome then [RowKey.chat chatId]
      else []) = [.chat chatId] := if_pos (by rw [opened]; rfl)
  rw [locks]
  refine Tx.obeys_read fun second _ => Tx.obeys_ofExcept fun _ _ => ?_
  refine Tx.obeys_read fun third _ => Tx.obeys_orRaise fun loaded shown => ?_
  refine Tx.obeys_require fun inChat => Tx.obeys_read fun fourth toFourth => ?_
  split
  · exact Tx.obeys_done fun _ _ => trivial
  refine Tx.obeys_read fun counted toCounted => Tx.obeys_ofExcept fun pin pinned => ?_
  refine Tx.obeys_statement fun fifth toFifth _ _ _ => Tx.obeys_orRaise fun seq _ => ?_
  refine Tx.obeys_ofExcept fun notice _ => ?_
  refine obeys_insertRow fun sixth toSixth _ _ => obeys_insertRow fun seventh toSeventh _ _ => ?_
  refine obeys_publish fun eighth toEighth _ => Tx.obeys_commit fun last toLast _ => ?_
  obtain ⟨room, sameChat, rfl⟩ := Chat.pinMessage_made pinned
  obtain rfl : chat.id = chatId := Db.openChat_id opened
  obtain ⟨message, live, rfl⟩ := Option.map_eq_some_iff.mp shown
  have named : message.id = messageId := Db.liveMessage_id live
  have held : RowKey.chat chat.id ∈ [RowKey.chat chat.id] := List.mem_singleton_self _
  have counting := rely_holding (by simp) (rely_holding (by simp) (rely_holding (by simp)
    (rely_holding (by simp) toFifth toSixth) toSeventh) toEighth) toLast
  have whole := rely_holding held (rely_holding held toFourth toCounted) counting
  have stood : PinStands third ⟨chat.id, message.id, message.seq, user.id, now⟩ :=
    ⟨message, by rw [named]; exact (Option.filter_eq_some_iff.mp live).1, sameChat, rfl⟩
  refine @pinned_commits _ _ _ _ chat.id (by simp)
    (Nat.lt_of_le_of_lt (counting.2.2 chat.id held) room) (fun pin member => ?_) ?_ ?_
  · have same : pin = ⟨chat.id, message.id, message.seq, user.id, now⟩ := by
      split at member
      · simpa [Db.loadNested, Db.load] using member
      · simpa [Db.loadNested, Db.load] using member
    rw [same]
    exact pinStands_later stood whole.1
  · split
    · simp [Write.pinsIn]
    · simp [Write.pinsIn]
  · intro other different
    split
    · simp [Write.pinsIn, Ne.symm different]
    · simp [Write.pinsIn, Ne.symm different]

end Pinning

section Running

variable {initial : Db}

abbrev PinJournal := Journal Db Write RowKey ChatError Request

theorem pins_governed : Governed (fun request => (handle request).void) pinPact
    (fun db (_ : List (Request × List Write)) => PinsWithin db) where
  obeys request db history _ := by
    refine Tx.obeys_void ?_
    by_cases pins : ∃ chatId messageId noticeId, request.command =
        .pinMessage chatId messageId noticeId
    · obtain ⟨chatId, messageId, noticeId, same⟩ := pins
      obtain ⟨user, now, command⟩ := request
      subst same
      exact Tx.obeys_answer _ (pinMessage_obeys user now chatId messageId noticeId _ db)
    · refine Tx.obeys_of_emits (fun _ _ _ => unpinned_commits) (emits_unpinned ?_) (by simp)
      exact fun chatId messageId noticeId same => pins ⟨chatId, messageId, noticeId, same⟩
  refl _ db _ inv := ⟨outlives_refl db, inv.1, fun _ _ => Nat.le_refl _⟩
  commit _ db _ _ _ inv _ commits := by
    obtain ⟨still, most⟩ := commits inv.1
    refine ⟨still, fun chatId => ?_⟩
    rcases most chatId with fewer | ⟨_, limited⟩
    · exact Nat.le_trans fewer (inv.2 chatId)
    · exact limited
  others _ db _ held log otherHeld inv _ commits apart := by
    obtain ⟨still, most⟩ := commits inv.1
    refine ⟨outlives_applyAll log db, still, fun chatId locked => ?_⟩
    rcases most chatId with fewer | ⟨own, _⟩
    · exact fewer
    · exact absurd locked (apart _ own)

/-- In every run of any requests, no chat ever shows more pins than the limit, and every pin tells
the place of a message of its chat. -/
theorem pins_within_in_run (within : PinsWithin initial) {journal : PinJournal}
    (run : Journal.Runs (fun request => (handle request).void) (fun _ _ => True)
      (Journal.idle initial) journal) :
    (∀ chatId, journal.system.db.pinnedCount chatId ≤ 100) ∧
      ∀ pin ∈ journal.system.db.pins.rows, ∃ message,
        journal.system.db.message? pin.messageId = some message ∧ message.chatId = pin.chatId ∧
          message.seq = pin.messageSeq := by
  have asked : Journal.Runs (fun request => (handle request).void) (Journal.Asks pinPact)
      (Journal.idle initial) journal :=
    Journal.runs_mono (fun journal action _ => Journal.asks_nothing (fun _ _ _ _ => trivial)
      (fun _ _ _ => trivial) journal action) run
  obtain ⟨stand, limited⟩ := runs_governed pins_governed within asked
  exact ⟨limited, stand⟩

def talkingGroup : Db :=
  applyAll
    [.insertChat { id := 1, type := .group, createdBy := 1, memberCount := 1, seqCounter := 2 },
      .insertMember 1 1 .owner,
      .insertMessage { id := 10, chatId := 1, seq := 1, authorId := some 1, content := some "one" },
      .insertMessage { id := 11, chatId := 1, seq := 2, authorId := some 1, content := some "two" }] {}

theorem talkingGroup_within : PinsWithin talkingGroup :=
  ⟨fun _ member => (List.not_mem_nil member).elim, fun _ => Nat.zero_le 100⟩

def pinnedAtOnce : List (Action Request) :=
  [Action.start ⟨{ id := 1 }, 5, .pinMessage 1 10 20⟩,
    Action.start ⟨{ id := 1 }, 5, .pinMessage 1 11 21⟩,
    Action.start ⟨{ id := 1 }, 5, .deleteMessage 1 10⟩, Action.exec 0, Action.exec 2,
    Action.exec 2] ++
    List.replicate 9 (Action.exec 0) ++ List.replicate 4 (Action.exec 2) ++
    List.replicate 10 (Action.exec 1)

theorem pins_within_pinned_at_once : ∃ journal : PinJournal,
    journal.system.db.pinnedCount 1 = 1 ∧ journal.history.length = 3 ∧
      ∀ chatId, journal.system.db.pinnedCount chatId ≤ 100 := by
  have outcome : (((Journal.idle talkingGroup : PinJournal).steps
      (fun request => (handle request).void) (fun _ _ => true) pinnedAtOnce).any fun journal =>
        journal.system.db.pinnedCount 1 == 1 && journal.history.length == 3) = true := by
    decide +kernel
  obtain ⟨journal, stepped, checked⟩ := Option.any_eq_true _ _ |>.mp outcome
  rw [Bool.and_eq_true, beq_iff_eq, beq_iff_eq] at checked
  have run := Journal.runs_of_steps (fun _ _ => true) (fun _ _ _ => trivial) pinnedAtOnce .refl stepped
  exact ⟨journal, checked.1, checked.2, (pins_within_in_run talkingGroup_within run).1⟩

end Running

end Messanger
