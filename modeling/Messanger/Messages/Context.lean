import Messanger.Library.Evaluation
import Messanger.Library.Keyset
import Messanger.Messages.MessageSeq
import Messanger.Messages.QueriesCore

/-!
The messages around a target: the newest half up to it and the oldest half past it.  A page of one
message has no half.
-/

namespace Messanger

open Relational

section Context

variable {db : Db} {chatId : ChatId} {targetSeq : Nat} {limit : Int}

/-- A contiguous run of the chat's messages with the target, the oldest first. -/
structure ContextAround (db : Db) (chatId : ChatId) (targetSeq : Nat) (limit : Int)
    (shown : List MessageDTO) : Prop where
  short : (shown.length : Int) ≤ limit
  increasing : shown.Pairwise fun earlier later =>
    earlier.body.message.seq < later.body.message.seq
  target : ∃ dto ∈ shown, dto.body.message.seq = targetSeq
  live : ∀ dto ∈ shown, ∃ message ∈ db.liveMessages chatId fun _ => true,
    dto = db.loadNested message
  contiguous : ∀ first ∈ shown, ∀ last ∈ shown, ∀ message ∈ db.liveMessages chatId fun _ => true,
    first.body.message.seq ≤ message.seq → message.seq ≤ last.body.message.seq →
      db.loadNested message ∈ shown

/-- The first query of `get_message_context`. -/
def olderMessages (db : Db) (chatId : ChatId) (targetSeq half : Nat) : List Message :=
  (newestFirst (db.liveMessages chatId fun message => decide (message.seq ≤ targetSeq))).take half

def newerMessages (db : Db) (chatId : ChatId) (targetSeq half : Nat) : List Message :=
  (oldestFirst (db.liveMessages chatId fun message => decide (targetSeq < message.seq))).take half

theorem mem_liveMessages {wanted : Message → Bool} {message : Message} :
    message ∈ db.liveMessages chatId wanted ↔
      message ∈ db.liveMessages chatId (fun _ => true) ∧ wanted message = true := by
  simp only [Db.liveMessages, Table.select, List.mem_filter, Bool.and_eq_true, Bool.and_true]
  tauto

theorem live_distinct (distinct : (db.seqs chatId).Nodup) (wanted : Message → Bool) :
    ((db.liveMessages chatId wanted).map Message.seq).Nodup := by
  refine distinct.sublist (List.Sublist.map _ (List.monotone_filter_right _ fun message chosen => ?_))
  simp only [Bool.and_eq_true] at chosen
  exact chosen.1.1

theorem older_falling (distinct : (db.seqs chatId).Nodup) : Keyset.Falling Message.seq (newestFirst
    (db.liveMessages chatId fun message => decide (message.seq ≤ targetSeq))) :=
  Keyset.newest_falling (live_distinct distinct _)

def upward (message : Message) : Natᵒᵈ := OrderDual.toDual message.seq

theorem newer_falling (distinct : (db.seqs chatId).Nodup) : Keyset.Falling upward (oldestFirst
    (db.liveMessages chatId fun message => decide (targetSeq < message.seq))) := by
  have spread : ((db.liveMessages chatId fun message => decide (targetSeq < message.seq)).map
      upward).Nodup := by
    have seqs := live_distinct distinct fun message => decide (targetSeq < message.seq)
    exact List.pairwise_map.mpr (List.pairwise_map.mp seqs)
  exact Keyset.newest_falling spread

theorem mem_older {half : Nat} {message : Message}
    (shown : message ∈ olderMessages db chatId targetSeq half) :
    message ∈ db.liveMessages chatId (fun _ => true) ∧ message.seq ≤ targetSeq := by
  have listed := (List.mem_insertionSort _).mp (List.mem_of_mem_take shown)
  rwa [mem_liveMessages, decide_eq_true_eq] at listed

theorem mem_newer {half : Nat} {message : Message}
    (shown : message ∈ newerMessages db chatId targetSeq half) :
    message ∈ db.liveMessages chatId (fun _ => true) ∧ targetSeq < message.seq := by
  have listed := (List.mem_insertionSort _).mp (List.mem_of_mem_take shown)
  rwa [mem_liveMessages, decide_eq_true_eq] at listed

theorem window_closed (distinct : (db.seqs chatId).Nodup) {half : Nat} {first last message : Message}
    (starts : first ∈ olderMessages db chatId targetSeq half ++
      newerMessages db chatId targetSeq half)
    (ends : last ∈ olderMessages db chatId targetSeq half ++
      newerMessages db chatId targetSeq half)
    (live : message ∈ db.liveMessages chatId fun _ => true)
    (after : first.seq ≤ message.seq) (before : message.seq ≤ last.seq) :
    message ∈ olderMessages db chatId targetSeq half ++
      newerMessages db chatId targetSeq half := by
  by_cases past : targetSeq < message.seq
  · -- Whatever ends the run past the target is one of the newer messages.
    have last_newer : last ∈ newerMessages db chatId targetSeq half := by
      rcases List.mem_append.mp ends with older | newer
      · have bound := (mem_older older).2
        omega
      · exact newer
    refine List.mem_append_right _ (Keyset.mem_front_of_reached (newer_falling distinct) last_newer
      ((List.mem_insertionSort _).mpr ?_) before)
    rw [mem_liveMessages]
    exact ⟨live, decide_eq_true past⟩
  · have first_older : first ∈ olderMessages db chatId targetSeq half := by
      rcases List.mem_append.mp starts with older | newer
      · exact older
      · have bound := (mem_newer newer).2
        omega
    refine List.mem_append_left _ (Keyset.mem_front_of_reached (older_falling distinct) first_older
      ((List.mem_insertionSort _).mpr ?_) after)
    rw [mem_liveMessages]
    exact ⟨live, decide_eq_true (Nat.le_of_not_lt past)⟩

theorem target_older (distinct : (db.seqs chatId).Nodup) {half : Nat} (some : 0 < half)
    {target : Message} (live : target ∈ db.liveMessages chatId fun _ => true)
    (here : target.seq = targetSeq) : target ∈ olderMessages db chatId targetSeq half := by
  have listed : target ∈ newestFirst
      (db.liveMessages chatId fun message => decide (message.seq ≤ targetSeq)) := by
    refine (List.mem_insertionSort _).mpr ?_
    rw [mem_liveMessages]
    exact ⟨live, decide_eq_true (Nat.le_of_eq here)⟩
  have filled : olderMessages db chatId targetSeq half ≠ [] := by
    intro empty
    rcases List.take_eq_nil_iff.mp empty with zero | none
    · omega
    · rw [none] at listed
      cases listed
  obtain ⟨shown, front⟩ := List.exists_mem_of_ne_nil _ filled
  refine Keyset.mem_front_of_reached (older_falling distinct) front listed ?_
  rw [here]
  exact (mem_older front).2

def contextMessages (db : Db) (chatId : ChatId) (targetSeq half : Nat) : List MessageDTO :=
  ((olderMessages db chatId targetSeq half).map db.loadNested ++
    (newerMessages db chatId targetSeq half).map db.loadNested).insertionSort
      fun left right => left.body.message.seq ≤ right.body.message.seq

theorem mem_contextMessages {half : Nat} {dto : MessageDTO} :
    dto ∈ contextMessages db chatId targetSeq half ↔
      ∃ message ∈ olderMessages db chatId targetSeq half ++ newerMessages db chatId targetSeq half,
        db.loadNested message = dto := by
  rw [contextMessages, List.mem_insertionSort, ← List.map_append, List.mem_map]

theorem context_answer {user : UserJWTData} {now : Nat} {member : ChatMember}
    (found : db.member? chatId user.id = some member) (active : member.isBanned now = false) :
    ((getMessageContext user now chatId targetSeq limit).exec db).1 =
      .ok ⟨contextMessages db chatId targetSeq (clampLimit limit 100 / 2), false, none⟩ := by
  simp only [Tx.exec, getMessageContext, requireActiveMember, getMemberChat, Tx.bind_eq,
    Tx.bind_assoc, Tx.run_read, Tx.run_orRaise, Tx.run_require, found, active, Bool.not_false,
    if_true]
  rfl

theorem context_increasing (distinct : (db.seqs chatId).Nodup) (half : Nat) :
    (contextMessages db chatId targetSeq half).Pairwise fun earlier later =>
      earlier.body.message.seq < later.body.message.seq := by
  have older : ((olderMessages db chatId targetSeq half).map Message.seq).Nodup :=
    List.pairwise_map.mpr (((older_falling distinct).sublist (List.take_sublist _ _)).imp
      fun after => after.ne')
  have newer : ((newerMessages db chatId targetSeq half).map Message.seq).Nodup :=
    List.pairwise_map.mpr (((newer_falling distinct).sublist (List.take_sublist _ _)).imp
      fun {earlier later} after => (OrderDual.toDual_lt_toDual.mp after).ne)
  have apart : ∀ left ∈ (olderMessages db chatId targetSeq half).map Message.seq,
      ∀ right ∈ (newerMessages db chatId targetSeq half).map Message.seq, left ≠ right := by
    intro left first right second
    obtain ⟨early, shownEarly, rfl⟩ := List.mem_map.mp first
    obtain ⟨late, shownLate, rfl⟩ := List.mem_map.mp second
    have before := (mem_older shownEarly).2
    have after := (mem_newer shownLate).2
    omega
  have spread : (((olderMessages db chatId targetSeq half).map db.loadNested ++
      (newerMessages db chatId targetSeq half).map db.loadNested).map
        fun dto => upward dto.body.message).Nodup := by
    rw [← List.map_append, List.map_map]
    have seqs := List.nodup_append.mpr ⟨older, newer, apart⟩
    rw [← List.map_append] at seqs
    exact List.pairwise_map.mpr (List.pairwise_map.mp seqs)
  have falling : Keyset.Falling (fun dto : MessageDTO => upward dto.body.message)
      (contextMessages db chatId targetSeq half) := Keyset.newest_falling spread
  exact falling

theorem context_short (half : Nat) :
    (contextMessages db chatId targetSeq half).length ≤ 2 * half := by
  have older : (olderMessages db chatId targetSeq half).length ≤ half := List.length_take_le _ _
  have newer : (newerMessages db chatId targetSeq half).length ≤ half := List.length_take_le _ _
  rw [contextMessages, List.length_insertionSort, List.length_append, List.length_map,
    List.length_map]
  omega

/-- The answer is the run around the target just when more than one message is asked for. -/
theorem context_around {user : UserJWTData} {now : Nat} {member : ChatMember}
    (found : db.member? chatId user.id = some member) (active : member.isBanned now = false)
    (distinct : (db.seqs chatId).Nodup) (asked : 1 ≤ limit) {target : Message}
    (live : target ∈ db.liveMessages chatId fun _ => true) (here : target.seq = targetSeq) :
    ∃ dto, ((getMessageContext user now chatId targetSeq limit).exec db).1 = .ok dto ∧
      (ContextAround db chatId targetSeq limit dto.messages ↔ limit ≠ 1) := by
  refine ⟨_, context_answer found active, ?_⟩
  constructor
  · rintro around rfl
    obtain ⟨dto, shown, _⟩ := around.target
    have none : contextMessages db chatId targetSeq (clampLimit 1 100 / 2) = [] :=
      List.length_eq_zero_iff.mp (Nat.le_zero.mp (context_short 0))
    rw [none] at shown
    cases shown
  · intro more
    have half : 0 < clampLimit limit 100 / 2 := by
      unfold clampLimit
      omega
    have fits : 2 * ((clampLimit limit 100 / 2 : Nat) : Int) ≤ limit := by
      unfold clampLimit
      omega
    refine ⟨?_, context_increasing distinct _, ?_, ?_, ?_⟩
    · have bound : (contextMessages db chatId targetSeq (clampLimit limit 100 / 2)).length ≤
          2 * (clampLimit limit 100 / 2) := context_short _
      change ((contextMessages db chatId targetSeq (clampLimit limit 100 / 2)).length : Int) ≤ limit
      omega
    · exact ⟨db.loadNested target, mem_contextMessages.mpr
        ⟨target, List.mem_append_left _ (target_older distinct half live here), rfl⟩, here⟩
    · intro dto shown
      obtain ⟨message, listed, rfl⟩ := mem_contextMessages.mp shown
      rcases List.mem_append.mp listed with older | newer
      · exact ⟨message, (mem_older older).1, rfl⟩
      · exact ⟨message, (mem_newer newer).1, rfl⟩
    · intro first starts last ends message alive after before
      obtain ⟨low, lowShown, rfl⟩ := mem_contextMessages.mp starts
      obtain ⟨high, highShown, rfl⟩ := mem_contextMessages.mp ends
      exact mem_contextMessages.mpr
        ⟨message, window_closed distinct lowShown highShown alive after before, rfl⟩

def chattyGroup : Db :=
  applyAll
    [.insertMessage { id := 10, chatId := 1, seq := 1, authorId := some 1, content := some "a" },
      .insertMessage { id := 11, chatId := 1, seq := 2, authorId := some 1, content := some "b" },
      .insertMessage { id := 12, chatId := 1, seq := 3, authorId := some 2, content := some "c" },
      .insertMessage { id := 13, chatId := 1, seq := 4, authorId := some 1, content := some "d" },
      .insertMessage { id := 14, chatId := 1, seq := 5, authorId := some 2, content := some "e" },
      .deleteMessage 11] emptyGroup

def shownSeqs (limit : Int) : Option (List Nat) :=
  (((getMessageContext { id := 2 } 0 1 3 limit).exec chattyGroup).1.toOption).map fun dto =>
    dto.messages.map fun shown => shown.body.message.seq

/-- The run of four messages around the third one leaves no live message out. -/
theorem context_around_third : shownSeqs 4 = some [1, 3, 4, 5] ∧
    ∃ dto, ((getMessageContext { id := 2 } 0 1 3 4).exec chattyGroup).1 = .ok dto ∧
      (ContextAround chattyGroup 1 3 4 dto.messages ↔ (4 : Int) ≠ 1) := by
  have member : ∃ member, chattyGroup.member? 1 2 = some member ∧ member.isBanned 0 = false := by
    have found : (chattyGroup.member? 1 2).map (·.isBanned 0) = some false := by decide +kernel
    exact Option.map_eq_some_iff.mp found
  obtain ⟨member, found, active⟩ := member
  have target : ∃ target ∈ chattyGroup.liveMessages 1 fun _ => true, target.seq = 3 := by
    decide +kernel
  obtain ⟨target, live, here⟩ := target
  exact ⟨by decide +kernel,
    context_around found active (by decide +kernel) (by decide) live here⟩

/-- Who asks for one message gets none. -/
theorem context_without_target : ¬ ∀ (db : Db) (user : UserJWTData) (chatId targetSeq : Nat)
    (limit : Int) (dto : MessagesDTO), 1 ≤ limit →
      (∃ target ∈ db.liveMessages chatId fun _ => true, target.seq = targetSeq) →
        ((getMessageContext user 0 chatId targetSeq limit).exec db).1 = .ok dto →
          ContextAround db chatId targetSeq limit dto.messages := by
  intro claimed
  have answered : ((getMessageContext { id := 2 } 0 1 3 1).exec chattyGroup).1 =
      .ok ⟨[], false, none⟩ := by decide +kernel
  have around := claimed chattyGroup { id := 2 } 1 3 1 _ (by decide) (by decide +kernel) answered
  obtain ⟨dto, shown, _⟩ := around.target
  cases shown

end Context

end Messanger
