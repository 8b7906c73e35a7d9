import Mathlib.Order.Interval.Finset.Nat
import Messanger.Chats.ChatList
import Messanger.Reads.ReadCursors

/-!
The read position and the unread count of the chat list.  The query merges the stored receipt with
the waiting cursor by a comparison of its own; the flush merges them by a conditional upsert.
-/

namespace Messanger

open Relational

structure ReadDetail where
  lastReadMessageSeq : Nat
  lastReadAt : Nat
  deriving DecidableEq, Repr

def mergeReadCursor (stored : Option ReadDetail) (pending : Option PendingReadCursor) :
    Option ReadDetail :=
  match pending with
  | none => stored
  | some pending =>
      match stored with
      | some detail =>
          if pending.messageSeq ≤ detail.lastReadMessageSeq then some detail
          else some ⟨pending.messageSeq, pending.readAt⟩
      | none => some ⟨pending.messageSeq, pending.readAt⟩

/-- An entry of the list with the fields that speak of reading. -/
structure ChatDTO where
  row : UserChatRow
  lastRead : Option ReadDetail
  unreadCount : Int
  deriving DecidableEq, Repr

def ChatDTO.build (row : UserChatRow) (lastRead : Option ReadDetail) : ChatDTO where
  row := row
  lastRead := lastRead
  unreadCount :=
    match lastRead with
    | some detail => max 0 ((row.chat.seqCounter : Int) - detail.lastReadMessageSeq)
    | none => row.chat.seqCounter

/-- What the list says of the chat: its id, the last number read and the count. -/
def ChatDTO.badge (dto : ChatDTO) : ChatId × Option Nat × Int :=
  (dto.row.chat.id, dto.lastRead.map (·.lastReadMessageSeq), dto.unreadCount)

namespace ReadSystem

variable (system : ReadSystem)

/-- The merged position of one field; `lastReadAt` is the column that the database sets itself. -/
def lastRead (lastReadAt : ReadField → Nat) (field : ReadField) : Option ReadDetail :=
  mergeReadCursor
    ((system.tables.receipts.find? field).map fun row => ⟨row.lastReadMessageSeq, lastReadAt field⟩)
    (system.queue.payload? field)

/-- `GetListChatUserQueryHandler.handle` over the tables and the queue. -/
def chatList (user : UserJWTData) (now : Nat) (limit : Int) (archived : Bool)
    (lastActivityAt : Option Nat) (lastChatId : Option ChatId) (lastReadAt : ReadField → Nat) :
    Except ChatError (List ChatDTO) :=
  (((getListChatUser user now limit archived lastActivityAt lastChatId).exec system.tables.db).1).map
    fun page => page.chats.map fun row =>
      ChatDTO.build row (system.lastRead lastReadAt (row.chat.id, user.id))

end ReadSystem

section Merging

theorem mergeReadCursor_seq (stored : Option ReadDetail) (pending : Option PendingReadCursor) :
    (mergeReadCursor stored pending).map (·.lastReadMessageSeq) =
      match pending with
      | none => stored.map (·.lastReadMessageSeq)
      | some pending =>
          some (max ((stored.map (·.lastReadMessageSeq)).getD 0) pending.messageSeq) := by
  cases pending with
  | none => rfl
  | some pending =>
      cases stored with
      | none => simp [mergeReadCursor]
      | some detail =>
          simp only [mergeReadCursor, Option.map_some, Option.getD_some]
          split
          · rename_i behind
            rw [Option.map_some, Nat.max_eq_left behind]
          · rename_i ahead
            rw [Option.map_some, Nat.max_eq_right (Nat.le_of_not_le ahead)]

theorem lastRead_seq (system : ReadSystem) (lastReadAt : ReadField → Nat) (field : ReadField) :
    (system.lastRead lastReadAt field).map (·.lastReadMessageSeq) =
      match system.queue.payload? field with
      | none => system.tables.receipts.seq? field
      | some pending =>
          some (max ((system.tables.receipts.seq? field).getD 0) pending.messageSeq) := by
  rw [ReadSystem.lastRead, mergeReadCursor_seq, Option.map_map]
  rfl

theorem badge_congr {row : UserChatRow} {left right : Option ReadDetail}
    (same : left.map (·.lastReadMessageSeq) = right.map (·.lastReadMessageSeq)) :
    (ChatDTO.build row left).badge = (ChatDTO.build row right).badge := by
  have count : ∀ detail : Option ReadDetail, (ChatDTO.build row detail).unreadCount =
      (detail.map (·.lastReadMessageSeq)).elim (row.chat.seqCounter : Int)
        fun seq => max 0 ((row.chat.seqCounter : Int) - seq) := by
    intro detail
    cases detail with
    | none => rfl
    | some detail => rfl
  rw [ChatDTO.badge, ChatDTO.badge, count, count, same]
  simp only [ChatDTO.build, same]

theorem unreadCount_interval (row : UserChatRow) (lastRead : Option ReadDetail) :
    (ChatDTO.build row lastRead).unreadCount =
      ((Finset.Ioc ((lastRead.map (·.lastReadMessageSeq)).getD 0) row.chat.seqCounter).card : Int) := by
  cases lastRead with
  | none => simp [ChatDTO.build]
  | some detail =>
      simp only [ChatDTO.build, Option.map_some, Option.getD_some, Nat.card_Ioc]
      omega

end Merging

section Flushing

variable {system : ReadSystem}

/-- A payload waits under the field that its ids are read from. -/
def ReadQueue.Keyed (queue : ReadQueue) : Prop :=
  ∀ field cursor, queue.payload? field = some cursor → cursor.field = field

theorem ReadQueue.Keyed.enqueue {queue : ReadQueue} (keyed : queue.Keyed)
    (cursor : PendingReadCursor) (ms : Nat) : (queue.enqueue cursor ms).Keyed := keyed_enqueue keyed

theorem lastRead_flushed (keyed : system.queue.Keyed) {before : ReadField → ReadField → Bool}
    {ms : Nat} {after : ReadTables} (flushed : Flushed system.tables
      ((Queue.claimDue system.queue before ms readReceiptsMaxKeysPerTick).1.map Prod.snd) after)
    (field : ReadField) (lastReadAt laterReadAt : ReadField → Nat) :
    (ReadSystem.lastRead { system.claimBatch before ms with tables := after } laterReadAt field).map
        (·.lastReadMessageSeq) =
      (system.lastRead lastReadAt field).map (·.lastReadMessageSeq) := by
  rw [lastRead_seq, lastRead_seq]
  change (match (Queue.claim (system.queue.dueFields before ms readReceiptsMaxKeysPerTick)
    system.queue).2.payload? field with | none => _ | some pending => _) = _
  rw [Queue.payload?_claim]
  have fields := claimed_fields keyed
    (system.queue.dueFields before ms readReceiptsMaxKeysPerTick)
  by_cases due : field ∈ system.queue.dueFields before ms readReceiptsMaxKeysPerTick
  · rw [if_pos due]
    cases waiting : system.queue.payload? field with
    | none =>
        refine flushed.seq?_other fun named => ?_
        rw [Queue.claimDue, fields] at named
        obtain ⟨⟨own, cursor⟩, claimed, rfl⟩ := List.mem_map.mp named
        have waited := (Queue.mem_claim.mp claimed).2
        cases waited.symm.trans waiting
    | some cursor =>
        obtain rfl := keyed field cursor waiting
        refine flushed.seq?_of_mem (List.mem_map.mpr ⟨(cursor.field, cursor), ?_, rfl⟩)
        exact Queue.mem_claim.mpr ⟨due, waiting⟩
  · rw [if_neg due]
    have kept : after.receipts.seq? field = system.tables.receipts.seq? field := by
      refine flushed.seq?_other fun named => ?_
      rw [Queue.claimDue, fields] at named
      obtain ⟨⟨own, cursor⟩, claimed, rfl⟩ := List.mem_map.mp named
      exact due (Queue.mem_claim.mp claimed).1
    rw [kept]

theorem flush_some {tables : ReadTables} {cursors : List PendingReadCursor}
    (distinct : (cursors.map PendingReadCursor.field).Nodup) :
    ∃ after, flush tables cursors = some after ∧ ∀ user now limit archived lastActivityAt lastChatId,
      ((getListChatUser user now limit archived lastActivityAt lastChatId).exec after.db).1 =
        ((getListChatUser user now limit archived lastActivityAt lastChatId).exec tables.db).1 := by
  simp only [flush, if_pos distinct]
  refine ⟨_, rfl, fun user now limit archived lastActivityAt lastChatId => ?_⟩
  dsimp only
  split
  · rfl
  · -- Publishing writes to the outbox alone, which the list does not read.
    unfold getListChatUser
    cases lastActivityAt.isNone || lastChatId.isNone with
    | false => rfl
    | true => rfl

/-- Claiming and flushing what is due changes neither the position nor the count of any chat of the
list, and the count is always the number of messages past the position. -/
theorem badges_steady (keyed : system.queue.Keyed) (before : ReadField → ReadField → Bool) (ms : Nat)
    (user : UserJWTData) (now : Nat) (limit : Int) (archived : Bool) (lastActivityAt : Option Nat)
    (lastChatId : Option ChatId) (lastReadAt laterReadAt : ReadField → Nat) :
    ((system.queue.claimDue before ms readReceiptsMaxKeysPerTick).1 ≠ [] →
      ∃ flushed, (system.claimBatch before ms).flushBatch system.claimed.length .succeeded =
          some flushed ∧
        (flushed.chatList user now limit archived lastActivityAt lastChatId laterReadAt).map
            (List.map ChatDTO.badge) =
          (system.chatList user now limit archived lastActivityAt lastChatId lastReadAt).map
            (List.map ChatDTO.badge)) ∧
    ∀ dtos, system.chatList user now limit archived lastActivityAt lastChatId lastReadAt = .ok dtos →
      ∀ dto ∈ dtos, dto.unreadCount = ((Finset.Ioc
        ((dto.lastRead.map (·.lastReadMessageSeq)).getD 0) dto.row.chat.seqCounter).card : Int) := by
  refine ⟨fun claimed => ?_, fun dtos answered dto member => ?_⟩
  · have distinct : (((system.queue.claimDue before ms readReceiptsMaxKeysPerTick).1.map
        Prod.snd).map PendingReadCursor.field).Nodup := by
      rw [Queue.claimDue, claimed_fields keyed]
      exact Queue.claim_nodup
    obtain ⟨after, flushed, list⟩ := @flush_some system.tables _ distinct
    have batches : (system.claimBatch before ms).claimed = system.claimed ++
        [(system.queue.claimDue before ms readReceiptsMaxKeysPerTick).1.map Prod.snd] := by
      simp only [ReadSystem.claimBatch, List.isEmpty_eq_false_iff.mpr claimed, Bool.false_eq_true,
        if_false]
    have named : (system.claimBatch before ms).claimed[system.claimed.length]? =
        some ((system.queue.claimDue before ms readReceiptsMaxKeysPerTick).1.map Prod.snd) := by
      rw [batches]
      exact List.getElem?_concat_length
    have ended : (system.claimBatch before ms).flushBatch system.claimed.length .succeeded =
        some { system.claimBatch before ms with
          claimed := (system.claimBatch before ms).claimed.eraseIdx system.claimed.length
          tables := after } := by
      have same : flush (system.claimBatch before ms).tables
          ((system.queue.claimDue before ms readReceiptsMaxKeysPerTick).1.map Prod.snd) =
            some after := flushed
      simp only [ReadSystem.flushBatch, named, same, bind, Option.bind, pure]
    refine ⟨_, ended, ?_⟩
    simp only [ReadSystem.chatList, list]
    cases (getListChatUser user now limit archived lastActivityAt lastChatId).exec
        system.tables.db with
    | mk answer rest =>
        cases answer with
        | error error => rfl
        | ok page =>
            simp only [Except.map, List.map_map]
            refine congrArg Except.ok (List.map_congr_left fun row _ => ?_)
            exact badge_congr (lastRead_flushed keyed (flush_ok flushed) _ lastReadAt laterReadAt)
  · rw [ReadSystem.chatList] at answered
    cases answer : ((getListChatUser user now limit archived lastActivityAt lastChatId).exec
        system.tables.db).1 with
    | error error =>
        rw [answer] at answered
        cases answered
    | ok page =>
        rw [answer] at answered
        cases answered
        obtain ⟨row, _, rfl⟩ := List.mem_map.mp member
        exact unreadCount_interval row _

def waitingSystem : ReadSystem where
  tables := { db := readGroup }
  queue := ReadQueue.enqueue {} ⟨1, 2, 3, true, 0, true⟩ 0

theorem badges_steady_waiting :
    ∃ flushed, (waitingSystem.claimBatch (fun _ _ => true) 500).flushBatch 0 .succeeded =
        some flushed ∧
      (flushed.chatList { id := 2 } 0 10 false none none fun _ => 7).map (List.map ChatDTO.badge) =
        .ok [(1, some 3, 2)] := by
  have keyed : waitingSystem.queue.Keyed := by
    refine ReadQueue.Keyed.enqueue (fun field cursor none => ?_) _ 0
    cases none
  have claimed : (waitingSystem.queue.claimDue (fun _ _ => true) 500
      readReceiptsMaxKeysPerTick).1 ≠ [] := by decide +kernel
  have shown : (waitingSystem.chatList { id := 2 } 0 10 false none none fun _ => 0).map
      (List.map ChatDTO.badge) = .ok [(1, some 3, 2)] := by decide +kernel
  obtain ⟨flushed, ended, same⟩ := (badges_steady keyed (fun _ _ => true) 500 { id := 2 } 0 10 false
    none none (fun _ => 0) fun _ => 7).1 claimed
  exact ⟨flushed, ended, same.trans shown⟩

end Flushing

end Messanger
