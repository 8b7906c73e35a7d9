import Messanger.Chats.ServicesCore
import Messanger.Library.Coalesce

/-!
Read receipts: `MarkAsRead` puts a cursor into the coalescing queue, workers claim the cursors
that are due and flush them into the database, and what a failed flush had claimed is put back.
The Lua numbers of the scripts are exact here: a `seq` stays far below 2^53.
-/

namespace Messanger

open Relational

namespace Chat

def isSmallGroup (chat : Chat) : Bool := decide (chat.memberCount ≤ 100)

def tracksReadMarks (chat : Chat) : Bool :=
  (chat.type == .group || chat.type == .supergroup) && chat.isSmallGroup

end Chat

/-- `readAt` is the time of the enqueue that stored the cursor. -/
structure PendingReadCursor where
  chatId : ChatId
  userId : UserId
  messageSeq : Nat
  supportReadEvent : Bool
  readAt : Nat := 0
  trackMarks : Bool := false
  deriving DecidableEq, Repr

/-- The field of the hash: the text of the chat id and of the user id. -/
abbrev ReadField := ChatId × UserId

def PendingReadCursor.field (cursor : PendingReadCursor) : ReadField :=
  (cursor.chatId, cursor.userId)

def markAsRead (user : UserJWTData) (now : Nat) (chatId : ChatId) (messageSeq : Nat) :
    Handler PendingReadCursor := do
  let found ← getChatAndMember chatId user.id
  Tx.require (hasPermissions user now (some found.member) [.messageRead])
    (.accessDeniedChat chatId user.id)
  return { chatId := chatId
           userId := user.id
           messageSeq := min messageSeq found.chat.seqCounter
           supportReadEvent := found.chat.supportReadEvent
           trackMarks := found.chat.tracksReadMarks }

abbrev ReadQueue := Queue ReadField PendingReadCursor

def readReceiptsWindowMs : Nat := 500

def readReceiptsMaxKeysPerTick : Nat := 1000

/-- `_ENQUEUE_LUA`: a cursor that is not ahead of the waiting one is dropped. -/
def ReadQueue.enqueue (queue : ReadQueue) (cursor : PendingReadCursor) (ms : Nat) : ReadQueue :=
  let waits := match queue.payload? cursor.field with
    | some current => decide (cursor.messageSeq ≤ current.messageSeq)
    | none => false
  if waits then queue
  else queue.put cursor.field { cursor with readAt := ms } (ms + readReceiptsWindowMs)

structure ReadReceipt where
  chatId : ChatId
  userId : UserId
  lastReadMessageSeq : Nat
  deriving DecidableEq, Repr

def ReadReceipt.key (receipt : ReadReceipt) : ReadField := (receipt.chatId, receipt.userId)

structure ReadReceiptMark where
  chatId : ChatId
  userId : UserId
  seq : Nat
  readAt : Nat
  deriving DecidableEq, Repr

def ReadReceiptMark.key (mark : ReadReceiptMark) : ChatId × UserId × Nat :=
  (mark.chatId, mark.userId, mark.seq)

abbrev ReadReceipts := Table ReadReceipt ReadField ReadReceipt.key

abbrev ReadReceiptMarks := Table ReadReceiptMark (ChatId × UserId × Nat) ReadReceiptMark.key

namespace ReadReceipts

def seq? (receipts : ReadReceipts) (field : ReadField) : Option Nat :=
  (receipts.find? field).map (·.lastReadMessageSeq)

def advances (receipts : ReadReceipts) (cursor : PendingReadCursor) : Bool :=
  match receipts.seq? cursor.field with
  | none => true
  | some stored => decide (stored < cursor.messageSeq)

/-- `INSERT … ON CONFLICT DO UPDATE … WHERE stored < excluded` for one row. -/
def upsert (receipts : ReadReceipts) (cursor : PendingReadCursor) : ReadReceipts :=
  (receipts.update
    (fun row => decide (row.key = cursor.field ∧ row.lastReadMessageSeq < cursor.messageSeq))
    (fun row => { row with lastReadMessageSeq := cursor.messageSeq }) fun _ => rfl).insert
      ⟨cursor.chatId, cursor.userId, cursor.messageSeq⟩

/-- `mark_read_many`: the rows in turn, with the keys it returns. -/
def markReadMany : List PendingReadCursor → ReadReceipts → List ReadField × ReadReceipts
  | [], receipts => ([], receipts)
  | cursor :: cursors, receipts =>
      let rest := markReadMany cursors (receipts.upsert cursor)
      if receipts.advances cursor then (cursor.field :: rest.1, rest.2) else rest

end ReadReceipts

def ReadReceiptMarks.addMarks (marks : ReadReceiptMarks) (cursors : List PendingReadCursor) :
    ReadReceiptMarks :=
  cursors.foldl (fun marks cursor =>
    marks.insert ⟨cursor.chatId, cursor.userId, cursor.messageSeq, cursor.readAt⟩) marks

def readedEvent (cursor : PendingReadCursor) : ChatEvent :=
  .readedMessage cursor.chatId cursor.messageSeq cursor.userId

structure ReadTables where
  db : Db
  receipts : ReadReceipts := .empty
  marks : ReadReceiptMarks := .empty

/-- `ReadReceiptFlusher.flush` with its commit.  A statement that names a row twice is refused. -/
def flush (tables : ReadTables) (cursors : List PendingReadCursor) : Option ReadTables :=
  if (cursors.map PendingReadCursor.field).Nodup then
    let (advanced, receipts) := tables.receipts.markReadMany cursors
    let events := (cursors.filter fun cursor =>
      cursor.supportReadEvent && advanced.contains cursor.field).map readedEvent
    some
      { db := if events.isEmpty then tables.db else Db.apply (.publish events) tables.db
        receipts := receipts
        marks := tables.marks.addMarks (cursors.filter fun cursor =>
          cursor.trackMarks && advanced.contains cursor.field) }
  else none

inductive FlushEnd where
  | succeeded
  | rolledBack
  | committedThenRaised
  deriving DecidableEq, Repr

/-- The database, the queue and the parties in flight: `marking` are the `MarkAsRead`s between
their reads and the queue, `claimed` the batches of the workers and `failed` what is left to put
back.  `enqueued` records every cursor a `MarkAsRead` has put into the queue. -/
structure ReadSystem where
  tables : ReadTables
  queue : ReadQueue := {}
  marking : List PendingReadCursor := []
  claimed : List (List PendingReadCursor) := []
  failed : List (List PendingReadCursor) := []
  enqueued : List PendingReadCursor := []

def Write.publishesRead : Write → Bool
  | .publish events => events.any fun event =>
      match event with
      | .readedMessage _ _ _ => true
      | _ => false
  | _ => false

inductive ReadLabel where
  | commit (log : List Write)
  | markAsRead (user : UserJWTData) (now : Nat) (chatId : ChatId) (messageSeq : Nat)
  | enqueue (index ms : Nat)
  | claimDue (before : ReadField → ReadField → Bool) (ms : Nat)
  | flush (index : Nat) (ending : FlushEnd)
  | requeue (index ms : Nat)

namespace ReadSystem

variable (system : ReadSystem)

def enqueueMark (index ms : Nat) : Option ReadSystem := do
  let cursor ← system.marking[index]?
  return { system with
    marking := system.marking.eraseIdx index
    queue := system.queue.enqueue cursor ms
    enqueued := system.enqueued ++ [cursor] }

/-- `claim_due` of one worker; nothing happens when nothing is due. -/
def claimBatch (before : ReadField → ReadField → Bool) (ms : Nat) : ReadSystem :=
  let (claimed, queue) := system.queue.claimDue before ms readReceiptsMaxKeysPerTick
  { system with
    queue := queue
    claimed := if claimed.isEmpty then system.claimed
      else system.claimed ++ [claimed.map Prod.snd] }

def flushBatch (index : Nat) (ending : FlushEnd) : Option ReadSystem := do
  let cursors ← system.claimed[index]?
  let claimed := system.claimed.eraseIdx index
  match ending with
  | .rolledBack => return { system with claimed := claimed, failed := system.failed ++ [cursors] }
  | .succeeded =>
      let tables ← Messanger.flush system.tables cursors
      return { system with claimed := claimed, tables := tables }
  | .committedThenRaised =>
      let tables ← Messanger.flush system.tables cursors
      return { system with
        claimed := claimed, tables := tables, failed := system.failed ++ [cursors] }

/-- One round of the loop in `requeue`. -/
def requeueNext (index ms : Nat) : Option ReadSystem := do
  let cursors ← system.failed[index]?
  match cursors with
  | [] => return { system with failed := system.failed.eraseIdx index }
  | cursor :: rest =>
      return { system with
        failed := system.failed.set index rest
        queue := system.queue.enqueue cursor ms }

def step : ReadLabel → Option ReadSystem
  | .commit log =>
      if log.any Write.publishesRead then none
      else some { system with tables := { system.tables with db := applyAll log system.tables.db } }
  | .markAsRead user now chatId messageSeq =>
      match ((Messanger.markAsRead user now chatId messageSeq).exec system.tables.db).1 with
      | .error _ => some system
      | .ok cursor => some { system with marking := system.marking ++ [cursor] }
  | .enqueue index ms => system.enqueueMark index ms
  | .claimDue before ms => some (system.claimBatch before ms)
  | .flush index ending => system.flushBatch index ending
  | .requeue index ms => system.requeueNext index ms

end ReadSystem

/-- The states that steps of all parties, in any order, lead to. -/
inductive ReadSystem.Reaches (initial : ReadSystem) : ReadSystem → Prop
  | refl : Reaches initial initial
  | step {system next : ReadSystem} {label : ReadLabel} : Reaches initial system →
      system.step label = some next → Reaches initial next

end Messanger
