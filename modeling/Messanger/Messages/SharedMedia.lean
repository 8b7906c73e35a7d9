import Messanger.Library.Evaluation
import Messanger.Library.Integers
import Messanger.Library.Keyset
import Messanger.Messages.MessageSeq
import Messanger.Messages.QueriesCore
import Mathlib.Data.List.TakeWhile

/-!
The shared media of a chat, page by page: one limited query for each attachment type, merged and
cut, and a cursor of two parts that is written out as text.
-/

namespace Messanger

open Relational

namespace SharedMedia

/-- An attachment and its message. -/
abbrev MediaRow := MessageAttachment × Message

/-- The columns `(message_seq, id)` of an attachment; a link message stands for itself. -/
def position (item : SharedMediaItem) : Nat ×ₗ Nat :=
  match item.attachment with
  | some attachment => toLex (attachment.messageSeq.getD 0, attachment.id)
  | none => toLex (item.message.seq, item.message.id)

def item (row : MediaRow) : SharedMediaItem := ⟨row.2, some row.1⟩

def linkItem (message : Message) : SharedMediaItem := ⟨message, none⟩

section Repositories

variable (db : Db) (chatId : ChatId)

def joined : List MediaRow :=
  db.attachments.rows.filterMap fun attachment =>
    ((attachment.messageId.bind db.message?).filter fun message =>
      message.chatId == attachment.chatId).map fun message => (attachment, message)

def shared (row : MediaRow) : Bool :=
  row.1.chatId == chatId && row.1.messageSeq.isSome && row.1.attachmentStatus == .success &&
    !row.2.isDeleted

/-- `(message_seq, id) < (before_seq, before_id)`. -/
def before (cursor : Option (Int × Nat)) (row : MediaRow) : Bool :=
  match cursor, row.1.messageSeq with
  | none, _ => true
  | some _, none => false
  | some (beforeSeq, beforeId), some seq =>
      decide ((seq : Int) < beforeSeq ∨ ((seq : Int) = beforeSeq ∧ row.1.id < beforeId))

/-- `ORDER BY message_seq DESC, id DESC`, and the key of the merging sort. -/
def latest (rows : List MediaRow) : List MediaRow :=
  Keyset.newest (fun row => position (item row)) rows

def getSharedMediaPage (attachmentTypes : List AttachmentType) (limit : Nat)
    (cursor : Option (Int × Nat)) : List MediaRow :=
  let rows := attachmentTypes.eraseDups.flatMap fun attachmentType =>
    (latest ((joined db).filter fun row => shared chatId row &&
      decide (row.1.attachmentType = attachmentType) && before cursor row)).take limit
  (latest rows).take limit

def getLinkMessagesPage (limit : Nat) (beforeSeq : Option Int) : List Message :=
  (newestFirst (db.liveMessages chatId fun message => message.hasLinks &&
    match beforeSeq with
    | none => true
    | some beforeSeq => decide ((message.seq : Int) < beforeSeq))).take limit

end Repositories

def partition (text : List Char) : List Char × List Char :=
  (text.takeWhile (· != ':'), (text.dropWhile (· != ':')).drop 1)

/-- `parse_cursor`; none when it raises `ValueError`. -/
def parseCursor : Option String → Option (Option (Int × Nat))
  | none => some none
  | some cursor =>
      let (rawSeq, rawId) := partition cursor.toList
      match Python.int? rawSeq with
      | none => none
      | some seq =>
          if rawId.isEmpty then some (some (seq, 0))
          else (Python.uuid? (String.ofList rawId)).map fun id => some (seq, id)

/-- `f"{last.message_seq}:{last.id}"`, and `str(link_page[-1].seq)` for a link. -/
def cursorText (item : SharedMediaItem) : String :=
  match item.attachment with
  | some attachment =>
      (match attachment.messageSeq with
        | some seq => toString seq
        | none => "None") ++ ":" ++ Python.strUuid attachment.id
  | none => toString item.message.seq

abbrev SharedMediaDTO := Keyset.Page SharedMediaItem String

inductive MediaError where
  | chat (error : ChatError)
  | valueError
  deriving DecidableEq, Repr

def getSharedMedia (db : Db) (user : UserJWTData) (now : Nat) (chatId : ChatId)
    (mediaType : SharedMediaType) (limit : Int) (cursor : Option String) :
    Except MediaError SharedMediaDTO :=
  match db.member? chatId user.id with
  | none => .error (.chat (.notChatMember chatId user.id))
  | some member =>
      if member.isBanned now then .error (.chat (.notChatMember chatId user.id))
      else
        let limit := clampLimit limit 100
        match parseCursor cursor with
        | none => .error .valueError
        | some cursor =>
            if mediaType = .link then
              let messages := getLinkMessagesPage db chatId (limit + 1) (cursor.map (·.1))
              let linkPage := messages.take limit
              let hasNext := decide (limit < messages.length)
              .ok ⟨linkPage.map linkItem, hasNext,
                if hasNext then linkPage.getLast?.map fun message => cursorText (linkItem message)
                else none⟩
            else
              let rows := getSharedMediaPage db chatId mediaType.attachmentTypes (limit + 1) cursor
              let page := rows.take limit
              let hasNext := decide (limit < rows.length)
              .ok ⟨page.map item, hasNext,
                if hasNext then page.getLast?.map fun row => cursorText (item row) else none⟩

/-- A page as a client sees it: none when the request fails. -/
def fetch (db : Db) (user : UserJWTData) (now : Nat) (chatId : ChatId)
    (mediaType : SharedMediaType) (limit : Int) (cursor : Option String) : Option SharedMediaDTO :=
  (getSharedMedia db user now chatId mediaType limit cursor).toOption

variable {db : Db} {chatId : ChatId} {mediaType : SharedMediaType} {cursor : Option (Int × Nat)}

section Cursors

end Cursors

section Merging

/-- The attachments a query over all the types at once finds. -/
def visibleRows (db : Db) (chatId : ChatId) (attachmentTypes : List AttachmentType)
    (cursor : Option (Int × Nat)) : List MediaRow :=
  (joined db).filter fun row => shared chatId row &&
    decide (row.1.attachmentType ∈ attachmentTypes) && before cursor row

end Merging

section Following

def links (db : Db) (chatId : ChatId) (cursor : Option (Int × Nat)) : List Message :=
  newestFirst (db.liveMessages chatId fun message => message.hasLinks &&
    match cursor.map (·.1) with
    | none => true
    | some beforeSeq => decide ((message.seq : Int) < beforeSeq))

def past (db : Db) (chatId : ChatId) (mediaType : SharedMediaType)
    (cursor : Option (Int × Nat)) : List SharedMediaItem :=
  if mediaType = .link then (links db chatId cursor).map linkItem
  else (latest (visibleRows db chatId mediaType.attachmentTypes cursor)).map item

def remaining (db : Db) (chatId : ChatId) (mediaType : SharedMediaType) (cursor : Option String) :
    List SharedMediaItem :=
  match parseCursor cursor with
  | none => []
  | some cursor => past db chatId mediaType cursor

def place (item : SharedMediaItem) : Int × Nat :=
  match item.attachment with
  | some attachment => ((attachment.messageSeq.getD 0 : Nat), attachment.id)
  | none => (item.message.seq, 0)

end Following

section Handler

end Handler

end SharedMedia

end Messanger
