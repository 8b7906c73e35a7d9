import Messanger.Messages.CommandsCore

/-!
The message queries, the chat list's message previews, the download link of an attachment and
the call token, each behind the access check its handler makes.
-/

namespace Messanger

open Relational

section Queries

variable (user : UserJWTData) (now : Nat)

def requireActiveMember (chatId : ChatId) : Handler Unit := do
  let row ← getMemberChat chatId user.id
  let member ← Tx.orRaise row (.notChatMember chatId user.id)
  Tx.require (!member.isBanned now) (.notChatMember chatId user.id)

def clampLimit (limit most : Int) : Nat := (min (max limit 1) most).toNat

theorem clampLimit_pos (limit : Int) {most : Int} (some : 0 < most) : 0 < clampLimit limit most := by
  unfold clampLimit
  omega

structure MessagesDTO where
  messages : List MessageDTO
  hasNext : Bool
  nextCursor : Option Nat
  deriving DecidableEq, Repr

def newestFirst (messages : List Message) : List Message :=
  messages.insertionSort fun left right => right.seq ≤ left.seq

def oldestFirst (messages : List Message) : List Message :=
  messages.insertionSort fun left right => left.seq ≤ right.seq

/-- `get_paginated_chat_messages` backward, one row more than the page. -/
def Db.messagesPage (db : Db) (chatId : ChatId) (cursorSeq : Option Nat) (limit : Nat) :
    List Message :=
  (newestFirst (db.liveMessages chatId fun message =>
    match cursorSeq with
    | none => true
    | some cursor => decide (message.seq < cursor))).take (limit + 1)

def getMessages (chatId : ChatId) (limit : Int) (cursorSeq : Option Nat) :
    Handler MessagesDTO := do
  requireActiveMember user now chatId
  let limit := clampLimit limit 100
  Tx.read fun db =>
    let messages := db.messagesPage chatId cursorSeq limit
    let page := messages.take limit
    { messages := page.map db.loadNested
      hasNext := decide (limit < messages.length)
      nextCursor := if limit < messages.length then page.getLast?.map (·.seq) else none }

def getMessageDetail (chatId : ChatId) (messageId : MessageId) : Handler MessageDTO := do
  requireActiveMember user now chatId
  let loaded ← getLoadedMessage messageId
  let message ← Tx.orRaise loaded (.notFoundMessage messageId)
  Tx.require (message.body.message.chatId == chatId) (.notFoundMessage messageId)
  return message

def getMessageContext (chatId : ChatId) (targetSeq : Nat) (limit : Int) : Handler MessagesDTO := do
  requireActiveMember user now chatId
  let half := clampLimit limit 100 / 2
  let older ← Tx.read fun db =>
    ((newestFirst (db.liveMessages chatId fun message => decide (message.seq ≤ targetSeq))).take
      half).map db.loadNested
  let newer ← Tx.read fun db =>
    ((oldestFirst (db.liveMessages chatId fun message => decide (targetSeq < message.seq))).take
      half).map db.loadNested
  return { messages := (older ++ newer).insertionSort fun left right =>
             left.body.message.seq ≤ right.body.message.seq
           hasNext := false
           nextCursor := none }

structure ReplayDTO where
  afterSeq : Nat
  messages : List MessageDTO
  hasMore : Bool
  nextLastSeq : Nat
  deriving DecidableEq, Repr

/-- The replay of one chat in `ws.resume`. -/
def resumeChat (chatId : ChatId) (cursorSeq : Int) : Handler ReplayDTO := do
  requireActiveMember user now chatId
  let cursor := cursorSeq.toNat
  Tx.read fun db =>
    let messages := (oldestFirst (db.liveMessages chatId fun message =>
      decide (cursor < message.seq))).take 51
    let batch := messages.take 50
    { afterSeq := cursor
      messages := batch.map db.loadNested
      hasMore := decide (50 < messages.length)
      nextLastSeq := (batch.getLast?.map (·.seq)).getD cursor }

structure SearchDTO where
  items : List (Message × Chat)
  hasNext : Bool
  deriving DecidableEq, Repr

/-- `search_visible`; `matches` stands for the text search of Postgres on the content.  Only the
message row is shown: its attachments and nested messages are not loaded. -/
def searchMessages («matches» : Option String → Bool) (limit : Int) (chatId : Option ChatId)
    (lastMessageId : Option MessageId) : Handler SearchDTO :=
  let limit := clampLimit limit 50
  Tx.read fun db =>
    let rows := (db.messages.rows.filterMap fun message =>
      match db.openChat? message.chatId, db.member? message.chatId user.id with
      | some chat, some member =>
          if !member.isBanned now && !message.isDeleted && «matches» message.content &&
              (match chatId with | none => true | some wanted => message.chatId == wanted) &&
              (match lastMessageId with
                | none => true
                | some last => decide (message.id < last)) then
            some (message, chat)
          else none
      | _, _ => none).insertionSort fun left right => right.1.id ≤ left.1.id
    { items := rows.take limit
      hasNext := decide (limit < rows.length) }

structure PinnedMessagesDTO where
  items : List PinnedMessageDTO
  total : Nat
  deriving DecidableEq, Repr

def getPinnedMessages (chatId : ChatId) (limit : Int) (beforeSeq : Option Nat) :
    Handler PinnedMessagesDTO := do
  requireActiveMember user now chatId
  let limit := clampLimit limit 100
  Tx.read fun db =>
    let rows := ((db.pins.select fun pin => pin.chatId == chatId &&
        match beforeSeq with | none => true | some before => decide (pin.messageSeq < before)
      ).insertionSort fun left right => right.messageSeq ≤ left.messageSeq).filterMap fun pin =>
        (db.liveMessage? pin.messageId).map fun message => (pin, message)
    { items := (rows.take limit).map fun (pin, message) =>
        ⟨db.loadNested message, pin.pinnedBy, pin.pinnedAt⟩
      total := db.pinnedCount chatId }

inductive SharedMediaType where
  | photo
  | video
  | media
  | file
  | voice
  | link
  deriving DecidableEq, Repr

def SharedMediaType.attachmentTypes : SharedMediaType → List AttachmentType
  | photo => [.image]
  | video => [.video]
  | media => [.image, .video]
  | file => [.file]
  | voice => [.voice, .videoNote]
  | link => []

structure SharedMediaItem where
  message : Message
  attachment : Option MessageAttachment
  deriving DecidableEq, Repr

def Db.sharedMedia (db : Db) (chatId : ChatId) (types : List AttachmentType)
    (before : Option (Nat × AttachmentId)) : List SharedMediaItem :=
  db.attachments.rows.filterMap fun attachment =>
    match attachment.messageId.bind db.liveMessage?, attachment.messageSeq with
    | some message, some seq =>
        if attachment.chatId == chatId && message.chatId == chatId &&
            types.contains attachment.attachmentType &&
            attachment.attachmentStatus == .success &&
            (match before with
              | none => true
              | some (beforeSeq, beforeId) =>
                  decide (seq < beforeSeq ∨ (seq = beforeSeq ∧ attachment.id < beforeId))) then
          some ⟨message, some attachment⟩
        else none
    | _, _ => none

def SharedMediaItem.before (left right : SharedMediaItem) : Bool :=
  let key := fun (item : SharedMediaItem) =>
    ((item.attachment.bind (·.messageSeq)).getD 0, (item.attachment.map (·.id)).getD 0)
  decide ((key right).1 < (key left).1 ∨
    ((key right).1 = (key left).1 ∧ (key right).2 ≤ (key left).2))

def getSharedMedia (chatId : ChatId) (mediaType : SharedMediaType) (limit : Int)
    (before : Option (Nat × AttachmentId)) : Handler (List SharedMediaItem) := do
  requireActiveMember user now chatId
  let limit := clampLimit limit 100
  if mediaType = .link then
    Tx.read fun db =>
      (((newestFirst (db.liveMessages chatId fun message => message.hasLinks &&
        match before with
        | none => true
        | some (beforeSeq, _) => decide (message.seq < beforeSeq))).take (limit + 1)).take
          limit).map fun message => ⟨message, none⟩
  else
    Tx.read fun db =>
      (((db.sharedMedia chatId mediaType.attachmentTypes before).insertionSort
        fun left right => left.before right = true).take (limit + 1)).take limit

def getListChats : Handler (List (Chat × Option Message)) :=
  Tx.read fun db => db.chats.rows.filterMap fun chat =>
    match db.member? chat.id user.id with
    | some member =>
        if !member.isBanned now && chat.deletedAt.isNone then
          some (chat, db.messages.rows.find? fun message =>
            message.chatId == chat.id && message.seq == chat.seqCounter && !message.isDeleted)
        else none
    | none => none

def getAttachmentDownloadUrl (chatId : ChatId) (messageId : MessageId)
    (attachmentId : AttachmentId) : Handler MessageAttachment := do
  let row ← getMemberChat chatId user.id
  let _ ← Tx.orRaise row (.notChatMember chatId user.id)
  let found ← Tx.read fun db => db.attachment? attachmentId
  let attachment ← Tx.orRaise found (.attachmentNotFound (some attachmentId))
  Tx.require (attachment.messageId == some messageId && attachment.chatId == chatId)
    (.attachmentNotFound (some attachmentId))
  return attachment

structure JoinToken where
  slug : ChatId
  userId : UserId
  deriving DecidableEq, Repr

def joinCall (chatId : ChatId) : Handler JoinToken := do
  let row ← getMemberChat chatId user.id
  let _ ← Tx.orRaise row (.notChatMember chatId user.id)
  let found ← getById chatId
  let chat ← Tx.orRaise found (.notFoundChat chatId)
  Tx.require (chat.type != .supergroup && chat.type != .channel &&
    decide (chat.memberCount < 100)) (.accessDeniedChat chat.id user.id)
  checked fun db => db.ensureCanMessage chat user.id
  checked fun db => db.ensureCanCall chat user.id
  Tx.commitNow
  return ⟨chat.id, user.id⟩

/-- What `route_broker_message` loads for a sent or modified message. -/
def Db.routed (db : Db) (event : ChatEvent) : Option MessageDTO :=
  match event with
  | .sendedMessage messageId chatId _ _ _ _ =>
      if (db.openChat? chatId).isSome then (db.liveMessage? messageId).map db.loadNested else none
  | .modifiedMessage messageId chatId _ _ =>
      if (db.openChat? chatId).isSome then (db.liveMessage? messageId).map db.loadNested else none
  | _ => none

end Queries

end Messanger
