import Messanger.Chats.Models

/-!
Messages, their attachments and pins, with the checks `Message.create` makes.
-/

namespace Messanger

inductive MessageType where
  | text
  | image
  | file
  | system
  | reply
  | forward
  | voice
  | videoNote
  deriving DecidableEq, Repr

inductive SystemMessageAction where
  | messagePinned
  deriving DecidableEq, Repr

inductive AttachmentType where
  | image
  | video
  | file
  | voice
  | videoNote
  deriving DecidableEq, Repr

inductive AttachmentStatus where
  | pending
  | success
  | error
  deriving DecidableEq, Repr

structure MessageAttachment where
  id : AttachmentId
  messageId : Option MessageId := none
  chatId : ChatId
  uploaderId : UserId
  attachmentType : AttachmentType
  attachmentStatus : AttachmentStatus := .pending
  s3Key : String
  mimeType : String
  originalFilename : String
  size : Nat
  width : Option Nat := none
  height : Option Nat := none
  durationSeconds : Option Nat := none
  sourceAttachmentId : Option AttachmentId := none
  messageSeq : Option Nat := none
  thumbhash : Option String := none
  previews : Option (List String) := none
  deriving DecidableEq, Repr

namespace MessageAttachment

def createForForward (source : MessageAttachment) (id : AttachmentId) (chatId : ChatId) :
    MessageAttachment :=
  { id := id
    chatId := chatId
    uploaderId := source.uploaderId
    attachmentType := source.attachmentType
    attachmentStatus := .success
    s3Key := source.s3Key
    mimeType := source.mimeType
    originalFilename := source.originalFilename
    size := source.size
    width := source.width
    height := source.height
    durationSeconds := source.durationSeconds
    sourceAttachmentId := some source.id
    thumbhash := source.thumbhash
    previews := source.previews.filter fun previews => !previews.isEmpty }

/-- The row as the flush writes it: `bind_to_message` and the relationship to the message. -/
def bindToMessage (attachment : MessageAttachment) (messageId : MessageId) (seq : Nat) :
    MessageAttachment :=
  { attachment with messageId := some messageId, messageSeq := some seq }

end MessageAttachment

structure Message where
  id : MessageId
  chatId : ChatId
  seq : Nat
  authorId : Option UserId
  type : MessageType := .text
  content : Option String
  replyToId : Option MessageId := none
  forwardedFromChatId : Option ChatId := none
  forwardedFromMessageId : Option MessageId := none
  forwardedFromAuthorId : Option UserId := none
  action : Option SystemMessageAction := none
  isDeleted : Bool := false
  isEdited : Bool := false
  hasLinks : Bool := false
  deriving DecidableEq, Repr

structure ChatPinnedMessage where
  chatId : ChatId
  messageId : MessageId
  messageSeq : Nat
  pinnedBy : UserId
  pinnedAt : Nat
  deriving DecidableEq, Repr

namespace Message

def isSpace (letter : Char) : Bool :=
  let code := letter.toNat
  (9 ≤ code && code ≤ 13) || (28 ≤ code && code ≤ 32) || code == 133 || code == 160 ||
    code == 5760 || (8192 ≤ code && code ≤ 8202) || code == 8232 || code == 8233 ||
    code == 8239 || code == 8287 || code == 12288

def strip (text : String) : String :=
  String.ofList ((text.toList.dropWhile isSpace).reverse.dropWhile isSpace).reverse

/-- `text.strip() or None`. -/
def cleaned (text : Option String) : Option String :=
  (text.map strip).filter fun text => text.length != 0

def sameLetter (pattern letter : Char) : Bool :=
  letter.toLower == pattern || (pattern == 's' && letter.toNat == 383)

def startsWithLink (scheme letters : List Char) : Bool :=
  match scheme, letters with
  | [], next :: _ => !(isSpace next || "<>\"'".toList.contains next)
  | [], [] => false
  | _ :: _, [] => false
  | pattern :: scheme, letter :: letters =>
      sameLetter pattern letter && startsWithLink scheme letters

def linkSchemes : List (List Char) :=
  ["http://".toList, "https://".toList, "www.".toList]

def containsLink : Option String → Bool
  | none => false
  | some content =>
      content.toList.tails.any fun letters => linkSchemes.any (startsWithLink · letters)

def maxMessageLength : Nat := 4096

def validateContent (content : Option String) : Except ChatError Unit :=
  match content with
  | none => .ok ()
  | some text =>
      if text.length = 0 then .ok ()
      else if maxMessageLength < text.length then
        .error (.messageTooLong text.length maxMessageLength)
      else if text.toList.any (fun letter => letter.toNat == 0) then
        .error (.invalidMessage "message content contains null byte")
      else .ok ()

def countType (attachments : List MessageAttachment) (wanted : List AttachmentType) : Nat :=
  attachments.countP fun attachment => wanted.contains attachment.attachmentType

def validateAttachments (type : MessageType) (attachments : List MessageAttachment) :
    Except ChatError Unit :=
  let mediaCount := countType attachments [.image, .video]
  let fileCount := countType attachments [.file]
  let voiceCount := countType attachments [.voice]
  let videoNoteCount := countType attachments [.videoNote]
  let exclusiveCount := voiceCount + videoNoteCount
  if 10 < mediaCount then .error (.attachmentLimitExceeded mediaCount)
  else if 1 < fileCount then .error (.attachmentLimitExceeded fileCount)
  else if 1 < exclusiveCount then .error (.attachmentLimitExceeded exclusiveCount)
  else if 0 < exclusiveCount ∧ (0 < mediaCount ∨ 0 < fileCount) then
    .error (.attachmentLimitExceeded (exclusiveCount + mediaCount + fileCount))
  else if type = .voice ∧ voiceCount ≠ 1 then
    .error (.invalidMessage "voice message requires exactly one voice attachment")
  else if type = .videoNote ∧ videoNoteCount ≠ 1 then
    .error (.invalidMessage "video_note message requires exactly one video_note attachment")
  else if 0 < exclusiveCount ∧ type ≠ .voice ∧ type ≠ .videoNote ∧ type ≠ .forward then
    .error (.invalidMessage "voice/video_note attachment requires matching message_type")
  else if attachments.all (fun attachment => attachment.attachmentStatus == .success) then .ok ()
  else .error (.attachmentNotFound none)

/-- The arguments of `Message.create`. -/
structure Draft where
  senderId : Option UserId
  chatId : ChatId
  content : Option String
  replyToId : Option MessageId := none
  messageType : MessageType := .text
  forwardedFromChatId : Option ChatId := none
  forwardedFromMessageId : Option MessageId := none
  forwardedFromAuthorId : Option UserId := none
  attachments : Option (List MessageAttachment) := none
  notify : Bool := true
  action : Option SystemMessageAction := none
  deriving DecidableEq, Repr

def create (draft : Draft) (id : MessageId) (seq : Nat) :
    Except ChatError (Message × List MessageAttachment) := do
  if draft.messageType = .reply ∧ draft.replyToId = none then
    throw (.invalidMessage "reply_to_id is required for reply messages")
  validateContent draft.content
  let bound := (draft.attachments.getD []).map (·.bindToMessage id seq)
  if draft.attachments.isSome ∨ draft.messageType = .voice ∨ draft.messageType = .videoNote then
    validateAttachments draft.messageType bound
  return ({ id := id
            chatId := draft.chatId
            seq := seq
            authorId := draft.senderId
            type := draft.messageType
            content := draft.content
            replyToId := draft.replyToId
            forwardedFromChatId := draft.forwardedFromChatId
            forwardedFromMessageId := draft.forwardedFromMessageId
            forwardedFromAuthorId := draft.forwardedFromAuthorId
            action := draft.action
            hasLinks := containsLink draft.content }, bound)

theorem create_ok {draft : Draft} {id : MessageId} {seq : Nat}
    {created : Message × List MessageAttachment}
    (built : create draft id seq = .ok created) :
    created.1 =
        { id := id, chatId := draft.chatId, seq := seq, authorId := draft.senderId
          type := draft.messageType, content := draft.content, replyToId := draft.replyToId
          forwardedFromChatId := draft.forwardedFromChatId
          forwardedFromMessageId := draft.forwardedFromMessageId
          forwardedFromAuthorId := draft.forwardedFromAuthorId, action := draft.action
          hasLinks := containsLink draft.content } ∧
      created.2 = (draft.attachments.getD []).map (·.bindToMessage id seq) := by
  simp only [create, bind, Except.bind, pure, Except.pure, throw, throwThe,
    MonadExceptOf.throw] at built
  repeat' split at built
  all_goals cases built
  all_goals exact ⟨rfl, rfl⟩

def hasContent (message : Message) : Bool :=
  match message.content with
  | none => false
  | some text => decide (text.length ≠ 0)

def isForwardable (message : Message) (attachments : List MessageAttachment) : Bool :=
  !message.isDeleted && message.type != .system &&
    (message.hasContent || attachments.any fun attachment => attachment.attachmentStatus == .success)

def typeForAttachments (attachments : List MessageAttachment) : MessageType :=
  let kinds := attachments.map (·.attachmentType)
  if kinds.contains .voice then .voice
  else if kinds.contains .videoNote then .videoNote
  else if kinds.contains .image || kinds.contains .video then .image
  else if kinds.contains .file then .file
  else .text

def copyType (message : Message) (attachments : List MessageAttachment) : MessageType :=
  if message.type ≠ .reply ∧ message.type ≠ .forward then message.type
  else typeForAttachments (attachments.filter fun attachment =>
    attachment.attachmentStatus == .success)

end Message

end Messanger
