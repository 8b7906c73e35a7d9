import Messanger.Messages.CommandsCore

/-!
Upload slots and their processing.  What the object storage and the media tools answer for a
slot is an argument of the processing command.
-/

namespace Messanger

open Relational

structure UploadRequest where
  filename : String
  mimeType : String
  fileSize : Nat
  attachmentType : Option AttachmentType := none
  deriving DecidableEq, Repr

def allowedImageMimes : List String := ["image/jpeg", "image/png", "image/gif", "image/webp"]

def allowedVideoMimes : List String :=
  ["video/mp4", "video/webm", "video/quicktime", "video/x-msvideo"]

def allowedFileMimes : List String :=
  ["application/pdf", "application/zip", "application/x-zip-compressed", "application/msword",
    "application/vnd.openxmlformats-officedocument.wordprocessingml.document",
    "application/vnd.ms-excel",
    "application/vnd.openxmlformats-officedocument.spreadsheetml.sheet", "text/plain", "text/csv"]

def allowedVoiceMimes : List String :=
  ["audio/ogg", "audio/opus", "audio/mpeg", "audio/mp4", "audio/aac", "audio/webm", "audio/x-m4a"]

def allowedVideoNoteMimes : List String := ["video/mp4", "video/webm", "video/quicktime"]

def allAllowedMimes : List String :=
  allowedImageMimes ++ allowedVideoMimes ++ allowedFileMimes ++ allowedVoiceMimes ++
    allowedVideoNoteMimes

def mebibyte : Nat := 1024 * 1024

/-- The type of a slot, when its size and MIME type are allowed for that type. -/
def slotType (request : UploadRequest) : Except ChatError AttachmentType :=
  let refused := Except.error (.attachmentValidation request.mimeType)
  let within := fun (most : Nat) (type : AttachmentType) =>
    if most < request.fileSize then refused else .ok type
  if !allAllowedMimes.contains request.mimeType then refused
  else if request.attachmentType = some .voice then
    if !allowedVoiceMimes.contains request.mimeType then refused else within (20 * mebibyte) .voice
  else if request.attachmentType = some .videoNote then
    if !allowedVideoNoteMimes.contains request.mimeType then refused
    else within (40 * mebibyte) .videoNote
  else if allowedImageMimes.contains request.mimeType then within (50 * mebibyte) .image
  else if allowedVideoMimes.contains request.mimeType then within (50 * mebibyte) .video
  else within (100 * mebibyte) .file

def checkSlotCounts (types : List AttachmentType) : Except ChatError Unit :=
  let media := types.countP fun type => type == .image || type == .video
  let files := types.countP fun type => type == .file
  let exclusive := types.countP fun type => type == .voice || type == .videoNote
  if 10 < media then .error (.attachmentLimitExceeded media)
  else if 1 < files then .error (.attachmentLimitExceeded files)
  else if 1 < exclusive then .error (.attachmentLimitExceeded exclusive)
  else if 0 < exclusive ∧ (0 < media ∨ 0 < files) then
    .error (.attachmentLimitExceeded (exclusive + media + files))
  else .ok ()

def uploadSlots (chatId : ChatId) (uploaderId : UserId) (fresh : Nat → AttachmentId × String)
    (uploads : List UploadRequest) : Except ChatError (List MessageAttachment) := do
  let types ← uploads.mapM slotType
  checkSlotCounts types
  return (uploads.zip types).mapIdx fun index (request, type) =>
    { id := (fresh index).1
      chatId := chatId
      uploaderId := uploaderId
      attachmentType := type
      s3Key := (fresh index).2
      mimeType := request.mimeType
      originalFilename := request.filename
      size := request.fileSize }

theorem uploadSlots_ok {chatId : ChatId} {uploaderId : UserId}
    {fresh : Nat → AttachmentId × String} {uploads : List UploadRequest}
    {slots : List MessageAttachment}
    (built : uploadSlots chatId uploaderId fresh uploads = .ok slots) :
    ∀ slot ∈ slots, slot.chatId = chatId ∧ slot.uploaderId = uploaderId ∧ slot.messageId = none ∧
      slot.sourceAttachmentId = none := by
  simp only [uploadSlots, bind, Except.bind, pure, Except.pure] at built
  repeat' split at built
  all_goals cases built
  intro slot member
  obtain ⟨index, _, rfl⟩ := List.mem_mapIdx.mp member
  exact ⟨rfl, rfl, rfl, rfl⟩

def requestAttachmentUpload (user : UserJWTData) (now : Nat) (chatId : ChatId)
    (uploads : List UploadRequest) (fresh : Nat → AttachmentId × String) :
    Handler (List AttachmentId) := do
  let found ← getById chatId
  let chat ← Tx.orRaise found (.notFoundChat chatId)
  let row ← getMemberChat chatId user.id
  let member ← Tx.orRaise row (.notChatMember chatId user.id)
  Tx.require (canSendMessage user now chat (some member)) (.accessDeniedChat chatId user.id)
  Tx.require (!uploads.isEmpty) .emptyAttachmentUploadRequest
  let slots ← Tx.ofExcept (uploadSlots chatId user.id fresh uploads)
  Tx.each insertAttachment slots
  Tx.commitNow
  return slots.map (·.id)

inductive ProcessingError where
  | accessDenied
  | mediaValidation
  | objectNotFound
  | objectChanged
  | storage
  | mediaUnavailable
  | other
  deriving DecidableEq, Repr

/-- The columns `promote` has set on the slot when it ends. -/
structure PromotedMedia where
  size : Nat
  width : Option Nat := none
  height : Option Nat := none
  durationSeconds : Option Nat := none
  thumbhash : Option String := none
  previews : Option (List String) := none
  deriving DecidableEq, Repr

/-- The answers of the storage and the media tools to the calls made for one slot. -/
structure SlotAnswers where
  stat : Except ProcessingError Int
  detectedMime : Except ProcessingError String
  media : PromotedMedia
  promoted : Except ProcessingError Unit := .ok ()
  cleanup : Except ProcessingError Unit := .ok ()

def MessageAttachment.markError (slot : MessageAttachment) : MessageAttachment :=
  { slot with attachmentStatus := .error }

def MessageAttachment.promote (slot : MessageAttachment) (media : PromotedMedia) :
    MessageAttachment :=
  { slot with
    size := media.size
    width := media.width
    height := media.height
    durationSeconds := media.durationSeconds
    thumbhash := media.thumbhash
    previews := media.previews }

/-- The errors of `delete_file` that `except StorageError` swallows. -/
def ProcessingError.isStorage : ProcessingError → Bool
  | .objectNotFound => true
  | .objectChanged => true
  | .storage => true
  | _ => false

/-- One slot of `ProccessAttachments`: every handler of the `try` marks the slot as failed. -/
def processSlot (userId : UserId) (answers : SlotAnswers) (slot : MessageAttachment) :
    MessageAttachment :=
  if slot.uploaderId ≠ userId then slot.markError
  else
    match answers.stat with
    | .error _ => slot.markError
    | .ok size =>
        if size ≤ 0 ∨ (slot.size : Int) < size then slot.markError
        else
          match answers.detectedMime with
          | .error _ => slot.markError
          | .ok mime =>
              if mime ≠ slot.mimeType then slot.markError
              else
                match answers.promoted with
                | .error _ => (slot.promote answers.media).markError
                | .ok _ =>
                    let promoted := { slot.promote answers.media with attachmentStatus := .success }
                    match answers.cleanup with
                    | .ok _ => promoted
                    | .error error => if error.isStorage then promoted else promoted.markError

theorem processSlot_id (userId : UserId) (answers : SlotAnswers) (slot : MessageAttachment) :
    (processSlot userId answers slot).id = slot.id := by
  unfold processSlot
  repeat' split
  all_goals rfl

def saveSlot (slot : MessageAttachment) : Handler Unit :=
  updateRow (.attachment slot.id) (fun db => (db.attachment? slot.id).isSome)
    (.processAttachment slot)

def proccessAttachments (userId : UserId) (uploadTokens : List AttachmentId)
    (answers : AttachmentId → SlotAnswers) : Handler (List AttachmentId) := do
  let slots ← Tx.read fun db => db.attachmentsByIds uploadTokens
  let processed := slots.map fun slot => processSlot userId (answers slot.id) slot
  Tx.each saveSlot processed
  Tx.commitNow
  return (processed.filter fun slot => slot.attachmentStatus == .success).map (·.id)

end Messanger
