import Messanger.Footprint

/-!
What one request does to the messages, attachments and pins.  Messages and attachments stay for
ever; a request adds messages it is entitled to add, and binds attachments only to these.
-/

namespace Messanger

open Relational

namespace Request

variable (request : Request)

def Edits (messageId : MessageId) : Prop :=
  match request.command with
  | .editMessage _ target _ => target = messageId
  | _ => False

def Erases (messageId : MessageId) : Prop :=
  match request.command with
  | .deleteMessage _ target => target = messageId
  | _ => False

/-- The message a new one answers to, as the client names it. -/
def Answers (messageId : MessageId) : Prop :=
  match request.command with
  | .sendMessage _ new _ _ => new.replyToId = some messageId
  | _ => False

def Forwards (messageId : MessageId) : Prop :=
  match request.command with
  | .forwardMessage source _ _ _ _ _ => source.messageId = messageId
  | .forwardMessages _ sourceIds _ _ _ _ _ _ => messageId ∈ sourceIds
  | _ => False

def Claims (attachmentId : AttachmentId) : Prop :=
  match request.command with
  | .sendMessage _ new _ _ => attachmentId ∈ new.uploadTokens
  | _ => False

/-- The caller is an administrator of all chats or a member of the chat who is not banned. -/
def Active (db : Db) (chatId : ChatId) : Prop :=
  hasGlobalChatAdmin request.user = true ∨
    ∃ row, db.member? chatId request.user.id = some row ∧ row.isBanned request.now = false

end Request

structure Message.Succeeds (before later : Message) : Prop where
  id : later.id = before.id
  chatId : later.chatId = before.chatId
  authorId : later.authorId = before.authorId
  replyToId : later.replyToId = before.replyToId
  forwardedFromMessageId : later.forwardedFromMessageId = before.forwardedFromMessageId
  isDeleted : before.isDeleted = true → later.isDeleted = true

theorem Message.succeeds_refl (message : Message) : message.Succeeds message :=
  ⟨rfl, rfl, rfl, rfl, rfl, fun gone => gone⟩

structure Revised (request : Request) (before later : Message) : Prop where
  succeeds : before.Succeeds later
  untouched : ¬ request.Edits before.id → ¬ request.Erases before.id → later = before
  content : ¬ request.Edits before.id → later.content = before.content

structure Sourced (request : Request) (db : Db) (message : Message) : Prop where
  posts : request.Posts message
  sender : request.Active db message.chatId
  reply : ∀ target, message.replyToId = some target →
    ∃ answered, db.liveMessage? target = some answered ∧
      (answered.chatId = message.chatId ∨ request.Answers target)
  origin : ∀ root, message.forwardedFromMessageId = some root →
    ∃ source, db.liveMessage? source.id = some source ∧ request.Forwards source.id ∧
      request.Active db source.chatId ∧
      (source.forwardedFromMessageId = some root ∨ source.id = root)

structure MessageAttachment.SameFile (before later : MessageAttachment) : Prop where
  chatId : later.chatId = before.chatId
  uploaderId : later.uploaderId = before.uploaderId
  s3Key : later.s3Key = before.s3Key
  sourceAttachmentId : later.sourceAttachmentId = before.sourceAttachmentId

/-- A message of the state that was not there before. -/
def AddedTo (db final : Db) (messageId : MessageId) : Prop :=
  db.message? messageId = none ∧ (final.message? messageId).isSome

structure Evolved (request : Request) (db final : Db) : Prop where
  kept : ∀ id before, db.message? id = some before →
    ∃ later, final.message? id = some later ∧ Revised request before later
  added : ∀ id message, db.message? id = none → final.message? id = some message →
    Sourced request db message
  files : ∀ id before, db.attachment? id = some before →
    ∃ later, final.attachment? id = some later ∧ before.SameFile later ∧
      (later.messageId = before.messageId ∨
        request.Claims id ∧ ∃ messageId, later.messageId = some messageId ∧
          AddedTo db final messageId)
  stored : ∀ id attachment, db.attachment? id = none → final.attachment? id = some attachment →
    ∀ messageId, attachment.messageId = some messageId →
      attachment.sourceAttachmentId.isSome ∧ AddedTo db final messageId
  pins : ∀ pin ∈ final.pins.rows, pin ∈ db.pins.rows ∨
    ∃ message, db.liveMessage? pin.messageId = some message ∧ message.chatId = pin.chatId

theorem evolved_refl (request : Request) (db : Db) : Evolved request db db where
  kept _ before found := ⟨before, found, before.succeeds_refl, fun _ _ => rfl, fun _ => rfl⟩
  added _ _ absent found := by rw [absent] at found; cases found
  files _ before found := ⟨before, found, ⟨rfl, rfl, rfl, rfl⟩, .inl rfl⟩
  stored _ _ absent found := by rw [absent] at found; cases found
  pins _ listed := .inl listed

section Writes

variable {request : Request} {db seen : Db}

theorem added_stays {messageId : MessageId} {after : Db} (added : AddedTo db seen messageId)
    (stays : (seen.message? messageId).isSome → (after.message? messageId).isSome) :
    AddedTo db after messageId := ⟨added.1, stays added.2⟩

theorem evolved_same {after : Db} (evolved : Evolved request db seen)
    (messages : after.messages = seen.messages) (attachments : after.attachments = seen.attachments)
    (pins : ∀ pin ∈ after.pins.rows, pin ∈ seen.pins.rows) : Evolved request db after := by
  have sameMessage : ∀ id, after.message? id = seen.message? id := fun id => by
    rw [Db.message?, messages, Db.message?]
  have sameAttachment : ∀ id, after.attachment? id = seen.attachment? id := fun id => by
    rw [Db.attachment?, attachments, Db.attachment?]
  have stays : ∀ {messageId}, AddedTo db seen messageId → AddedTo db after messageId :=
    fun added => added_stays added fun there => by rwa [sameMessage]
  refine ⟨fun id before found => ?_, fun id message absent found => ?_, fun id before found => ?_,
    fun id attachment absent found messageId bound => ?_, fun pin listed => ?_⟩
  · rw [sameMessage]
    exact evolved.kept id before found
  · rw [sameMessage] at found
    exact evolved.added id message absent found
  · rw [sameAttachment]
    obtain ⟨later, stored, same, bound | ⟨claims, messageId, bound, added⟩⟩ :=
      evolved.files id before found
    · exact ⟨later, stored, same, .inl bound⟩
    · exact ⟨later, stored, same, .inr ⟨claims, messageId, bound, stays added⟩⟩
  · rw [sameAttachment] at found
    obtain ⟨copied, added⟩ := evolved.stored id attachment absent found messageId bound
    exact ⟨copied, stays added⟩
  · exact evolved.pins pin (pins pin listed)

theorem message_isSome_map {after : Db} {change : Message → Message}
    (messages : ∀ id, after.message? id = (seen.message? id).map change) {messageId : MessageId}
    (there : (seen.message? messageId).isSome) : (after.message? messageId).isSome := by
  rwa [messages, Option.isSome_map]

theorem evolved_changed {after : Db} {change : Message → Message}
    (evolved : Evolved request db seen)
    (messages : ∀ id, after.message? id = (seen.message? id).map change)
    (revised : ∀ before later, Revised request before later → Revised request before (change later))
    (fixed : ∀ message, request.Posts message → change message = message)
    (attachments : after.attachments = seen.attachments) (pins : after.pins = seen.pins) :
    Evolved request db after := by
  have sameAttachment : ∀ id, after.attachment? id = seen.attachment? id := fun id => by
    rw [Db.attachment?, attachments, Db.attachment?]
  have stays : ∀ {messageId}, AddedTo db seen messageId → AddedTo db after messageId :=
    fun added => added_stays added (message_isSome_map messages)
  refine ⟨fun id before found => ?_, fun id message absent found => ?_, fun id before found => ?_,
    fun id attachment absent found messageId bound => ?_, fun pin listed => ?_⟩
  · obtain ⟨later, stored, same⟩ := evolved.kept id before found
    exact ⟨change later, by rw [messages, stored]; rfl, revised before later same⟩
  · rw [messages] at found
    obtain ⟨earlier, stored, rfl⟩ := Option.map_eq_some_iff.mp found
    have sourced := evolved.added id earlier absent stored
    rw [fixed earlier sourced.posts]
    exact sourced
  · rw [sameAttachment]
    obtain ⟨later, stored, same, bound | ⟨claims, messageId, bound, added⟩⟩ :=
      evolved.files id before found
    · exact ⟨later, stored, same, .inl bound⟩
    · exact ⟨later, stored, same, .inr ⟨claims, messageId, bound, stays added⟩⟩
  · rw [sameAttachment] at found
    obtain ⟨copied, added⟩ := evolved.stored id attachment absent found messageId bound
    exact ⟨copied, stays added⟩
  · rw [pins] at listed
    exact evolved.pins pin listed

theorem evolved_edit {messageId : MessageId} {content : Option String}
    (evolved : Evolved request db seen) (edits : request.Edits messageId) :
    Evolved request db (Db.apply (.editMessage messageId content) seen) := by
  refine evolved_changed evolved (fun id => seen.message_editMessage messageId id content)
    (fun before later revised => ?_) (fun message posts => ?_) rfl rfl
  · split
    · rename_i here
      have own : request.Edits before.id := by
        rw [← revised.succeeds.id, here]
        exact edits
      refine ⟨?_, fun other => absurd own other, fun other => absurd own other⟩
      have same := revised.succeeds
      exact ⟨same.id, same.chatId, same.authorId, same.replyToId, same.forwardedFromMessageId,
        same.isDeleted⟩
    · exact revised
  · unfold Request.Edits at edits
    unfold Request.Posts at posts
    split at edits
    · rename_i command
      simp [command] at posts
    · cases edits

theorem evolved_erase {messageId : MessageId} (evolved : Evolved request db seen)
    (erases : request.Erases messageId) :
    Evolved request db (Db.apply (.deleteMessage messageId) seen) := by
  refine evolved_changed evolved (fun id => seen.message_deleteMessage messageId id)
    (fun before later revised => ?_) (fun message posts => ?_) rfl rfl
  · split
    · rename_i here
      have own : request.Erases before.id := by
        rw [← revised.succeeds.id, here]
        exact erases
      refine ⟨?_, fun _ other => absurd own other, fun kept => revised.content kept⟩
      have same := revised.succeeds
      exact ⟨same.id, same.chatId, same.authorId, same.replyToId, same.forwardedFromMessageId,
        fun _ => rfl⟩
    · exact revised
  · unfold Request.Erases at erases
    unfold Request.Posts at posts
    split at erases
    · rename_i command
      simp [command] at posts
    · cases erases

theorem evolved_filed {after : Db} {change : MessageAttachment → MessageAttachment}
    (evolved : Evolved request db seen)
    (attachments : ∀ id, after.attachment? id = (seen.attachment? id).map change)
    (same : ∀ id attachment, seen.attachment? id = some attachment →
      attachment.SameFile (change attachment) ∧
        ((change attachment).messageId = attachment.messageId ∨
          request.Claims id ∧ (db.attachment? id).isSome ∧
            ∃ messageId, (change attachment).messageId = some messageId ∧
              AddedTo db seen messageId))
    (messages : after.messages = seen.messages) (pins : after.pins = seen.pins) :
    Evolved request db after := by
  have sameMessage : ∀ id, after.message? id = seen.message? id := fun id => by
    rw [Db.message?, messages, Db.message?]
  have stays : ∀ {messageId}, AddedTo db seen messageId → AddedTo db after messageId :=
    fun added => added_stays added fun there => by rwa [sameMessage]
  refine ⟨fun id before found => ?_, fun id message absent found => ?_, fun id before found => ?_,
    fun id attachment absent found messageId bound => ?_, fun pin listed => ?_⟩
  · rw [sameMessage]
    exact evolved.kept id before found
  · rw [sameMessage] at found
    exact evolved.added id message absent found
  · obtain ⟨middle, stored, file, moved⟩ := evolved.files id before found
    obtain ⟨fileNow, movedNow⟩ := same id middle stored
    refine ⟨change middle, by rw [attachments, stored]; rfl, ?_, ?_⟩
    · exact ⟨fileNow.chatId.trans file.chatId, fileNow.uploaderId.trans file.uploaderId,
        fileNow.s3Key.trans file.s3Key,
        fileNow.sourceAttachmentId.trans file.sourceAttachmentId⟩
    · rcases movedNow with still | ⟨claims, _, messageId, bound, added⟩
      · rcases moved with unmoved | ⟨claims, messageId, bound, added⟩
        · exact .inl (still.trans unmoved)
        · exact .inr ⟨claims, messageId, still.trans bound, stays added⟩
      · exact .inr ⟨claims, messageId, bound, stays added⟩
  · rw [attachments] at found
    obtain ⟨middle, stored, rfl⟩ := Option.map_eq_some_iff.mp found
    obtain ⟨file, still | ⟨_, known, _⟩⟩ := same id middle stored
    · rw [still] at bound
      obtain ⟨copied, added⟩ := evolved.stored id middle absent stored messageId bound
      exact ⟨by rwa [file.sourceAttachmentId], stays added⟩
    · rw [absent] at known
      cases known
  · rw [pins] at listed
    exact evolved.pins pin listed

theorem evolved_process {processed : MessageAttachment} (evolved : Evolved request db seen) :
    Evolved request db (Db.apply (.processAttachment processed) seen) := by
  refine evolved_filed evolved (fun id => seen.attachment_processAttachment processed id)
    (fun id attachment _ => ?_) rfl rfl
  split
  · exact ⟨⟨rfl, rfl, rfl, rfl⟩, .inl rfl⟩
  · exact ⟨⟨rfl, rfl, rfl, rfl⟩, .inl rfl⟩

theorem evolved_bind {attachmentId : AttachmentId} {messageId : MessageId} {seq : Nat}
    (evolved : Evolved request db seen) (claims : request.Claims attachmentId)
    (known : (db.attachment? attachmentId).isSome) (added : AddedTo db seen messageId) :
    Evolved request db (Db.apply (.bindAttachment attachmentId messageId seq) seen) := by
  refine evolved_filed evolved
    (fun id => seen.attachment_bindAttachment attachmentId messageId seq id)
    (fun id attachment found => ?_) rfl rfl
  split
  · rename_i here
    have key := Db.attachment_id found
    have same : attachmentId = id := here.symm.trans key
    exact ⟨⟨rfl, rfl, rfl, rfl⟩, .inr ⟨same ▸ claims, same ▸ known, messageId, rfl, added⟩⟩
  · exact ⟨⟨rfl, rfl, rfl, rfl⟩, .inl rfl⟩

theorem evolved_insertMessage {message : Message} (evolved : Evolved request db seen)
    (sourced : Sourced request db message) :
    Evolved request db (Db.apply (.insertMessage message) seen) := by
  have lookup := seen.message_insertMessage message
  have stays : ∀ {messageId}, AddedTo db seen messageId →
      AddedTo db (Db.apply (.insertMessage message) seen) messageId := fun added =>
    added_stays added fun there => by
      rw [lookup, Option.isSome_or, there]
      rfl
  refine ⟨fun id before found => ?_, fun id other absent found => ?_, fun id before found => ?_,
    fun id attachment absent found messageId bound => ?_, fun pin listed => ?_⟩
  · obtain ⟨later, stored, revised⟩ := evolved.kept id before found
    exact ⟨later, by rw [lookup, stored]; rfl, revised⟩
  · rw [lookup] at found
    cases stored : seen.message? id with
    | some earlier =>
        rw [stored, Option.some_or, Option.some.injEq] at found
        rw [← found]
        exact evolved.added id earlier absent stored
    | none =>
        rw [stored, Option.none_or] at found
        split at found
        · cases found
          exact sourced
        · cases found
  · obtain ⟨later, stored, same, bound | ⟨claims, messageId, bound, added⟩⟩ :=
      evolved.files id before found
    · exact ⟨later, stored, same, .inl bound⟩
    · exact ⟨later, stored, same, .inr ⟨claims, messageId, bound, stays added⟩⟩
  · obtain ⟨copied, added⟩ := evolved.stored id attachment absent found messageId bound
    exact ⟨copied, stays added⟩
  · exact evolved.pins pin listed

theorem evolved_insertAttachment {attachment : MessageAttachment}
    (evolved : Evolved request db seen)
    (bound : ∀ messageId, attachment.messageId = some messageId →
      attachment.sourceAttachmentId.isSome ∧ AddedTo db seen messageId) :
    Evolved request db (Db.apply (.insertAttachment attachment) seen) := by
  have lookup := seen.attachment_insertAttachment attachment
  refine ⟨evolved.kept, evolved.added, fun id before found => ?_, fun id other absent found => ?_,
    evolved.pins⟩
  · obtain ⟨later, stored, facts⟩ := evolved.files id before found
    exact ⟨later, by rw [lookup, stored]; rfl, facts⟩
  · rw [lookup] at found
    cases stored : seen.attachment? id with
    | some earlier =>
        rw [stored, Option.some_or, Option.some.injEq] at found
        rw [← found]
        exact evolved.stored id earlier absent stored
    | none =>
        rw [stored, Option.none_or] at found
        split at found
        · cases found
          exact bound
        · cases found

theorem evolved_insertPin {pin : ChatPinnedMessage} {message : Message}
    (evolved : Evolved request db seen) (live : db.liveMessage? pin.messageId = some message)
    (inChat : message.chatId = pin.chatId) :
    Evolved request db (Db.apply (.insertPin pin) seen) := by
  refine ⟨evolved.kept, evolved.added, evolved.files, evolved.stored, fun other listed => ?_⟩
  have known : other ∈ seen.pins.rows ∨ other = pin := by
    have member : other ∈ (seen.pins.insert pin).rows := listed
    cases taken : seen.pins.find? pin.key with
    | none =>
        rw [Table.rows_insert _ _ taken] at member
        simpa using member
    | some row =>
        rw [Table.insert_taken _ _ (by rw [taken]; rfl)] at member
        exact .inl member
  rcases known with stored | rfl
  · exact evolved.pins other stored
  · exact .inr ⟨message, live, inChat⟩

def Write.Plain : Write → Prop
  | .insertMessage _ => False
  | .insertAttachment attachment => attachment.messageId = none
  | .bindAttachment _ _ _ => False
  | .insertPin _ => False
  | _ => True

theorem evolved_footprint {write : Write} (evolved : Evolved request db seen)
    (allowed : request.Footprint write) (plain : write.Plain) :
    Evolved request db (Db.apply write seen) := by
  cases write
  case insertMessage => cases plain
  case bindAttachment => cases plain
  case insertPin => cases plain
  case insertAttachment attachment =>
    refine evolved_insertAttachment evolved fun messageId bound => ?_
    rw [plain] at bound
    cases bound
  case editMessage => exact evolved_edit evolved allowed
  case deleteMessage => exact evolved_erase evolved allowed
  case processAttachment => exact evolved_process evolved
  case deletePin =>
    exact evolved_same evolved rfl rfl fun pin listed => List.mem_of_mem_filter listed
  all_goals exact evolved_same evolved rfl rfl fun pin listed => listed

end Writes

end Messanger
