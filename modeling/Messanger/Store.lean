import Messanger.Library.Table
import Messanger.Library.Session
import Messanger.Messages.Models

/-!
The database of the chat module: its tables, the writes its statements make and the
rows they lock.  A write changes the columns its statement sets and no others.
-/

namespace Messanger

open Relational

inductive ChatEvent where
  | createdChat (chatId : ChatId) (createdBy : UserId) (memberIds : List UserId)
      (chatType : ChatType) (memberCount : Int)
  | updatedChat (chatId : ChatId) (updatedBy : UserId)
  | transferredChatOwnership (chatId : ChatId) (requesterId previousOwnerId newOwnerId : UserId)
  | deletedChat (chatId : ChatId) (deletedBy : UserId)
  | addedChatMember (chatId : ChatId) (userId : UserId) (roleId : ChatRoleId)
  | kickedChatMember (chatId : ChatId) (requesterId targetUserId : UserId)
  | bannedChatMember (chatId : ChatId) (requesterId targetUserId : UserId) (ban : Bool)
  | mutedChatMember (chatId : ChatId) (requesterId targetUserId : UserId) (mute : Bool)
      (mutedUntil : Option Nat)
  | leftChatMember (chatId : ChatId) (userId : UserId)
  | createdChatJoinRequest (chatId : ChatId) (userId : UserId) (inviteLinkId : Option InviteId)
      (requestedAt : Nat)
  | approvedChatJoinRequests (chatId : ChatId) (userIds : List UserId) (resolvedBy : UserId)
      (roleId : ChatRoleId)
  | declinedChatJoinRequests (chatId : ChatId) (userIds : List UserId) (resolvedBy : UserId)
      (count : Nat) (all : Bool)
  | cancelledChatJoinRequest (chatId : ChatId) (userId : UserId)
  | sendedMessage (messageId : MessageId) (chatId : ChatId) (seq : Nat)
      (senderId : Option UserId) (messageType : MessageType) (notify : Bool)
  | modifiedMessage (messageId : MessageId) (chatId : ChatId) (seq : Nat) (modifiedBy : UserId)
  | deletedMessage (messageId : MessageId) (chatId : ChatId) (seq : Nat) (deletedBy : UserId)
  | pinnedMessage (chatId : ChatId) (messageId : MessageId) (seq : Nat) (pinnedBy : UserId)
      (pinnedAt : Nat)
  | unpinnedMessages (chatId : ChatId) (messageIds : List MessageId) (unpinnedBy : UserId)
      (all : Bool)
  | readedMessage (chatId : ChatId) (seq : Nat) (readerId : UserId)
  deriving DecidableEq, Repr

inductive PrivacyRule where
  | lastSeen
  | photo
  | messages
  | groupInvites
  | calls
  deriving DecidableEq, Repr

inductive PrivacyVisibility where
  | everybody
  | contacts
  | nobody
  deriving DecidableEq, Repr

/-- The columns of `chats` an ORM update sets. -/
structure ChatPatch where
  name : Option (Option String) := none
  description : Option (Option String) := none
  username : Option (Option String) := none
  isPublic : Option Bool := none
  joinByRequest : Option Bool := none
  createdBy : Option UserId := none
  adminOnly : Option Bool := none
  slowModeSeconds : Option Int := none
  permissions : Option (List (String × Bool)) := none
  reactionsMode : Option ChatReactionsMode := none
  allowedReactions : Option (List String) := none
  deletedAt : Option (Option Nat) := none
  deriving DecidableEq, Repr

def ChatPatch.apply (patch : ChatPatch) (chat : Chat) : Chat :=
  { chat with
    name := patch.name.getD chat.name
    description := patch.description.getD chat.description
    username := patch.username.getD chat.username
    isPublic := patch.isPublic.getD chat.isPublic
    joinByRequest := patch.joinByRequest.getD chat.joinByRequest
    createdBy := patch.createdBy.getD chat.createdBy
    adminOnly := patch.adminOnly.getD chat.adminOnly
    slowModeSeconds := patch.slowModeSeconds.getD chat.slowModeSeconds
    permissions := patch.permissions.getD chat.permissions
    reactionsMode := patch.reactionsMode.getD chat.reactionsMode
    allowedReactions := patch.allowedReactions.getD chat.allowedReactions
    deletedAt := patch.deletedAt.getD chat.deletedAt }

theorem ChatPatch.apply_id (patch : ChatPatch) (chat : Chat) :
    (patch.apply chat).id = chat.id := rfl

/-- The personal columns of `chat_members` an ORM update sets. -/
structure StatePatch where
  pinnedAt : Option (Option Nat) := none
  archivedAt : Option (Option Nat) := none
  notificationsMutedUntil : Option (Option Nat) := none
  draft : Option (Option String) := none
  draftUpdatedAt : Option (Option Nat) := none
  deriving DecidableEq, Repr

def StatePatch.apply (patch : StatePatch) (state : MemberState) : MemberState where
  pinnedAt := patch.pinnedAt.getD state.pinnedAt
  archivedAt := patch.archivedAt.getD state.archivedAt
  notificationsMutedUntil := patch.notificationsMutedUntil.getD state.notificationsMutedUntil
  draft := patch.draft.getD state.draft
  draftUpdatedAt := patch.draftUpdatedAt.getD state.draftUpdatedAt

@[simp] theorem StatePatch.apply_empty (state : MemberState) :
    ({} : StatePatch).apply state = state := rfl

/-- The columns of `chat_members` an ORM update sets. -/
structure MemberPatch where
  roleId : Option ChatRoleId := none
  mutedUntil : Option (Option Nat) := none
  bannedUntil : Option (Option Nat) := none
  state : StatePatch := {}
  deriving DecidableEq, Repr

def MemberPatch.apply (patch : MemberPatch) (member : ChatMember) : ChatMember :=
  { member with
    roleId := patch.roleId.getD member.roleId
    mutedUntil := patch.mutedUntil.getD member.mutedUntil
    bannedUntil := patch.bannedUntil.getD member.bannedUntil
    state := patch.state.apply member.state }

def ChatMember.key (member : ChatMember) : ChatId × UserId := (member.chatId, member.userId)

theorem MemberPatch.apply_key (patch : MemberPatch) (member : ChatMember) :
    (patch.apply member).key = member.key := rfl

def ChatJoinRequest.key (request : ChatJoinRequest) : ChatId × UserId :=
  (request.chatId, request.userId)

def ChatPinnedMessage.key (pin : ChatPinnedMessage) : ChatId × MessageId :=
  (pin.chatId, pin.messageId)

/-- The rows the chat handlers read and write.  `nextMemberId` is the sequence behind
`chat_members.id`: a row inserted later never gets the id of a deleted one. -/
structure Db where
  chats : Table Chat ChatId Chat.id := .empty
  members : Table ChatMember (ChatId × UserId) ChatMember.key := .empty
  nextMemberId : MemberId := 1
  invites : Table ChatInviteLink InviteId ChatInviteLink.id := .empty
  joinRequests : Table ChatJoinRequest (ChatId × UserId) ChatJoinRequest.key := .empty
  messages : Table Message MessageId Message.id := .empty
  attachments : Table MessageAttachment AttachmentId MessageAttachment.id := .empty
  pins : Table ChatPinnedMessage (ChatId × MessageId) ChatPinnedMessage.key := .empty
  blocks : List (UserId × UserId) := []
  visibilities : List ((UserId × PrivacyRule) × PrivacyVisibility) := []
  exceptions : List ((UserId × PrivacyRule × UserId) × Bool) := []
  contacts : List (UserId × UserId) := []
  outbox : List ChatEvent := []

inductive Write where
  | insertChat (chat : Chat)
  | patchChat (chatId : ChatId) (patch : ChatPatch)
  | shiftMemberCount (chatId : ChatId) (delta : Int)
  | allocateMessageSeq (chatId : ChatId) (count : Nat) (messageDate : Nat)
  | insertMember (chatId : ChatId) (userId : UserId) (roleId : ChatRoleId)
  | patchMember (chatId : ChatId) (userId : UserId) (id : MemberId) (patch : MemberPatch)
  | deleteMember (chatId : ChatId) (userId : UserId) (id : MemberId)
  | insertInvite (invite : ChatInviteLink)
  | addUsage (inviteId : InviteId) (count : Nat)
  | revokeInvite (inviteId : InviteId) (revokedAt : Nat)
  | insertJoinRequest (request : ChatJoinRequest)
  | updateJoinRequest (request : ChatJoinRequest)
  | deleteJoinRequest (chatId : ChatId) (userId : UserId)
  | insertMessage (message : Message)
  | editMessage (messageId : MessageId) (content : Option String)
  | deleteMessage (messageId : MessageId)
  | insertAttachment (attachment : MessageAttachment)
  | bindAttachment (attachmentId : AttachmentId) (messageId : MessageId) (messageSeq : Nat)
  | processAttachment (attachment : MessageAttachment)
  | insertPin (pin : ChatPinnedMessage)
  | deletePin (chatId : ChatId) (messageId : MessageId)
  | publish (events : List ChatEvent)

inductive RowKey where
  | chat (chatId : ChatId)
  | member (chatId : ChatId) (userId : UserId)
  | invite (inviteId : InviteId)
  | joinRequest (chatId : ChatId) (userId : UserId)
  | message (messageId : MessageId)
  | attachment (attachmentId : AttachmentId)
  | pin (chatId : ChatId) (messageId : MessageId)
  deriving DecidableEq, Repr

namespace Db

def updateChat (db : Db) (chatId : ChatId) (change : Chat → Chat)
    (keeps : ∀ chat, (change chat).id = chat.id) : Db :=
  { db with chats := db.chats.update (fun chat => decide (chat.id = chatId)) change keeps }

theorem updateChat_self (db : Db) (chatId : ChatId) {change : Chat → Chat}
    (keeps : ∀ chat, (change chat).id = chat.id) (same : ∀ chat, change chat = chat) :
    db.updateChat chatId change keeps = db := by
  rw [updateChat, Table.update_self _ _ keeps same]

def isMemberRow (chatId : ChatId) (userId : UserId) (id : MemberId) (member : ChatMember) : Bool :=
  decide (member.key = (chatId, userId) ∧ member.id = id)

def processColumns (processed attachment : MessageAttachment) : MessageAttachment :=
  { attachment with
    attachmentStatus := processed.attachmentStatus
    size := processed.size
    width := processed.width
    height := processed.height
    durationSeconds := processed.durationSeconds
    thumbhash := processed.thumbhash
    previews := processed.previews }

def apply : Write → Db → Db
  | .insertChat chat, db => { db with chats := db.chats.insert chat }
  | .patchChat chatId patch, db => db.updateChat chatId patch.apply patch.apply_id
  | .shiftMemberCount chatId delta, db =>
      db.updateChat chatId (fun chat => { chat with memberCount := chat.memberCount + delta })
        fun _ => rfl
  | .allocateMessageSeq chatId count messageDate, db =>
      db.updateChat chatId
        (fun chat => { chat with
          seqCounter := chat.seqCounter + count, lastActivityAt := some messageDate })
        fun _ => rfl
  | .insertMember chatId userId roleId, db =>
      { db with
        members := db.members.insert
          { id := db.nextMemberId, chatId := chatId, userId := userId, roleId := roleId }
        nextMemberId := db.nextMemberId + 1 }
  | .patchMember chatId userId id patch, db =>
      { db with
        members := db.members.update (isMemberRow chatId userId id) patch.apply patch.apply_key }
  | .deleteMember chatId userId id, db =>
      { db with members := db.members.delete (isMemberRow chatId userId id) }
  | .insertInvite invite, db => { db with invites := db.invites.insert invite }
  | .addUsage inviteId count, db =>
      { db with
        invites := db.invites.update (fun invite => decide (invite.id = inviteId))
          (fun invite => { invite with usageCount := invite.usageCount + count }) fun _ => rfl }
  | .revokeInvite inviteId revokedAt, db =>
      { db with
        invites := db.invites.update (fun invite => decide (invite.id = inviteId))
          (fun invite => { invite with revokedAt := some revokedAt }) fun _ => rfl }
  | .insertJoinRequest request, db => { db with joinRequests := db.joinRequests.insert request }
  | .updateJoinRequest request, db =>
      { db with
        joinRequests := db.joinRequests.update (fun stored => decide (stored.key = request.key))
          (fun stored =>
            { request with chatId := stored.chatId, userId := stored.userId }) fun _ => rfl }
  | .deleteJoinRequest chatId userId, db =>
      { db with
        joinRequests := db.joinRequests.delete fun stored =>
          decide (stored.key = (chatId, userId)) }
  | .insertMessage message, db => { db with messages := db.messages.insert message }
  | .editMessage messageId content, db =>
      { db with
        messages := db.messages.update (fun message => decide (message.id = messageId))
          (fun message => { message with
            content := content, isEdited := true
            hasLinks := Message.containsLink content }) fun _ => rfl }
  | .deleteMessage messageId, db =>
      { db with
        messages := db.messages.update (fun message => decide (message.id = messageId))
          (fun message => { message with isDeleted := true }) fun _ => rfl }
  | .insertAttachment attachment, db =>
      { db with attachments := db.attachments.insert attachment }
  | .bindAttachment attachmentId messageId messageSeq, db =>
      { db with
        attachments := db.attachments.update
          (fun attachment => decide (attachment.id = attachmentId))
          (fun attachment => attachment.bindToMessage messageId messageSeq) fun _ => rfl }
  | .processAttachment processed, db =>
      { db with
        attachments := db.attachments.update
          (fun attachment => decide (attachment.id = processed.id)) (processColumns processed)
          fun _ => rfl }
  | .insertPin pin, db => { db with pins := db.pins.insert pin }
  | .deletePin chatId messageId, db =>
      { db with pins := db.pins.delete fun pin => decide (pin.key = (chatId, messageId)) }
  | .publish events, db => { db with outbox := db.outbox ++ events }

instance : Storage Db Write := ⟨Db.apply⟩

theorem apply_eq (write : Write) (db : Db) : Storage.apply write db = Db.apply write db := rfl

def chat? (db : Db) (chatId : ChatId) : Option Chat := db.chats.find? chatId

def member? (db : Db) (chatId : ChatId) (userId : UserId) : Option ChatMember :=
  db.members.find? (chatId, userId)

def message? (db : Db) (messageId : MessageId) : Option Message := db.messages.find? messageId

def attachment? (db : Db) (attachmentId : AttachmentId) : Option MessageAttachment :=
  db.attachments.find? attachmentId

/-- `Chat.select_not_deleted()`. -/
def openChat? (db : Db) (chatId : ChatId) : Option Chat :=
  (db.chat? chatId).filter fun chat => chat.deletedAt.isNone

def memberRows (db : Db) (chatId : ChatId) : Nat :=
  db.members.count fun member => decide (member.chatId = chatId)

theorem openChat_updateChat (db : Db) (target chatId : ChatId) (change : Chat → Chat)
    (keeps : ∀ chat, (change chat).id = chat.id)
    (alive : ∀ chat, (change chat).deletedAt = chat.deletedAt) :
    (db.updateChat target change keeps).openChat? chatId =
      (db.openChat? chatId).map fun chat => if chat.id = target then change chat else chat := by
  simp only [openChat?, chat?, updateChat, Table.find?_update, decide_eq_true_eq]
  cases db.chats.find? chatId with
  | none => rfl
  | some chat =>
      simp only [Option.map_some]
      by_cases same : chat.id = target
      · cases gone : chat.deletedAt <;> simp [same, alive, gone, Option.filter]
      · cases gone : chat.deletedAt <;> simp [same, gone, Option.filter]

theorem openChat_id {db : Db} {chatId : ChatId} {chat : Chat}
    (found : db.openChat? chatId = some chat) : chat.id = chatId :=
  Table.key_of_find? (Option.filter_eq_some_iff.mp found).1

theorem chat_of_open {db : Db} {chatId : ChatId} {chat : Chat}
    (found : db.openChat? chatId = some chat) : (db.chat? chatId).isSome := by
  rw [(Option.filter_eq_some_iff.mp found).1]
  rfl

theorem member_key {db : Db} {chatId : ChatId} {userId : UserId} {row : ChatMember}
    (found : db.member? chatId userId = some row) : row.chatId = chatId ∧ row.userId = userId := by
  simpa [ChatMember.key] using Table.key_of_find? found

section Lookups

variable (db : Db) (chatId : ChatId) (userId : UserId)

@[simp] theorem member_insertMember (target : ChatId) (targetUserId : UserId)
    (roleId : ChatRoleId) :
    (apply (.insertMember target targetUserId roleId) db).member? chatId userId =
      (db.member? chatId userId).or (if target = chatId ∧ targetUserId = userId then
        some { id := db.nextMemberId, chatId := target, userId := targetUserId, roleId := roleId }
        else none) := by
  simp [apply, member?, Table.find?_insert, ChatMember.key, Prod.ext_iff]

@[simp] theorem member_patchMember (target : ChatId) (targetUserId : UserId) (id : MemberId)
    (patch : MemberPatch) :
    (apply (.patchMember target targetUserId id patch) db).member? chatId userId =
      (db.member? chatId userId).map fun row =>
        if isMemberRow target targetUserId id row then patch.apply row else row := by
  simp only [apply, member?, Table.find?_update]

@[simp] theorem member_deleteMember (target : ChatId) (targetUserId : UserId) (id : MemberId) :
    (apply (.deleteMember target targetUserId id) db).member? chatId userId =
      (db.member? chatId userId).filter fun row => !isMemberRow target targetUserId id row := by
  simp [apply, member?, Table.find?_delete]

theorem chat_updateChat (target : ChatId) (change : Chat → Chat)
    (keeps : ∀ chat, (change chat).id = chat.id) :
    (db.updateChat target change keeps).chat? chatId =
      (db.chat? chatId).map fun chat => if chat.id = target then change chat else chat := by
  simp only [chat?, updateChat, Table.find?_update, decide_eq_true_eq]

theorem chat_stays (write : Write) (stored : (db.chat? chatId).isSome) :
    ((apply write db).chat? chatId).isSome := by
  cases write
  case insertChat chat =>
    obtain ⟨row, found⟩ := Option.isSome_iff_exists.mp stored
    rw [chat?] at found
    simp [apply, chat?, Table.find?_insert, found]
  case patchChat => rwa [apply, chat_updateChat, Option.isSome_map]
  case shiftMemberCount => rwa [apply, chat_updateChat, Option.isSome_map]
  case allocateMessageSeq => rwa [apply, chat_updateChat, Option.isSome_map]
  all_goals exact stored

end Lookups

section Contents

variable (db : Db)

theorem message_insertMessage (message : Message) (id : MessageId) :
    (apply (.insertMessage message) db).message? id =
      (db.message? id).or (if message.id = id then some message else none) :=
  Table.find?_insert _ _ _

theorem message_editMessage (target id : MessageId) (content : Option String) :
    (apply (.editMessage target content) db).message? id =
      (db.message? id).map fun message =>
        if message.id = target then
          { message with
            content := content, isEdited := true, hasLinks := Message.containsLink content }
        else message := by
  refine (Table.find?_update db.messages _ _ ?_ id).trans ?_
  · exact fun _ => rfl
  · simp only [decide_eq_true_eq]
    rfl

theorem message_deleteMessage (target id : MessageId) :
    (apply (.deleteMessage target) db).message? id =
      (db.message? id).map fun message =>
        if message.id = target then { message with isDeleted := true } else message := by
  refine (Table.find?_update db.messages _ _ ?_ id).trans ?_
  · exact fun _ => rfl
  · simp only [decide_eq_true_eq]
    rfl

theorem attachment_insertAttachment (attachment : MessageAttachment) (id : AttachmentId) :
    (apply (.insertAttachment attachment) db).attachment? id =
      (db.attachment? id).or (if attachment.id = id then some attachment else none) :=
  Table.find?_insert _ _ _

theorem attachment_bindAttachment (target : AttachmentId) (messageId : MessageId) (seq : Nat)
    (id : AttachmentId) :
    (apply (.bindAttachment target messageId seq) db).attachment? id =
      (db.attachment? id).map fun attachment =>
        if attachment.id = target then attachment.bindToMessage messageId seq else attachment := by
  refine (Table.find?_update db.attachments _ _ ?_ id).trans ?_
  · exact fun _ => rfl
  · simp only [decide_eq_true_eq]
    rfl

theorem attachment_processAttachment (processed : MessageAttachment) (id : AttachmentId) :
    (apply (.processAttachment processed) db).attachment? id =
      (db.attachment? id).map fun slot =>
        if slot.id = processed.id then processColumns processed slot else slot := by
  refine (Table.find?_update db.attachments _ _ ?_ id).trans ?_
  · exact fun _ => rfl
  · simp only [decide_eq_true_eq]
    rfl

theorem message_id {db : Db} {id : MessageId} {message : Message}
    (found : db.message? id = some message) : message.id = id := Table.key_of_find? found

theorem attachment_id {db : Db} {id : AttachmentId} {attachment : MessageAttachment}
    (found : db.attachment? id = some attachment) : attachment.id = id := Table.key_of_find? found

end Contents

end Db

def Write.ofMember : Write → Bool
  | .insertMember _ _ _ => true
  | .patchMember _ _ _ _ => true
  | .deleteMember _ _ _ => true
  | _ => false

theorem Db.member_apply (db : Db) (chatId : ChatId) (userId : UserId) (write : Write)
    (apart : write.ofMember = false) :
    (Db.apply write db).member? chatId userId = db.member? chatId userId := by
  cases write <;> first | rfl | cases apart

abbrev Handler (Answer : Type) := Tx Db Write RowKey ChatError Answer

def Write.storedRequest : Write → Option ChatJoinRequest
  | .insertJoinRequest request => some request
  | .updateJoinRequest request => some request
  | _ => none

theorem Db.joinRequests_apply {Fits : ChatJoinRequest → Prop} (write : Write) {db : Db}
    (blind : ∀ (request : ChatJoinRequest) chatId userId, Fits request →
      Fits { request with chatId := chatId, userId := userId })
    (stores : ∀ request, write.storedRequest = some request → Fits request)
    (fits : ∀ request ∈ db.joinRequests.rows, Fits request) :
    ∀ request ∈ (Db.apply write db).joinRequests.rows, Fits request := by
  cases write
  case insertJoinRequest request =>
    intro other member
    rw [Db.apply, Table.mem_rows_iff, Table.find?_insert] at member
    rcases Option.or_eq_some_iff.mp member with old | ⟨_, new⟩
    · exact fits other ((Table.find?_some_iff _ _ _).mp old).1
    · split at new
      · cases new
        exact stores request rfl
      · cases new
  case updateJoinRequest request =>
    intro other member
    simp only [Db.apply, Table.update, List.mem_map] at member
    obtain ⟨stored, old, rfl⟩ := member
    split
    · exact blind request _ _ (stores request rfl)
    · exact fits stored old
  case deleteJoinRequest chatId userId =>
    exact fun other member => fits other (List.mem_of_mem_filter member)
  all_goals exact fits

end Messanger
