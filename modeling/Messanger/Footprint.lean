import Messanger.Requests

/-!
Which request can make which write.  Every handler is shown to stay within the footprint of
its request, whatever rows it sees; what the writes of a footprint preserve, the request does.
-/

namespace Messanger

open Relational

namespace Request

variable (request : Request)

def Admits (chatId : ChatId) (userId : UserId) : Prop :=
  match request.command with
  | .addMember target targetUserId _ => target = chatId ∧ targetUserId = userId
  | .joinChat target => target = chatId ∧ request.user.id = userId
  | .joinChatByInvite _ => request.user.id = userId
  | .approveJoinRequests target userIds => target = chatId ∧ userId ∈ userIds
  | .createChat _ id => id = chatId
  | _ => False

def Amends (chatId : ChatId) (userId : UserId) (patch : MemberPatch) : Prop :=
  match request.command with
  | .banMember target targetUserId _ =>
      target = chatId ∧ targetUserId = userId ∧ userId ≠ request.user.id ∧
        patch.roleId = none ∧ patch.mutedUntil = none
  | .unbanMember target targetUserId =>
      target = chatId ∧ targetUserId = userId ∧ userId ≠ request.user.id ∧
        patch.roleId = none ∧ patch.mutedUntil = none
  | .muteMember target targetUserId _ =>
      target = chatId ∧ targetUserId = userId ∧ userId ≠ request.user.id ∧
        patch.roleId = none ∧ patch.bannedUntil = none
  | .unmuteMember target targetUserId =>
      target = chatId ∧ targetUserId = userId ∧ userId ≠ request.user.id ∧
        patch.roleId = none ∧ patch.bannedUntil = none
  | .changeMemberRole target targetUserId _ =>
      target = chatId ∧ targetUserId = userId ∧ patch.bannedUntil = none ∧ patch.mutedUntil = none
  | .transferChatOwnership target _ =>
      target = chatId ∧ patch.bannedUntil = none ∧ patch.mutedUntil = none
  | .updateChatState target _ =>
      target = chatId ∧ request.user.id = userId ∧ patch.roleId = none ∧
        patch.bannedUntil = none ∧ patch.mutedUntil = none
  | _ => False

def Removes (chatId : ChatId) (userId : UserId) : Prop :=
  match request.command with
  | .kickMember target targetUserId =>
      target = chatId ∧ targetUserId = userId ∧ userId ≠ request.user.id
  | .leaveChat target => target = chatId ∧ request.user.id = userId
  | _ => False

def Patches (chatId : ChatId) (patch : ChatPatch) : Prop :=
  match request.command with
  | .transferChatOwnership target _ => target = chatId ∧ patch.deletedAt = none
  | .deleteChat target => target = chatId ∧ patch.createdBy = none
  | .updateChat target _ => target = chatId ∧ patch.createdBy = none ∧ patch.deletedAt = none
  | .setChatUsername target _ => target = chatId ∧ patch.createdBy = none ∧ patch.deletedAt = none
  | _ => False

def Posts (message : Message) : Prop :=
  message.authorId = some request.user.id ∧ message.isDeleted = false ∧
    match request.command with
    | .sendMessage target new _ id =>
        message.chatId = target ∧ message.id = id ∧ message.replyToId = new.replyToId ∧
          message.forwardedFromMessageId = none
    | .forwardMessage _ target _ _ id _ =>
        message.chatId = target ∧ message.id = id ∧ message.replyToId = none
    | .forwardMessages _ _ target _ _ _ ids _ =>
        message.chatId = target ∧ (∃ index, message.id = ids index) ∧ message.replyToId = none
    | .pinMessage target messageId noticeId =>
        message.chatId = target ∧ message.id = noticeId ∧ message.replyToId = some messageId ∧
          message.forwardedFromMessageId = none
    | _ => False

def Stores (attachment : MessageAttachment) : Prop :=
  match request.command with
  | .requestAttachmentUpload target _ _ =>
      attachment.chatId = target ∧ attachment.uploaderId = request.user.id ∧
        attachment.messageId = none ∧ attachment.sourceAttachmentId = none
  | .forwardMessage _ target _ _ id _ =>
      attachment.chatId = target ∧ attachment.messageId = some id ∧
        attachment.sourceAttachmentId.isSome
  | .forwardMessages _ _ target _ _ _ ids _ =>
      attachment.chatId = target ∧ (∃ index, attachment.messageId = some (ids index)) ∧
        attachment.sourceAttachmentId.isSome
  | _ => False

def Footprint : Write → Prop
  | .insertChat chat =>
      match request.command with
      | .createChat _ id => id = chat.id ∧ chat.createdBy = request.user.id
      | _ => False
  | .patchChat chatId patch => request.Patches chatId patch
  | .insertMember chatId userId _ => request.Admits chatId userId
  | .patchMember chatId userId _ patch => request.Amends chatId userId patch
  | .deleteMember chatId userId _ => request.Removes chatId userId
  | .insertMessage message => request.Posts message
  | .editMessage messageId _ =>
      match request.command with
      | .editMessage _ target _ => target = messageId
      | _ => False
  | .deleteMessage messageId =>
      match request.command with
      | .deleteMessage _ target => target = messageId
      | _ => False
  | .insertAttachment attachment => request.Stores attachment
  | .bindAttachment attachmentId messageId _ =>
      match request.command with
      | .sendMessage _ new _ id => attachmentId ∈ new.uploadTokens ∧ id = messageId
      | _ => False
  | .processAttachment attachment =>
      match request.command with
      | .proccessAttachments uploadTokens _ => attachment.id ∈ uploadTokens
      | _ => False
  | .insertPin _ =>
      match request.command with
      | .pinMessage _ _ _ => True
      | _ => False
  | _ => True

end Request

theorem insertRow_emits {Allowed : Write → Prop} {key : RowKey} {taken : Db → Bool} {write : Write}
    (allowed : Allowed write) : (insertRow key taken write).Emits Allowed := by
  simp only [insertRow, Tx.emits_statement_alone_iff]
  intro seen other member
  split at member
  · cases member
  · rwa [List.mem_singleton.mp member]

theorem updateRow_emits {Allowed : Write → Prop} {key : RowKey} {present : Db → Bool}
    {write : Write} (allowed : Allowed write) : (updateRow key present write).Emits Allowed := by
  simp only [updateRow, Tx.emits_statement_alone_iff]
  intro seen other member
  split at member
  · rwa [List.mem_singleton.mp member]
  · cases member

section Chats

variable (user : UserJWTData) (now : Nat)

attribute [local simp] Tx.bind_assoc Tx.ite_bind getById getMemberChat getChatAndMember checked
  shiftMemberCount reserveSeats insertRow updateRow insertMember deleteMember patchMember patchChat
  flushChat publish getJoinRequest listPendingForUpdate updateJoinRequest flushJoinRequest moderated
  flushBannedUntil
  insertBanRecord flushRole
attribute [local simp] Request.Footprint Request.Admits Request.Amends Request.Removes
  Request.Patches

theorem submitJoinRequest_emits (chat : Chat) (userId : UserId) (inviteLinkId : Option InviteId)
    (request : Request) :
    (submitJoinRequest now chat userId inviteLinkId).Emits request.Footprint := by
  simp only [submitJoinRequest, getMemberChat, getJoinRequest, Tx.bind_eq, Tx.emits_read_iff,
    Tx.emits_require_iff]
  intro _ _ _ _ _ seen
  cases seen.joinRequests.find? (chat.id, userId) with
  | some existing => simp
  | none => simp [insertJoinRequest]

theorem addMember_emits (chatId : ChatId) (target : UserId) (roleId : Nat) :
    (addMember user now chatId target roleId).Emits
      (Request.Footprint ⟨user, now, .addMember chatId target roleId⟩) := by
  simp [addMember]
  intro _ found answered
  intros
  exact (Db.openChat_id (Db.chatAndMember_ok answered).1).symm

theorem joinChat_emits (chatId : ChatId) :
    (joinChat user now chatId).Emits (Request.Footprint ⟨user, now, .joinChat chatId⟩) := by
  simp [joinChat, submitJoinRequest_emits]
  intro _ chat found
  intros
  exact (Db.openChat_id found).symm

theorem joinChatByInvite_emits (code : String) :
    (joinChatByInvite user now code).Emits
      (Request.Footprint ⟨user, now, .joinChatByInvite code⟩) := by
  simp [joinChatByInvite, getByCode, consumeLink, consume, submitJoinRequest_emits]
  intros
  split <;> simp

theorem admitRequests_emits (chat : Chat) (toAdd : List ChatJoinRequest) (request : Request) :
    (admitRequests chat toAdd).Emits request.Footprint := by
  simp only [admitRequests, Tx.emits_ite_iff]
  refine ⟨fun _ => trivial, fun _ => ?_⟩
  simp only [reserveSeats, shiftMemberCount, creditUsage, Tx.bind_eq, Tx.bind_assoc,
    Tx.emits_statement_iff, Tx.emits_require_iff, Tx.emits_statement_alone_iff, List.mem_map]
  refine ⟨by simp, fun _ _ _ _ _ write => ?_⟩
  rintro ⟨_, _, rfl⟩
  trivial

theorem approveJoinRequests_emits (chatId : ChatId) (userIds : List UserId) :
    (approveJoinRequests user now chatId userIds).Emits
      (Request.Footprint ⟨user, now, .approveJoinRequests chatId userIds⟩) := by
  simp only [approveJoinRequests, getChatAndMember, listPendingForUpdate, Tx.bind_eq,
    Tx.emits_statement_iff, Tx.emits_require_iff, Tx.emits_read_iff]
  refine ⟨by simp, fun seen found answered _ => ⟨by simp, fun asked pending listed read => ?_⟩⟩
  refine Tx.emits_bind (admitRequests_emits _ _ _) fun _ => ?_
  refine Tx.emits_each _ (by simp) ?_
  refine Tx.emits_each _ (fun request member => ?_) (by simp)
  have inChat := Db.openChat_id (Db.chatAndMember_ok answered).1
  cases listed
  have wanted := Db.pendingFor_wanted (List.mem_of_mem_filter (List.mem_of_mem_filter member))
  simp [inChat, List.mem_eraseDups.mp wanted]

theorem declineJoinRequests_emits (chatId : ChatId) (userIds : List UserId) :
    (declineJoinRequests user now chatId userIds).Emits
      (Request.Footprint ⟨user, now, .declineJoinRequests chatId userIds⟩) := by
  simp only [declineJoinRequests, getChatAndMember, listPendingForUpdate, Tx.bind_eq,
    Tx.emits_statement_iff, Tx.emits_require_iff]
  refine ⟨by simp, fun _ _ _ _ => ⟨by simp, fun _ _ _ => ?_⟩⟩
  exact Tx.emits_each _ (by simp) (by simp)

theorem declineAllJoinRequests_emits (chatId : ChatId) :
    (declineAllJoinRequests user now chatId).Emits
      (Request.Footprint ⟨user, now, .declineAllJoinRequests chatId⟩) := by
  simp [declineAllJoinRequests, declineAllPending]

theorem cancelJoinRequest_emits (chatId : ChatId) :
    (cancelJoinRequest user chatId).Emits
      (Request.Footprint ⟨user, now, .cancelJoinRequest chatId⟩) := by
  simp [cancelJoinRequest, deleteJoinRequest]

theorem kickMember_emits (chatId : ChatId) (target : UserId) :
    (kickMember user now chatId target).Emits
      (Request.Footprint ⟨user, now, .kickMember chatId target⟩) := by
  simp [kickMember]
  intro _ _ _ _ _ row found _ other
  obtain ⟨rfl, rfl⟩ := Db.member_key found
  simp [other]

theorem leaveChat_emits (chatId : ChatId) :
    (leaveChat user chatId).Emits (Request.Footprint ⟨user, now, .leaveChat chatId⟩) := by
  simp [leaveChat]
  intro _ _ _ _ row found
  obtain ⟨inChat, ofUser⟩ := Db.member_key found
  simp [inChat, ofUser]

theorem banMember_emits (chatId : ChatId) (target : UserId) (bannedUntil : Option Nat) :
    (banMember user now chatId target bannedUntil).Emits
      (Request.Footprint ⟨user, now, .banMember chatId target bannedUntil⟩) := by
  simp [banMember]
  intro _ _ _ _ _ row found _ other
  obtain ⟨rfl, rfl⟩ := Db.member_key found
  simp [other]

theorem unbanMember_emits (chatId : ChatId) (target : UserId) :
    (unbanMember user now chatId target).Emits
      (Request.Footprint ⟨user, now, .unbanMember chatId target⟩) := by
  simp [unbanMember]
  intro _ _ _ _ _ row found _ _ other
  obtain ⟨rfl, rfl⟩ := Db.member_key found
  simp [other]

theorem muteMember_emits (chatId : ChatId) (target : UserId) (mutedUntil : Option Nat) :
    (muteMember user now chatId target mutedUntil).Emits
      (Request.Footprint ⟨user, now, .muteMember chatId target mutedUntil⟩) := by
  simp [muteMember]
  intro _ _ _ _ _ row found _ _ other
  obtain ⟨rfl, rfl⟩ := Db.member_key found
  simp [other]

theorem unmuteMember_emits (chatId : ChatId) (target : UserId) :
    (unmuteMember user now chatId target).Emits
      (Request.Footprint ⟨user, now, .unmuteMember chatId target⟩) := by
  simp [unmuteMember]
  intro _ _ _ _ _ row found _ _ other
  obtain ⟨rfl, rfl⟩ := Db.member_key found
  simp [other]

theorem changeMemberRole_emits (chatId : ChatId) (target : UserId) (roleId : Nat) :
    (changeMemberRole user now chatId target roleId).Emits
      (Request.Footprint ⟨user, now, .changeMemberRole chatId target roleId⟩) := by
  simp [changeMemberRole]
  intro _ _ row found
  obtain ⟨rfl, rfl⟩ := Db.member_key found
  simp

theorem transferRoles_emits {chatId : ChatId} {newOwnerId : UserId} {newOwner : ChatMember}
    {previous : Option ChatMember} (newInChat : newOwner.chatId = chatId)
    (inChat : ∀ row, previous = some row → row.chatId = chatId) :
    (transferRoles newOwner previous).Emits
      (Request.Footprint ⟨user, now, .transferChatOwnership chatId newOwnerId⟩) := by
  cases previous with
  | none => simp [transferRoles, newInChat]
  | some row => simp [transferRoles, newInChat, inChat row rfl]

theorem transferChatOwnership_emits (chatId : ChatId) (newOwnerId : UserId) :
    (transferChatOwnership user now chatId newOwnerId).Emits
      (Request.Footprint ⟨user, now, .transferChatOwnership chatId newOwnerId⟩) := by
  simp only [transferChatOwnership, getByIdForUpdate, getMemberChat, previousOwnerRow, Tx.bind_eq,
    Tx.emits_statement_iff, Tx.emits_read_iff, Tx.emits_orRaise_iff, Tx.emits_require_iff,
    Tx.emits_ofExcept_iff, Tx.ite_bind, Tx.emits_ite_iff, Tx.pure_eq, Tx.done_bind, patchChat,
    updateRow]
  refine ⟨by simp, fun seen found answered chat chatFound asked _ other newOwner rowFound _ _ => ?_⟩
  cases answered
  have inChat := Db.openChat_id chatFound
  have newInChat := (Db.member_key rowFound).1
  refine ⟨fun _ => ⟨by simp [inChat], fun _ _ _ => ?_⟩,
    fun _ last => ⟨by simp [inChat], fun _ _ _ => ?_⟩⟩
  · refine Tx.emits_bind (transferRoles_emits user now newInChat fun row held => ?_) (by simp)
    exact (Db.member_key held).1
  · refine Tx.emits_bind (transferRoles_emits user now newInChat fun row held => ?_) (by simp)
    exact (Db.member_key held).1

theorem saveChat_emits {new : NewChat} {id : ChatId} {created : CreatedChat}
    (built : Chat.create user.id new id = .ok created) :
    (saveChat created user.id).Emits (Request.Footprint ⟨user, now, .createChat new id⟩) := by
  obtain ⟨sameId, ownedBy, _⟩ := Chat.create_ok built
  simp only [saveChat, insertChat, insertRow, Tx.bind_eq, Tx.emits_statement_iff]
  refine ⟨by simp [sameId, ownedBy], fun _ _ _ => ?_⟩
  exact Tx.emits_each _ (by simp [sameId]) (by simp)

theorem createChat_emits (new : NewChat) (id : ChatId) :
    (createChat user new id).Emits (Request.Footprint ⟨user, now, .createChat new id⟩) := by
  simp only [createChat, Tx.bind_eq, Tx.emits_ofExcept_iff]
  intro created built
  have saved := saveChat_emits user now built
  split
  · simp only [Tx.emits_read_iff]
    intro seen
    split
    · trivial
    · simp [saved]
  · simp [saved]

theorem deleteChat_emits (chatId : ChatId) :
    (deleteChat user now chatId).Emits (Request.Footprint ⟨user, now, .deleteChat chatId⟩) := by
  simp [deleteChat]
  intro _ found answered
  intros
  exact (Db.openChat_id (Db.chatAndMember_ok answered).1).symm

theorem updateChat_emits (chatId : ChatId) (changes : ChatChanges) :
    (updateChat user now chatId changes).Emits
      (Request.Footprint ⟨user, now, .updateChat chatId changes⟩) := by
  simp [updateChat]
  intro _ chat found _ _ patch checked _ _ _
  exact ⟨(Db.openChat_id found).symm, Chat.changed_ok checked⟩

theorem setChatUsername_emits (chatId : ChatId) (username : Option String) :
    (setChatUsername user now chatId username).Emits
      (Request.Footprint ⟨user, now, .setChatUsername chatId username⟩) := by
  simp [setChatUsername]
  intro _ chat found
  intros
  exact (Db.openChat_id found).symm

theorem createInviteLink_emits (chatId : ChatId) (new : NewInvite) (id : InviteId) (code : String) :
    (createInviteLink user now chatId new id code).Emits
      (Request.Footprint ⟨user, now, .createInviteLink chatId new id code⟩) := by
  simp [createInviteLink]
  rintro _ _ _ _ _ _ _ _ _ _ _ _ _ _ rfl
  trivial

theorem revokeInviteLink_emits (chatId : ChatId) (inviteId : InviteId) :
    (revokeInviteLink user now chatId inviteId).Emits
      (Request.Footprint ⟨user, now, .revokeInviteLink chatId inviteId⟩) := by
  simp [revokeInviteLink]

theorem updateChatState_emits (chatId : ChatId) (changes : StateChanges) :
    (updateChatState user now chatId changes).Emits
      (Request.Footprint ⟨user, now, .updateChatState chatId changes⟩) := by
  simp [updateChatState, flushState]
  intro _ row found
  obtain ⟨inChat, ofUser⟩ := Db.member_key found
  simp [inChat, ofUser]

end Chats

section Messages

variable (user : UserJWTData) (now : Nat)

attribute [local simp] Tx.bind_assoc Tx.ite_bind getById getMemberChat getChatAndMember checked
  getByIdForUpdate allocateMessageSeq insertRow updateRow publish getMessage getLoadedMessage
  insertMessage insertAttachment bindAttachment saveSlot deletePins
attribute [local simp] Request.Footprint Request.Posts Request.Stores

theorem sendMessage_emits (chatId : ChatId) (new : NewMessage) (slowTtl : Option Nat)
    (id : MessageId) :
    (sendMessage user now chatId new slowTtl id).Emits
      (Request.Footprint ⟨user, now, .sendMessage chatId new slowTtl id⟩) := by
  simp [sendMessage, -insertMessage, -bindAttachment]
  intro _ _ _ _ _ _ _ _ _ seen _ _ _ _ _ _ _ _ _ built
  obtain ⟨rfl, rfl⟩ := Message.create_ok built
  simp only [insertMessage, insertRow, Tx.emits_statement_iff]
  refine ⟨by simp, fun _ _ _ => Tx.emits_each _ (fun attachment member => ?_) (by simp)⟩
  obtain ⟨claimed, claimedMember, rfl⟩ := List.mem_map.mp member
  have wanted : claimed.id ∈ new.uploadTokens := Db.attachmentsByIds_wanted claimedMember
  exact updateRow_emits ⟨wanted, rfl⟩

theorem saveMessage_emits {request : Request} {created : Message × List MessageAttachment}
    (posts : request.Posts created.1) (stores : ∀ copy ∈ created.2, request.Stores copy) :
    (saveMessage created).Emits request.Footprint := by
  refine Tx.emits_bind (insertRow_emits posts) fun _ => ?_
  exact Tx.emits_each_alone _ fun copy member => insertRow_emits (stores copy member)

theorem editMessage_emits (chatId : ChatId) (messageId : MessageId) (newContent : String) :
    (editMessage user chatId messageId newContent).Emits
      (Request.Footprint ⟨user, now, .editMessage chatId messageId newContent⟩) := by
  simp [editMessage]

theorem deleteMessage_emits (chatId : ChatId) (messageId : MessageId) :
    (deleteMessage user now chatId messageId).Emits
      (Request.Footprint ⟨user, now, .deleteMessage chatId messageId⟩) := by
  simp [deleteMessage]

theorem unpinMessages_emits (chatId : ChatId) (messageId : Option MessageId) :
    (unpinMessages user now chatId messageId).Emits
      (Request.Footprint ⟨user, now, .unpinMessages chatId messageId⟩) := by
  simp [unpinMessages]

theorem proccessAttachments_emits (uploadTokens : List AttachmentId)
    (answers : AttachmentId → SlotAnswers) :
    (proccessAttachments user.id uploadTokens answers).Emits
      (Request.Footprint ⟨user, now, .proccessAttachments uploadTokens answers⟩) := by
  simp only [proccessAttachments, Tx.bind_eq, Tx.emits_read_iff]
  intro seen
  refine Tx.emits_each _ (fun slot member => ?_) (by simp)
  obtain ⟨claimed, claimedMember, rfl⟩ := List.mem_map.mp member
  simp [processSlot_id, Db.attachmentsByIds_wanted claimedMember]

theorem requestAttachmentUpload_emits (chatId : ChatId) (uploads : List UploadRequest)
    (fresh : Nat → AttachmentId × String) :
    (requestAttachmentUpload user now chatId uploads fresh).Emits
      (Request.Footprint ⟨user, now, .requestAttachmentUpload chatId uploads fresh⟩) := by
  simp [requestAttachmentUpload, -insertAttachment]
  intro _ _ _ _ _ _ _ _ slots built
  refine Tx.emits_each _ (fun slot member => ?_) (by simp)
  simp [uploadSlots_ok built slot member]

theorem pinMessage_emits (chatId : ChatId) (messageId noticeId : MessageId) :
    (pinMessage user now chatId messageId noticeId).Emits
      (Request.Footprint ⟨user, now, .pinMessage chatId messageId noticeId⟩) := by
  simp only [pinMessage, getByIdForUpdate, getMemberChat, getLoadedMessage, Tx.bind_eq,
    Tx.emits_statement_iff, Tx.emits_read_iff, Tx.emits_orRaise_iff, Tx.emits_ofExcept_iff,
    Tx.emits_require_iff]
  refine ⟨by simp, fun _ _ _ chat _ _ _ _ seen loaded found _ pins => ?_⟩
  obtain ⟨message, live, rfl⟩ := Option.map_eq_some_iff.mp found
  split
  · trivial
  · simp
    intro _ _ _ _ _ _ _ _ built
    obtain ⟨rfl, _⟩ := Message.create_ok built
    simp [Db.loadNested, Db.load, Db.liveMessage_id live]

theorem forwardMessage_emits (source : ForwardSource) (target : ChatId) (comment : Option String)
    (slowTtl : Option Nat) (id : MessageId) (fresh : Nat → AttachmentId) :
    (forwardMessage user now source target comment slowTtl id fresh).Emits
      (Request.Footprint ⟨user, now, .forwardMessage source target comment slowTtl id fresh⟩) := by
  simp [forwardMessage]
  intro _ _ _ _ _ _ _ _ _ found answered _ _ _ _ _ _ _ _ _ _ _ built
  obtain ⟨rfl, rfl⟩ := Message.create_ok built
  refine Tx.emits_bind (saveMessage_emits ?_ fun copy member => ?_) (by simp)
  · simp
  · obtain ⟨original, originalMember, rfl⟩ := List.mem_map.mp member
    obtain ⟨inChat, copied⟩ := forwardAttachments_ok original originalMember
    have targetChat := Db.openChat_id (Db.chatAndMember_ok answered).1
    simp [MessageAttachment.bindToMessage, inChat, copied, targetChat]

theorem forwardMessages_emits (source : ChatId) (sourceIds : List MessageId) (target : ChatId)
    (hideAuthor : Bool) (comment : Option String) (slowTtl : Option Nat) (ids : Nat → MessageId)
    (fresh : Nat → Nat → AttachmentId) :
    (forwardMessages user now source sourceIds target hideAuthor comment slowTtl ids fresh).Emits
      (Request.Footprint ⟨user, now,
        .forwardMessages source sourceIds target hideAuthor comment slowTtl ids fresh⟩) := by
  simp only [forwardMessages, getMemberChat, getChatAndMember, checked, allocateMessageSeq,
    Tx.bind_eq, Tx.emits_statement_iff, Tx.emits_read_iff, Tx.emits_orRaise_iff,
    Tx.emits_ofExcept_iff, Tx.emits_require_iff]
  intro _ member _ _ _ seen _ _
  refine ⟨by simp, fun _ _ _ _ => ⟨by simp, fun _ _ _ _ _ => ⟨by simp, ?_⟩⟩⟩
  intro _ _ _ seq _ created built
  refine Tx.emits_each _ (fun entry member => ?_) (by simp)
  obtain ⟨index, draft, drafted, made⟩ := buildMessages_ok built entry member
  obtain ⟨message, carried⟩ := Message.create_ok made
  obtain ⟨sender, inChat, noReply, copies⟩ := forwardDrafts_ok draft drafted
  refine saveMessage_emits ?_ fun copy member => ?_
  · simp [message, sender, inChat, noReply]
  · rw [carried] at member
    obtain ⟨original, originalMember, rfl⟩ := List.mem_map.mp member
    obtain ⟨copyChat, copied⟩ := copies original originalMember
    simp [MessageAttachment.bindToMessage, copyChat, copied]

end Messages

section Queries

variable (user : UserJWTData) (now : Nat) {Allowed : Write → Prop}

attribute [local simp] Tx.bind_assoc getById getMemberChat checked requireActiveMember
  getLoadedMessage

theorem joinCall_emits (chatId : ChatId) : (joinCall user chatId).Emits Allowed := by
  simp [joinCall]

theorem getMessages_emits (chatId : ChatId) (limit : Int) (cursorSeq : Option Nat) :
    (getMessages user now chatId limit cursorSeq).Emits Allowed := by
  simp [getMessages]

theorem getMessageDetail_emits (chatId : ChatId) (messageId : MessageId) :
    (getMessageDetail user now chatId messageId).Emits Allowed := by
  simp [getMessageDetail]

theorem getMessageContext_emits (chatId : ChatId) (targetSeq : Nat) (limit : Int) :
    (getMessageContext user now chatId targetSeq limit).Emits Allowed := by
  simp [getMessageContext]

theorem resumeChat_emits (chatId : ChatId) (cursorSeq : Int) :
    (resumeChat user now chatId cursorSeq).Emits Allowed := by
  simp [resumeChat]

theorem searchMessages_emits («matches» : Option String → Bool) (limit : Int)
    (chatId : Option ChatId) (lastMessageId : Option MessageId) :
    (searchMessages user now «matches» limit chatId lastMessageId).Emits Allowed :=
  Tx.emits_read_alone _

theorem getPinnedMessages_emits (chatId : ChatId) (limit : Int) (beforeSeq : Option Nat) :
    (getPinnedMessages user now chatId limit beforeSeq).Emits Allowed := by
  simp [getPinnedMessages]

theorem getSharedMedia_emits (chatId : ChatId) (mediaType : SharedMediaType) (limit : Int)
    (before : Option (Nat × AttachmentId)) :
    (getSharedMedia user now chatId mediaType limit before).Emits Allowed := by
  simp [getSharedMedia]

theorem getListChats_emits : (getListChats user now).Emits Allowed :=
  Tx.emits_read_alone _

theorem getAttachmentDownloadUrl_emits (chatId : ChatId) (messageId : MessageId)
    (attachmentId : AttachmentId) :
    (getAttachmentDownloadUrl user chatId messageId attachmentId).Emits Allowed := by
  simp [getAttachmentDownloadUrl]

end Queries

theorem answered_emits {Answer : Type} {Allowed : Write → Prop} {program : Handler Answer}
    (reply : Answer → Reply) (emits : program.Emits Allowed) :
    (program.bind fun answer => .done (reply answer)).Emits Allowed :=
  Tx.emits_bind emits fun _ => trivial

theorem handle_emits (request : Request) : (handle request).Emits request.Footprint := by
  obtain ⟨user, now, command⟩ := request
  cases command <;> refine answered_emits _ ?_
  case addMember => exact addMember_emits ..
  case joinChat => exact joinChat_emits ..
  case joinChatByInvite => exact joinChatByInvite_emits ..
  case approveJoinRequests => exact approveJoinRequests_emits ..
  case declineJoinRequests => exact declineJoinRequests_emits ..
  case declineAllJoinRequests => exact declineAllJoinRequests_emits ..
  case cancelJoinRequest => exact cancelJoinRequest_emits ..
  case kickMember => exact kickMember_emits ..
  case leaveChat => exact leaveChat_emits ..
  case banMember => exact banMember_emits ..
  case unbanMember => exact unbanMember_emits ..
  case muteMember => exact muteMember_emits ..
  case unmuteMember => exact unmuteMember_emits ..
  case changeMemberRole => exact changeMemberRole_emits ..
  case transferChatOwnership => exact transferChatOwnership_emits ..
  case createChat => exact createChat_emits ..
  case deleteChat => exact deleteChat_emits ..
  case updateChat => exact updateChat_emits ..
  case setChatUsername => exact setChatUsername_emits ..
  case createInviteLink => exact createInviteLink_emits ..
  case revokeInviteLink => exact revokeInviteLink_emits ..
  case updateChatState => exact updateChatState_emits ..
  case sendMessage => exact sendMessage_emits ..
  case forwardMessage => exact forwardMessage_emits ..
  case forwardMessages => exact forwardMessages_emits ..
  case editMessage => exact editMessage_emits ..
  case deleteMessage => exact deleteMessage_emits ..
  case pinMessage => exact pinMessage_emits ..
  case unpinMessages => exact unpinMessages_emits ..
  case requestAttachmentUpload => exact requestAttachmentUpload_emits ..
  case proccessAttachments => exact proccessAttachments_emits ..
  case joinCall => exact joinCall_emits ..
  case getMessages => exact getMessages_emits ..
  case getMessageDetail => exact getMessageDetail_emits ..
  case getMessageContext => exact getMessageContext_emits ..
  case resumeChat => exact resumeChat_emits ..
  case searchMessages => exact searchMessages_emits ..
  case getPinnedMessages => exact getPinnedMessages_emits ..
  case getSharedMedia => exact getSharedMedia_emits ..
  case getListChats => exact getListChats_emits ..
  case getAttachmentDownloadUrl => exact getAttachmentDownloadUrl_emits ..

theorem perform_preserves {Holds : Db → Prop} (request : Request)
    (kept : ∀ write db, request.Footprint write → Holds db → Holds (Db.apply write db)) {db : Db}
    (holds : Holds db) : Holds (perform request db).2 :=
  Tx.emits_run kept (handle request) db db (handle_emits request) holds holds

end Messanger
