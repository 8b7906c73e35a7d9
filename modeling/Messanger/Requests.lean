import Messanger.Chats.CommandsCore
import Messanger.Messages.QueriesCore
import Messanger.Messages.AttachmentsCore

/-!
Every modelled command and query as one request, and the runs of the module: requests by any
users, executed one after the other.
-/

namespace Messanger

open Relational

inductive Command where
  | addMember (chatId : ChatId) (targetUserId : UserId) (roleId : Nat)
  | joinChat (chatId : ChatId)
  | joinChatByInvite (code : String)
  | approveJoinRequests (chatId : ChatId) (userIds : List UserId)
  | declineJoinRequests (chatId : ChatId) (userIds : List UserId)
  | declineAllJoinRequests (chatId : ChatId)
  | cancelJoinRequest (chatId : ChatId)
  | kickMember (chatId : ChatId) (targetUserId : UserId)
  | leaveChat (chatId : ChatId)
  | banMember (chatId : ChatId) (targetUserId : UserId) (bannedUntil : Option Nat)
  | unbanMember (chatId : ChatId) (targetUserId : UserId)
  | muteMember (chatId : ChatId) (targetUserId : UserId) (mutedUntil : Option Nat)
  | unmuteMember (chatId : ChatId) (targetUserId : UserId)
  | changeMemberRole (chatId : ChatId) (targetUserId : UserId) (roleId : Nat)
  | transferChatOwnership (chatId : ChatId) (newOwnerId : UserId)
  | createChat (new : NewChat) (id : ChatId)
  | deleteChat (chatId : ChatId)
  | updateChat (chatId : ChatId) (changes : ChatChanges)
  | setChatUsername (chatId : ChatId) (username : Option String)
  | createInviteLink (chatId : ChatId) (new : NewInvite) (id : InviteId) (code : String)
  | revokeInviteLink (chatId : ChatId) (inviteId : InviteId)
  | updateChatState (chatId : ChatId) (changes : StateChanges)
  | sendMessage (chatId : ChatId) (new : NewMessage) (slowTtl : Option Nat) (id : MessageId)
  | forwardMessage (source : ForwardSource) (targetChatId : ChatId) (comment : Option String)
      (slowTtl : Option Nat) (id : MessageId) (fresh : Nat → AttachmentId)
  | forwardMessages (sourceChatId : ChatId) (sourceMessageIds : List MessageId)
      (targetChatId : ChatId) (hideAuthor : Bool) (comment : Option String)
      (slowTtl : Option Nat) (ids : Nat → MessageId) (fresh : Nat → Nat → AttachmentId)
  | editMessage (chatId : ChatId) (messageId : MessageId) (newContent : String)
  | deleteMessage (chatId : ChatId) (messageId : MessageId)
  | pinMessage (chatId : ChatId) (messageId : MessageId) (noticeId : MessageId)
  | unpinMessages (chatId : ChatId) (messageId : Option MessageId)
  | requestAttachmentUpload (chatId : ChatId) (uploads : List UploadRequest)
      (fresh : Nat → AttachmentId × String)
  | proccessAttachments (uploadTokens : List AttachmentId) (answers : AttachmentId → SlotAnswers)
  | joinCall (chatId : ChatId)
  | getMessages (chatId : ChatId) (limit : Int) (cursorSeq : Option Nat)
  | getMessageDetail (chatId : ChatId) (messageId : MessageId)
  | getMessageContext (chatId : ChatId) (targetSeq : Nat) (limit : Int)
  | resumeChat (chatId : ChatId) (cursorSeq : Int)
  | searchMessages («matches» : Option String → Bool) (limit : Int) (chatId : Option ChatId)
      (lastMessageId : Option MessageId)
  | getPinnedMessages (chatId : ChatId) (limit : Int) (beforeSeq : Option Nat)
  | getSharedMedia (chatId : ChatId) (mediaType : SharedMediaType) (limit : Int)
      (before : Option (Nat × AttachmentId))
  | getListChats
  | getAttachmentDownloadUrl (chatId : ChatId) (messageId : MessageId)
      (attachmentId : AttachmentId)

/-- What a request answers, as far as messages, attachments and call tokens go. -/
inductive Reply where
  | done
  | message (dto : MessageDTO)
  | messages (dtos : List MessageDTO)
  | bodies (loaded : List LoadedMessage)
  | rows (messages : List Message)
  | media (items : List SharedMediaItem)
  | downloadUrl (attachment : MessageAttachment)
  | callToken (token : JoinToken)

structure Request where
  user : UserJWTData
  now : Nat
  command : Command

def handle (request : Request) : Handler Reply :=
  let user := request.user
  let now := request.now
  match request.command with
  | .addMember chatId target roleId => do
      addMember user now chatId target roleId
      return .done
  | .joinChat chatId => do
      let _ ← joinChat user now chatId
      return .done
  | .joinChatByInvite code => do
      let _ ← joinChatByInvite user now code
      return .done
  | .approveJoinRequests chatId userIds => do
      let _ ← approveJoinRequests user now chatId userIds
      return .done
  | .declineJoinRequests chatId userIds => do
      let _ ← declineJoinRequests user now chatId userIds
      return .done
  | .declineAllJoinRequests chatId => do
      let _ ← declineAllJoinRequests user now chatId
      return .done
  | .cancelJoinRequest chatId => do
      cancelJoinRequest user chatId
      return .done
  | .kickMember chatId target => do
      kickMember user now chatId target
      return .done
  | .leaveChat chatId => do
      leaveChat user chatId
      return .done
  | .banMember chatId target bannedUntil => do
      banMember user now chatId target bannedUntil
      return .done
  | .unbanMember chatId target => do
      unbanMember user now chatId target
      return .done
  | .muteMember chatId target mutedUntil => do
      muteMember user now chatId target mutedUntil
      return .done
  | .unmuteMember chatId target => do
      unmuteMember user now chatId target
      return .done
  | .changeMemberRole chatId target roleId => do
      changeMemberRole user now chatId target roleId
      return .done
  | .transferChatOwnership chatId newOwnerId => do
      transferChatOwnership user now chatId newOwnerId
      return .done
  | .createChat new id => do
      let _ ← createChat user new id
      return .done
  | .deleteChat chatId => do
      deleteChat user now chatId
      return .done
  | .updateChat chatId changes => do
      let _ ← updateChat user now chatId changes
      return .done
  | .setChatUsername chatId username => do
      let _ ← setChatUsername user now chatId username
      return .done
  | .createInviteLink chatId new id code => do
      let _ ← createInviteLink user now chatId new id code
      return .done
  | .revokeInviteLink chatId inviteId => do
      let _ ← revokeInviteLink user now chatId inviteId
      return .done
  | .updateChatState chatId changes => do
      let _ ← updateChatState user now chatId changes
      return .done
  | .sendMessage chatId new slowTtl id => do
      let dto ← sendMessage user now chatId new slowTtl id
      return .message dto
  | .forwardMessage source target comment slowTtl id fresh => do
      let dto ← forwardMessage user now source target comment slowTtl id fresh
      return .message dto
  | .forwardMessages source ids target hideAuthor comment slowTtl newIds fresh => do
      let bodies ← forwardMessages user now source ids target hideAuthor comment slowTtl newIds fresh
      return .bodies bodies
  | .editMessage chatId messageId newContent => do
      let body ← editMessage user chatId messageId newContent
      return .bodies [body]
  | .deleteMessage chatId messageId => do
      deleteMessage user now chatId messageId
      return .done
  | .pinMessage chatId messageId noticeId => do
      let pinned ← pinMessage user now chatId messageId noticeId
      return .message pinned.message
  | .unpinMessages chatId messageId => do
      unpinMessages user now chatId messageId
      return .done
  | .requestAttachmentUpload chatId uploads fresh => do
      let _ ← requestAttachmentUpload user now chatId uploads fresh
      return .done
  | .proccessAttachments tokens answers => do
      let _ ← proccessAttachments user.id tokens answers
      return .done
  | .joinCall chatId => do
      let token ← joinCall user chatId
      return .callToken token
  | .getMessages chatId limit cursorSeq => do
      let page ← getMessages user now chatId limit cursorSeq
      return .messages page.messages
  | .getMessageDetail chatId messageId => do
      let dto ← getMessageDetail user now chatId messageId
      return .message dto
  | .getMessageContext chatId targetSeq limit => do
      let page ← getMessageContext user now chatId targetSeq limit
      return .messages page.messages
  | .resumeChat chatId cursorSeq => do
      let replay ← resumeChat user now chatId cursorSeq
      return .messages replay.messages
  | .searchMessages «matches» limit chatId lastMessageId => do
      let found ← searchMessages user now «matches» limit chatId lastMessageId
      return .rows (found.items.map Prod.fst)
  | .getPinnedMessages chatId limit beforeSeq => do
      let pinned ← getPinnedMessages user now chatId limit beforeSeq
      return .messages (pinned.items.map (·.message))
  | .getSharedMedia chatId mediaType limit before => do
      let items ← getSharedMedia user now chatId mediaType limit before
      return .media items
  | .getListChats => do
      let listed ← getListChats user now
      return .rows (listed.filterMap Prod.snd)
  | .getAttachmentDownloadUrl chatId messageId attachmentId => do
      let attachment ← getAttachmentDownloadUrl user chatId messageId attachmentId
      return .downloadUrl attachment

def perform (request : Request) (db : Db) : Except ChatError Reply × Db :=
  (handle request).exec db

theorem perform_ok {request : Request} {db : Db} (fine : (perform request db).1.isOk = true) :
    ∃ reply, perform request db = (.ok reply, (perform request db).2) := by
  rcases outcome : perform request db with ⟨error | reply, final⟩
  · rw [outcome] at fine
    cases fine
  · exact ⟨reply, rfl⟩

/-- A serial run: each request meets the condition in the state it is executed in. -/
inductive Reaches (Meets : Db → Request → Prop) (initial : Db) : Db → Prop
  | refl : Reaches Meets initial initial
  | step {db : Db} {request : Request} : Reaches Meets initial db → Meets db request →
      Reaches Meets initial (perform request db).2

theorem reaches_invariant {Meets : Db → Request → Prop} {initial : Db} (Inv : Db → Prop)
    (start : Inv initial)
    (kept : ∀ db request, Meets db request → Inv db → Inv (perform request db).2)
    {final : Db} (run : Reaches Meets initial final) : Inv final := by
  induction run with
  | refl => exact start
  | step _ met ih => exact kept _ _ met ih

end Messanger
