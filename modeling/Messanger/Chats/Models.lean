import Mathlib.Data.List.Basic

/-!
Chats, their members, roles, invite links and join requests, with the methods the
handlers call.  Identifiers are numbers, instants are microseconds; the reading of
`now_utc()` a method makes is an argument.
-/

namespace Messanger

abbrev ChatId := Nat
abbrev UserId := Nat
abbrev MemberId := Nat
abbrev MessageId := Nat
abbrev AttachmentId := Nat
abbrev InviteId := Nat

structure UserJWTData where
  id : UserId
  roles : List String := []
  permissions : List String := []
  deriving DecidableEq, Repr

def systemRoles : List String := ["system_admin", "super_admin"]

def isSystemUser (user : UserJWTData) : Bool :=
  user.roles.any fun role => systemRoles.contains role

def checkPermission (user : UserJWTData) (required : List String) : Bool :=
  isSystemUser user || required.all fun permission => user.permissions.contains permission

def hasGlobalChatAdmin (user : UserJWTData) : Bool :=
  checkPermission user ["chat:update"]

inductive ChatRoleId where
  | owner
  | admin
  | editor
  | directMember
  | member
  | viewer
  deriving DecidableEq, Repr

namespace ChatRoleId

def toNat : ChatRoleId → Nat
  | owner => 1
  | admin => 2
  | editor => 3
  | directMember => 4
  | member => 5
  | viewer => 6

def ofNat? : Nat → Option ChatRoleId
  | 1 => some owner
  | 2 => some admin
  | 3 => some editor
  | 4 => some directMember
  | 5 => some member
  | 6 => some viewer
  | _ => none

def level : ChatRoleId → Nat
  | owner => 100
  | admin => 90
  | editor => 80
  | directMember => 70
  | member => 10
  | viewer => 1

theorem level_le_owner (role : ChatRoleId) : role.level ≤ owner.level := by
  cases role <;> decide

theorem owner_of_level (role : ChatRoleId) (top : owner.level ≤ role.level) : role = owner := by
  cases role <;> first | rfl | exact absurd top (by decide)

end ChatRoleId

def chatRoleLevel (roleId : Nat) : Option Nat :=
  (ChatRoleId.ofNat? roleId).map ChatRoleId.level

inductive Permission where
  | chatDelete
  | chatUpdate
  | chatGet
  | memberInvite
  | memberKick
  | memberBan
  | memberMute
  | roleChange
  | permissionUpdate
  | messageRead
  | messageDelete
  | messageSend
  | messagePin
  | messageSendAdminOnly
  | settingsUpdate
  | settingsGet
  | channelPublish
  | channelEdit
  | channelManageSubscribers
  | slowmodeBypass
  | callJoin
  | callMuteMember
  | callEnd
  deriving DecidableEq, Repr

namespace ChatRoleId

def permissions : ChatRoleId → List Permission
  | owner =>
      [.chatDelete, .chatUpdate, .chatGet, .memberInvite, .memberKick, .memberBan, .memberMute,
        .roleChange, .permissionUpdate, .messageRead, .messageDelete, .messageSend, .messagePin,
        .messageSendAdminOnly, .settingsUpdate, .settingsGet, .channelPublish, .channelEdit,
        .channelManageSubscribers, .slowmodeBypass, .callJoin, .callMuteMember, .callEnd]
  | admin =>
      [.chatUpdate, .chatGet, .memberInvite, .memberKick, .memberBan, .memberMute, .roleChange,
        .permissionUpdate, .messageRead, .messageDelete, .messageSend, .messagePin,
        .messageSendAdminOnly, .settingsUpdate, .settingsGet, .channelPublish, .channelEdit,
        .channelManageSubscribers, .slowmodeBypass, .callJoin, .callMuteMember, .callEnd]
  | editor =>
      [.chatGet, .messageRead, .messageDelete, .messageSend, .messagePin, .messageSendAdminOnly,
        .settingsGet, .channelPublish, .channelEdit, .slowmodeBypass, .callJoin]
  | directMember =>
      [.chatGet, .messageRead, .messageSend, .messagePin, .settingsGet, .slowmodeBypass,
        .callJoin, .callEnd]
  | member => [.chatGet, .messageRead, .messageSend, .settingsGet, .callJoin]
  | viewer => [.chatGet, .messageRead, .settingsGet, .callJoin]

end ChatRoleId

structure MemberState where
  pinnedAt : Option Nat := none
  archivedAt : Option Nat := none
  notificationsMutedUntil : Option Nat := none
  draft : Option String := none
  draftUpdatedAt : Option Nat := none
  deriving DecidableEq, Repr

structure ChatMember where
  id : MemberId
  chatId : ChatId
  userId : UserId
  roleId : ChatRoleId
  mutedUntil : Option Nat := none
  bannedUntil : Option Nat := none
  state : MemberState := {}
  permissionsOverrides : List (Permission × Bool) := []
  deriving DecidableEq, Repr

/-- `datetime(9999, 12, 31, tzinfo=UTC)`. -/
def permanentUntil : Nat := 253402214400000000

def restrictedUntil (now : Nat) : Option Nat → Option Nat
  | none => some permanentUntil
  | some limit => if limit ≤ now then none else some limit

namespace ChatMember

def isBanned (member : ChatMember) (now : Nat) : Bool :=
  match member.bannedUntil with
  | none => false
  | some limit => decide (now < limit)

def isMuted (member : ChatMember) (now : Nat) : Bool :=
  match member.mutedUntil with
  | none => false
  | some limit => decide (now < limit)

def effectivePermission (member : ChatMember) (permission : Permission) : Bool :=
  match member.permissionsOverrides.lookup permission with
  | some granted => granted
  | none => member.roleId.permissions.contains permission

def level (member : ChatMember) : Nat := member.roleId.level

def isStaff (member : ChatMember) : Bool := decide (80 ≤ member.level)

def canBypassSlowMode (member : ChatMember) : Bool :=
  member.isStaff || member.effectivePermission .slowmodeBypass

theorem isBanned_later {member : ChatMember} {now later : Nat} (passed : now ≤ later)
    (free : member.isBanned now = false) : member.isBanned later = false := by
  unfold isBanned at free ⊢
  split
  · rfl
  · rename_i limit found
    rw [found] at free
    simp only [decide_eq_false_iff_not, Nat.not_lt] at free ⊢
    omega

end ChatMember

inductive ChatType where
  | direct
  | group
  | supergroup
  | channel
  deriving DecidableEq, Repr

inductive ChatReactionsMode where
  | all
  | some
  | none
  deriving DecidableEq, Repr

structure Chat where
  id : ChatId
  seqCounter : Nat := 0
  type : ChatType
  name : Option String := none
  description : Option String := none
  username : Option String := none
  isPublic : Bool := false
  joinByRequest : Bool := false
  createdBy : UserId
  memberCount : Int := 0
  adminOnly : Bool := false
  slowModeSeconds : Int := 0
  permissions : List (String × Bool) := []
  reactionsMode : ChatReactionsMode := .all
  allowedReactions : List String := []
  lastActivityAt : Option Nat := none
  deletedAt : Option Nat := none
  deriving DecidableEq, Repr

namespace Chat

def memberLimit : ChatType → Nat
  | .direct => 2
  | .group => 500
  | .supergroup => 1000000
  | .channel => 10000000

def defaultMemberRole : ChatType → ChatRoleId
  | .direct => .directMember
  | .channel => .viewer
  | .group => .member
  | .supergroup => .member

def supportReadEvent (chat : Chat) : Bool :=
  chat.type == .direct || chat.type == .group

end Chat

inductive InviteLinkInactiveReason where
  | revoked
  | expired
  | usageLimitReached
  deriving DecidableEq, Repr

structure ChatInviteLink where
  id : InviteId
  chatId : ChatId
  code : String
  name : Option String := none
  createdBy : UserId
  expiresAt : Option Nat := none
  usageLimit : Option Nat := none
  usageCount : Nat := 0
  revokedAt : Option Nat := none
  createsJoinRequest : Bool := false
  deriving DecidableEq, Repr

namespace ChatInviteLink

def isExpired (invite : ChatInviteLink) (now : Nat) : Bool :=
  match invite.expiresAt with
  | none => false
  | some limit => decide (limit ≤ now)

def isExhausted (invite : ChatInviteLink) : Bool :=
  match invite.usageLimit with
  | none => false
  | some limit => decide (limit ≤ invite.usageCount)

def inactiveReason (invite : ChatInviteLink) (now : Nat) : Option InviteLinkInactiveReason :=
  if invite.revokedAt.isSome then some .revoked
  else if invite.isExpired now then some .expired
  else if invite.isExhausted then some .usageLimitReached
  else none

end ChatInviteLink

inductive JoinRequestStatus where
  | pending
  | approved
  | declined
  deriving DecidableEq, Repr

structure ChatJoinRequest where
  chatId : ChatId
  userId : UserId
  inviteLinkId : Option InviteId := none
  status : JoinRequestStatus := .pending
  requestedAt : Nat
  resolvedAt : Option Nat := none
  resolvedBy : Option UserId := none
  deriving DecidableEq, Repr

namespace ChatJoinRequest

/-- `JOIN_REQUEST_RETRY_AFTER_SECONDS`, in microseconds. -/
def retryAfter : Nat := 3600000000

def isPending (request : ChatJoinRequest) : Bool := request.resolvedAt.isNone

def retryAt (request : ChatJoinRequest) : Option Nat :=
  if request.status = .declined then request.resolvedAt.map (· + retryAfter) else none

def resolve (request : ChatJoinRequest) (status : JoinRequestStatus) (resolvedBy : UserId)
    (now : Nat) : ChatJoinRequest :=
  { request with status := status, resolvedAt := some now, resolvedBy := some resolvedBy }

end ChatJoinRequest

inductive ChatError where
  | notFoundChat (chatId : ChatId)
  | notChatMember (chatId : ChatId) (userId : UserId)
  | notFoundMessage (messageId : MessageId)
  | accessDeniedChat (chatId : ChatId) (requesterId : UserId)
  | slowModeOutOfRange (seconds : Int)
  | slowModeLimit (chatId : ChatId) (retryAfter : Nat)
  | slowModeMultipleMessages (chatId : ChatId) (count : Nat)
  | alreadyMember (userId : UserId) (chatId : ChatId)
  | memberLimitExceeded (limit : Nat)
  | messageTooLong (length maxLength : Nat)
  | invalidMessage (reason : String)
  | attachmentLimitExceeded (count : Nat)
  | attachmentNotFound (attachmentId : Option AttachmentId)
  | attachmentValidation (mimeType : String)
  | emptyAttachmentUploadRequest
  | pinnedMessagesLimitExceeded (chatId : ChatId) (limit : Nat)
  | pinnedChatsLimitExceeded
  | reactionNotAllowed (emoji : String)
  | invalidChatRole (roleId : Nat)
  | invalidOwnershipTransfer (chatId : ChatId) (reason : String)
  | invalidChatUsername (username : String) (reason : String)
  | chatUsernameNotAllowed (chatId : ChatId) (reason : String)
  | chatUsernameTaken (username : String)
  | notFoundInviteLink (invite : String)
  | inviteLinkExpired (reason : InviteLinkInactiveReason)
  | invalidInviteLink (reason : String)
  | inviteLinksLimitExceeded (limit : Nat)
  | joinRequestNotAllowed (chatId : ChatId) (reason : String)
  | joinRequestPending (chatId : ChatId) (userId : UserId)
  | joinRequestRetryLater (chatId : ChatId) (userId : UserId) (retryAfter : Nat)
  | joinRequestsLimitExceeded (chatId : ChatId)
  | notFoundJoinRequest (chatId : ChatId) (userId : UserId)
  | userBlocked (chatId : Option ChatId) (userId : UserId)
  | messagesPrivacyRestricted (chatId : Option ChatId) (userId : UserId)
  | callsPrivacyRestricted (chatId : Option ChatId) (userId : UserId)
  | userPrivacyRestricted (userIds : List UserId)
  | noActiveCall (chatId : ChatId)
  | maxLimitCursor (maxLen currentLen : Nat)
  | integrityError
  | staleDataError
  deriving DecidableEq, Repr

end Messanger
