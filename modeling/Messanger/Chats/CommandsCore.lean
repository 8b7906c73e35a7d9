import Messanger.Chats.ServicesCore

/-!
The chat command handlers.  Each takes the caller's token data and the reading of the
clock; `chat_id` and the other fields of the command follow.  ORM changes are sent by the
flush inside `session.commit()`, the counter updates are sent where they stand.
-/

namespace Messanger

open Relational

inductive JoinResult where
  | joined (chat : Chat)
  | requested (request : ChatJoinRequest)

structure JoinRequestsResolution where
  resolved : List UserId
  skipped : List UserId
  deriving DecidableEq, Repr

section Membership

variable (user : UserJWTData) (now : Nat)

/-- `shift_member_count(+count, limit)` and the refusal of a full chat. -/
def reserveSeats (chat : Chat) (count : Nat) : Handler Unit := do
  let limit := Chat.memberLimit chat.type
  let shifted ← shiftMemberCount chat.id count (some limit)
  Tx.require shifted.isSome (.memberLimitExceeded limit)

def addMember (chatId : ChatId) (targetUserId : UserId) (roleId : Nat) : Handler Unit := do
  let found ← getChatAndMember chatId user.id
  Tx.require (hasPermissions user now (some found.member) [.memberInvite])
    (.accessDeniedChat found.chat.id user.id)
  let role ← Tx.ofExcept (ensureCanAssignRole user now (some found.member) chatId roleId)
  let existing ← getMemberChat chatId targetUserId
  Tx.require existing.isNone (.alreadyMember targetUserId chatId)
  checked fun db => db.ensureCanAdd user.id [targetUserId]
  reserveSeats found.chat 1
  insertMember found.chat.id role targetUserId
  publish [.addedChatMember found.chat.id targetUserId role]
  Tx.commitNow
  return ()

def ChatJoinRequest.renew (request : ChatJoinRequest) (inviteLinkId : Option InviteId) (now : Nat) :
    Except ChatError ChatJoinRequest :=
  if request.isPending then .error (.joinRequestPending request.chatId request.userId)
  else
    match request.retryAt with
    | some retryAt =>
        if now < retryAt then
          .error (.joinRequestRetryLater request.chatId request.userId
            ((retryAt - now) / 1000000 + 1))
        else
          .ok { request with
            inviteLinkId := inviteLinkId, status := .pending, requestedAt := now
            resolvedAt := none, resolvedBy := none }
    | none =>
        .ok { request with
          inviteLinkId := inviteLinkId, status := .pending, requestedAt := now
          resolvedAt := none, resolvedBy := none }

/-- `ChatJoinRequestService.submit` followed by the event and the commit both callers make. -/
def submitJoinRequest (chat : Chat) (userId : UserId) (inviteLinkId : Option InviteId) :
    Handler JoinResult := do
  let member ← getMemberChat chat.id userId
  Tx.require (!(member.any fun row => row.isBanned now)) (.accessDeniedChat chat.id userId)
  Tx.require member.isNone (.alreadyMember userId chat.id)
  let pending ← Tx.read fun db => db.pendingCount chat.id
  Tx.require (decide (pending < 5000)) (.joinRequestsLimitExceeded chat.id)
  let existing ← getJoinRequest chat.id userId
  match existing with
  | some existing => do
      let renewed ← Tx.ofExcept (existing.renew inviteLinkId now)
      flushJoinRequest existing renewed
      publish [.createdChatJoinRequest chat.id userId inviteLinkId now]
      Tx.commitNow
      return .requested renewed
  | none => do
      let request : ChatJoinRequest :=
        { chatId := chat.id, userId := userId, inviteLinkId := inviteLinkId, requestedAt := now }
      insertJoinRequest request
      publish [.createdChatJoinRequest chat.id userId inviteLinkId now]
      Tx.commitNow
      return .requested request

def joinChat (chatId : ChatId) : Handler JoinResult := do
  let found ← getById chatId
  let chat ← Tx.orRaise found (.notFoundChat chatId)
  Tx.require (chat.type != .direct && chat.isPublic) (.accessDeniedChat chatId user.id)
  if chat.joinByRequest then submitJoinRequest now chat user.id none
  else do
    let existing ← getMemberChat chatId user.id
    Tx.require existing.isNone (.alreadyMember user.id chatId)
    reserveSeats chat 1
    insertMember chat.id (Chat.defaultMemberRole chat.type) user.id
    publish [.addedChatMember chat.id user.id (Chat.defaultMemberRole chat.type)]
    Tx.commitNow
    return .joined chat

/-- `consume`, and the refusal that names why the refreshed link is inactive. -/
def consumeLink (invite : ChatInviteLink) : Handler Unit := do
  let consumed ← consume invite.id now
  match consumed with
  | some _ => return ()
  | none => do
      let refreshed ← Tx.read fun db => (db.invites.find? invite.id).getD invite
      Tx.raise (.inviteLinkExpired ((refreshed.inactiveReason now).getD .usageLimitReached))

def joinChatByInvite (code : String) : Handler JoinResult := do
  let link ← getByCode code
  let invite ← Tx.orRaise link (.notFoundInviteLink code)
  Tx.require (invite.inactiveReason now).isNone
    (.inviteLinkExpired ((invite.inactiveReason now).getD .usageLimitReached))
  let found ← getById invite.chatId
  let chat ← Tx.orRaise found (.notFoundInviteLink code)
  Tx.require (chat.type != .direct) (.notFoundInviteLink code)
  if invite.createsJoinRequest then submitJoinRequest now chat user.id (some invite.id)
  else do
    let existing ← getMemberChat chat.id user.id
    Tx.require (!(existing.any fun row => row.isBanned now)) (.accessDeniedChat chat.id user.id)
    Tx.require existing.isNone (.alreadyMember user.id chat.id)
    consumeLink now invite
    reserveSeats chat 1
    insertMember chat.id (Chat.defaultMemberRole chat.type) user.id
    publish [.addedChatMember chat.id user.id (Chat.defaultMemberRole chat.type)]
    Tx.commitNow
    return .joined chat

def admitRequests (chat : Chat) (toAdd : List ChatJoinRequest) : Handler Unit :=
  if toAdd.isEmpty then pure ()
  else do
    reserveSeats chat toAdd.length
    creditUsage (toAdd.filterMap (·.inviteLinkId))

def approveJoinRequests (chatId : ChatId) (userIds : List UserId) :
    Handler JoinRequestsResolution := do
  let wanted := userIds.eraseDups
  let found ← getChatAndMember chatId user.id
  Tx.require (hasPermissions user now (some found.member) [.memberInvite])
    (.accessDeniedChat found.chat.id user.id)
  let pending ← listPendingForUpdate found.chat.id wanted
  let members ← Tx.read fun db =>
    pending.filterMap fun request =>
      (db.member? found.chat.id request.userId).map fun member => (request.userId, member)
  let accepted := pending.filter fun request =>
    !((members.lookup request.userId).any fun member => member.isBanned now)
  let toAdd := accepted.filter fun request => (members.lookup request.userId).isNone
  let approved := accepted.map (·.userId)
  let role := Chat.defaultMemberRole found.chat.type
  admitRequests found.chat toAdd
  Tx.each (fun request => updateJoinRequest (request.resolve .approved user.id now)) accepted
  Tx.each (fun request => insertMember found.chat.id role request.userId) toAdd
  publish (toAdd.map (fun request => .addedChatMember found.chat.id request.userId role) ++
    if approved.isEmpty then []
    else [.approvedChatJoinRequests found.chat.id approved user.id role])
  Tx.commitNow
  return { resolved := approved
           skipped := (wanted.filter fun userId => !approved.contains userId).insertionSort
             (· ≤ ·) }

def declineJoinRequests (chatId : ChatId) (userIds : List UserId) :
    Handler JoinRequestsResolution := do
  let wanted := userIds.eraseDups
  let found ← getChatAndMember chatId user.id
  Tx.require (hasPermissions user now (some found.member) [.memberInvite])
    (.accessDeniedChat found.chat.id user.id)
  let pending ← listPendingForUpdate found.chat.id wanted
  let declined := pending.map (·.userId)
  Tx.each (fun request => updateJoinRequest (request.resolve .declined user.id now)) pending
  publish (if declined.isEmpty then []
    else [.declinedChatJoinRequests found.chat.id declined user.id declined.length false])
  Tx.commitNow
  return { resolved := declined
           skipped := (wanted.filter fun userId => !declined.contains userId).insertionSort
             (· ≤ ·) }

def declineAllJoinRequests (chatId : ChatId) : Handler Nat := do
  let found ← getChatAndMember chatId user.id
  Tx.require (hasPermissions user now (some found.member) [.memberInvite])
    (.accessDeniedChat found.chat.id user.id)
  let declined ← declineAllPending found.chat.id user.id now
  publish (if declined = 0 then []
    else [.declinedChatJoinRequests found.chat.id [] user.id declined true])
  Tx.commitNow
  return declined

def cancelJoinRequest (chatId : ChatId) : Handler Unit := do
  let request ← getJoinRequest chatId user.id
  Tx.require (request.any (·.isPending)) (.notFoundJoinRequest chatId user.id)
  deleteJoinRequest chatId user.id
  publish [.cancelledChatJoinRequest chatId user.id]
  Tx.commitNow
  return ()

def kickMember (chatId : ChatId) (targetUserId : UserId) : Handler Unit := do
  let found ← getById chatId
  let chat ← Tx.orRaise found (.notFoundChat chatId)
  let requester ← getMemberChat chatId user.id
  let row ← getMemberChat chatId targetUserId
  let target ← Tx.orRaise row (.notChatMember chatId targetUserId)
  Tx.require (updateMember user now requester target [.memberKick])
    (.accessDeniedChat chat.id user.id)
  Tx.require (targetUserId != user.id) (.accessDeniedChat chat.id user.id)
  let _ ← shiftMemberCount chat.id (-1) none
  deleteMember target
  publish [.kickedChatMember chat.id user.id targetUserId]
  Tx.commitNow
  return ()

def leaveChat (chatId : ChatId) : Handler Unit := do
  let found ← getById chatId
  let chat ← Tx.orRaise found (.notFoundChat chatId)
  let row ← getMemberChat chatId user.id
  let member ← Tx.orRaise row (.notChatMember chatId user.id)
  Tx.require (chat.createdBy != user.id) (.accessDeniedChat chat.id user.id)
  let _ ← shiftMemberCount chat.id (-1) none
  deleteMember member
  publish [.leftChatMember chat.id user.id]
  Tx.commitNow
  return ()

end Membership

section Moderation

variable (user : UserJWTData) (now : Nat)

structure ModerationTarget where
  chat : Chat
  target : ChatMember

def moderated (chatId : ChatId) (targetUserId : UserId) (must : Permission) :
    Handler ModerationTarget := do
  let found ← getById chatId
  let chat ← Tx.orRaise found (.notFoundChat chatId)
  let requester ← getMemberChat chatId user.id
  let row ← getMemberChat chatId targetUserId
  let target ← Tx.orRaise row (.notChatMember chatId targetUserId)
  Tx.require (updateMember user now requester target [must]) (.accessDeniedChat chatId user.id)
  return ⟨chat, target⟩

def flushBannedUntil (target : ChatMember) (banned : Option Nat) : Handler Unit :=
  if target.bannedUntil = banned then pure ()
  else patchMember { bannedUntil := some banned } target

/-- The history row of a ban; its foreign key fails when the member row is gone. -/
def insertBanRecord (target : ChatMember) : Handler Unit :=
  checked fun db => if db.hasMemberRow target then .ok () else .error .integrityError

def banMember (chatId : ChatId) (targetUserId : UserId) (bannedUntil : Option Nat) :
    Handler Unit := do
  let found ← moderated user now chatId targetUserId .memberBan
  let banned := restrictedUntil now bannedUntil
  Tx.require (targetUserId != user.id) (.accessDeniedChat found.chat.id user.id)
  flushBannedUntil found.target banned
  insertBanRecord found.target
  publish [.bannedChatMember found.chat.id user.id targetUserId
    (ChatMember.isBanned { found.target with bannedUntil := banned } now)]
  Tx.commitNow
  return ()

def unbanMember (chatId : ChatId) (targetUserId : UserId) : Handler Unit := do
  let found ← moderated user now chatId targetUserId .memberBan
  if !found.target.isBanned now then return ()
  else do
    Tx.require (targetUserId != user.id) (.accessDeniedChat found.chat.id user.id)
    flushBannedUntil found.target none
    insertBanRecord found.target
    publish [.bannedChatMember found.chat.id user.id targetUserId false]
    Tx.commitNow
    return ()

/-- `MutedChatMemberEvent` of the row as `mute` or `unmute` left it. -/
def mutedEvent (chatId : ChatId) (requesterId : UserId) (target : ChatMember) (now : Nat) :
    ChatEvent :=
  .mutedChatMember chatId requesterId target.userId (target.isMuted now)
    (if target.isMuted now then target.mutedUntil else none)

def muteMember (chatId : ChatId) (targetUserId : UserId) (mutedUntil : Option Nat) :
    Handler Unit := do
  let found ← moderated user now chatId targetUserId .memberMute
  let muted := { found.target with mutedUntil := restrictedUntil now mutedUntil }
  if found.target.isMuted now = muted.isMuted now ∧ found.target.mutedUntil = muted.mutedUntil then
    return ()
  else do
    Tx.require (targetUserId != user.id) (.accessDeniedChat found.chat.id user.id)
    patchMember { mutedUntil := some muted.mutedUntil } found.target
    publish [mutedEvent found.chat.id user.id muted now]
    Tx.commitNow
    return ()

def unmuteMember (chatId : ChatId) (targetUserId : UserId) : Handler Unit := do
  let found ← moderated user now chatId targetUserId .memberMute
  if !found.target.isMuted now then return ()
  else do
    Tx.require (targetUserId != user.id) (.accessDeniedChat found.chat.id user.id)
    patchMember { mutedUntil := some none } found.target
    publish [mutedEvent found.chat.id user.id { found.target with mutedUntil := none } now]
    Tx.commitNow
    return ()

def changeMemberRole (chatId : ChatId) (targetUserId : UserId) (roleId : Nat) : Handler Unit := do
  let requester ← getMemberChat chatId user.id
  let row ← getMemberChat chatId targetUserId
  let target ← Tx.orRaise row (.notChatMember chatId targetUserId)
  Tx.require (updateMember user now requester target [.roleChange])
    (.accessDeniedChat chatId user.id)
  let role ← Tx.ofExcept (ensureCanAssignRole user now requester chatId roleId)
  flushRole target role
  Tx.commitNow
  return ()

/-- `Chat.transfer_ownership`: the checks it makes before the owner changes. -/
def Chat.transferOwnership (chat : Chat) (newOwner : ChatMember) (now : Nat) :
    Except ChatError Unit :=
  if chat.type = .direct then .error (.invalidOwnershipTransfer chat.id "direct_chat")
  else if newOwner.userId = chat.createdBy then
    .error (.invalidOwnershipTransfer chat.id "already_owner")
  else if newOwner.isBanned now then .error (.invalidOwnershipTransfer chat.id "target_banned")
  else .ok ()

def transferRoles (newOwner : ChatMember) (previousOwner : Option ChatMember) : Handler Unit :=
  match previousOwner with
  | none => flushRole newOwner .owner
  | some previous =>
      if newOwner.id ≤ previous.id then do
        flushRole newOwner .owner
        flushRole previous .admin
      else do
        flushRole previous .admin
        flushRole newOwner .owner

def previousOwnerRow (chatId : ChatId) (requester : Option ChatMember) (previousOwnerId : UserId) :
    Handler (Option ChatMember) :=
  if requester.any fun row => row.userId == previousOwnerId then pure requester
  else getMemberChat chatId previousOwnerId

def transferChatOwnership (chatId : ChatId) (newOwnerId : UserId) : Handler Unit := do
  let found ← getByIdForUpdate chatId
  let chat ← Tx.orRaise found (.notFoundChat chatId)
  let requester ← getMemberChat chatId user.id
  Tx.require (canTransferOwnership user now chat requester) (.accessDeniedChat chatId user.id)
  let row ← getMemberChat chatId newOwnerId
  let newOwner ← Tx.orRaise row (.notChatMember chatId newOwnerId)
  Tx.ofExcept (chat.transferOwnership newOwner now)
  let previousOwner ← previousOwnerRow chatId requester chat.createdBy
  patchChat chat.id { createdBy := some newOwner.userId }
  transferRoles newOwner previousOwner
  publish [.transferredChatOwnership chat.id user.id chat.createdBy newOwner.userId]
  Tx.commitNow
  return ()

end Moderation

section Settings

variable (user : UserJWTData) (now : Nat)

structure NewChat where
  name : Option String := none
  description : Option String := none
  chatType : ChatType
  memberIds : List UserId
  isPublic : Bool := false
  adminOnly : Bool := false
  slowModeSeconds : Int := 0
  permissions : List (String × Bool) := []
  joinByRequest : Bool := false
  deriving DecidableEq, Repr

def validateSlowMode (seconds : Int) : Except ChatError Unit :=
  if seconds < 0 ∨ 86400 < seconds then .error (.slowModeOutOfRange seconds) else .ok ()

structure CreatedChat where
  chat : Chat
  memberIds : List UserId
  roles : List (UserId × ChatRoleId)

def initialRoles (chatType : ChatType) (createdBy : UserId) (memberIds : List UserId) :
    List (UserId × ChatRoleId) :=
  match chatType with
  | .direct => (createdBy, .directMember) :: (memberIds.take 1).map (·, .directMember)
  | .group => (createdBy, .owner) :: memberIds.map (·, .member)
  | .supergroup => (createdBy, .owner) :: memberIds.map (·, .member)
  | .channel => (createdBy, .owner) :: memberIds.map (·, .viewer)

/-- `Chat.create`; `list.remove` takes out the first occurrence of the creator only. -/
def Chat.create (createdBy : UserId) (new : NewChat) (id : ChatId) :
    Except ChatError CreatedChat := do
  let memberIds := new.memberIds.erase createdBy
  if new.chatType = .direct ∧ (memberIds.length ≠ 1 ∨ memberIds.head? = some createdBy) then
    throw (.memberLimitExceeded 2)
  if 200000 < memberIds.length then throw (.memberLimitExceeded 200000)
  let limit := Chat.memberLimit new.chatType
  if limit < memberIds.length + 1 then throw (.memberLimitExceeded limit)
  validateSlowMode new.slowModeSeconds
  let roles := initialRoles new.chatType createdBy memberIds
  return { chat :=
             { id := id
               type := new.chatType
               name := new.name
               description := new.description
               isPublic := new.isPublic
               joinByRequest := new.joinByRequest && new.chatType != .direct
               createdBy := createdBy
               memberCount := roles.length
               adminOnly := new.adminOnly
               slowModeSeconds := new.slowModeSeconds
               permissions := new.permissions }
           memberIds := memberIds
           roles := roles }

theorem Chat.create_ok {createdBy : UserId} {new : NewChat} {id : ChatId} {created : CreatedChat}
    (built : Chat.create createdBy new id = .ok created) :
    created.chat.id = id ∧ created.chat.createdBy = createdBy ∧ created.chat.type = new.chatType ∧
      created.chat.deletedAt = none ∧
      created.roles = initialRoles new.chatType createdBy (new.memberIds.erase createdBy) := by
  simp only [Chat.create, bind, Except.bind, pure, Except.pure, throw, throwThe,
    MonadExceptOf.throw] at built
  repeat' split at built
  all_goals cases built
  exact ⟨rfl, rfl, rfl, rfl, rfl⟩

def insertChat (chat : Chat) : Handler Unit :=
  insertRow (.chat chat.id) (fun db => (db.chat? chat.id).isSome) (.insertChat chat)

/-- `get_direct_chat`: a private direct chat both users have a row in, deleted or not. -/
def Db.directChat? (db : Db) (userId otherUserId : UserId) : Option Chat :=
  db.chats.rows.find? fun chat =>
    (db.member? chat.id userId).isSome && (db.member? chat.id otherUserId).isSome &&
      chat.type == .direct && !chat.isPublic

def saveChat (created : CreatedChat) (createdBy : UserId) : Handler Chat := do
  insertChat created.chat
  Tx.each (fun (entry : UserId × ChatRoleId) => insertMember created.chat.id entry.2 entry.1)
    created.roles
  publish (created.roles.map (fun entry =>
      .addedChatMember created.chat.id entry.1 entry.2) ++
    [.createdChat created.chat.id createdBy created.memberIds created.chat.type
      created.chat.memberCount])
  Tx.commitNow
  return created.chat

def createChat (new : NewChat) (id : ChatId) : Handler Chat := do
  let created ← Tx.ofExcept (Chat.create user.id new id)
  match created.chat.type, created.memberIds with
  | .direct, other :: _ => do
      let existing ← Tx.read fun db => db.directChat? user.id other
      match existing with
      | some direct => return direct
      | none => do
          checked fun db => db.ensureCanStartDirect user.id other
          saveChat created user.id
  | _, _ => do
      checked fun db => db.ensureCanAdd user.id created.memberIds
      saveChat created user.id

def deleteChat (chatId : ChatId) : Handler Unit := do
  let found ← getChatAndMember chatId user.id
  Tx.require (hasPermissions user now (some found.member) [.chatDelete])
    (.accessDeniedChat chatId user.id)
  patchChat found.chat.id { deletedAt := some (some now) }
  publish [.deletedChat found.chat.id user.id]
  Tx.commitNow
  return ()

def defaultReactions : List String :=
  ["👍", "👎", "❤️", "🔥", "🥰", "👏", "😁", "🤔", "🤯", "😱",
    "🤬", "😢", "🎉", "🤩", "🤮", "💩", "🙏", "👌", "🕊️", "🤡",
    "🥱", "🥴", "😍", "🐳", "❤️‍🔥", "🌚", "🌭", "💯", "🤣", "⚡️",
    "🍌", "🏆", "💔", "🤨", "😐", "🍓", "🍾", "💋", "🖕", "😈",
    "😴", "😭", "🤓", "👻", "👩‍💻", "👀", "🎃", "🙈", "😇", "😨",
    "🤝", "✍️", "🤗", "🫡", "🎅", "🎄", "☃️", "💅", "🤪", "🗿",
    "🆒", "💘", "🙉", "🦄", "😘", "💊", "🙊", "😎", "👾", "🤷‍♂️",
    "🤷", "🤷‍♀️", "😡"]

def validateAllowedReactions (allowed : List String) : Except ChatError Unit :=
  if 20 < allowed.length then .error (.reactionNotAllowed "")
  else
    match allowed.find? fun emoji => !defaultReactions.contains emoji with
    | some unknown => .error (.reactionNotAllowed unknown)
    | none => .ok ()

structure ChatChanges where
  name : Option String := none
  description : Option String := none
  isPublic : Option Bool := none
  adminOnly : Option Bool := none
  slowModeSeconds : Option Int := none
  permissions : Option (List (String × Bool)) := none
  reactionsMode : Option ChatReactionsMode := none
  allowedReactions : Option (List String) := none
  joinByRequest : Option Bool := none
  deriving DecidableEq, Repr

/-- `Chat.update`: the checks in the order of the source, then the columns that are new. -/
def Chat.changed (chat : Chat) (changes : ChatChanges) : Except ChatError ChatPatch := do
  if changes.joinByRequest = some true ∧ chat.type = .direct then
    throw (.joinRequestNotAllowed chat.id "direct_chat")
  match changes.slowModeSeconds with
  | some seconds => validateSlowMode seconds
  | none => pure ()
  match changes.allowedReactions with
  | some allowed => validateAllowedReactions allowed
  | none => pure ()
  return { name := changes.name.bind fun name => Relational.changed chat.name (some name)
           description := changes.description.bind fun text =>
             Relational.changed chat.description (some text)
           username :=
             if changes.isPublic = some false then Relational.changed chat.username none else none
           isPublic := changes.isPublic.bind (Relational.changed chat.isPublic)
           joinByRequest := changes.joinByRequest.bind (Relational.changed chat.joinByRequest)
           adminOnly := changes.adminOnly.bind (Relational.changed chat.adminOnly)
           slowModeSeconds := changes.slowModeSeconds.bind (Relational.changed chat.slowModeSeconds)
           permissions := changes.permissions.bind (Relational.changed chat.permissions)
           reactionsMode := changes.reactionsMode.bind (Relational.changed chat.reactionsMode)
           allowedReactions := changes.allowedReactions.bind (Relational.changed chat.allowedReactions) }

theorem Chat.changed_ok {chat : Chat} {changes : ChatChanges} {patch : ChatPatch}
    (checked : chat.changed changes = .ok patch) :
    patch.createdBy = none ∧ patch.deletedAt = none := by
  simp only [Chat.changed, bind, Except.bind, pure, Except.pure, throw, throwThe,
    MonadExceptOf.throw] at checked
  repeat' split at checked
  all_goals cases checked
  all_goals exact ⟨rfl, rfl⟩

def updateChat (chatId : ChatId) (changes : ChatChanges) : Handler Chat := do
  let found ← getById chatId
  let chat ← Tx.orRaise found (.notFoundChat chatId)
  let member ← getMemberChat chatId user.id
  Tx.require (hasPermissions user now member [.chatUpdate]) (.accessDeniedChat chatId user.id)
  let patch ← Tx.ofExcept (chat.changed changes)
  flushChat chat.id patch
  publish [.updatedChat chat.id user.id]
  Tx.commitNow
  return patch.apply chat

def reservedUsernames : List String :=
  ["admin", "administrator", "moderator", "support", "help", "system", "official", "security",
    "settings", "search", "invites", "messages", "members", "reactions", "username", "chatix",
    "telegram", "root"]

def isAsciiAlnum (letter : Char) : Bool := letter.isAlpha || letter.isDigit

/-- `^[A-Za-z][A-Za-z0-9_]*[A-Za-z0-9]$`. -/
def isUsername (letters : List Char) : Bool :=
  decide (2 ≤ letters.length) && letters.head?.any Char.isAlpha &&
    letters.getLast?.any isAsciiAlnum &&
    letters.all fun letter => isAsciiAlnum letter || letter == '_'

def validateUsername (username : String) : Except ChatError String :=
  let stripped := (Message.strip username).toList
  let cleaned := if stripped.head? = some '@' then stripped.tail else stripped
  if cleaned.length < 5 ∨ 32 < cleaned.length then
    .error (.invalidChatUsername username "length")
  else if !isUsername cleaned then .error (.invalidChatUsername username "format")
  else if reservedUsernames.contains (String.ofList cleaned).toLower then
    .error (.invalidChatUsername username "reserved")
  else .ok (String.ofList cleaned)

def Db.usernameTaken (db : Db) (chatId : ChatId) (username : String) : Bool :=
  db.chats.rows.any fun chat =>
    chat.id != chatId && chat.username.any fun held => held.toLower == username.toLower

/-- `get_by_username`, whose answer is another chat; deleted chats are not seen. -/
def Db.usernameOccupied (db : Db) (chatId : ChatId) (username : String) : Bool :=
  db.chats.rows.any fun chat =>
    chat.id != chatId && chat.deletedAt.isNone &&
      chat.username.any fun held => held.toLower == username.toLower

/-- `Chat.set_username`. -/
def Chat.usernameAllowed (chat : Chat) (username : Option String) : Except ChatError Unit :=
  if username.isNone then .ok ()
  else if chat.type = .direct then .error (.chatUsernameNotAllowed chat.id "direct_chat")
  else if !chat.isPublic then .error (.chatUsernameNotAllowed chat.id "chat_not_public")
  else .ok ()

def setChatUsername (chatId : ChatId) (username : Option String) : Handler Chat := do
  let found ← getById chatId
  let chat ← Tx.orRaise found (.notFoundChat chatId)
  let member ← getMemberChat chatId user.id
  Tx.require (hasPermissions user now member [.chatUpdate]) (.accessDeniedChat chatId user.id)
  let cleaned ← Tx.ofExcept (username.mapM validateUsername)
  if cleaned = chat.username then return chat
  else do
    checked fun db =>
      if cleaned.any (db.usernameOccupied chat.id) then
        .error (.chatUsernameTaken (cleaned.getD "")) else .ok ()
    Tx.ofExcept (chat.usernameAllowed cleaned)
    checked fun db =>
      if cleaned.any (db.usernameTaken chat.id) then
        .error (.chatUsernameTaken (cleaned.getD "")) else .ok ()
    patchChat chat.id { username := some cleaned }
    publish [.updatedChat chat.id user.id]
    Tx.commitNow
    return { chat with username := cleaned }

structure NewInvite where
  name : Option String := none
  expiresAt : Option Nat := none
  usageLimit : Option Nat := none
  createsJoinRequest : Bool := false
  deriving DecidableEq, Repr

/-- `ChatInviteLink.create`; the id and the random code are the caller's. -/
def ChatInviteLink.create (chatId : ChatId) (createdBy : UserId) (new : NewInvite) (now : Nat)
    (id : InviteId) (code : String) : Except ChatError ChatInviteLink :=
  if new.expiresAt.any fun limit => decide (limit ≤ now) then
    .error (.invalidInviteLink "expires_at_in_past")
  else if new.usageLimit.any fun limit => !decide (1 ≤ limit ∧ limit ≤ 99999) then
    .error (.invalidInviteLink "usage_limit_out_of_range")
  else if new.createsJoinRequest && new.usageLimit.isSome then
    .error (.invalidInviteLink "request_link_with_usage_limit")
  else
    .ok { id := id, chatId := chatId, code := code, name := Message.cleaned new.name, createdBy := createdBy
          expiresAt := new.expiresAt, usageLimit := new.usageLimit
          createsJoinRequest := new.createsJoinRequest }

def createInviteLink (chatId : ChatId) (new : NewInvite) (id : InviteId) (code : String) :
    Handler ChatInviteLink := do
  let found ← getById chatId
  let chat ← Tx.orRaise found (.notFoundChat chatId)
  let member ← getMemberChat chatId user.id
  Tx.require (hasPermissions user now member [.memberInvite]) (.accessDeniedChat chatId user.id)
  Tx.require (chat.type != .direct) (.invalidInviteLink "direct_chat")
  let active ← Tx.read fun db => db.invites.count fun invite =>
    invite.chatId == chat.id && invite.revokedAt.isNone
  Tx.require (decide (active < 100)) (.inviteLinksLimitExceeded 100)
  let invite ← Tx.ofExcept (ChatInviteLink.create chat.id user.id new now id code)
  insertRow (.invite id)
    (fun db => (db.invites.find? id).isSome ||
      db.invites.rows.any fun stored => stored.code == code) (.insertInvite invite)
  Tx.commitNow
  return invite

def revokeInviteLink (chatId : ChatId) (inviteId : InviteId) : Handler ChatInviteLink := do
  let member ← getMemberChat chatId user.id
  Tx.require (hasPermissions user now member [.memberInvite]) (.accessDeniedChat chatId user.id)
  let link ← Tx.read fun db => db.invites.find? inviteId
  let invite ← Tx.orRaise link (.notFoundInviteLink (toString inviteId))
  Tx.require (invite.chatId == chatId) (.notFoundInviteLink (toString inviteId))
  if invite.revokedAt.isSome then return invite
  else do
    updateRow (.invite inviteId) (fun db => (db.invites.find? inviteId).isSome)
      (.revokeInvite inviteId now)
    Tx.commitNow
    return { invite with revokedAt := some now }

structure StateChanges where
  pinned : Option Bool := none
  archived : Option Bool := none
  notificationsMutedUntil : Option (Option Nat) := none
  draft : Option (Option String) := none
  deriving DecidableEq, Repr

def MemberState.changed (state : MemberState) (changes : StateChanges) (now : Nat) : MemberState :=
  let draft := changes.draft.map Message.cleaned
  { pinnedAt :=
      match changes.pinned with
      | none => state.pinnedAt
      | some pinned => if pinned then some now else none
    archivedAt :=
      match changes.archived with
      | none => state.archivedAt
      | some archived => if archived then some now else none
    notificationsMutedUntil :=
      match changes.notificationsMutedUntil with
      | none => state.notificationsMutedUntil
      | some requested => requested.filter fun limit => decide (now < limit)
    draft := draft.getD state.draft
    draftUpdatedAt :=
      match draft with
      | none => state.draftUpdatedAt
      | some text => text.map fun _ => now }

/-- The columns that differ; `loaded` is what the mapper has read. -/
def MemberState.difference (loaded state : MemberState) : StatePatch where
  pinnedAt := Relational.changed loaded.pinnedAt state.pinnedAt
  archivedAt := Relational.changed loaded.archivedAt state.archivedAt
  notificationsMutedUntil := Relational.changed loaded.notificationsMutedUntil state.notificationsMutedUntil
  draft := Relational.changed loaded.draft state.draft
  draftUpdatedAt := Relational.changed loaded.draftUpdatedAt state.draftUpdatedAt

def flushState (member : ChatMember) (state : MemberState) : Handler Unit :=
  if member.state = state then pure ()
  else patchMember { state := member.state.difference state } member

def Db.countPinnedChats (db : Db) (userId : UserId) : Nat :=
  db.members.count fun member =>
    member.userId == userId && member.state.pinnedAt.isSome && (db.openChat? member.chatId).isSome

def maxPinnedChats : Nat := 5

def updateChatState (chatId : ChatId) (changes : StateChanges) : Handler MemberState := do
  let row ← getMemberChat chatId user.id
  let member ← Tx.orRaise row (.notFoundChat chatId)
  let pinned ← Tx.read fun db => db.countPinnedChats user.id
  Tx.require (!(changes.pinned == some true && member.state.pinnedAt.isNone &&
    decide (maxPinnedChats ≤ pinned))) .pinnedChatsLimitExceeded
  flushState member (member.state.changed changes now)
  Tx.commitNow
  return member.state.changed changes now

end Settings

end Messanger
