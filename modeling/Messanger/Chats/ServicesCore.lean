import Mathlib.Data.List.Sort
import Messanger.Store

/-!
The services and repository statements the chat handlers are built from: access
checks, privacy checks, and each SQL statement with the rows it locks.
-/

namespace Messanger

open Relational

section Access

variable (user : UserJWTData) (now : Nat)

def hasPermissions (member : Option ChatMember) (must : List Permission) : Bool :=
  hasGlobalChatAdmin user ||
    match member with
    | none => false
    | some member =>
        !member.isBanned now && !(must.contains .messageSend && member.isMuted now) &&
          must.all member.effectivePermission

def memberCanSend (now : Nat) (chat : Chat) (member : Option ChatMember) : Bool :=
  match member with
  | none => false
  | some member =>
      !member.isBanned now && !member.isMuted now && member.effectivePermission .messageSend &&
        !(chat.adminOnly &&
          !(member.isStaff || member.effectivePermission .messageSendAdminOnly)) &&
        !(chat.permissions.lookup "message:send" == some false && !member.isStaff)

def canSendMessage (chat : Chat) (member : Option ChatMember) : Bool :=
  hasGlobalChatAdmin user || memberCanSend now chat member

def canTransferOwnership (chat : Chat) (requester : Option ChatMember) : Bool :=
  hasGlobalChatAdmin user ||
    match requester with
    | none => false
    | some requester => !requester.isBanned now && requester.userId == chat.createdBy

def canBypassSlowMode (now : Nat) (member : Option ChatMember) : Bool :=
  match member with
  | none => false
  | some member => !member.isBanned now && member.canBypassSlowMode

def ensureCanPin (member : Option ChatMember) (chatId : ChatId) : Except ChatError Unit :=
  if hasPermissions user now member [.messagePin] then .ok ()
  else
    match member with
    | none => .error (.notChatMember chatId user.id)
    | some row =>
        if row.isBanned now then .error (.notChatMember chatId user.id)
        else .error (.accessDeniedChat chatId user.id)

/-- `ensure_can_assign_role`; the answer is the role the number names. -/
def ensureCanAssignRole (requester : Option ChatMember) (chatId : ChatId) (roleId : Nat) :
    Except ChatError ChatRoleId :=
  match ChatRoleId.ofNat? roleId with
  | none => .error (.invalidChatRole roleId)
  | some role =>
      if hasGlobalChatAdmin user then .ok role
      else
        match requester with
        | none => .error (.accessDeniedChat chatId user.id)
        | some requester =>
            if requester.isBanned now || decide (requester.level ≤ role.level) then
              .error (.accessDeniedChat chatId user.id)
            else .ok role

def updateMember (requester : Option ChatMember) (target : ChatMember) (must : List Permission) :
    Bool :=
  hasGlobalChatAdmin user ||
    match requester with
    | none => false
    | some requester =>
        !requester.isBanned now && requester.id != target.id &&
          must.all requester.effectivePermission && decide (target.level ≤ requester.level)

end Access

section Privacy

def isAllowed (visibility : PrivacyVisibility) (isContact : Bool) (granted : Option Bool) : Bool :=
  match granted with
  | some granted => granted
  | none =>
      match visibility with
      | .everybody => true
      | .contacts => isContact
      | .nobody => false

namespace Db

variable (db : Db)

def visibility (owner : UserId) (rule : PrivacyRule) : PrivacyVisibility :=
  (db.visibilities.lookup (owner, rule)).getD .everybody

def privacyException (owner : UserId) (rule : PrivacyRule) (target : UserId) : Option Bool :=
  db.exceptions.lookup (owner, rule, target)

def allows (rule : PrivacyRule) (viewer owner : UserId) : Bool :=
  viewer == owner ||
    isAllowed (db.visibility owner rule) (db.contacts.contains (owner, viewer))
      (db.privacyException owner rule viewer)

def isBlockedBetween (left right : UserId) : Bool :=
  db.blocks.contains (left, right) || db.blocks.contains (right, left)

def directPeer? (chatId : ChatId) (viewer : UserId) : Option UserId :=
  (db.members.rows.find? fun member => member.chatId == chatId && member.userId != viewer).map
    (·.userId)

/-- `ensure_can_add`: those who block the requester or whose privacy forbids the invitation. -/
def ensureCanAdd (requesterId : UserId) (targetIds : List UserId) : Except ChatError Unit :=
  let targets := (targetIds.filter (· != requesterId)).eraseDups
  let restricted := targets.filter fun target =>
    db.blocks.contains (target, requesterId) || !db.allows .groupInvites requesterId target
  if restricted.isEmpty then .ok ()
  else .error (.userPrivacyRestricted (restricted.insertionSort (· ≤ ·)))

def ensureCanStartDirect (userId peerId : UserId) : Except ChatError Unit :=
  if db.isBlockedBetween userId peerId then .error (.userBlocked none peerId)
  else if db.allows .messages userId peerId then .ok ()
  else .error (.messagesPrivacyRestricted none peerId)

def ensurePeer (chat : Chat) (userId : UserId) (rule : PrivacyRule)
    (restricted : Option ChatId → UserId → ChatError) : Except ChatError Unit :=
  if chat.type ≠ .direct then .ok ()
  else
    match db.directPeer? chat.id userId with
    | none => .ok ()
    | some peer =>
        if db.isBlockedBetween userId peer then .error (.userBlocked (some chat.id) peer)
        else if db.allows rule userId peer then .ok ()
        else .error (restricted (some chat.id) peer)

def ensureCanMessage (chat : Chat) (userId : UserId) : Except ChatError Unit :=
  db.ensurePeer chat userId .messages .messagesPrivacyRestricted

def ensureCanCall (chat : Chat) (userId : UserId) : Except ChatError Unit :=
  db.ensurePeer chat userId .calls .callsPrivacyRestricted

end Db

def checked (check : Db → Except ChatError Unit) : Handler Unit :=
  Tx.statement (fun _ => []) (fun _ => []) check

end Privacy

section Repositories

structure ChatAndMember where
  chat : Chat
  member : ChatMember

def getById (chatId : ChatId) : Handler (Option Chat) :=
  Tx.read fun db => db.openChat? chatId

def getByIdForUpdate (chatId : ChatId) : Handler (Option Chat) :=
  Tx.statement (fun db => if (db.openChat? chatId).isSome then [.chat chatId] else [])
    (fun _ => []) fun db => .ok (db.openChat? chatId)

def getMemberChat (chatId : ChatId) (memberId : UserId) : Handler (Option ChatMember) :=
  Tx.read fun db => db.member? chatId memberId

def Db.chatAndMember (db : Db) (chatId : ChatId) (memberId : UserId) :
    Except ChatError ChatAndMember :=
  match db.openChat? chatId, db.member? chatId memberId with
  | some chat, some member => .ok ⟨chat, member⟩
  | _, _ => .error (.notFoundChat chatId)

theorem Db.chatAndMember_ok {db : Db} {chatId : ChatId} {userId : UserId} {found : ChatAndMember}
    (answered : db.chatAndMember chatId userId = .ok found) :
    db.openChat? chatId = some found.chat ∧ db.member? chatId userId = some found.member := by
  unfold chatAndMember at answered
  split at answered
  · cases answered
    exact ⟨by assumption, by assumption⟩
  · cases answered

def getChatAndMember (chatId : ChatId) (memberId : UserId) : Handler ChatAndMember :=
  Tx.statement (fun _ => []) (fun _ => []) fun db => db.chatAndMember chatId memberId

/-- The row `shift_member_count` matches. -/
def Db.shiftable? (db : Db) (chatId : ChatId) (delta : Int) (limit : Option Nat) : Option Chat :=
  (db.openChat? chatId).filter fun chat =>
    match limit with
    | none => true
    | some limit => decide (chat.memberCount + delta ≤ limit)

def shiftMemberCount (chatId : ChatId) (delta : Int) (limit : Option Nat) : Handler (Option Int) :=
  Tx.statement
    (fun db => if (db.shiftable? chatId delta limit).isSome then [.chat chatId] else [])
    (fun db =>
      if (db.shiftable? chatId delta limit).isSome then [.shiftMemberCount chatId delta] else [])
    fun db => .ok ((db.shiftable? chatId delta limit).map fun chat => chat.memberCount + delta)

def allocateMessageSeq (chatId : ChatId) (messageDate : Nat) (count : Nat) : Handler (Option Nat) :=
  Tx.statement (fun db => if (db.openChat? chatId).isSome then [.chat chatId] else [])
    (fun db =>
      if (db.openChat? chatId).isSome then [.allocateMessageSeq chatId count messageDate] else [])
    fun db => .ok ((db.openChat? chatId).map fun chat => chat.seqCounter + count)

/-- The flush of an ORM `INSERT`: the unique key is locked, a taken key fails the transaction. -/
def insertRow (key : RowKey) (taken : Db → Bool) (write : Write) : Handler Unit :=
  Tx.statement (fun _ => [key]) (fun db => if taken db then [] else [write])
    fun db => if taken db then .error .integrityError else .ok ()

/-- The flush of an ORM `UPDATE` by primary key: the row must still be there. -/
def updateRow (key : RowKey) (present : Db → Bool) (write : Write) : Handler Unit :=
  Tx.statement (fun db => if present db then [key] else [])
    (fun db => if present db then [write] else [])
    fun db => if present db then .ok () else .error .staleDataError

def insertMember (chatId : ChatId) (roleId : ChatRoleId) (userId : UserId) : Handler Unit :=
  insertRow (.member chatId userId) (fun db => (db.member? chatId userId).isSome)
    (.insertMember chatId userId roleId)

def Db.hasMemberRow (db : Db) (member : ChatMember) : Bool :=
  match db.member? member.chatId member.userId with
  | none => false
  | some row => row.id == member.id

/-- The flush of `session.delete(member)`: a row that is gone is no error. -/
def deleteMember (member : ChatMember) : Handler Unit :=
  Tx.statement
    (fun db => if db.hasMemberRow member then [.member member.chatId member.userId] else [])
    (fun _ => [.deleteMember member.chatId member.userId member.id]) fun _ => .ok ()

def patchMember (patch : MemberPatch) (member : ChatMember) : Handler Unit :=
  updateRow (.member member.chatId member.userId) (fun db => db.hasMemberRow member)
    (.patchMember member.chatId member.userId member.id patch)

/-- The flush of `member.role_id = role`: nothing is sent when the value did not change. -/
def flushRole (member : ChatMember) (role : ChatRoleId) : Handler Unit :=
  if member.roleId = role then pure () else patchMember { roleId := some role } member

/-- An `UPDATE` of columns that differ from those that were loaded. -/
def patchChat (chatId : ChatId) (patch : ChatPatch) : Handler Unit :=
  updateRow (.chat chatId) (fun db => (db.chat? chatId).isSome) (.patchChat chatId patch)

/-- The flush of a chat: nothing is sent when no column has changed. -/
def flushChat (chatId : ChatId) (patch : ChatPatch) : Handler Unit :=
  if patch = {} then pure () else patchChat chatId patch

def publish (events : List ChatEvent) : Handler Unit :=
  Tx.statement (fun _ => []) (fun _ => [.publish events]) fun _ => .ok ()

def getByCode (code : String) : Handler (Option ChatInviteLink) :=
  Tx.read fun db => db.invites.rows.find? fun invite => invite.code == code

def ChatInviteLink.consumable (invite : ChatInviteLink) (now : Nat) : Bool :=
  invite.revokedAt.isNone && !invite.isExpired now && !invite.isExhausted

def Db.consumable? (db : Db) (inviteId : InviteId) (now : Nat) : Option ChatInviteLink :=
  (db.invites.find? inviteId).filter (·.consumable now)

def consume (inviteId : InviteId) (now : Nat) : Handler (Option Nat) :=
  Tx.statement (fun db => if (db.consumable? inviteId now).isSome then [.invite inviteId] else [])
    (fun db => if (db.consumable? inviteId now).isSome then [.addUsage inviteId 1] else [])
    fun db => .ok ((db.consumable? inviteId now).map fun invite => invite.usageCount + 1)

/-- `Counter` of the link ids, then one `UPDATE` over the links that exist. -/
def creditUsage (credited : List InviteId) : Handler Unit :=
  let counts := credited.eraseDups.map fun inviteId => (inviteId, credited.count inviteId)
  let matched := fun (db : Db) => counts.filter fun (inviteId, _) =>
    (db.invites.find? inviteId).isSome
  Tx.statement (fun db => (matched db).map fun (inviteId, _) => .invite inviteId)
    (fun db => (matched db).map fun (inviteId, count) => .addUsage inviteId count) fun _ => .ok ()

def getJoinRequest (chatId : ChatId) (userId : UserId) : Handler (Option ChatJoinRequest) :=
  Tx.read fun db => db.joinRequests.find? (chatId, userId)

def Db.pendingFor (db : Db) (chatId : ChatId) (userIds : List UserId) : List ChatJoinRequest :=
  (db.joinRequests.select fun request =>
    request.chatId == chatId && userIds.contains request.userId && request.isPending).insertionSort
      fun left right => left.userId ≤ right.userId

theorem Db.pendingFor_wanted {db : Db} {chatId : ChatId} {userIds : List UserId}
    {request : ChatJoinRequest} (member : request ∈ db.pendingFor chatId userIds) :
    request.userId ∈ userIds := by
  simp only [pendingFor, List.mem_insertionSort, Table.select, List.mem_filter, Bool.and_eq_true,
    List.contains_iff_mem] at member
  exact member.2.1.2

theorem Db.pendingFor_stored {db : Db} {chatId : ChatId} {userIds : List UserId}
    {request : ChatJoinRequest} (member : request ∈ db.pendingFor chatId userIds) :
    request ∈ db.joinRequests.rows ∧ request.chatId = chatId ∧ request.isPending = true := by
  simp only [pendingFor, List.mem_insertionSort, Table.select, List.mem_filter, Bool.and_eq_true,
    beq_iff_eq] at member
  exact ⟨member.1, member.2.1.1, member.2.2⟩

def listPendingForUpdate (chatId : ChatId) (userIds : List UserId) :
    Handler (List ChatJoinRequest) :=
  Tx.statement
    (fun db => (db.pendingFor chatId userIds).map fun request => .joinRequest chatId request.userId)
    (fun _ => []) fun db => .ok (db.pendingFor chatId userIds)

def Db.pendingCount (db : Db) (chatId : ChatId) : Nat :=
  db.joinRequests.count fun request => request.chatId == chatId && request.isPending

def insertJoinRequest (request : ChatJoinRequest) : Handler Unit :=
  insertRow (.joinRequest request.chatId request.userId)
    (fun db => (db.joinRequests.find? request.key).isSome) (.insertJoinRequest request)

/-- The flush of a request that was loaded under its lock: a column that did not change is as it is
stored. -/
def updateJoinRequest (request : ChatJoinRequest) : Handler Unit :=
  updateRow (.joinRequest request.chatId request.userId)
    (fun db => (db.joinRequests.find? request.key).isSome) (.updateJoinRequest request)

/-- The row after an `UPDATE` of the columns that differ from those that were loaded. -/
def ChatJoinRequest.flushed (loaded request stored : ChatJoinRequest) : ChatJoinRequest :=
  { stored with
    inviteLinkId := (changed loaded.inviteLinkId request.inviteLinkId).getD stored.inviteLinkId
    status := (changed loaded.status request.status).getD stored.status
    requestedAt := (changed loaded.requestedAt request.requestedAt).getD stored.requestedAt
    resolvedAt := (changed loaded.resolvedAt request.resolvedAt).getD stored.resolvedAt
    resolvedBy := (changed loaded.resolvedBy request.resolvedBy).getD stored.resolvedBy }

/-- The flush of a request that was loaded without a lock. -/
def flushJoinRequest (loaded request : ChatJoinRequest) : Handler Unit :=
  let stored := fun (db : Db) => db.joinRequests.find? loaded.key
  Tx.statement
    (fun db => if (stored db).isSome then [.joinRequest loaded.chatId loaded.userId] else [])
    (fun db => ((stored db).map fun row => .updateJoinRequest (loaded.flushed request row)).toList)
    fun db => if (stored db).isSome then .ok () else .error .staleDataError

/-- The flush of `session.delete(request)`: a row that is gone is no error. -/
def deleteJoinRequest (chatId : ChatId) (userId : UserId) : Handler Unit :=
  Tx.statement
    (fun db =>
      if (db.joinRequests.find? (chatId, userId)).isSome then [.joinRequest chatId userId] else [])
    (fun db =>
      if (db.joinRequests.find? (chatId, userId)).isSome then [.deleteJoinRequest chatId userId]
      else []) fun _ => .ok ()

/-- One `UPDATE` over every pending request of the chat; the answer is its row count. -/
def declineAllPending (chatId : ChatId) (resolvedBy : UserId) (now : Nat) : Handler Nat :=
  let pending := fun (db : Db) => db.joinRequests.select fun request =>
    request.chatId == chatId && request.isPending
  Tx.statement (fun db => (pending db).map fun request => .joinRequest chatId request.userId)
    (fun db => (pending db).map fun request =>
      .updateJoinRequest (request.resolve .declined resolvedBy now))
    fun db => .ok (pending db).length

end Repositories

end Messanger
