import Messanger.Footprint

/-!
What one request does to the membership rows and to the owners of the chats.  `perform_effect`
lists every way a request can end; the invariants of whole runs are proved from that list.
-/

namespace Messanger

open Relational

structure Charter where
  createdBy : UserId
  type : ChatType
  deletedAt : Option Nat
  deriving DecidableEq, Repr

def Chat.charter (chat : Chat) : Charter := ⟨chat.createdBy, chat.type, chat.deletedAt⟩

def Db.charter? (db : Db) (chatId : ChatId) : Option Charter := (db.chat? chatId).map Chat.charter

namespace Write

def ofCharter : Write → Bool
  | .insertChat _ => true
  | .patchChat _ _ => true
  | _ => false

end Write

namespace Db

variable (db : Db) (chatId : ChatId) (userId : UserId)

theorem charter_apply (write : Write) (apart : write.ofCharter = false) :
    (Db.apply write db).charter? chatId = db.charter? chatId := by
  cases write
  case insertChat => cases apart
  case patchChat => cases apart
  case shiftMemberCount =>
    rw [Db.apply, charter?, charter?, chat_updateChat, Option.map_map]
    refine congrArg (fun view => (db.chat? chatId).map view) (funext fun chat => ?_)
    simp only [Function.comp_apply]
    split <;> rfl
  case allocateMessageSeq =>
    rw [Db.apply, charter?, charter?, chat_updateChat, Option.map_map]
    refine congrArg (fun view => (db.chat? chatId).map view) (funext fun chat => ?_)
    simp only [Function.comp_apply]
    split <;> rfl
  all_goals rfl

theorem charter_of_open {db : Db} {chatId : ChatId} {chat : Chat}
    (found : db.openChat? chatId = some chat) : db.charter? chatId = some chat.charter := by
  rw [charter?, (Option.filter_eq_some_iff.mp found).1]
  rfl

theorem charter_patchChat (target : ChatId) (patch : ChatPatch) :
    (Db.apply (.patchChat target patch) db).charter? chatId =
      (db.charter? chatId).map fun charter =>
        if chatId = target then
          { charter with
            createdBy := patch.createdBy.getD charter.createdBy
            deletedAt := patch.deletedAt.getD charter.deletedAt }
        else charter := by
  rw [Db.apply, charter?, charter?, chat_updateChat]
  cases found : db.chat? chatId with
  | none => rfl
  | some chat =>
      have key : chat.id = chatId := Table.key_of_find? found
      simp only [Option.map_some, key]
      split <;> rfl

end Db

def Incidental (write : Write) : Prop := write.ofMember = false ∧ write.ofCharter = false

structure Alike (db final : Db) : Prop where
  members : ∀ chatId userId, final.member? chatId userId = db.member? chatId userId
  charters : ∀ chatId, final.charter? chatId = db.charter? chatId

theorem alike_refl (db : Db) : Alike db db := ⟨fun _ _ => rfl, fun _ => rfl⟩

theorem alike_trans {first second third : Db} (left : Alike first second)
    (right : Alike second third) : Alike first third :=
  ⟨fun chatId userId => (right.members chatId userId).trans (left.members chatId userId),
    fun chatId => (right.charters chatId).trans (left.charters chatId)⟩

theorem alike_apply (db : Db) (write : Write) (incidental : Incidental write) :
    Alike db (Db.apply write db) :=
  ⟨fun chatId userId => db.member_apply chatId userId write incidental.1,
    fun chatId => db.charter_apply chatId write incidental.2⟩

theorem alike_applyAll (log : List Write) : ∀ db : Db, (∀ write ∈ log, Incidental write) →
    Alike db (applyAll log db) := by
  induction log with
  | nil => exact fun db _ => alike_refl db
  | cons write rest ih =>
      intro db incidental
      exact alike_trans (alike_apply db write (incidental write List.mem_cons_self))
        (ih _ fun other member => incidental other (List.mem_cons_of_mem _ member))

structure Amended (row : ChatMember) (patch : MemberPatch) (db final : Db) : Prop where
  found : db.member? row.chatId row.userId = some row
  members : ∀ chatId userId, final.member? chatId userId =
    if chatId = row.chatId ∧ userId = row.userId then some (patch.apply row)
    else db.member? chatId userId
  charters : ∀ chatId, final.charter? chatId = db.charter? chatId

structure Removed (row : ChatMember) (db final : Db) : Prop where
  found : db.member? row.chatId row.userId = some row
  members : ∀ chatId userId, final.member? chatId userId =
    if chatId = row.chatId ∧ userId = row.userId then none else db.member? chatId userId
  charters : ∀ chatId, final.charter? chatId = db.charter? chatId

/-- Rows were added to one chat: each is fresh and as `Granted` allows. -/
structure Seated (chatId : ChatId) (Granted : UserId → ChatRoleId → Prop) (db final : Db) :
    Prop where
  kept : ∀ target userId row, db.member? target userId = some row →
    final.member? target userId = some row
  fresh : ∀ target userId row, db.member? target userId = none →
    final.member? target userId = some row → target = chatId ∧ Granted userId row.roleId ∧
      row.bannedUntil = none ∧ row.mutedUntil = none ∧ row.permissionsOverrides = []
  charters : ∀ target charter, db.charter? target = some charter →
    final.charter? target = some charter

def ChatMember.handed (newOwner previousOwner : ChatId × UserId) (row : ChatMember) : ChatMember :=
  if row.key = newOwner then { row with roleId := .owner }
  else if row.key = previousOwner then { row with roleId := .admin }
  else row

structure Transferred (chatId : ChatId) (charter : Charter) (newOwner : ChatMember)
    (db final : Db) : Prop where
  found : db.charter? chatId = some charter
  member : db.member? chatId newOwner.userId = some newOwner
  members : ∀ target userId, final.member? target userId =
    (db.member? target userId).map
      (ChatMember.handed (chatId, newOwner.userId) (chatId, charter.createdBy))
  charters : ∀ target, final.charter? target =
    if target = chatId then some { charter with createdBy := newOwner.userId }
    else db.charter? target

section Composition

variable {db mid final : Db} {row : ChatMember} {patch : MemberPatch}

theorem isMemberRow_other {chatId target : ChatId} {userId targetUserId : UserId}
    {kept : ChatMember} (id : MemberId) (stored : db.member? chatId userId = some kept)
    (other : ¬ (chatId = target ∧ userId = targetUserId)) :
    Db.isMemberRow target targetUserId id kept = false := by
  obtain ⟨inChat, ofUser⟩ := Db.member_key stored
  simp only [Db.isMemberRow, ChatMember.key, inChat, ofUser, Prod.mk.injEq,
    decide_eq_false_iff_not, not_and]
  exact fun same => absurd same other

theorem amended_patch (found : db.member? row.chatId row.userId = some row) :
    Amended row patch db
      (Db.apply (.patchMember row.chatId row.userId row.id patch) db) := by
  refine ⟨found, fun chatId userId => ?_, fun chatId => db.charter_apply chatId _ rfl⟩
  rw [Db.member_patchMember]
  split
  · rename_i same
    rw [same.1, same.2, found]
    simp [Db.isMemberRow, ChatMember.key]
  · rename_i other
    cases stored : db.member? chatId userId with
    | none => rfl
    | some kept =>
        simp [isMemberRow_other row.id stored other]

theorem amended_unchanged (found : db.member? row.chatId row.userId = some row)
    (same : patch.apply row = row) : Amended row patch db db := by
  refine ⟨found, fun chatId userId => ?_, fun _ => rfl⟩
  split
  · rename_i here
    rw [here.1, here.2, found, same]
  · rfl

theorem amended_map (amended : Amended row patch db final) (chatId : ChatId) (userId : UserId) :
    final.member? chatId userId = (db.member? chatId userId).map fun stored =>
      if stored.key = row.key then patch.apply stored else stored := by
  rw [amended.members]
  split
  · rename_i here
    rw [here.1, here.2, amended.found]
    simp
  · rename_i other
    cases found : db.member? chatId userId with
    | none => rfl
    | some stored =>
        obtain ⟨rfl, rfl⟩ := Db.member_key found
        have apart : stored.key ≠ row.key := fun same => other (Prod.ext_iff.mp same)
        simp [apart]

theorem removed_delete (found : db.member? row.chatId row.userId = some row) :
    Removed row db (Db.apply (.deleteMember row.chatId row.userId row.id) db) := by
  refine ⟨found, fun chatId userId => ?_, fun chatId => db.charter_apply chatId _ rfl⟩
  rw [Db.member_deleteMember]
  split
  · rename_i same
    rw [same.1, same.2, found]
    simp [Db.isMemberRow, ChatMember.key]
  · rename_i other
    cases stored : db.member? chatId userId with
    | none => rfl
    | some kept =>
        simp [isMemberRow_other row.id stored other]

theorem amended_alike (amended : Amended row patch db mid) (alike : Alike mid final) :
    Amended row patch db final :=
  ⟨amended.found, fun chatId userId => (alike.members chatId userId).trans
      (amended.members chatId userId),
    fun chatId => (alike.charters chatId).trans (amended.charters chatId)⟩

theorem removed_alike (alike : Alike db mid) (removed : Removed row mid final) :
    Removed row db final := by
  refine ⟨?_, fun chatId userId => ?_,
    fun chatId => (removed.charters chatId).trans (alike.charters chatId)⟩
  · rw [← alike.members]
    exact removed.found
  · rw [removed.members, alike.members]

theorem removed_then (removed : Removed row db mid) (alike : Alike mid final) :
    Removed row db final :=
  ⟨removed.found, fun chatId userId => (alike.members chatId userId).trans
      (removed.members chatId userId),
    fun chatId => (alike.charters chatId).trans (removed.charters chatId)⟩

theorem seated_of_alike {chatId : ChatId} {Granted : UserId → ChatRoleId → Prop}
    (alike : Alike db final) : Seated chatId Granted db final := by
  refine ⟨fun target userId row stored => ?_, fun target userId row absent stored => ?_,
    fun target charter stored => ?_⟩
  · rw [alike.members, stored]
  · rw [alike.members, absent] at stored
    cases stored
  · rw [alike.charters, stored]

theorem seated_trans {chatId : ChatId} {Granted : UserId → ChatRoleId → Prop}
    (first : Seated chatId Granted db mid) (second : Seated chatId Granted mid final) :
    Seated chatId Granted db final := by
  refine ⟨fun target userId row stored => ?_, fun target userId row absent stored => ?_,
    fun target charter stored => ?_⟩
  · exact second.kept _ _ _ (first.kept _ _ _ stored)
  · cases between : mid.member? target userId with
    | none => exact second.fresh target userId row between stored
    | some early =>
        rw [second.kept _ _ _ between] at stored
        cases stored
        exact first.fresh target userId _ absent between
  · exact second.charters _ _ (first.charters _ _ stored)

theorem seated_insert {chatId : ChatId} {userId : UserId} {roleId : ChatRoleId}
    {Granted : UserId → ChatRoleId → Prop} (granted : Granted userId roleId) :
    Seated chatId Granted db (Db.apply (.insertMember chatId userId roleId) db) := by
  refine ⟨fun target other row stored => ?_, fun target other row absent stored => ?_,
    fun target charter stored => ?_⟩
  · rw [Db.member_insertMember, stored, Option.some_or]
  · rw [Db.member_insertMember, absent, Option.none_or] at stored
    split at stored
    · rename_i same
      cases stored
      exact ⟨same.1.symm, same.2 ▸ granted, rfl, rfl, rfl⟩
    · cases stored
  · rw [Db.charter_apply db target _ rfl, stored]

end Composition

namespace Request

variable (request : Request) (db : Db)

def Grants (chatId : ChatId) (userId : UserId) (roleId : ChatRoleId) : Prop :=
  match request.command with
  | .addMember target targetUserId given =>
      target = chatId ∧ targetUserId = userId ∧
        ∃ requester, db.member? chatId request.user.id = some requester ∧
          hasPermissions request.user request.now (some requester) [.memberInvite] = true ∧
          ensureCanAssignRole request.user request.now (some requester) chatId given = .ok roleId
  | .joinChat target =>
      target = chatId ∧ request.user.id = userId ∧
        ∃ chat, db.openChat? chatId = some chat ∧ chat.isPublic = true ∧
          chat.joinByRequest = false ∧ chat.type ≠ .direct ∧
          roleId = Chat.defaultMemberRole chat.type ∧
          (db.shiftable? chatId 1 (some (Chat.memberLimit chat.type))).isSome
  | .joinChatByInvite code =>
      request.user.id = userId ∧
        ∃ invite chat, (db.invites.rows.find? fun invite => invite.code == code) = some invite ∧
          invite.chatId = chatId ∧ invite.createsJoinRequest = false ∧
          invite.inactiveReason request.now = none ∧ db.openChat? chatId = some chat ∧
          chat.type ≠ .direct ∧ roleId = Chat.defaultMemberRole chat.type ∧
          (db.shiftable? chatId 1 (some (Chat.memberLimit chat.type))).isSome
  | .approveJoinRequests target userIds =>
      target = chatId ∧ userId ∈ userIds ∧
        ∃ chat requester, db.openChat? chatId = some chat ∧
          db.member? chatId request.user.id = some requester ∧
          hasPermissions request.user request.now (some requester) [.memberInvite] = true ∧
          roleId = Chat.defaultMemberRole chat.type
  | .createChat _ id => id = chatId ∧ db.chat? id = none
  | _ => False

def Revises (row : ChatMember) (patch : MemberPatch) : Prop :=
  let requester := db.member? row.chatId request.user.id
  let outranks := fun (chatId : ChatId) (userId : UserId) (must : Permission) =>
    row.chatId = chatId ∧ row.userId = userId ∧
      updateMember request.user request.now requester row [must] = true
  match request.command with
  | .banMember chatId userId bannedUntil =>
      outranks chatId userId .memberBan ∧ userId ≠ request.user.id ∧
        patch = { bannedUntil := some (restrictedUntil request.now bannedUntil) }
  | .unbanMember chatId userId =>
      outranks chatId userId .memberBan ∧ userId ≠ request.user.id ∧
        patch = { bannedUntil := some none }
  | .muteMember chatId userId mutedUntil =>
      outranks chatId userId .memberMute ∧ userId ≠ request.user.id ∧
        patch = { mutedUntil := some (restrictedUntil request.now mutedUntil) }
  | .unmuteMember chatId userId =>
      outranks chatId userId .memberMute ∧ userId ≠ request.user.id ∧
        patch = { mutedUntil := some none }
  | .changeMemberRole chatId userId given =>
      outranks chatId userId .roleChange ∧
        ∃ role, ensureCanAssignRole request.user request.now requester chatId given = .ok role ∧
          patch = { roleId := some role }
  | .updateChatState chatId _ =>
      row.chatId = chatId ∧ row.userId = request.user.id ∧ ∃ state, patch = { state := state }
  | _ => False

def Expels (row : ChatMember) : Prop :=
  match request.command with
  | .kickMember chatId userId =>
      row.chatId = chatId ∧ row.userId = userId ∧ userId ≠ request.user.id ∧
        updateMember request.user request.now (db.member? row.chatId request.user.id) row
          [.memberKick] = true
  | .leaveChat chatId =>
      row.chatId = chatId ∧ row.userId = request.user.id ∧
        ∃ chat, db.openChat? chatId = some chat ∧ chat.createdBy ≠ request.user.id
  | _ => False

def HandsOver (chatId : ChatId) (charter : Charter) (newOwner : ChatMember) : Prop :=
  ∃ chat, request.command = .transferChatOwnership chatId newOwner.userId ∧
    db.openChat? chatId = some chat ∧ charter = chat.charter ∧
    canTransferOwnership request.user request.now chat (db.member? chatId request.user.id) = true ∧
    newOwner.userId ≠ chat.createdBy ∧ newOwner.isBanned request.now = false

end Request

def ChartersStand (db final : Db) : Prop :=
  ∀ chatId charter, db.charter? chatId = some charter → ∃ deletedAt,
    final.charter? chatId = some { charter with deletedAt := deletedAt }

inductive Effect (request : Request) (db final : Db) : Prop where
  | still (members : ∀ chatId userId, final.member? chatId userId = db.member? chatId userId)
      (charters : ChartersStand db final)
  | seated (chatId : ChatId) (seated : Seated chatId (request.Grants db chatId) db final)
  | amended (row : ChatMember) (patch : MemberPatch) (amended : Amended row patch db final)
      (reason : request.Revises db row patch)
  | removed (row : ChatMember) (removed : Removed row db final) (reason : request.Expels db row)
  | transferred (chatId : ChatId) (charter : Charter) (newOwner : ChatMember)
      (transferred : Transferred chatId charter newOwner db final)
      (reason : request.HandsOver db chatId charter newOwner)

theorem effect_alike {request : Request} {db final : Db} (alike : Alike db final) :
    Effect request db final := by
  refine .still alike.members fun chatId charter stored => ⟨charter.deletedAt, ?_⟩
  rw [alike.charters, stored]

end Messanger
