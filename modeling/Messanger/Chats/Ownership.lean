import Messanger.Chats.MemberEffects

/-!
Who owns a chat is stored twice, in `created_by` and in the owner role.  In serial runs of
users without the global permission the two agree, and every change of another member's row
or role is made by someone of sufficient level.
-/

namespace Messanger

open Relational

section Levels

variable {user : UserJWTData} {now : Nat} {requester : Option ChatMember}

theorem updateMember_ok {target : ChatMember} {must : List Permission}
    (plain : hasGlobalChatAdmin user = false)
    (allowed : updateMember user now requester target must = true) :
    ∃ actor, requester = some actor ∧ actor.id ≠ target.id ∧ target.level ≤ actor.level := by
  cases requester with
  | none => simp [updateMember, plain] at allowed
  | some actor =>
      simp only [updateMember, plain, Bool.false_or, Bool.and_eq_true, bne_iff_ne, ne_eq,
        decide_eq_true_eq] at allowed
      exact ⟨actor, rfl, allowed.1.1.2, allowed.2⟩

theorem ensureCanAssignRole_ok {chatId : ChatId} {given : Nat} {role : ChatRoleId}
    (plain : hasGlobalChatAdmin user = false)
    (assigned : ensureCanAssignRole user now requester chatId given = .ok role) :
    ∃ actor, requester = some actor ∧ role.level < actor.level := by
  simp only [ensureCanAssignRole, plain] at assigned
  split at assigned
  · cases assigned
  · simp only [Bool.false_eq_true, if_false] at assigned
    split at assigned
    · cases assigned
    · rename_i actor
      split at assigned
      · cases assigned
      · rename_i refused
        cases assigned
        simp only [Bool.or_eq_true, decide_eq_true_eq, not_or, Nat.not_le] at refused
        exact ⟨actor, rfl, refused.2⟩

theorem inviter_level {member : ChatMember} (plain : hasGlobalChatAdmin user = false)
    (bare : member.permissionsOverrides = [])
    (allowed : hasPermissions user now (some member) [.memberInvite] = true) :
    ChatRoleId.admin.level ≤ member.level := by
  simp only [hasPermissions, plain, Bool.false_or, Bool.and_eq_true, List.all_cons, List.all_nil,
    Bool.and_true, ChatMember.effectivePermission, bare, List.lookup_nil] at allowed
  obtain ⟨_, listed⟩ := allowed
  unfold ChatMember.level
  cases role : member.roleId <;> rw [role] at listed <;> first | decide | cases listed

theorem default_level (type : ChatType) :
    (Chat.defaultMemberRole type).level < ChatRoleId.admin.level := by
  cases type <;> decide

theorem level_lt_owner {role : ChatRoleId} (low : role.level < ChatRoleId.owner.level) :
    role ≠ .owner := by
  rintro rfl
  exact Nat.lt_irrefl _ low

end Levels

/-- The chat has one owner, who is its `created_by` and is not banned at `horizon`; no row has
overrides. -/
structure Owned (chatId : ChatId) (horizon : Nat) (db : Db) (owner : UserId) : Prop where
  charter : ∃ charter, db.charter? chatId = some charter ∧ charter.createdBy = owner
  present : ∃ row, db.member? chatId owner = some row ∧ row.roleId = .owner ∧
    row.isBanned horizon = false
  sole : ∀ userId row, db.member? chatId userId = some row → row.roleId = .owner → userId = owner
  bare : ∀ userId row, db.member? chatId userId = some row → row.permissionsOverrides = []

/-- What a change of a member's row or role asks of the actor. -/
structure Entitled (request : Request) (chatId : ChatId) (db final : Db) : Prop where
  above : ∀ userId, userId ≠ request.user.id →
    final.member? chatId userId ≠ db.member? chatId userId →
    ∃ actor, db.member? chatId request.user.id = some actor ∧
      (∀ old, db.member? chatId userId = some old → old.level ≤ actor.level) ∧
      ∀ new, final.member? chatId userId = some new →
        (db.member? chatId userId).map (·.roleId) ≠ some new.roleId →
        new.level < actor.level ∨ request.command = .transferChatOwnership chatId userId
  own : ∀ new, final.member? chatId request.user.id = some new →
    (db.member? chatId request.user.id).map (·.roleId) ≠ some new.roleId →
    (db.member? chatId request.user.id = none ∧ ∃ chat, db.openChat? chatId = some chat ∧
      new.roleId = Chat.defaultMemberRole chat.type) ∨
    ∃ newOwnerId, request.command = .transferChatOwnership chatId newOwnerId

section Steps

variable {chatId : ChatId} {horizon : Nat} {request : Request} {db final : Db} {owner : UserId}

theorem outranked {userId : UserId} {row actor : ChatMember} (owned : Owned chatId horizon db owner)
    (found : db.member? chatId userId = some row)
    (acting : db.member? chatId request.user.id = some actor) (other : userId ≠ request.user.id)
    (below : row.level ≤ actor.level) : userId ≠ owner := by
  rintro rfl
  obtain ⟨held, stored, role, _⟩ := owned.present
  rw [found] at stored
  cases stored
  have top : actor.roleId = .owner := by
    refine ChatRoleId.owner_of_level _ ?_
    rw [← role]
    exact below
  exact other (owned.sole _ actor acting top).symm

theorem granted_over {userId : UserId} {roleId : ChatRoleId}
    (plain : hasGlobalChatAdmin request.user = false) (owned : Owned chatId horizon db owner)
    (granted : request.Grants db chatId userId roleId) :
    (∃ actor, db.member? chatId request.user.id = some actor ∧ roleId.level < actor.level) ∨
      (userId = request.user.id ∧ ∃ chat, db.openChat? chatId = some chat ∧
        roleId = Chat.defaultMemberRole chat.type) := by
  obtain ⟨user, now, command⟩ := request
  cases command
  case addMember =>
    obtain ⟨_, _, requester, acting, _, assigned⟩ := granted
    obtain ⟨actor, same, below⟩ := ensureCanAssignRole_ok plain assigned
    cases same
    exact .inl ⟨requester, acting, below⟩
  case joinChat =>
    obtain ⟨_, own, chat, opened, _, _, _, default, _⟩ := granted
    exact .inr ⟨own.symm, chat, opened, default⟩
  case joinChatByInvite =>
    obtain ⟨own, _, chat, _, _, _, _, opened, _, default, _⟩ := granted
    exact .inr ⟨own.symm, chat, opened, default⟩
  case approveJoinRequests =>
    obtain ⟨_, _, chat, requester, _, acting, permitted, rfl⟩ := granted
    refine .inl ⟨requester, acting, Nat.lt_of_lt_of_le (default_level _) ?_⟩
    exact inviter_level plain (owned.bare _ requester acting) permitted
  case createChat =>
    obtain ⟨rfl, fresh⟩ := granted
    obtain ⟨charter, known, _⟩ := owned.charter
    simp [Db.charter?, fresh] at known
  all_goals cases granted

theorem revised_over {row : ChatMember} {patch : MemberPatch}
    (plain : hasGlobalChatAdmin request.user = false)
    (found : db.member? row.chatId row.userId = some row)
    (revises : request.Revises db row patch) :
    (row.userId = request.user.id ∧ patch.roleId = none ∧ patch.bannedUntil = none) ∨
      (row.userId ≠ request.user.id ∧ ∃ actor,
        db.member? row.chatId request.user.id = some actor ∧ row.level ≤ actor.level ∧
          ∀ role, patch.roleId = some role → role.level < actor.level) := by
  obtain ⟨user, now, command⟩ := request
  have above : ∀ {must : List Permission},
      updateMember user now (db.member? row.chatId user.id) row must = true →
        row.userId ≠ user.id ∧ ∃ actor, db.member? row.chatId user.id = some actor ∧
          row.level ≤ actor.level := by
    intro must allowed
    obtain ⟨actor, acting, other, below⟩ := updateMember_ok plain allowed
    refine ⟨fun own => other ?_, actor, acting, below⟩
    rw [← own, found] at acting
    cases acting
    rfl
  cases command
  case banMember =>
    obtain ⟨⟨_, _, allowed⟩, _, rfl⟩ := revises
    obtain ⟨other, actor, acting, below⟩ := above allowed
    exact .inr ⟨other, actor, acting, below, nofun⟩
  case unbanMember =>
    obtain ⟨⟨_, _, allowed⟩, _, rfl⟩ := revises
    obtain ⟨other, actor, acting, below⟩ := above allowed
    exact .inr ⟨other, actor, acting, below, nofun⟩
  case muteMember =>
    obtain ⟨⟨_, _, allowed⟩, _, rfl⟩ := revises
    obtain ⟨other, actor, acting, below⟩ := above allowed
    exact .inr ⟨other, actor, acting, below, nofun⟩
  case unmuteMember =>
    obtain ⟨⟨_, _, allowed⟩, _, rfl⟩ := revises
    obtain ⟨other, actor, acting, below⟩ := above allowed
    exact .inr ⟨other, actor, acting, below, nofun⟩
  case changeMemberRole =>
    obtain ⟨⟨_, _, allowed⟩, role, assigned, rfl⟩ := revises
    obtain ⟨other, actor, acting, below⟩ := above allowed
    obtain ⟨requester, same, low⟩ := ensureCanAssignRole_ok plain assigned
    rw [acting] at same
    cases same
    refine .inr ⟨other, actor, acting, below, fun given stated => ?_⟩
    cases stated
    exact low
  case updateChatState =>
    obtain ⟨_, own, state, rfl⟩ := revises
    exact .inl ⟨own, rfl, rfl⟩
  all_goals cases revises

theorem expelled_over {row : ChatMember} (plain : hasGlobalChatAdmin request.user = false)
    (expels : request.Expels db row) (other : row.userId ≠ request.user.id) :
    ∃ actor, db.member? row.chatId request.user.id = some actor ∧ row.level ≤ actor.level := by
  obtain ⟨user, now, command⟩ := request
  cases command
  case kickMember =>
    obtain ⟨_, _, _, allowed⟩ := expels
    obtain ⟨actor, acting, _, below⟩ := updateMember_ok plain allowed
    exact ⟨actor, acting, below⟩
  case leaveChat => exact absurd expels.2.1 other
  all_goals cases expels

theorem expelled_own {row : ChatMember} (expels : request.Expels db row)
    (own : row.userId = request.user.id) :
    ∃ chat, db.openChat? row.chatId = some chat ∧ chat.createdBy ≠ request.user.id := by
  obtain ⟨user, now, command⟩ := request
  cases command
  case kickMember =>
    obtain ⟨_, ofUser, other, _⟩ := expels
    exact absurd (ofUser.symm.trans own) other
  case leaveChat =>
    obtain ⟨rfl, _, chat, opened, other⟩ := expels
    exact ⟨chat, opened, other⟩
  all_goals cases expels

theorem granted_role {userId : UserId} {roleId : ChatRoleId}
    (plain : hasGlobalChatAdmin request.user = false) (owned : Owned chatId horizon db owner)
    (granted : request.Grants db chatId userId roleId) : roleId ≠ .owner := by
  rcases granted_over plain owned granted with ⟨actor, _, below⟩ | ⟨_, chat, _, rfl⟩
  · exact level_lt_owner (Nat.lt_of_lt_of_le below (ChatRoleId.level_le_owner _))
  · exact level_lt_owner (Nat.lt_of_lt_of_le (default_level _) (ChatRoleId.level_le_owner _))

theorem revised_row {row : ChatMember} {patch : MemberPatch}
    (plain : hasGlobalChatAdmin request.user = false) (owned : Owned row.chatId horizon db owner)
    (found : db.member? row.chatId row.userId = some row)
    (revises : request.Revises db row patch) :
    (patch.roleId = none ∧ patch.bannedUntil = none) ∨
      (row.userId ≠ owner ∧ patch.roleId ≠ some .owner) := by
  rcases revised_over plain found revises with ⟨_, same⟩ | ⟨other, actor, acting, below, given⟩
  · exact .inl same
  · refine .inr ⟨outranked owned found acting other below, fun top => ?_⟩
    exact level_lt_owner (Nat.lt_of_lt_of_le (given _ top) (ChatRoleId.level_le_owner _)) rfl

theorem expelled_row {row : ChatMember} (plain : hasGlobalChatAdmin request.user = false)
    (owned : Owned row.chatId horizon db owner)
    (found : db.member? row.chatId row.userId = some row) (expels : request.Expels db row) :
    row.userId ≠ owner := by
  by_cases own : row.userId = request.user.id
  · obtain ⟨charter, known, rfl⟩ := owned.charter
    obtain ⟨chat, opened, other⟩ := expelled_own expels own
    rw [Db.charter_of_open opened] at known
    cases known
    rw [own]
    exact Ne.symm other
  · obtain ⟨actor, acting, below⟩ := expelled_over plain expels own
    exact outranked owned found acting own below

theorem owned_same (owned : Owned chatId horizon db owner)
    (charter : ∃ charter, final.charter? chatId = some charter ∧ charter.createdBy = owner)
    (members : ∀ userId, final.member? chatId userId = db.member? chatId userId) :
    Owned chatId horizon final owner := by
  refine ⟨charter, ?_, ?_, ?_⟩
  · simp only [members]
    exact owned.present
  · simp only [members]
    exact owned.sole
  · simp only [members]
    exact owned.bare

theorem owned_seated {target : ChatId} (plain : hasGlobalChatAdmin request.user = false)
    (owned : Owned chatId horizon db owner)
    (seated : Seated target (request.Grants db target) db final) :
    Owned chatId horizon final owner := by
  obtain ⟨charter, known, ownedBy⟩ := owned.charter
  obtain ⟨held, stored, role, unbanned⟩ := owned.present
  have roles : ∀ userId row, final.member? chatId userId = some row →
      db.member? chatId userId = some row ∨
        (row.roleId ≠ .owner ∧ row.permissionsOverrides = []) := by
    intro userId row found
    cases before : db.member? chatId userId with
    | some old =>
        rw [seated.kept _ _ _ before] at found
        exact .inl (by rw [← found])
    | none =>
        obtain ⟨rfl, granted, _, _, bare⟩ := seated.fresh _ _ _ before found
        exact .inr ⟨granted_role plain owned granted, bare⟩
  refine ⟨⟨charter, seated.charters _ _ known, ownedBy⟩,
    ⟨held, seated.kept _ _ _ stored, role, unbanned⟩, fun userId row found top => ?_,
    fun userId row found => ?_⟩
  · rcases roles userId row found with old | ⟨low, _⟩
    · exact owned.sole userId row old top
    · exact absurd top low
  · rcases roles userId row found with old | ⟨_, bare⟩
    · exact owned.bare userId row old
    · exact bare

theorem owned_amended {row : ChatMember} {patch : MemberPatch}
    (owned : Owned row.chatId horizon db owner) (amended : Amended row patch db final)
    (clear : (patch.roleId = none ∧ patch.bannedUntil = none) ∨
      (row.userId ≠ owner ∧ patch.roleId ≠ some .owner)) :
    Owned row.chatId horizon final owner := by
  obtain ⟨held, stored, role, unbanned⟩ := owned.present
  refine ⟨?_, ?_, fun userId changed found top => ?_, fun userId changed found => ?_⟩
  · rw [amended.charters]
    exact owned.charter
  · rw [amended.members]
    by_cases here : owner = row.userId
    · rw [if_pos ⟨rfl, here⟩]
      rcases clear with ⟨sameRole, sameBan⟩ | ⟨other, _⟩
      · rw [here, amended.found] at stored
        cases stored
        refine ⟨_, rfl, by simp [MemberPatch.apply, sameRole, role], ?_⟩
        simpa [ChatMember.isBanned, MemberPatch.apply, sameBan] using unbanned
      · exact absurd here.symm other
    · rw [if_neg fun same => here same.2]
      exact owned.present
  · rw [amended.members] at found
    split at found
    · rename_i here
      cases found
      rw [here.2]
      rcases clear with ⟨sameRole, _⟩ | ⟨_, low⟩
      · refine owned.sole _ row amended.found ?_
        simpa [MemberPatch.apply, sameRole] using top
      · cases given : patch.roleId with
        | none =>
            refine owned.sole _ row amended.found ?_
            simpa [MemberPatch.apply, given] using top
        | some role =>
            simp only [MemberPatch.apply, given, Option.getD_some] at top
            exact absurd (by rw [given, top]) low
    · exact owned.sole userId changed found top
  · rw [amended.members] at found
    split at found
    · cases found
      exact owned.bare _ row amended.found
    · exact owned.bare userId changed found

theorem owned_removed {row : ChatMember} (owned : Owned row.chatId horizon db owner)
    (removed : Removed row db final) (other : row.userId ≠ owner) :
    Owned row.chatId horizon final owner := by
  refine ⟨?_, ?_, fun userId kept found top => ?_, fun userId kept found => ?_⟩
  · rw [removed.charters]
    exact owned.charter
  · rw [removed.members, if_neg fun same => other same.2.symm]
    exact owned.present
  · rw [removed.members] at found
    split at found
    · cases found
    · exact owned.sole userId kept found top
  · rw [removed.members] at found
    split at found
    · cases found
    · exact owned.bare userId kept found

theorem transferred_kept {target : ChatId} {charter : Charter} {newOwner : ChatMember}
    (transferred : Transferred target charter newOwner db final) {userId : UserId}
    (new : (chatId, userId) ≠ (target, newOwner.userId))
    (previous : (chatId, userId) ≠ (target, charter.createdBy)) :
    final.member? chatId userId = db.member? chatId userId := by
  rw [transferred.members]
  cases before : db.member? chatId userId with
  | none => rfl
  | some row =>
      obtain ⟨rfl, rfl⟩ := Db.member_key before
      rw [Option.map_some, ChatMember.handed, ChatMember.key, if_neg new, if_neg previous]

theorem transferred_other {target : ChatId} {charter : Charter} {newOwner : ChatMember}
    (transferred : Transferred target charter newOwner db final) (other : chatId ≠ target)
    (userId : UserId) : final.member? chatId userId = db.member? chatId userId :=
  transferred_kept transferred (fun same => other (Prod.ext_iff.mp same).1)
    fun same => other (Prod.ext_iff.mp same).1

theorem owned_transferred {charter : Charter} {newOwner : ChatMember}
    (owned : Owned chatId horizon db owner)
    (transferred : Transferred chatId charter newOwner db final)
    (unbanned : newOwner.isBanned horizon = false) :
    Owned chatId horizon final newOwner.userId := by
  obtain ⟨held, known, ownedBy⟩ := owned.charter
  rw [transferred.found] at known
  cases known
  have inChat := (Db.member_key transferred.member).1
  refine ⟨?_, ?_, fun userId row found top => ?_, fun userId row found => ?_⟩
  · rw [transferred.charters, if_pos rfl]
    exact ⟨_, rfl, rfl⟩
  · rw [transferred.members, transferred.member]
    have here : newOwner.key = (chatId, newOwner.userId) := by rw [ChatMember.key, inChat]
    refine ⟨_, rfl, by simp [ChatMember.handed, here], ?_⟩
    simpa [ChatMember.handed, here, ChatMember.isBanned] using unbanned
  · rw [transferred.members] at found
    obtain ⟨old, before, rfl⟩ := Option.map_eq_some_iff.mp found
    obtain ⟨rfl, rfl⟩ := Db.member_key before
    unfold ChatMember.handed at top
    split at top
    · rename_i here
      exact (Prod.ext_iff.mp here).2
    · split at top
      · cases top
      · rename_i other
        refine absurd ?_ other
        rw [ChatMember.key, ownedBy, owned.sole _ old before top]
  · rw [transferred.members] at found
    obtain ⟨old, before, rfl⟩ := Option.map_eq_some_iff.mp found
    rw [← owned.bare userId old before]
    unfold ChatMember.handed
    split
    · rfl
    · split <;> rfl

theorem owned_step (effect : Effect request db final)
    (plain : hasGlobalChatAdmin request.user = false) (timely : request.now ≤ horizon)
    (owned : Owned chatId horizon db owner) : ∃ next, Owned chatId horizon final next := by
  obtain ⟨charter, known, ownedBy⟩ := owned.charter
  cases effect with
  | still members charters =>
      obtain ⟨deletedAt, kept⟩ := charters chatId charter known
      exact ⟨owner, owned_same owned ⟨_, kept, ownedBy⟩ (members chatId)⟩
  | seated target seated => exact ⟨owner, owned_seated plain owned seated⟩
  | amended row patch amended reason =>
      by_cases here : chatId = row.chatId
      · subst here
        exact ⟨owner, owned_amended owned amended (revised_row plain owned amended.found reason)⟩
      · refine ⟨owner, owned_same owned ⟨charter, ?_, ownedBy⟩ fun userId => ?_⟩
        · rw [amended.charters, known]
        · rw [amended.members, if_neg fun same => here same.1]
  | removed row removed reason =>
      by_cases here : chatId = row.chatId
      · subst here
        exact ⟨owner, owned_removed owned removed (expelled_row plain owned removed.found reason)⟩
      · refine ⟨owner, owned_same owned ⟨charter, ?_, ownedBy⟩ fun userId => ?_⟩
        · rw [removed.charters, known]
        · rw [removed.members, if_neg fun same => here same.1]
  | transferred target held newOwner transferred reason =>
      by_cases here : chatId = target
      · subst here
        obtain ⟨_, _, _, _, _, _, unbanned⟩ := reason
        exact ⟨_, owned_transferred owned transferred (ChatMember.isBanned_later timely unbanned)⟩
      · refine ⟨owner, owned_same owned ⟨charter, ?_, ownedBy⟩ fun userId => ?_⟩
        · rw [transferred.charters, if_neg here, known]
        · exact transferred_other transferred here userId

theorem handsOver_owner {charter : Charter} {newOwner : ChatMember}
    (plain : hasGlobalChatAdmin request.user = false) (owned : Owned chatId horizon db owner)
    (reason : request.HandsOver db chatId charter newOwner) :
    request.user.id = charter.createdBy ∧ ∃ actor,
      db.member? chatId request.user.id = some actor ∧ actor.roleId = .owner := by
  obtain ⟨chat, _, opened, rfl, allowed, _⟩ := reason
  obtain ⟨held, known, ownedBy⟩ := owned.charter
  rw [Db.charter_of_open opened] at known
  cases known
  obtain ⟨row, stored, role, _⟩ := owned.present
  cases acting : db.member? chatId request.user.id with
  | none => simp [canTransferOwnership, plain, acting] at allowed
  | some actor =>
      simp only [canTransferOwnership, plain, acting, Bool.false_or, Bool.and_eq_true,
        beq_iff_eq] at allowed
      have own : request.user.id = chat.createdBy := by
        rw [← (Db.member_key acting).2, allowed.2]
      refine ⟨own, actor, rfl, ?_⟩
      rw [← ownedBy, Chat.charter, ← own, acting] at stored
      cases stored
      exact role

theorem entitled_same
    (members : ∀ userId, final.member? chatId userId = db.member? chatId userId) :
    Entitled request chatId db final := by
  refine ⟨fun userId _ changed => absurd (members userId) changed, fun new found given => ?_⟩
  rw [← members, found] at given
  exact absurd rfl given

theorem entitled_seated {target : ChatId} (plain : hasGlobalChatAdmin request.user = false)
    (owned : Owned chatId horizon db owner)
    (seated : Seated target (request.Grants db target) db final) :
    Entitled request chatId db final := by
  refine ⟨fun userId other changed => ?_, fun new found given => ?_⟩
  · cases before : db.member? chatId userId with
    | some old => exact absurd ((seated.kept _ _ _ before).trans before.symm) changed
    | none =>
        rw [before] at changed
        obtain ⟨row, after⟩ := Option.ne_none_iff_exists'.mp changed
        obtain ⟨rfl, granted, _⟩ := seated.fresh _ _ _ before after
        rcases granted_over plain owned granted with ⟨actor, acting, below⟩ | ⟨own, _⟩
        · refine ⟨actor, acting, by rintro _ ⟨⟩, fun new found _ => .inl ?_⟩
          rw [after] at found
          cases found
          exact below
        · exact absurd own other
  · cases before : db.member? chatId request.user.id with
    | some old =>
        rw [seated.kept _ _ _ before] at found
        cases found
        rw [before] at given
        exact absurd rfl given
    | none =>
        obtain ⟨rfl, granted, _⟩ := seated.fresh _ _ _ before found
        rcases granted_over plain owned granted with ⟨actor, acting, _⟩ | ⟨_, joined⟩
        · rw [before] at acting
          cases acting
        · exact .inl ⟨rfl, joined⟩

theorem entitled_amended {row : ChatMember} {patch : MemberPatch}
    (plain : hasGlobalChatAdmin request.user = false) (amended : Amended row patch db final)
    (reason : request.Revises db row patch) : Entitled request chatId db final := by
  have above := revised_over plain amended.found reason
  refine ⟨fun userId other changed => ?_, fun new found given => ?_⟩
  · rw [amended.members] at changed ⊢
    split at changed
    · rename_i here
      obtain ⟨rfl, rfl⟩ := here
      rcases above with ⟨own, _⟩ | ⟨_, actor, acting, below, lower⟩
      · exact absurd own other
      · rw [if_pos ⟨rfl, rfl⟩, amended.found]
        refine ⟨actor, acting, fun old same => ?_, fun new found given => .inl ?_⟩
        · cases same
          exact below
        · cases found
          cases role : patch.roleId with
          | none => simp [MemberPatch.apply, role] at given
          | some higher =>
              have level := lower higher role
              simpa [ChatMember.level, MemberPatch.apply, role] using level
    · exact absurd rfl changed
  · rw [amended.members] at found
    split at found
    · rename_i here
      obtain ⟨rfl, own⟩ := here
      rcases above with ⟨_, same, _⟩ | ⟨other, _⟩
      · cases found
        rw [own, amended.found] at given
        simp [MemberPatch.apply, same] at given
      · exact absurd own.symm other
    · rw [found] at given
      exact absurd rfl given

theorem entitled_removed {row : ChatMember} (plain : hasGlobalChatAdmin request.user = false)
    (removed : Removed row db final) (reason : request.Expels db row) :
    Entitled request chatId db final := by
  refine ⟨fun userId other changed => ?_, fun new found given => ?_⟩
  · rw [removed.members] at changed ⊢
    split at changed
    · rename_i here
      obtain ⟨rfl, rfl⟩ := here
      obtain ⟨actor, acting, below⟩ := expelled_over plain reason other
      rw [if_pos ⟨rfl, rfl⟩, removed.found]
      refine ⟨actor, acting, fun old same => ?_, by rintro _ ⟨⟩⟩
      cases same
      exact below
    · exact absurd rfl changed
  · rw [removed.members] at found
    split at found
    · cases found
    · rw [found] at given
      exact absurd rfl given

theorem entitled_transferred {charter : Charter} {newOwner : ChatMember}
    (plain : hasGlobalChatAdmin request.user = false) (owned : Owned chatId horizon db owner)
    (transferred : Transferred chatId charter newOwner db final)
    (reason : request.HandsOver db chatId charter newOwner) :
    Entitled request chatId db final := by
  obtain ⟨own, actor, acting, top⟩ := handsOver_owner plain owned reason
  obtain ⟨_, command, _⟩ := reason
  refine ⟨fun userId other changed => ?_, fun _ _ _ => .inr ⟨_, command⟩⟩
  refine ⟨actor, acting, fun old _ => ?_, fun _ _ _ => .inr ?_⟩
  · rw [ChatMember.level, ChatMember.level, top]
    exact ChatRoleId.level_le_owner _
  · rw [command]
    refine congrArg _ (Classical.byContradiction fun different => changed ?_)
    refine transferred_kept transferred (fun same => ?_) fun same => ?_
    · exact different (Prod.ext_iff.mp same).2.symm
    · exact other ((Prod.ext_iff.mp same).2.trans own.symm)

theorem entitled_step (effect : Effect request db final)
    (plain : hasGlobalChatAdmin request.user = false) (owned : Owned chatId horizon db owner) :
    Entitled request chatId db final := by
  cases effect with
  | still members charters => exact entitled_same (members chatId)
  | seated target seated => exact entitled_seated plain owned seated
  | amended row patch amended reason => exact entitled_amended plain amended reason
  | removed row removed reason => exact entitled_removed plain removed reason
  | transferred target held newOwner transferred reason =>
      by_cases here : chatId = target
      · subst here
        exact entitled_transferred plain owned transferred reason
      · exact entitled_same fun userId => transferred_other transferred here userId

end Steps

theorem initialRoles_owner {type : ChatType} (grouped : type ≠ .direct) (createdBy : UserId)
    (memberIds : List UserId) : ∃ role, role ≠ ChatRoleId.owner ∧
      initialRoles type createdBy memberIds = (createdBy, .owner) :: memberIds.map (·, role) := by
  cases type with
  | direct => exact absurd rfl grouped
  | group => exact ⟨.member, nofun, rfl⟩
  | supergroup => exact ⟨.member, nofun, rfl⟩
  | channel => exact ⟨.viewer, nofun, rfl⟩

theorem owned_of_seated {chatId : ChatId} {charter : Charter} {owner : UserId} {start final : Db}
    (horizon : Nat) (empty : ∀ userId, start.member? chatId userId = none)
    (known : start.charter? chatId = some charter) (ownedBy : charter.createdBy = owner)
    (present : ∃ row, final.member? chatId owner = some row ∧ row.roleId = .owner)
    (seated : Seated chatId (fun userId given => given = .owner → userId = owner) start final) :
    Owned chatId horizon final owner := by
  obtain ⟨row, stored, top⟩ := present
  refine ⟨⟨charter, seated.charters _ _ known, ownedBy⟩, ⟨row, stored, top, ?_⟩,
    fun userId other found owner => ?_, fun userId other found => ?_⟩
  · obtain ⟨_, _, free, _⟩ := seated.fresh _ _ _ (empty _) stored
    rw [ChatMember.isBanned, free]
  · exact (seated.fresh _ _ _ (empty _) found).2.1 owner
  · exact (seated.fresh _ _ _ (empty _) found).2.2.2.2

theorem saveChat_owned {user : UserJWTData} {new : NewChat} {chatId : ChatId} {db : Db}
    {created : CreatedChat} (horizon : Nat) (grouped : new.chatType ≠ .direct)
    (linked : ∀ userId row, db.member? chatId userId = some row → (db.chat? chatId).isSome)
    (built : Chat.create user.id new chatId = .ok created) :
    (saveChat created user.id).Ends db db fun _ final => Owned chatId horizon final user.id := by
  obtain ⟨sameId, ownedBy, _, _, roles⟩ := Chat.create_ok built
  obtain ⟨role, low, listed⟩ := initialRoles_owner grouped user.id (new.memberIds.erase user.id)
  unfold saveChat insertChat
  simp only [Tx.bind_eq, Tx.pure_eq, sameId]
  refine Tx.ends_statement fun _ answered => ?_
  split at answered
  · cases answered
  rename_i free
  have absent : db.chat? chatId = none := by simpa using free
  rw [if_neg free]
  have empty : ∀ userId, (Db.apply (.insertChat created.chat) db).member? chatId userId = none := by
    intro userId
    rw [Db.member_apply db _ _ _ rfl]
    cases stored : db.member? chatId userId with
    | none => rfl
    | some row => simpa [absent] using linked userId row stored
  have charter : (Db.apply (.insertChat created.chat) db).charter? chatId =
      some created.chat.charter := by
    rw [Db.chat?] at absent
    simp [Db.charter?, Db.chat?, Db.apply, Table.find?_insert, absent, sameId]
  rw [roles, listed, Tx.each, Tx.bind_assoc]
  refine ends_insertMember ?_
  refine Tx.ends_each (fun seen =>
      (∃ row, seen.member? chatId user.id = some row ∧ row.roleId = .owner) ∧
      Seated chatId (fun userId given => given = .owner → userId = user.id)
        (Db.apply (.insertChat created.chat) db) seen)
    (fun seen inside => ?_) _ (fun entry member seen next inside onwards => ?_) _ ⟨?_, ?_⟩
  · refine ends_publish fun final last => Tx.ends_commit ?_
    refine owned_of_seated horizon empty charter ownedBy ?_
      (seated_trans inside.2 (seated_of_alike last))
    rw [last.members]
    exact inside.1
  · obtain ⟨userId, _, rfl⟩ := List.mem_map.mp member
    have added : Seated chatId (fun userId given => given = .owner → userId = user.id) seen
        (Db.apply (.insertMember chatId userId role) seen) :=
      seated_insert fun top => absurd top low
    obtain ⟨⟨row, stored, top⟩, seated⟩ := inside
    refine ends_insertMember (onwards _ ⟨⟨row, added.kept _ _ _ stored, top⟩, ?_⟩)
    exact seated_trans seated added
  · rw [Db.member_insertMember, applyAll_cons, applyAll_nil, Db.apply_eq, empty, Option.none_or,
      if_pos ⟨rfl, rfl⟩]
    exact ⟨_, rfl, rfl⟩
  · exact seated_insert fun _ => rfl

theorem createChat_owned {user : UserJWTData} {new : NewChat} {chatId : ChatId} {db : Db}
    (horizon : Nat) (grouped : new.chatType ≠ .direct)
    (linked : ∀ userId row, db.member? chatId userId = some row → (db.chat? chatId).isSome) :
    (createChat user new chatId).Ends db db fun _ final => Owned chatId horizon final user.id := by
  unfold createChat
  simp only [Tx.bind_eq, Tx.pure_eq]
  refine Tx.ends_ofExcept fun created built => ?_
  have saved := saveChat_owned horizon grouped linked built
  have type := (Chat.create_ok built).2.2.1
  split
  · rename_i direct _
    exact absurd (type.symm.trans direct) grouped
  · exact Tx.ends_statement fun _ _ => saved

/-- In every serial run after the creation of a group, supergroup or channel, by users without
the global permission, the one owner is `created_by` and is not banned once all clock readings
lie behind; and whatever the next command changes, its actor was entitled to change. -/
theorem sole_owner_in_run (creator : UserJWTData) (createdAt horizon : Nat) (new : NewChat)
    (chatId : ChatId) (db after final : Db) (reply : Reply) (grouped : new.chatType ≠ .direct)
    (linked : ∀ userId row, db.member? chatId userId = some row → (db.chat? chatId).isSome)
    (founded : perform ⟨creator, createdAt, .createChat new chatId⟩ db = (.ok reply, after))
    (run : Reaches (fun _ request => hasGlobalChatAdmin request.user = false ∧
      request.now ≤ horizon) after final) :
    (∃ chat, final.chat? chatId = some chat ∧
      (∃ row, final.member? chatId chat.createdBy = some row ∧ row.roleId = .owner ∧
        row.isBanned horizon = false) ∧
      ∀ userId row, final.member? chatId userId = some row → row.roleId = .owner →
        userId = chat.createdBy) ∧
    ∀ request, hasGlobalChatAdmin request.user = false →
      Entitled request chatId final (perform request final).2 := by
  have start : ∃ owner, Owned chatId horizon after owner := by
    have created : (createChat creator new chatId).Ends db db fun _ final =>
        Owned chatId horizon final creator.id := createChat_owned horizon grouped linked
    obtain ⟨_, owned⟩ := Tx.ends_ok (Tx.ends_answered created) founded
    exact ⟨creator.id, owned⟩
  have reached := reaches_invariant (fun seen => ∃ owner, Owned chatId horizon seen owner) start
    (fun seen request met inside => by
      obtain ⟨owner, owned⟩ := inside
      exact owned_step (perform_effect request seen) met.1 met.2 owned) run
  obtain ⟨owner, owned⟩ := reached
  refine ⟨?_, fun request plain => entitled_step (perform_effect request final) plain owned⟩
  obtain ⟨charter, known, rfl⟩ := owned.charter
  obtain ⟨chat, stored, rfl⟩ := Option.map_eq_some_iff.mp known
  exact ⟨chat, stored, owned.present, owned.sole⟩

def groupByOne : Request :=
  ⟨{ id := 1 }, 0, .createChat { chatType := .group, memberIds := [2, 3] } 7⟩

def transferToTwo : Request := ⟨{ id := 1 }, 5, .transferChatOwnership 7 2⟩

/-- After a creation and a transfer the second user is the owner. -/
theorem sole_owner_after_transfer :
    ∃ chat, (perform transferToTwo (perform groupByOne {}).2).2.chat? 7 = some chat ∧
      chat.createdBy = 2 ∧ ∃ row,
        (perform transferToTwo (perform groupByOne {}).2).2.member? 7 2 = some row ∧
          row.roleId = .owner ∧ row.isBanned 5 = false := by
  have fine : (perform groupByOne {}).1.isOk = true := by decide +kernel
  obtain ⟨reply, founded⟩ := perform_ok fine
  have run : Reaches (fun _ request => hasGlobalChatAdmin request.user = false ∧ request.now ≤ 5)
      (perform groupByOne {}).2 (perform transferToTwo (perform groupByOne {}).2).2 :=
    .step .refl ⟨by decide, by decide⟩
  obtain ⟨⟨chat, stored, present, _⟩, _⟩ := sole_owner_in_run { id := 1 } 0 5
    { chatType := .group, memberIds := [2, 3] } 7 {} _ _ reply (by decide) (by rintro _ _ ⟨⟩) founded run
  have second : ((perform transferToTwo (perform groupByOne {}).2).2.chat? 7).map
      (·.createdBy) = some 2 := by decide +kernel
  rw [stored, Option.map_some, Option.some.injEq] at second
  refine ⟨chat, stored, second, ?_⟩
  rw [second] at present
  exact present

end Messanger
