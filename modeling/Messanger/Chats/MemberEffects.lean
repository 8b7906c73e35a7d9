import Messanger.Chats.Effects

/-!
The effect of each handler that touches membership rows or owners, executed alone, and
`perform_effect`, which collects them for every request.
-/

namespace Messanger

open Relational

section Rules

variable {Result : Type} {committed seen : Db} {Post : Result → Db → Prop}

theorem ends_reserveSeats {chat : Chat} {count : Nat} {rest : Unit → Handler Result}
    (next : ∀ reserved, Alike seen reserved →
      (seen.shiftable? chat.id count (some (Chat.memberLimit chat.type))).isSome →
      (rest ()).Ends committed reserved Post) :
    ((reserveSeats chat count).bind rest).Ends committed seen Post := by
  simp only [reserveSeats, shiftMemberCount, Tx.bind_eq, Tx.bind_assoc]
  refine Tx.ends_statement fun shifted answered => Tx.ends_require fun room => ?_
  cases answered
  rw [Option.isSome_map] at room
  refine next _ (alike_applyAll _ _ fun write member => ?_) room
  rw [if_pos room, List.mem_singleton] at member
  rw [member]
  exact ⟨rfl, rfl⟩

theorem ends_incidental {Answer : Type} {locks : Db → List RowKey} {writes : Db → List Write}
    {answer : Db → Except ChatError Answer} {rest : Answer → Handler Result}
    (incidental : ∀ write ∈ writes seen, Incidental write)
    (next : ∀ result after, answer seen = .ok result → Alike seen after →
      (rest result).Ends committed after Post) :
    ((Tx.statement locks writes answer).bind rest).Ends committed seen Post :=
  Tx.ends_statement fun result answered =>
    next result _ answered (alike_applyAll _ _ incidental)

theorem ends_insertRow {key : RowKey} {taken : Db → Bool} {write : Write}
    {rest : Unit → Handler Result} (incidental : Incidental write)
    (next : ∀ after, Alike seen after → (rest ()).Ends committed after Post) :
    ((insertRow key taken write).bind rest).Ends committed seen Post := by
  refine ends_incidental (fun other member => ?_) fun _ after _ alike => next after alike
  split at member
  · cases member
  · rwa [List.mem_singleton.mp member]

theorem ends_updateRow {key : RowKey} {present : Db → Bool} {write : Write}
    {rest : Unit → Handler Result} (incidental : Incidental write)
    (next : ∀ after, Alike seen after → (rest ()).Ends committed after Post) :
    ((updateRow key present write).bind rest).Ends committed seen Post := by
  refine ends_incidental (fun other member => ?_) fun _ after _ alike => next after alike
  split at member
  · rwa [List.mem_singleton.mp member]
  · cases member

theorem ends_flushJoinRequest {loaded request : ChatJoinRequest} {rest : Unit → Handler Result}
    (next : ∀ after, Alike seen after → (rest ()).Ends committed after Post) :
    ((flushJoinRequest loaded request).bind rest).Ends committed seen Post := by
  refine ends_incidental (fun write member => ?_) fun _ after _ alike => next after alike
  obtain ⟨_, _, rfl⟩ := List.mem_map.mp (Option.toList_map .. ▸ member)
  exact ⟨rfl, rfl⟩

theorem ends_publish {events : List ChatEvent} {rest : Unit → Handler Result}
    (next : ∀ after, Alike seen after → (rest ()).Ends committed after Post) :
    ((publish events).bind rest).Ends committed seen Post := by
  refine ends_incidental (fun write member => ?_) fun _ after _ alike => next after alike
  rw [List.mem_singleton.mp member]
  exact ⟨rfl, rfl⟩

theorem ends_insertMember {chatId : ChatId} {roleId : ChatRoleId} {userId : UserId}
    {rest : Unit → Handler Result}
    (next : (rest ()).Ends committed (Db.apply (.insertMember chatId userId roleId) seen) Post) :
    ((insertMember chatId roleId userId).bind rest).Ends committed seen Post := by
  refine Tx.ends_statement fun _ answered => ?_
  split at answered
  · cases answered
  · rename_i free
    rw [if_neg free]
    exact next

theorem ends_patchMember {patch : MemberPatch} {row : ChatMember} {rest : Unit → Handler Result}
    (next : (rest ()).Ends committed
      (Db.apply (.patchMember row.chatId row.userId row.id patch) seen) Post) :
    ((patchMember patch row).bind rest).Ends committed seen Post := by
  refine Tx.ends_statement fun _ answered => ?_
  split at answered
  · rename_i present
    rw [if_pos present]
    exact next
  · cases answered

theorem ends_patchChat {chatId : ChatId} {patch : ChatPatch} {rest : Unit → Handler Result}
    (next : (rest ()).Ends committed (Db.apply (.patchChat chatId patch) seen) Post) :
    ((patchChat chatId patch).bind rest).Ends committed seen Post := by
  refine Tx.ends_statement fun _ answered => ?_
  split at answered
  · rename_i present
    rw [if_pos present]
    exact next
  · cases answered

theorem ends_flushChat {chatId : ChatId} {patch : ChatPatch} {rest : Unit → Handler Result}
    (next : (rest ()).Ends committed (Db.apply (.patchChat chatId patch) seen) Post) :
    ((flushChat chatId patch).bind rest).Ends committed seen Post := by
  unfold flushChat
  split
  · rename_i unchanged
    have same : Db.apply (.patchChat chatId {}) seen = seen :=
      Db.updateChat_self seen chatId _ fun _ => rfl
    rw [unchanged, same] at next
    exact next
  · exact ends_patchChat next

end Rules

section Handlers

variable (user : UserJWTData) (now : Nat) (db : Db)

theorem submitJoinRequest_ends (chat : Chat) (userId : UserId) (inviteLinkId : Option InviteId) :
    (submitJoinRequest now chat userId inviteLinkId).Ends db db fun _ final => Alike db final := by
  unfold submitJoinRequest
  simp only [Tx.bind_eq, Tx.pure_eq]
  refine Tx.ends_read (Tx.ends_require fun _ => Tx.ends_require fun _ => ?_)
  refine Tx.ends_read (Tx.ends_require fun _ => Tx.ends_read ?_)
  cases db.joinRequests.find? (chat.id, userId) with
  | some existing =>
      refine Tx.ends_ofExcept fun renewed _ => ?_
      refine ends_flushJoinRequest fun _ first => ends_publish fun _ second => ?_
      exact Tx.ends_commit (alike_trans first second)
  | none =>
      refine ends_insertRow ⟨rfl, rfl⟩ fun _ first => ends_publish fun _ second => ?_
      exact Tx.ends_commit (alike_trans first second)

theorem addMember_ends (chatId : ChatId) (target : UserId) (roleId : Nat) :
    (addMember user now chatId target roleId).Ends db db fun _ final =>
      Effect ⟨user, now, .addMember chatId target roleId⟩ db final := by
  unfold addMember
  simp only [Tx.bind_eq, Tx.pure_eq]
  refine Tx.ends_statement fun found answered => Tx.ends_require fun permitted => ?_
  refine Tx.ends_ofExcept fun role assigned => ?_
  refine Tx.ends_read (Tx.ends_require fun absent => Tx.ends_statement fun _ _ => ?_)
  obtain ⟨chatFound, memberFound⟩ := Db.chatAndMember_ok answered
  have inChat := Db.openChat_id chatFound
  refine ends_reserveSeats fun reserved first _ => ends_insertMember ?_
  refine ends_publish fun _ last => Tx.ends_commit (.seated chatId ?_)
  refine seated_trans (seated_of_alike first) (seated_trans ?_ (seated_of_alike last))
  rw [inChat]
  exact seated_insert ⟨rfl, rfl, found.member, memberFound, permitted, assigned⟩

theorem seat_ends {Result : Type} {chat : Chat} {userId : UserId} {event : ChatEvent}
    {result : Unit → Result} {Granted : UserId → ChatRoleId → Prop} {seen : Db}
    (before : Alike db seen)
    (granted : (seen.shiftable? chat.id 1 (some (Chat.memberLimit chat.type))).isSome →
      Granted userId (Chat.defaultMemberRole chat.type)) :
    ((reserveSeats chat 1).bind fun _ =>
      (insertMember chat.id (Chat.defaultMemberRole chat.type) userId).bind fun _ =>
        (publish [event]).bind fun _ => (Tx.commitNow : Handler Unit).bind fun ended =>
          .done (result ended)).Ends db seen fun _ final => Seated chat.id Granted db final := by
  refine ends_reserveSeats fun reserved first room => ends_insertMember ?_
  refine ends_publish fun _ last => Tx.ends_commit ?_
  refine seated_trans (seated_of_alike (alike_trans before first)) ?_
  exact seated_trans (seated_insert (granted room)) (seated_of_alike last)

theorem joinChat_ends (chatId : ChatId) :
    (joinChat user now chatId).Ends db db fun _ final =>
      Effect ⟨user, now, .joinChat chatId⟩ db final := by
  unfold joinChat
  simp only [Tx.bind_eq, Tx.pure_eq]
  refine Tx.ends_read (Tx.ends_orRaise fun chat found => Tx.ends_require fun listed => ?_)
  have inChat := Db.openChat_id found
  split
  · refine Tx.ends_mono (submitJoinRequest_ends now db chat user.id none) ?_
    exact fun _ _ alike => effect_alike alike
  · rename_i direct
    refine Tx.ends_read (Tx.ends_require fun _ => ?_)
    refine Tx.ends_mono (seat_ends db (alike_refl db) fun room => ?_)
      fun _ _ seated => .seated chat.id seated
    simp only [Bool.and_eq_true, bne_iff_ne, ne_eq] at listed
    refine ⟨inChat.symm, rfl, chat, inChat ▸ found, listed.2, by simpa using direct, listed.1, rfl,
      room⟩

theorem ends_consumeLink {Result : Type} {Post : Result → Db → Prop} {committed seen : Db}
    {invite : ChatInviteLink} {rest : Unit → Handler Result}
    (next : ∀ after, Alike seen after → after.chats = seen.chats →
      (rest ()).Ends committed after Post) :
    ((consumeLink now invite).bind rest).Ends committed seen Post := by
  simp only [consumeLink, consume, Tx.bind_eq, Tx.pure_eq, Tx.bind_assoc]
  refine Tx.ends_statement fun consumed _ => ?_
  cases consumed with
  | none => exact Tx.ends_read Tx.ends_raise
  | some _ =>
      by_cases live : (seen.consumable? invite.id now).isSome
      · rw [if_pos live]
        exact next _ (alike_apply seen (.addUsage invite.id 1) ⟨rfl, rfl⟩) rfl
      · rw [if_neg live]
        exact next seen (alike_refl seen) rfl

theorem joinChatByInvite_ends (code : String) :
    (joinChatByInvite user now code).Ends db db fun _ final =>
      Effect ⟨user, now, .joinChatByInvite code⟩ db final := by
  unfold joinChatByInvite
  simp only [Tx.bind_eq, Tx.pure_eq]
  refine Tx.ends_read (Tx.ends_orRaise fun invite link => Tx.ends_require fun active => ?_)
  refine Tx.ends_read (Tx.ends_orRaise fun chat found => Tx.ends_require fun grouped => ?_)
  have inChat := Db.openChat_id found
  split
  · refine Tx.ends_mono (submitJoinRequest_ends now db chat user.id (some invite.id)) ?_
    exact fun _ _ alike => effect_alike alike
  · rename_i direct
    refine Tx.ends_read (Tx.ends_require fun _ => Tx.ends_require fun _ => ?_)
    refine ends_consumeLink now fun after alike sameChats => ?_
    refine Tx.ends_mono (seat_ends db alike fun room => ?_) fun _ _ seated => .seated chat.id seated
    refine ⟨rfl, invite, chat, link, inChat.symm, by simpa using direct, by simpa using active,
      inChat ▸ found, by simpa using grouped, rfl, ?_⟩
    simpa only [Db.shiftable?, Db.openChat?, Db.chat?, sameChats] using room

theorem ends_admitRequests {Result : Type} {Post : Result → Db → Prop} {committed seen : Db}
    {chat : Chat} {toAdd : List ChatJoinRequest} {rest : Unit → Handler Result}
    (next : ∀ after, Alike seen after → (rest ()).Ends committed after Post) :
    ((admitRequests chat toAdd).bind rest).Ends committed seen Post := by
  unfold admitRequests
  split
  · exact next seen (alike_refl seen)
  · simp only [Tx.bind_eq, Tx.bind_assoc]
    refine ends_reserveSeats fun reserved first _ => ?_
    refine ends_incidental (fun write member => ?_) fun _ after _ last =>
      next after (alike_trans first last)
    obtain ⟨entry, _, rfl⟩ := List.mem_map.mp member
    exact ⟨rfl, rfl⟩

theorem approveJoinRequests_ends (chatId : ChatId) (userIds : List UserId) :
    (approveJoinRequests user now chatId userIds).Ends db db fun _ final =>
      Effect ⟨user, now, .approveJoinRequests chatId userIds⟩ db final := by
  unfold approveJoinRequests
  simp only [Tx.bind_eq, Tx.pure_eq]
  refine Tx.ends_statement fun found answered => Tx.ends_require fun permitted => ?_
  refine Tx.ends_statement fun pending listed => Tx.ends_read ?_
  cases listed
  obtain ⟨chatFound, memberFound⟩ := Db.chatAndMember_ok answered
  have inChat := Db.openChat_id chatFound
  have grants : ∀ request ∈ db.pendingFor found.chat.id userIds.eraseDups,
      Request.Grants ⟨user, now, .approveJoinRequests chatId userIds⟩ db chatId request.userId
        (Chat.defaultMemberRole found.chat.type) := by
    intro request member
    exact ⟨rfl, List.mem_eraseDups.mp (Db.pendingFor_wanted member), found.chat, found.member,
      chatFound, memberFound, permitted, rfl⟩
  refine ends_admitRequests fun admitted first => ?_
  refine Tx.ends_each (fun seen => Alike db seen) (fun resolved between => ?_) _
    (fun request _ seen next alike onwards => ?_) admitted first
  · refine Tx.ends_each (Seated chatId (Request.Grants
      ⟨user, now, .approveJoinRequests chatId userIds⟩ db chatId) db) (fun seen seated => ?_) _
      (fun request member seen next seated onwards => ?_) resolved (seated_of_alike between)
    · refine ends_publish fun _ last => Tx.ends_commit (.seated chatId ?_)
      exact seated_trans seated (seated_of_alike last)
    · rw [inChat]
      refine ends_insertMember (onwards _ (seated_trans seated (seated_insert ?_)))
      exact grants request (List.mem_of_mem_filter (List.mem_of_mem_filter member))
  · exact ends_updateRow ⟨rfl, rfl⟩ fun after last => onwards after (alike_trans alike last)

theorem removal_ends {Result : Type} {chatId : ChatId} {row : ChatMember} {event : ChatEvent}
    {result : Unit → Result} (found : db.member? row.chatId row.userId = some row) :
    ((shiftMemberCount chatId (-1) none).bind fun _ => (deleteMember row).bind fun _ =>
      (publish [event]).bind fun _ => (Tx.commitNow : Handler Unit).bind fun ended =>
        .done (result ended)).Ends db db fun _ final => Removed row db final := by
  refine ends_incidental (fun write member => ?_) fun _ shifted _ first => ?_
  · split at member
    · rw [List.mem_singleton.mp member]
      exact ⟨rfl, rfl⟩
    · cases member
  · refine Tx.ends_statement fun _ _ => ends_publish fun _ last => Tx.ends_commit ?_
    refine removed_alike first (removed_then (removed_delete ?_) last)
    rw [first.members, found]

theorem kickMember_ends (chatId : ChatId) (target : UserId) :
    (kickMember user now chatId target).Ends db db fun _ final =>
      Effect ⟨user, now, .kickMember chatId target⟩ db final := by
  unfold kickMember
  simp only [Tx.bind_eq, Tx.pure_eq]
  refine Tx.ends_read (Tx.ends_orRaise fun chat _ => Tx.ends_read (Tx.ends_read ?_))
  refine Tx.ends_orRaise fun row found => Tx.ends_require fun allowed => ?_
  refine Tx.ends_require fun other => ?_
  obtain ⟨rfl, rfl⟩ := Db.member_key found
  refine Tx.ends_mono (removal_ends db found) fun _ _ removed => .removed row removed ?_
  exact ⟨rfl, rfl, by simpa using other, allowed⟩

theorem leaveChat_ends (chatId : ChatId) :
    (leaveChat user chatId).Ends db db fun _ final =>
      Effect ⟨user, now, .leaveChat chatId⟩ db final := by
  unfold leaveChat
  simp only [Tx.bind_eq, Tx.pure_eq]
  refine Tx.ends_read (Tx.ends_orRaise fun chat chatFound => Tx.ends_read ?_)
  refine Tx.ends_orRaise fun row found => Tx.ends_require fun other => ?_
  obtain ⟨inChat, ofUser⟩ := Db.member_key found
  refine Tx.ends_mono (removal_ends db (by rw [inChat, ofUser, found])) fun _ _ removed => ?_
  exact .removed row removed ⟨inChat, ofUser, chat, chatFound, by simpa using other⟩

theorem ends_moderated {Result : Type} {Post : Result → Db → Prop} {chatId : ChatId}
    {target : UserId} {must : Permission} {rest : ModerationTarget → Handler Result}
    (next : ∀ chat row, db.openChat? chatId = some chat → db.member? chatId target = some row →
      updateMember user now (db.member? chatId user.id) row [must] = true →
      (rest ⟨chat, row⟩).Ends db db Post) :
    ((moderated user now chatId target must).bind rest).Ends db db Post := by
  simp only [moderated, Tx.bind_eq, Tx.pure_eq, Tx.bind_assoc]
  refine Tx.ends_read (Tx.ends_orRaise fun chat chatFound => Tx.ends_read (Tx.ends_read ?_))
  refine Tx.ends_orRaise fun row found => Tx.ends_require fun allowed => ?_
  exact next chat row chatFound found allowed

theorem ends_flushBannedUntil {Result : Type} {Post : Result → Db → Prop} {row : ChatMember}
    {banned : Option Nat} {rest : Unit → Handler Result}
    (found : db.member? row.chatId row.userId = some row)
    (next : ∀ after, Amended row { bannedUntil := some banned } db after →
      (rest ()).Ends db after Post) :
    ((flushBannedUntil row banned).bind rest).Ends db db Post := by
  unfold flushBannedUntil
  split
  · rename_i same
    refine next db (amended_unchanged found ?_)
    simp [MemberPatch.apply, ← same]
  · exact ends_patchMember (next _ (amended_patch found))

theorem ban_ends {row : ChatMember} {banned : Option Nat} {event : ChatEvent}
    (found : db.member? row.chatId row.userId = some row) :
    ((flushBannedUntil row banned).bind fun _ => (insertBanRecord row).bind fun _ =>
      (publish [event]).bind fun _ => (Tx.commitNow : Handler Unit).bind fun ended =>
        .done ended).Ends db db fun _ final =>
          Amended row { bannedUntil := some banned } db final := by
  refine ends_flushBannedUntil db found fun _ amended => Tx.ends_statement fun _ _ => ?_
  exact ends_publish fun _ last => Tx.ends_commit (amended_alike amended last)

theorem banMember_ends (chatId : ChatId) (target : UserId) (bannedUntil : Option Nat) :
    (banMember user now chatId target bannedUntil).Ends db db fun _ final =>
      ∃ row, db.member? chatId target = some row ∧ (db.chat? chatId).isSome ∧
        Amended row { bannedUntil := some (restrictedUntil now bannedUntil) } db final ∧
        Request.Revises ⟨user, now, .banMember chatId target bannedUntil⟩ db row
          { bannedUntil := some (restrictedUntil now bannedUntil) } := by
  unfold banMember
  simp only [Tx.bind_eq, Tx.pure_eq]
  refine ends_moderated user now db fun chat row chatFound found allowed => ?_
  refine Tx.ends_require fun other => ?_
  obtain ⟨rfl, rfl⟩ := Db.member_key found
  refine Tx.ends_mono (ban_ends db found) fun _ final amended => ?_
  refine ⟨row, found, Db.chat_of_open chatFound, amended, ⟨rfl, rfl, allowed⟩, ?_, rfl⟩
  simpa using other

theorem unbanMember_ends (chatId : ChatId) (target : UserId) :
    (unbanMember user now chatId target).Ends db db fun _ final =>
      Effect ⟨user, now, .unbanMember chatId target⟩ db final := by
  unfold unbanMember
  simp only [Tx.bind_eq, Tx.pure_eq]
  refine ends_moderated user now db fun chat row chatFound found allowed => ?_
  split
  · exact Tx.ends_done (effect_alike (alike_refl db))
  · refine Tx.ends_require fun other => ?_
    obtain ⟨rfl, rfl⟩ := Db.member_key found
    refine Tx.ends_mono (ban_ends db found) fun _ _ amended => .amended row _ amended ?_
    exact ⟨⟨rfl, rfl, allowed⟩, by simpa using other, rfl⟩

theorem mute_ends {row : ChatMember} {muted : Option Nat} {event : ChatEvent}
    (found : db.member? row.chatId row.userId = some row) :
    ((patchMember { mutedUntil := some muted } row).bind fun _ =>
      (publish [event]).bind fun _ => (Tx.commitNow : Handler Unit).bind fun ended =>
        .done ended).Ends db db fun _ final =>
          Amended row { mutedUntil := some muted } db final := by
  refine ends_patchMember (ends_publish fun _ last => Tx.ends_commit ?_)
  exact amended_alike (amended_patch found) last

theorem muteMember_ends (chatId : ChatId) (target : UserId) (mutedUntil : Option Nat) :
    (muteMember user now chatId target mutedUntil).Ends db db fun _ final =>
      ∃ row, db.member? chatId target = some row ∧ (db.chat? chatId).isSome ∧
        Amended row { mutedUntil := some (restrictedUntil now mutedUntil) } db final ∧
        (final = db ∨ Request.Revises ⟨user, now, .muteMember chatId target mutedUntil⟩ db row
          { mutedUntil := some (restrictedUntil now mutedUntil) }) := by
  unfold muteMember
  simp only [Tx.bind_eq, Tx.pure_eq]
  refine ends_moderated user now db fun chat row chatFound found allowed => ?_
  have known := Db.chat_of_open chatFound
  obtain ⟨rfl, rfl⟩ := Db.member_key found
  split
  · rename_i same
    refine Tx.ends_done ⟨row, found, known, amended_unchanged found ?_, .inl rfl⟩
    simp [MemberPatch.apply, ← same.2]
  · refine Tx.ends_require fun other => ?_
    refine Tx.ends_mono (mute_ends db found) fun _ final amended => ?_
    exact ⟨row, found, known, amended, .inr ⟨⟨rfl, rfl, allowed⟩, by simpa using other, rfl⟩⟩

theorem unmuteMember_ends (chatId : ChatId) (target : UserId) :
    (unmuteMember user now chatId target).Ends db db fun _ final =>
      Effect ⟨user, now, .unmuteMember chatId target⟩ db final := by
  unfold unmuteMember
  simp only [Tx.bind_eq, Tx.pure_eq]
  refine ends_moderated user now db fun chat row chatFound found allowed => ?_
  split
  · exact Tx.ends_done (effect_alike (alike_refl db))
  · refine Tx.ends_require fun other => ?_
    obtain ⟨rfl, rfl⟩ := Db.member_key found
    refine Tx.ends_mono (mute_ends db found) fun _ _ amended => .amended row _ amended ?_
    exact ⟨⟨rfl, rfl, allowed⟩, by simpa using other, rfl⟩

theorem ends_flushRole {Result : Type} {Post : Result → Db → Prop} {committed seen : Db}
    {row : ChatMember} {role : ChatRoleId} {rest : Unit → Handler Result}
    (found : seen.member? row.chatId row.userId = some row)
    (next : ∀ after, Amended row { roleId := some role } seen after →
      (rest ()).Ends committed after Post) :
    ((flushRole row role).bind rest).Ends committed seen Post := by
  unfold flushRole
  split
  · rename_i same
    refine next seen (amended_unchanged found ?_)
    simp [MemberPatch.apply, ← same]
  · exact ends_patchMember (next _ (amended_patch found))

theorem changeMemberRole_ends (chatId : ChatId) (target : UserId) (roleId : Nat) :
    (changeMemberRole user now chatId target roleId).Ends db db fun _ final =>
      Effect ⟨user, now, .changeMemberRole chatId target roleId⟩ db final := by
  unfold changeMemberRole
  simp only [Tx.bind_eq, Tx.pure_eq]
  refine Tx.ends_read (Tx.ends_read (Tx.ends_orRaise fun row found => ?_))
  refine Tx.ends_require fun allowed => Tx.ends_ofExcept fun role assigned => ?_
  obtain ⟨rfl, rfl⟩ := Db.member_key found
  refine ends_flushRole found fun _ amended => Tx.ends_commit (.amended row _ amended ?_)
  exact ⟨⟨rfl, rfl, allowed⟩, role, assigned, rfl⟩

theorem handed_owner_first {newOwner previousOwner : ChatId × UserId}
    (apart : newOwner ≠ previousOwner) (row : ChatMember) :
    let promoted := if row.key = newOwner then
      MemberPatch.apply { roleId := some .owner } row else row
    (if promoted.key = previousOwner then MemberPatch.apply { roleId := some .admin } promoted
      else promoted) = row.handed newOwner previousOwner := by
  by_cases here : row.key = newOwner
  · simp [ChatMember.handed, here, MemberPatch.apply_key, apart]
    rfl
  · simp [ChatMember.handed, here]
    rfl

theorem handed_admin_first {newOwner previousOwner : ChatId × UserId}
    (apart : newOwner ≠ previousOwner) (row : ChatMember) :
    let demoted := if row.key = previousOwner then
      MemberPatch.apply { roleId := some .admin } row else row
    (if demoted.key = newOwner then MemberPatch.apply { roleId := some .owner } demoted
      else demoted) = row.handed newOwner previousOwner := by
  by_cases here : row.key = newOwner
  · simp [ChatMember.handed, here, apart]
    rfl
  · by_cases there : row.key = previousOwner
    · simp [ChatMember.handed, there, MemberPatch.apply_key, apart.symm]
      rfl
    · simp [ChatMember.handed, here, there]

theorem ends_transferRoles {Result : Type} {Post : Result → Db → Prop} {committed seen : Db}
    {newOwner : ChatMember} {previousId : UserId} {rest : Unit → Handler Result}
    (found : seen.member? newOwner.chatId newOwner.userId = some newOwner)
    (apart : newOwner.userId ≠ previousId)
    (next : ∀ after, (∀ target, after.charter? target = seen.charter? target) →
      (∀ target userId, after.member? target userId = (seen.member? target userId).map
        (ChatMember.handed newOwner.key (newOwner.chatId, previousId))) →
      (rest ()).Ends committed after Post) :
    ((transferRoles newOwner (seen.member? newOwner.chatId previousId)).bind rest).Ends
      committed seen Post := by
  unfold transferRoles
  cases previousFound : seen.member? newOwner.chatId previousId with
  | none =>
      refine ends_flushRole found fun after amended => next after amended.charters ?_
      intro target userId
      rw [amended_map amended]
      refine Option.map_congr fun row stored => ?_
      have other : row.key ≠ (newOwner.chatId, previousId) := by
        intro same
        obtain ⟨rfl, rfl⟩ := Db.member_key stored
        obtain ⟨inChat, ofUser⟩ := Prod.ext_iff.mp same
        simp only [ChatMember.key] at inChat ofUser
        rw [inChat, ofUser, previousFound] at stored
        cases stored
      simp [ChatMember.handed, other, MemberPatch.apply]
  | some previous =>
      obtain ⟨inChat, rfl⟩ := Db.member_key previousFound
      rw [← inChat] at previousFound
      have keys : newOwner.key ≠ previous.key := fun same => apart (Prod.ext_iff.mp same).2
      dsimp only
      split
      · simp only [Tx.bind_eq, Tx.bind_assoc]
        refine ends_flushRole found fun mid first => ?_
        refine ends_flushRole ?_ fun after second => next after ?_ fun target userId => ?_
        · rw [first.members, if_neg fun same => apart same.2.symm, previousFound]
        · exact fun target => (second.charters target).trans (first.charters target)
        · rw [amended_map second, amended_map first, Option.map_map]
          refine Option.map_congr fun row _ => ?_
          rw [← inChat]
          exact handed_owner_first keys row
      · simp only [Tx.bind_eq, Tx.bind_assoc]
        refine ends_flushRole previousFound fun mid first => ?_
        refine ends_flushRole ?_ fun after second => next after ?_ fun target userId => ?_
        · rw [first.members, if_neg fun same => apart same.2, found]
        · exact fun target => (second.charters target).trans (first.charters target)
        · rw [amended_map second, amended_map first, Option.map_map]
          refine Option.map_congr fun row _ => ?_
          rw [← inChat]
          exact handed_admin_first keys row

theorem Chat.transferOwnership_ok {chat : Chat} {newOwner : ChatMember} {now : Nat}
    (checked : chat.transferOwnership newOwner now = .ok ()) :
    newOwner.userId ≠ chat.createdBy ∧ newOwner.isBanned now = false := by
  simp only [Chat.transferOwnership] at checked
  repeat' split at checked
  all_goals cases checked
  rename_i apart unbanned
  exact ⟨apart, by simpa using unbanned⟩

theorem ends_previousOwnerRow {Result : Type} {Post : Result → Db → Prop} {committed seen : Db}
    {chatId : ChatId} {userId previousId : UserId} {rest : Option ChatMember → Handler Result}
    (next : (rest (seen.member? chatId previousId)).Ends committed seen Post) :
    ((previousOwnerRow chatId (seen.member? chatId userId) previousId).bind rest).Ends
      committed seen Post := by
  unfold previousOwnerRow
  split
  · rename_i same
    obtain ⟨row, found, ofUser⟩ := (Option.any_eq_true _ _).mp same
    have named : userId = previousId := by
      rw [← (Db.member_key found).2]
      simpa using ofUser
    rw [named]
    exact next
  · exact Tx.ends_read next

theorem transferChatOwnership_ends (chatId : ChatId) (newOwnerId : UserId) :
    (transferChatOwnership user now chatId newOwnerId).Ends db db fun _ final =>
      Effect ⟨user, now, .transferChatOwnership chatId newOwnerId⟩ db final := by
  unfold transferChatOwnership
  simp only [Tx.bind_eq, Tx.pure_eq]
  refine Tx.ends_statement fun found answered => Tx.ends_orRaise fun chat chatFound => ?_
  cases answered
  refine Tx.ends_read (Tx.ends_require fun allowed => Tx.ends_read ?_)
  refine Tx.ends_orRaise fun newOwner rowFound => Tx.ends_ofExcept fun _ checked => ?_
  have inChat := Db.openChat_id chatFound
  obtain ⟨rfl, rfl⟩ := Db.member_key rowFound
  obtain ⟨apart, unbanned⟩ := Chat.transferOwnership_ok checked
  rw [applyAll_nil] at rowFound allowed ⊢
  refine ends_previousOwnerRow (ends_patchChat ?_)
  have members := fun target userId =>
    db.member_apply target userId (.patchChat chat.id { createdBy := some newOwner.userId })
  rw [inChat] at members ⊢
  rw [← members _ _ rfl]
  refine ends_transferRoles ?_ apart fun after charters rows => ends_publish fun _ last => ?_
  · rw [members _ _ rfl, rowFound]
  · refine Tx.ends_commit (.transferred newOwner.chatId chat.charter newOwner ?_ ?_)
    · have known := Db.charter_of_open chatFound
      refine ⟨known, rowFound, fun target userId => ?_, fun target => ?_⟩
      · rw [last.members, rows, members _ _ rfl]
        rfl
      · rw [last.charters, charters, Db.charter_patchChat]
        split
        · rename_i here
          rw [here, known]
          rfl
        · simp
    · exact ⟨chat, rfl, chatFound, rfl, allowed, apart, unbanned⟩

theorem updateChatState_ends (chatId : ChatId) (changes : StateChanges) :
    (updateChatState user now chatId changes).Ends db db fun _ final =>
      Effect ⟨user, now, .updateChatState chatId changes⟩ db final := by
  unfold updateChatState
  simp only [Tx.bind_eq, Tx.pure_eq]
  refine Tx.ends_read (Tx.ends_orRaise fun row found => Tx.ends_read ?_)
  refine Tx.ends_require fun _ => ?_
  obtain ⟨inChat, ofUser⟩ := Db.member_key found
  unfold flushState
  split
  · exact Tx.ends_commit (effect_alike (alike_refl db))
  · refine ends_patchMember (Tx.ends_commit (.amended row _ (amended_patch ?_) ?_))
    · rw [inChat, ofUser, found]
    · exact ⟨inChat, ofUser, _, rfl⟩

theorem seated_insertChat {chat : Chat} {chatId : ChatId} {Granted : UserId → ChatRoleId → Prop}
    (seen : Db) : Seated chatId Granted seen (Db.apply (.insertChat chat) seen) := by
  refine ⟨fun _ _ _ stored => stored, fun _ _ _ absent stored => ?_, fun target charter stored => ?_⟩
  · rw [Db.member_apply seen _ _ _ rfl, absent] at stored
    cases stored
  · obtain ⟨row, found, rfl⟩ := Option.map_eq_some_iff.mp stored
    have kept : (Db.apply (.insertChat chat) seen).chat? target = some row := by
      rw [Db.chat?] at found
      simp [Db.apply, Db.chat?, Table.find?_insert, found]
    rw [Db.charter?, kept]
    rfl

theorem saveChat_ends {new : NewChat} {id : ChatId} {created : CreatedChat}
    (built : Chat.create user.id new id = .ok created) :
    (saveChat created user.id).Ends db db fun _ final =>
      Effect ⟨user, now, .createChat new id⟩ db final := by
  obtain ⟨sameId, _⟩ := Chat.create_ok built
  unfold saveChat insertChat
  simp only [Tx.bind_eq, Tx.pure_eq, sameId]
  refine Tx.ends_statement fun _ answered => ?_
  split at answered
  · cases answered
  · rename_i free
    rw [if_neg free]
    have absent : db.chat? id = none := by simpa using free
    refine Tx.ends_each (Seated id (Request.Grants ⟨user, now, .createChat new id⟩ db id) db)
      (fun seen seated => ?_) _ (fun entry _ seen next seated onwards => ?_) _
      (seated_insertChat db)
    · refine ends_publish fun _ last => Tx.ends_commit (.seated id ?_)
      exact seated_trans seated (seated_of_alike last)
    · exact ends_insertMember (onwards _ (seated_trans seated (seated_insert ⟨rfl, absent⟩)))

theorem createChat_ends (new : NewChat) (id : ChatId) :
    (createChat user new id).Ends db db fun _ final =>
      Effect ⟨user, now, .createChat new id⟩ db final := by
  unfold createChat
  simp only [Tx.bind_eq, Tx.pure_eq]
  refine Tx.ends_ofExcept fun created built => ?_
  have saved := saveChat_ends user now db built
  split
  · refine Tx.ends_read ?_
    split
    · exact Tx.ends_done (effect_alike (alike_refl db))
    · exact Tx.ends_statement fun _ _ => saved
  · exact Tx.ends_statement fun _ _ => saved

end Handlers

def Command.ofMembers : Command → Bool
  | .addMember .. => true
  | .joinChat .. => true
  | .joinChatByInvite .. => true
  | .approveJoinRequests .. => true
  | .kickMember .. => true
  | .leaveChat .. => true
  | .banMember .. => true
  | .unbanMember .. => true
  | .muteMember .. => true
  | .unmuteMember .. => true
  | .changeMemberRole .. => true
  | .transferChatOwnership .. => true
  | .createChat .. => true
  | .updateChatState .. => true
  | _ => false

theorem footprint_apart {request : Request} (apart : request.command.ofMembers = false)
    {write : Write} (allowed : request.Footprint write) :
    Incidental write ∨ ∃ chatId patch, write = .patchChat chatId patch ∧ patch.createdBy = none := by
  obtain ⟨user, now, command⟩ := request
  cases write
  case insertChat => cases command <;> first | cases apart; done | cases allowed
  case insertMember => cases command <;> first | cases apart; done | cases allowed
  case patchMember => cases command <;> first | cases apart; done | cases allowed
  case deleteMember => cases command <;> first | cases apart; done | cases allowed
  case patchChat chatId patch =>
    refine .inr ⟨chatId, patch, rfl, ?_⟩
    cases command
    case deleteChat => exact allowed.2
    case updateChat => exact allowed.2.1
    case setChatUsername => exact allowed.2.1
    all_goals first | cases apart; done | cases allowed
  all_goals exact .inl ⟨rfl, rfl⟩

theorem chartersStand_apply {db seen : Db} {write : Write} (stand : ChartersStand db seen)
    (kept : Incidental write ∨ ∃ chatId patch, write = .patchChat chatId patch ∧
      patch.createdBy = none) : ChartersStand db (Db.apply write seen) := by
  intro chatId charter stored
  obtain ⟨deletedAt, found⟩ := stand chatId charter stored
  rcases kept with incidental | ⟨target, patch, rfl, owner⟩
  · exact ⟨deletedAt, by rw [Db.charter_apply seen chatId write incidental.2, found]⟩
  · rw [Db.charter_patchChat, found]
    by_cases here : chatId = target
    · exact ⟨patch.deletedAt.getD deletedAt, by simp [here, owner]⟩
    · exact ⟨deletedAt, by simp [here]⟩

theorem apart_effect {request : Request} (apart : request.command.ofMembers = false) (db : Db) :
    Effect request db (perform request db).2 := by
  have kept : (∀ chatId userId, (perform request db).2.member? chatId userId =
      db.member? chatId userId) ∧ ChartersStand db (perform request db).2 := by
    refine @perform_preserves (fun final => (∀ chatId userId, final.member? chatId userId =
      db.member? chatId userId) ∧ ChartersStand db final) request
      (fun write seen allowed holds => ?_) db
      ⟨fun _ _ => rfl, fun _ charter stored => ⟨charter.deletedAt, stored⟩⟩
    have quiet := footprint_apart apart allowed
    refine ⟨fun chatId userId => ?_, chartersStand_apply holds.2 quiet⟩
    rw [seen.member_apply chatId userId write ?_, holds.1]
    rcases quiet with incidental | ⟨_, _, rfl, _⟩
    · exact incidental.1
    · rfl
  exact .still kept.1 kept.2

theorem perform_of_ends {Answer : Type} {Holds : Db → Prop} {request : Request} {db : Db}
    {program : Handler Answer} {reply : Answer → Reply}
    (handled : handle request = program.bind fun answer => .done (reply answer))
    (ends : program.Ends db db fun _ final => Holds final) (before : Holds db) :
    Holds (perform request db).2 := by
  rw [perform, handled, Tx.exec, Tx.run_answered]
  exact Tx.ends_final ends before

theorem effect_of_ends {Answer : Type} {request : Request} {db : Db} {program : Handler Answer}
    {reply : Answer → Reply}
    (handled : handle request = program.bind fun answer => .done (reply answer))
    (ends : program.Ends db db fun _ final => Effect request db final) :
    Effect request db (perform request db).2 :=
  perform_of_ends handled ends (effect_alike (alike_refl db))

theorem perform_effect (request : Request) (db : Db) :
    Effect request db (perform request db).2 := by
  by_cases apart : request.command.ofMembers = false
  · exact apart_effect apart db
  · obtain ⟨user, now, command⟩ := request
    cases command
    case addMember => exact effect_of_ends rfl (addMember_ends ..)
    case joinChat => exact effect_of_ends rfl (joinChat_ends ..)
    case joinChatByInvite => exact effect_of_ends rfl (joinChatByInvite_ends ..)
    case approveJoinRequests => exact effect_of_ends rfl (approveJoinRequests_ends ..)
    case kickMember => exact effect_of_ends rfl (kickMember_ends ..)
    case leaveChat => exact effect_of_ends rfl (leaveChat_ends ..)
    case banMember =>
      refine effect_of_ends rfl (Tx.ends_mono (banMember_ends ..) fun _ _ banned => ?_)
      obtain ⟨row, _, _, amended, reason⟩ := banned
      exact .amended row _ amended reason
    case unbanMember => exact effect_of_ends rfl (unbanMember_ends ..)
    case muteMember =>
      refine effect_of_ends rfl (Tx.ends_mono (muteMember_ends ..) fun _ _ muted => ?_)
      obtain ⟨row, _, _, amended, rfl | reason⟩ := muted
      · exact effect_alike (alike_refl _)
      · exact .amended row _ amended reason
    case unmuteMember => exact effect_of_ends rfl (unmuteMember_ends ..)
    case changeMemberRole => exact effect_of_ends rfl (changeMemberRole_ends ..)
    case transferChatOwnership => exact effect_of_ends rfl (transferChatOwnership_ends ..)
    case createChat => exact effect_of_ends rfl (createChat_ends ..)
    case updateChatState => exact effect_of_ends rfl (updateChatState_ends ..)
    all_goals exact absurd rfl apart

end Messanger
