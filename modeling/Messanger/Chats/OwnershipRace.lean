import Messanger.Chats.MemberEffects

/-!
The owner of a chat while transfers, leaves, kicks, bans and role changes run at the same
time.  Their checks read without locks; what keeps the owner in place is the state in which
their writes are executed.
-/

namespace Messanger

open Relational

def Db.owner? (db : Db) (chatId : ChatId) : Option UserId := (db.charter? chatId).map (·.createdBy)

/-- `created_by` names a member with the owner role who is not banned at `horizon`, and nobody
else has that role. -/
structure Headed (chatId : ChatId) (horizon : Nat) (db : Db) (owner : UserId) : Prop where
  named : db.owner? chatId = some owner
  present : ∃ row, db.member? chatId owner = some row ∧ row.roleId = .owner ∧
    row.isBanned horizon = false
  sole : ∀ userId row, db.member? chatId userId = some row → row.roleId = .owner → userId = owner

def Write.Spares (chatId : ChatId) (horizon : Nat) (seen : Db) : Write → Prop
  | .deleteMember target userId _ => target = chatId → seen.owner? chatId ≠ some userId
  | .patchMember target userId _ patch => target = chatId →
      if patch.roleId = some .owner then
        seen.owner? chatId = some userId ∧
          ∀ row, seen.member? chatId userId = some row → row.isBanned horizon = false
      else seen.owner? chatId ≠ some userId
  | _ => True

def OwnerSpared (chatId : ChatId) (horizon : Nat) (seen : Db) (writes : List Write) : Prop :=
  ∀ write ∈ writes, write.Spares chatId horizon seen

/-- What the holder of a row relies on: of the chat its charter, of a membership row the row and
whether it is the owner's. -/
structure OwnerView where
  charter : Option Charter := none
  row : Option ChatMember := none
  owns : Bool := false

def ownerContract (chatId : ChatId) (horizon : Nat) : Contract Db Write RowKey OwnerView where
  inv db := ∃ owner, Headed chatId horizon db owner
  view key db :=
    match key with
    | .chat target => if target = chatId then { charter := db.charter? chatId } else {}
    | .member target userId =>
        if target = chatId then
          { row := db.member? chatId userId, owns := db.owner? chatId == some userId }
        else {}
    | _ => {}
  ok := OwnerSpared chatId horizon
  evolves before after := ∀ userId id,
    (∀ row, before.member? chatId userId = some row → row.id ≠ id) →
      ∀ row, after.member? chatId userId = some row → row.id ≠ id
  evolves_refl _ _ _ gone := gone
  evolves_trans _ _ _ left right userId id gone := right userId id (left userId id gone)

section Frames

variable {chatId : ChatId} {horizon : Nat}

def Aside (chatId : ChatId) : Write → Prop
  | .insertChat _ => False
  | .patchChat target _ => target ≠ chatId
  | .insertMember target _ _ => target ≠ chatId
  | .patchMember target _ _ _ => target ≠ chatId
  | .deleteMember target _ _ => target ≠ chatId
  | _ => True

/-- Two states agree on the chat. -/
structure Agree (chatId : ChatId) (before after : Db) : Prop where
  charter : after.charter? chatId = before.charter? chatId
  members : ∀ userId, after.member? chatId userId = before.member? chatId userId

theorem agree_apply (db : Db) (write : Write) (aside : Aside chatId write) :
    Agree chatId db (Db.apply write db) := by
  cases write
  case insertChat => cases aside
  case patchChat target patch =>
    refine ⟨?_, fun userId => db.member_apply _ _ _ rfl⟩
    rw [Db.charter_patchChat]
    simp [Ne.symm aside]
  case insertMember target targetUserId roleId =>
    refine ⟨db.charter_apply _ _ rfl, fun userId => ?_⟩
    rw [Db.member_insertMember, if_neg fun same => aside same.1, Option.or_none]
  case patchMember target targetUserId id patch =>
    refine ⟨db.charter_apply _ _ rfl, fun userId => ?_⟩
    rw [Db.member_patchMember]
    cases stored : db.member? chatId userId with
    | none => rfl
    | some row => simp [isMemberRow_other id stored fun same => aside same.1.symm]
  case deleteMember target targetUserId id =>
    refine ⟨db.charter_apply _ _ rfl, fun userId => ?_⟩
    rw [Db.member_deleteMember]
    cases stored : db.member? chatId userId with
    | none => rfl
    | some row => simp [isMemberRow_other id stored fun same => aside same.1.symm]
  all_goals exact ⟨db.charter_apply _ _ rfl, fun userId => db.member_apply _ _ _ rfl⟩

theorem agree_applyAll (log : List Write) : ∀ db : Db, (∀ write ∈ log, Aside chatId write) →
    Agree chatId db (applyAll log db) := by
  induction log with
  | nil => exact fun _ _ => ⟨rfl, fun _ => rfl⟩
  | cons write rest ih =>
      intro db aside
      have first := agree_apply db write (aside write List.mem_cons_self)
      have others := ih (Db.apply write db) fun other member =>
        aside other (List.mem_cons_of_mem _ member)
      exact ⟨others.charter.trans first.charter,
        fun userId => (others.members userId).trans (first.members userId)⟩

theorem headed_agree {before after : Db} {owner : UserId} (agree : Agree chatId before after)
    (headed : Headed chatId horizon before owner) : Headed chatId horizon after owner := by
  refine ⟨?_, ?_, ?_⟩
  · rw [Db.owner?, agree.charter]
    exact headed.named
  · rw [agree.members]
    exact headed.present
  · simp only [agree.members]
    exact headed.sole

theorem view_agree {before after : Db} (agree : Agree chatId before after) (key : RowKey) :
    (ownerContract chatId horizon).view key after =
      (ownerContract chatId horizon).view key before := by
  cases key <;> simp only [ownerContract, Db.owner?, agree.charter, agree.members]

theorem commits_row {held : List RowKey} {log : List Write} {db : Db} {userId : UserId}
    (locked : RowKey.member chatId userId ∈ held)
    (charter : ∀ before : Db, (applyAll log before).charter? chatId = before.charter? chatId)
    (members : ∀ (before : Db) target, target ≠ userId →
      (applyAll log before).member? chatId target = before.member? chatId target)
    (row : ∀ (before : Db) changed, (applyAll log before).member? chatId userId = some changed →
      ∃ old, before.member? chatId userId = some old ∧ changed.id = old.id ∧
        (changed.roleId = .owner → old.roleId = .owner ∨ db.owner? chatId = some userId))
    (spared : db.owner? chatId = some userId → ∀ (before : Db) old,
      before.member? chatId userId = some old → old.roleId = .owner →
      ∃ changed, (applyAll log before).member? chatId userId = some changed ∧
        changed.roleId = .owner ∧ changed.bannedUntil = old.bannedUntil) :
    (ownerContract chatId horizon).Commits held log db := by
  intro after rely
  have owner : ∀ before : Db, (applyAll log before).owner? chatId = before.owner? chatId := by
    intro before
    rw [Db.owner?, charter, Db.owner?]
  obtain ⟨head, headed⟩ := rely.inv
  have stays : head = userId ↔ db.owner? chatId = some userId := by
    have same := rely.kept _ locked
    simp only [ownerContract, if_true, OwnerView.mk.injEq, headed.named] at same
    simpa using Bool.eq_iff_iff.mp same.2.2
  refine ⟨⟨head, ?_, ?_, fun target changed stored top => ?_⟩, fun target id gone changed stored => ?_,
    fun key free => ?_⟩
  · rw [owner]
    exact headed.named
  · obtain ⟨old, before, role, free⟩ := headed.present
    by_cases here : head = userId
    · rw [here] at before ⊢
      obtain ⟨changed, stored, top, same⟩ := spared (stays.mp here) after old before role
      refine ⟨changed, stored, top, ?_⟩
      rw [ChatMember.isBanned, same]
      exact free
    · rw [members after head here]
      exact headed.present
  · by_cases here : target = userId
    · rw [here] at stored ⊢
      obtain ⟨old, before, _, role⟩ := row after changed stored
      rcases role top with held | named
      · exact headed.sole userId old before held
      · exact (stays.mpr named).symm
    · rw [members after target here] at stored
      exact headed.sole target changed stored top
  · by_cases here : target = userId
    · rw [here] at stored gone
      obtain ⟨old, before, same, _⟩ := row after changed stored
      rw [same]
      exact gone old before
    · rw [members after target here] at stored
      exact gone changed stored
  · cases key with
    | chat target => simp only [ownerContract, charter]
    | member target targetUserId =>
        simp only [ownerContract, owner]
        split
        · rename_i here
          rw [here] at free
          have different : targetUserId ≠ userId := by
            rintro rfl
            exact free locked
          rw [members after targetUserId different]
        · rfl
    | _ => rfl

theorem evolves_agree {before after : Db} (agree : Agree chatId before after) :
    (ownerContract chatId horizon).evolves before after := by
  intro userId id gone row stored
  rw [agree.members] at stored
  exact gone row stored

theorem commits_agree {held : List RowKey} {log : List Write} {db : Db}
    (agrees : ∀ after, (ownerContract chatId horizon).Rely held db after →
      Agree chatId after (applyAll log after)) :
    (ownerContract chatId horizon).Commits held log db := by
  intro after rely
  have agree := agrees after rely
  obtain ⟨owner, headed⟩ := rely.inv
  exact ⟨⟨owner, headed_agree agree headed⟩, evolves_agree agree, fun key _ => view_agree agree key⟩

theorem commits_append {held more : List RowKey} {log writes : List Write} {db after : Db}
    (commits : (ownerContract chatId horizon).Commits held log db)
    (rely : (ownerContract chatId horizon).Rely held db after)
    (aside : ∀ write ∈ writes, Aside chatId write) :
    (ownerContract chatId horizon).Commits (held ++ more) (log ++ writes) after := by
  intro later relied
  obtain ⟨⟨owner, headed⟩, evolved, kept⟩ :=
    commits later (Contract.rely_trans rely (Contract.rely_fewer relied))
  rw [applyAll_append]
  have agree := agree_applyAll writes (applyAll log later) aside
  refine ⟨⟨owner, headed_agree agree headed⟩, ?_, fun key free => ?_⟩
  · exact (ownerContract chatId horizon).evolves_trans _ _ _ evolved (evolves_agree agree)
  · rw [view_agree agree]
    exact kept key fun member => free (List.mem_append_left _ member)

end Frames

section Steps

variable {chatId : ChatId} {horizon : Nat} {Result : Type}
  {Post : Result → List RowKey → List Write → Db → Prop}
  {held : List RowKey} {log : List Write} {db : Db}

theorem safe_aside {Answer : Type} {locks : Db → List RowKey} {writes : Db → List Write}
    {answer : Db → Except ChatError Answer} {rest : Answer → Handler Result}
    (quiet : ∀ write ∈ log, Aside chatId write)
    (aside : ∀ seen, ∀ write ∈ writes seen, Aside chatId write)
    (next : ∀ result held log db, (∀ write ∈ log, Aside chatId write) →
      (ownerContract chatId horizon).Safe Post (rest result) held log db) :
    (ownerContract chatId horizon).Safe Post ((Tx.statement locks writes answer).bind rest)
      held log db := by
  refine Contract.safe_statement fun after _ _ result _ => next _ _ _ _ fun write member => ?_
  rcases List.mem_append.mp member with logged | written
  · exact quiet write logged
  · exact aside _ write written

theorem safe_last {event : ChatEvent} {result : Unit → Result}
    (commits : (ownerContract chatId horizon).Commits held log db) :
    (ownerContract chatId horizon).Safe (fun _ _ _ _ => True)
      ((publish [event]).bind fun _ => (Tx.commitNow : Handler Unit).bind fun ended =>
        .done (result ended)) held log db := by
  refine Contract.safe_statement fun after rely _ _ _ => Contract.safe_commit_last ?_
  refine commits_append commits rely fun write member => ?_
  rw [List.mem_singleton.mp member]
  trivial

theorem owner_agree {before after : Db} (agree : Agree chatId before after) :
    after.owner? chatId = before.owner? chatId := by
  rw [Db.owner?, agree.charter, Db.owner?]

theorem spared_deleteMember {row : ChatMember} {rest : Unit → Handler Result}
    (quiet : ∀ write ∈ log, Aside chatId write)
    (next : ∀ held log db, (ownerContract chatId horizon).Commits held log db →
      (ownerContract chatId horizon).Safe Post (rest ()) held log db) :
    (ownerContract chatId horizon).Safe Post ((deleteMember row).bind rest) held log db := by
  refine Contract.safe_statement fun after rely met _ _ => next _ _ _ ?_
  have agree : ∀ before : Db, Agree chatId before (applyAll log before) :=
    fun before => agree_applyAll log before quiet
  by_cases here : row.chatId = chatId
  · subst here
    have other : after.owner? row.chatId ≠ some row.userId := by
      rw [← owner_agree (agree after)]
      exact met _ (List.mem_singleton.mpr rfl) rfl
    by_cases present : (applyAll log after).hasMemberRow row
    · have locked : RowKey.member row.chatId row.userId ∈ held ++
          if (applyAll log after).hasMemberRow row then [RowKey.member row.chatId row.userId]
          else [] := by
        simp [present]
      refine commits_row locked (fun before => ?_) (fun before target apart => ?_)
        (fun before changed stored => ?_) fun named => absurd named other
      · rw [applyAll_append, applyAll_cons, applyAll_nil, Db.apply_eq, Db.charter_apply _ _ _ rfl,
          (agree before).charter]
      · rw [applyAll_append, applyAll_cons, applyAll_nil, Db.apply_eq, Db.member_deleteMember,
          (agree before).members]
        cases kept : before.member? row.chatId target with
        | none => rfl
        | some stored => simp [isMemberRow_other row.id kept fun same => apart same.2]
      · rw [applyAll_append, applyAll_cons, applyAll_nil, Db.apply_eq, Db.member_deleteMember,
          (agree before).members, Option.filter_eq_some_iff] at stored
        exact ⟨changed, stored.1, rfl, .inl⟩
    · have gone : ∀ stored, after.member? row.chatId row.userId = some stored →
          stored.id ≠ row.id := by
        intro stored found same
        refine present ?_
        rw [Db.hasMemberRow, (agree after).members, found]
        simpa using same
      refine commits_agree fun later relied => ?_
      have still := relied.evolved row.userId row.id gone
      rw [applyAll_append]
      have first := agree later
      refine ⟨?_, fun target => ?_⟩
      · rw [applyAll_cons, applyAll_nil, Db.apply_eq, Db.charter_apply _ _ _ rfl, first.charter]
      · rw [applyAll_cons, applyAll_nil, Db.apply_eq, Db.member_deleteMember, first.members]
        cases kept : later.member? row.chatId target with
        | none => rfl
        | some stored =>
            have apart : Db.isMemberRow row.chatId row.userId row.id stored = false := by
              by_cases same : target = row.userId
              · subst same
                simp [Db.isMemberRow, still stored kept]
              · exact isMemberRow_other row.id kept fun both => same both.2
            simp [apart]
  · refine commits_agree fun later _ => agree_applyAll _ later fun write member => ?_
    rcases List.mem_append.mp member with logged | written
    · exact quiet write logged
    · rw [List.mem_singleton.mp written]
      exact here

theorem patched_role {patch : MemberPatch} {old : ChatMember} (low : patch.roleId ≠ some .owner)
    (top : (patch.apply old).roleId = .owner) : old.roleId = .owner := by
  cases given : patch.roleId with
  | none => simpa [MemberPatch.apply, given] using top
  | some role =>
      simp only [MemberPatch.apply, given, Option.getD_some] at top
      exact absurd (by rw [given, top]) low

theorem spared_patchMember {row : ChatMember} {patch : MemberPatch} {rest : Unit → Handler Result}
    (crown : patch.roleId = some .owner → patch.bannedUntil = none)
    (quiet : ∀ write ∈ log, Aside chatId write)
    (next : ∀ held log db, (ownerContract chatId horizon).Commits held log db →
      (ownerContract chatId horizon).Safe Post (rest ()) held log db) :
    (ownerContract chatId horizon).Safe Post ((patchMember patch row).bind rest) held log db := by
  refine Contract.safe_statement fun after rely met _ answered => next _ _ _ ?_
  have agree : ∀ before : Db, Agree chatId before (applyAll log before) :=
    fun before => agree_applyAll log before quiet
  split at answered
  · rename_i present
    rw [if_pos present] at met
    rw [if_pos present, if_pos present]
    by_cases here : row.chatId = chatId
    · subst here
      have spared := met _ (List.mem_singleton.mpr rfl) rfl
      rw [owner_agree (agree after)] at spared
      have locked : RowKey.member row.chatId row.userId ∈
          held ++ [RowKey.member row.chatId row.userId] := by simp
      refine commits_row locked (fun before => ?_) (fun before target apart => ?_)
        (fun before changed stored => ?_) fun named before old stored top => ?_
      · rw [applyAll_append, applyAll_cons, applyAll_nil, Db.apply_eq, Db.charter_apply _ _ _ rfl,
          (agree before).charter]
      · rw [applyAll_append, applyAll_cons, applyAll_nil, Db.apply_eq, Db.member_patchMember,
          (agree before).members]
        cases kept : before.member? row.chatId target with
        | none => rfl
        | some stored => simp [isMemberRow_other row.id kept fun same => apart same.2]
      · rw [applyAll_append, applyAll_cons, applyAll_nil, Db.apply_eq, Db.member_patchMember,
          (agree before).members] at stored
        obtain ⟨old, found, rfl⟩ := Option.map_eq_some_iff.mp stored
        refine ⟨old, found, ?_, fun top => ?_⟩
        · split <;> rfl
        · by_cases raised : patch.roleId = some .owner
          · rw [if_pos raised] at spared
            exact .inr spared.1
          · split at top
            · exact .inl (patched_role raised top)
            · exact .inl top
      · by_cases raised : patch.roleId = some .owner
        · rw [applyAll_append, applyAll_cons, applyAll_nil, Db.apply_eq, Db.member_patchMember,
            (agree before).members, stored]
          refine ⟨_, rfl, ?_, ?_⟩
          · dsimp only
            split
            · simp [MemberPatch.apply, raised]
            · exact top
          · dsimp only
            split
            · simp [MemberPatch.apply, crown raised]
            · rfl
        · rw [if_neg raised] at spared
          exact absurd named spared
    · refine commits_agree fun later _ => agree_applyAll _ later fun write member => ?_
      rcases List.mem_append.mp member with logged | written
      · exact quiet write logged
      · rw [List.mem_singleton.mp written]
        exact here
  · cases answered

theorem spared_expulsion {target : ChatId} {row : ChatMember} {event : ChatEvent}
    {result : Unit → Result} :
    (ownerContract chatId horizon).Safe (fun _ _ _ _ => True)
      ((shiftMemberCount target (-1) none).bind fun _ => (deleteMember row).bind fun _ =>
        (publish [event]).bind fun _ => (Tx.commitNow : Handler Unit).bind fun ended =>
          .done (result ended)) held [] db := by
  refine safe_aside (by simp) (fun seen write member => ?_) fun _ held log db quiet => ?_
  · split at member
    · rw [List.mem_singleton.mp member]
      trivial
    · cases member
  · exact spared_deleteMember quiet fun held log db commits => safe_last commits

end Steps

section Transfer

variable {chatId : ChatId} {horizon : Nat} {held : List RowKey} {log : List Write} {db : Db}

theorem charter_kept {after : Db} (locked : RowKey.chat chatId ∈ held)
    (rely : (ownerContract chatId horizon).Rely held db after) :
    after.charter? chatId = db.charter? chatId := by
  simpa [ownerContract] using rely.kept _ locked

theorem member_kept {after : Db} {userId : UserId} (locked : RowKey.member chatId userId ∈ held)
    (rely : (ownerContract chatId horizon).Rely held db after) :
    after.member? chatId userId = db.member? chatId userId := by
  have same := rely.kept _ locked
  simp only [ownerContract, if_true, OwnerView.mk.injEq] at same
  exact same.2.1

theorem commits_handed {newId previousId : UserId} {newRow previousRow : ChatMember}
    (chatLocked : RowKey.chat chatId ∈ held) (newLocked : RowKey.member chatId newId ∈ held)
    (previousLocked : RowKey.member chatId previousId ∈ held)
    (named : db.owner? chatId = some previousId) (apart : newId ≠ previousId)
    (newFound : db.member? chatId newId = some newRow) (free : newRow.isBanned horizon = false)
    (previousFound : db.member? chatId previousId = some previousRow)
    (owner : ∀ before : Db, (applyAll log before).owner? chatId =
      (before.owner? chatId).map fun _ => newId)
    (crowned : ∀ before : Db, before.member? chatId newId = some newRow →
      (applyAll log before).member? chatId newId = some { newRow with roleId := .owner })
    (stepped : ∀ before : Db, before.member? chatId previousId = some previousRow →
      (applyAll log before).member? chatId previousId = some { previousRow with roleId := .admin })
    (others : ∀ (before : Db) userId, userId ≠ newId → userId ≠ previousId →
      (applyAll log before).member? chatId userId = before.member? chatId userId) :
    (ownerContract chatId horizon).Commits held log db := by
  intro after rely
  have before : after.owner? chatId = some previousId := by
    rw [Db.owner?, charter_kept chatLocked rely]
    exact named
  have newBefore := (member_kept newLocked rely).trans newFound
  have previousBefore := (member_kept previousLocked rely).trans previousFound
  have newAfter := crowned after newBefore
  have previousAfter := stepped after previousBefore
  obtain ⟨head, headed⟩ := rely.inv
  have head_eq : head = previousId := by
    have same := headed.named
    rw [before] at same
    exact (Option.some.inj same).symm
  subst head_eq
  refine ⟨⟨newId, ?_, ⟨_, newAfter, rfl, free⟩, fun userId row stored top => ?_⟩,
    fun userId id gone row stored => ?_, fun key outside => ?_⟩
  · rw [owner, before]
    rfl
  · by_cases new : userId = newId
    · exact new
    · by_cases previous : userId = head
      · rw [previous, previousAfter] at stored
        cases stored
        cases top
      · rw [others after userId new previous] at stored
        exact absurd (headed.sole userId row stored top) previous
  · by_cases new : userId = newId
    · rw [new, newAfter] at stored
      cases stored
      exact gone newRow (new ▸ newBefore)
    · by_cases previous : userId = head
      · rw [previous, previousAfter] at stored
        cases stored
        exact gone previousRow (previous ▸ previousBefore)
      · rw [others after userId new previous] at stored
        exact gone row stored
  · cases key with
    | chat target =>
        have different : target ≠ chatId := by
          rintro rfl
          exact outside chatLocked
        simp [ownerContract, different]
    | member target userId =>
        simp only [ownerContract]
        split
        · rename_i here
          rw [here] at outside
          have new : userId ≠ newId := by
            rintro rfl
            exact outside newLocked
          have previous : userId ≠ head := by
            rintro rfl
            exact outside previousLocked
          rw [others after userId new previous, owner, before]
          simp [Ne.symm new, Ne.symm previous]
        · rfl
    | _ => rfl

def Gentle (chatId : ChatId) (log : List Write) : Prop :=
  ∀ (before : Db) userId row, (applyAll log before).member? chatId userId = some row →
    ∃ old, before.member? chatId userId = some old ∧ old.id = row.id ∧
      old.bannedUntil = row.bannedUntil

theorem gentle_patchChat (target : ChatId) (patch : ChatPatch) :
    Gentle chatId [.patchChat target patch] := by
  intro before userId row stored
  rw [applyAll_cons, applyAll_nil, Db.apply_eq, Db.member_apply _ _ _ _ rfl] at stored
  exact ⟨row, stored, rfl, rfl⟩

theorem gentle_role (gentle : Gentle chatId log) (target : ChatId) (userId : UserId)
    (id : MemberId) (role : ChatRoleId) :
    Gentle chatId (log ++ [Write.patchMember target userId id { roleId := some role }]) := by
  intro before other row stored
  rw [applyAll_append, applyAll_cons, applyAll_nil, Db.apply_eq, Db.member_patchMember] at stored
  obtain ⟨middle, found, rfl⟩ := Option.map_eq_some_iff.mp stored
  obtain ⟨old, kept, sameId, sameBan⟩ := gentle before other middle found
  refine ⟨old, kept, ?_, ?_⟩
  · rw [sameId]
    split <;> rfl
  · rw [sameBan]
    split <;> rfl

theorem safe_handing {Result : Type} {Post : Result → List RowKey → List Write → Db → Prop}
    {row : ChatMember} {role : ChatRoleId} {rest : Unit → Handler Result}
    (inChat : row.chatId = chatId) (gentle : Gentle chatId log)
    (next : ∀ after stored, (ownerContract chatId horizon).Rely held db after →
      after.member? chatId row.userId = some stored → stored.id = row.id →
      (role = .owner → stored.isBanned horizon = false) →
      (ownerContract chatId horizon).Safe Post (rest ())
        (held ++ [RowKey.member chatId row.userId])
        (log ++ [Write.patchMember chatId row.userId row.id { roleId := some role }]) after) :
    (ownerContract chatId horizon).Safe Post
      ((patchMember { roleId := some role } row).bind rest) held log db := by
  refine Contract.safe_statement fun after rely met _ answered => ?_
  split at answered
  · rename_i present
    rw [if_pos present] at met
    rw [if_pos present, if_pos present]
    rw [inChat] at met ⊢
    cases seen : (applyAll log after).member? chatId row.userId with
    | none =>
        rw [← inChat] at seen
        simp [Db.hasMemberRow, seen] at present
    | some found =>
        obtain ⟨stored, kept, sameId, sameBan⟩ := gentle after row.userId found seen
        have matched : found.id = row.id := by
          rw [← inChat] at seen
          simpa [Db.hasMemberRow, seen] using present
        refine next after stored rely kept (sameId.trans matched) fun crowned => ?_
        have spared := met _ (List.mem_singleton.mpr rfl) rfl
        rw [if_pos (by rw [crowned])] at spared
        rw [ChatMember.isBanned, sameBan]
        exact spared.2 found seen
  · cases answered

def handingLog (chatId : ChatId) (newId firstId secondId : UserId) (first second : MemberId)
    (firstRole secondRole : ChatRoleId) : List Write :=
  [.patchChat chatId { createdBy := some newId },
    .patchMember chatId firstId first { roleId := some firstRole },
    .patchMember chatId secondId second { roleId := some secondRole }]

section HandingLog

variable {newId firstId secondId : UserId} {first second : MemberId}
  {firstRole secondRole : ChatRoleId}

theorem owner_handingLog (before : Db) :
    (applyAll (handingLog chatId newId firstId secondId first second firstRole secondRole)
      before).owner? chatId = (before.owner? chatId).map fun _ => newId := by
  simp only [handingLog, applyAll_cons, applyAll_nil, Db.apply_eq, Db.owner?]
  rw [Db.charter_apply _ _ _ rfl, Db.charter_apply _ _ _ rfl, Db.charter_patchChat]
  cases before.charter? chatId with
  | none => rfl
  | some charter => simp

theorem first_handingLog (before : Db) {row : ChatMember} (apart : firstId ≠ secondId)
    (found : before.member? chatId firstId = some row) (same : row.id = first) :
    (applyAll (handingLog chatId newId firstId secondId first second firstRole secondRole)
      before).member? chatId firstId = some { row with roleId := firstRole } := by
  obtain ⟨inChat, ofUser⟩ := Db.member_key found
  simp only [handingLog, applyAll_cons, applyAll_nil, Db.apply_eq, Db.member_patchMember]
  rw [Db.member_apply _ _ _ _ rfl, found]
  simp [Db.isMemberRow, ChatMember.key, MemberPatch.apply, inChat, ofUser, same, apart]

theorem second_handingLog (before : Db) {row : ChatMember} (apart : firstId ≠ secondId)
    (found : before.member? chatId secondId = some row) (same : row.id = second) :
    (applyAll (handingLog chatId newId firstId secondId first second firstRole secondRole)
      before).member? chatId secondId = some { row with roleId := secondRole } := by
  obtain ⟨inChat, ofUser⟩ := Db.member_key found
  simp only [handingLog, applyAll_cons, applyAll_nil, Db.apply_eq, Db.member_patchMember]
  rw [Db.member_apply _ _ _ _ rfl, found]
  simp [Db.isMemberRow, ChatMember.key, MemberPatch.apply, inChat, ofUser, same, apart.symm]

theorem others_handingLog (before : Db) (userId : UserId) (notFirst : userId ≠ firstId)
    (notSecond : userId ≠ secondId) :
    (applyAll (handingLog chatId newId firstId secondId first second firstRole secondRole)
      before).member? chatId userId = before.member? chatId userId := by
  simp only [handingLog, applyAll_cons, applyAll_nil, Db.apply_eq, Db.member_patchMember]
  rw [Db.member_apply _ _ _ _ rfl]
  cases found : before.member? chatId userId with
  | none => rfl
  | some row =>
      simp [isMemberRow_other first found fun both => notFirst both.2,
        isMemberRow_other second found fun both => notSecond both.2]

end HandingLog

theorem safe_previousOwnerRow {Result : Type} {Post : Result → List RowKey → List Write → Db → Prop}
    {requester : Option ChatMember} {previousId : UserId} {rest : Option ChatMember → Handler Result}
    (locked : RowKey.chat chatId ∈ held) (named : db.owner? chatId = some previousId)
    (top : ∀ row, requester = some row → row.userId = previousId →
      row.chatId = chatId ∧ row.roleId = .owner) (holds : ∃ owner, Headed chatId horizon db owner)
    (next : ∀ after previous, (ownerContract chatId horizon).Rely held db after →
      previous.chatId = chatId → previous.userId = previousId → previous.roleId = .owner →
      (ownerContract chatId horizon).Safe Post (rest (some previous)) held [] after) :
    (ownerContract chatId horizon).Safe Post
      ((previousOwnerRow chatId requester previousId).bind rest) held [] db := by
  unfold previousOwnerRow
  split
  · rename_i own
    obtain ⟨row, asked, same⟩ := (Option.any_eq_true _ _).mp own
    have same : row.userId = previousId := by simpa using same
    obtain ⟨inChat, role⟩ := top row asked same
    rw [asked]
    exact next db row (Contract.rely_refl holds) inChat same role
  · refine Contract.safe_read fun after rely => ?_
    obtain ⟨head, headed⟩ := rely.inv
    have head_eq : previousId = head := by
      have before := headed.named
      rw [Db.owner?, charter_kept locked rely, ← Db.owner?, named] at before
      exact Option.some.inj before
    subst head_eq
    obtain ⟨row, stored, role, _⟩ := headed.present
    rw [applyAll_nil, stored]
    exact next after row rely (Db.member_key stored).1 (Db.member_key stored).2 role

theorem safe_transferRoles {newOwner previous : ChatMember} {event : ChatEvent}
    {result : Unit → Unit} (locked : RowKey.chat chatId ∈ held)
    (named : db.owner? chatId = some previous.userId) (apart : newOwner.userId ≠ previous.userId)
    (newInChat : newOwner.chatId = chatId) (newRole : newOwner.roleId ≠ .owner)
    (inChat : previous.chatId = chatId) (role : previous.roleId = .owner) :
    (ownerContract chatId horizon).Safe (fun _ _ _ _ => True)
      ((transferRoles newOwner (some previous)).bind fun _ => (publish [event]).bind fun _ =>
        (Tx.commitNow : Handler Unit).bind fun ended => .done (result ended))
      held [.patchChat chatId { createdBy := some newOwner.userId }] db := by
  have stepsDown : previous.roleId ≠ .admin := by
    rw [role]
    decide
  have gentle : Gentle chatId [.patchChat chatId { createdBy := some newOwner.userId }] :=
    gentle_patchChat _ _
  simp only [transferRoles, flushRole, if_neg newRole, if_neg stepsDown, Tx.ite_bind, Tx.bind_eq,
    Tx.bind_assoc]
  split
  · refine safe_handing newInChat gentle fun first newRow rely newFound newSame free => ?_
    refine safe_handing inChat (gentle_role gentle _ _ _ _)
      fun second previousRow later previousFound previousSame _ => safe_last ?_
    have owner : second.owner? chatId = some previous.userId := by
      rw [Db.owner?, charter_kept (by simp [locked]) later, charter_kept locked rely]
      exact named
    have newStill := (member_kept (by simp) later).trans newFound
    refine commits_handed (by simp [locked]) (by simp) (by simp) owner apart newStill (free rfl)
      previousFound (fun before => owner_handingLog before)
      (fun before found => first_handingLog before apart found newSame)
      (fun before found => second_handingLog before apart found previousSame)
      fun before userId notNew notPrevious => others_handingLog before userId notNew notPrevious
  · refine safe_handing inChat gentle fun first previousRow rely previousFound previousSame _ => ?_
    refine safe_handing newInChat (gentle_role gentle _ _ _ _)
      fun second newRow later newFound newSame free => safe_last ?_
    have owner : second.owner? chatId = some previous.userId := by
      rw [Db.owner?, charter_kept (by simp [locked]) later, charter_kept locked rely]
      exact named
    have previousStill := (member_kept (by simp) later).trans previousFound
    refine commits_handed (by simp [locked]) (by simp) (by simp) owner apart newFound (free rfl)
      previousStill (fun before => owner_handingLog before)
      (fun before found => second_handingLog before apart.symm found newSame)
      (fun before found => first_handingLog before apart.symm found previousSame)
      fun before userId notNew notPrevious => others_handingLog before userId notPrevious notNew

end Transfer

section Programs

variable {chatId : ChatId} {horizon : Nat} (user : UserJWTData) (now : Nat)

theorem holds_leaveChat (target : ChatId) :
    (ownerContract chatId horizon).Keeps (leaveChat user target) := by
  intro db _
  unfold leaveChat
  simp only [Tx.bind_eq, Tx.pure_eq]
  refine Contract.safe_read fun _ _ => Contract.safe_orRaise fun chat _ => ?_
  refine Contract.safe_read fun _ _ => Contract.safe_orRaise fun row _ => ?_
  exact Contract.safe_require fun _ => spared_expulsion

theorem holds_kickMember (target : ChatId) (targetUserId : UserId) :
    (ownerContract chatId horizon).Keeps (kickMember user now target targetUserId) := by
  intro db _
  unfold kickMember
  simp only [Tx.bind_eq, Tx.pure_eq]
  refine Contract.safe_read fun _ _ => Contract.safe_orRaise fun chat _ => ?_
  refine Contract.safe_read fun _ _ => Contract.safe_read fun _ _ => ?_
  refine Contract.safe_orRaise fun row _ => Contract.safe_require fun _ => ?_
  exact Contract.safe_require fun _ => spared_expulsion

theorem holds_banMember (target : ChatId) (targetUserId : UserId) (bannedUntil : Option Nat) :
    (ownerContract chatId horizon).Keeps (banMember user now target targetUserId bannedUntil) := by
  intro db _
  simp only [banMember, moderated, Tx.bind_eq, Tx.pure_eq, Tx.bind_assoc, Tx.done_bind]
  refine Contract.safe_read fun _ _ => Contract.safe_orRaise fun chat _ => ?_
  refine Contract.safe_read fun _ _ => Contract.safe_read fun _ _ => ?_
  refine Contract.safe_orRaise fun row _ => Contract.safe_require fun _ => ?_
  refine Contract.safe_require fun _ => ?_
  unfold flushBannedUntil
  split
  · refine Contract.safe_query fun _ _ _ _ => safe_last ?_
    exact commits_agree fun _ _ => ⟨rfl, fun _ => rfl⟩
  · refine spared_patchMember (by simp) (by simp) fun held log db commits => ?_
    refine Contract.safe_query fun _ rely _ _ => safe_last ?_
    exact Contract.commits_stable commits rely

theorem holds_changeMemberRole (target : ChatId) (targetUserId : UserId) (roleId : Nat) :
    (ownerContract chatId horizon).Keeps
      (changeMemberRole user now target targetUserId roleId) := by
  intro db _
  unfold changeMemberRole
  simp only [Tx.bind_eq, Tx.pure_eq]
  refine Contract.safe_read fun _ _ => Contract.safe_read fun _ _ => ?_
  refine Contract.safe_orRaise fun row _ => Contract.safe_require fun _ => ?_
  refine Contract.safe_ofExcept fun role _ => ?_
  unfold flushRole
  split
  · exact Contract.safe_commit_last (commits_agree fun _ _ => ⟨rfl, fun _ => rfl⟩)
  · refine spared_patchMember (fun _ => rfl) (by simp) fun held log db commits => ?_
    exact Contract.safe_commit_last commits

theorem holds_transferOther (target : ChatId) (newOwnerId : UserId) (other : target ≠ chatId) :
    (ownerContract chatId horizon).Keeps (transferChatOwnership user now target newOwnerId) := by
  have emits : (transferChatOwnership user now target newOwnerId).Emits (Aside chatId) := by
    refine Tx.emits_mono (transferChatOwnership_emits user now target newOwnerId) ?_
    intro write member
    cases write <;> simp_all [Request.Footprint, Request.Patches, Request.Admits, Request.Amends,
      Request.Removes, Aside]
  refine Contract.keeps_of_emits (fun held log db quiet => ?_) emits
  exact commits_agree fun after _ => agree_applyAll log after quiet

theorem holds_transferHere (newOwnerId : UserId) :
    (ownerContract chatId horizon).Keeps (transferChatOwnership user now chatId newOwnerId) := by
  intro db _
  unfold transferChatOwnership
  simp only [Tx.bind_eq, Tx.pure_eq]
  refine Contract.safe_statement fun first _ _ found answered => ?_
  refine Contract.safe_orRaise fun chat chatFound => ?_
  rw [chatFound, Except.ok.injEq, applyAll_nil] at answered
  simp only [applyAll_nil, answered, Option.isSome_some, if_true, List.nil_append]
  have charter := Db.charter_of_open answered
  have sameId := Db.openChat_id answered
  refine Contract.safe_read fun second rely => Contract.safe_require fun _ => ?_
  have charter₂ := (charter_kept (by simp) rely).trans charter
  refine Contract.safe_read fun third later => Contract.safe_orRaise fun newOwner newFound => ?_
  have charter₃ := (charter_kept (by simp) later).trans charter₂
  refine Contract.safe_ofExcept fun _ allowed => ?_
  obtain ⟨apart, _⟩ := Chat.transferOwnership_ok allowed
  rw [applyAll_nil] at newFound
  obtain ⟨newInChat, newUser⟩ := Db.member_key newFound
  have headOf : ∀ {state : Db}, state.charter? chatId = some chat.charter →
      (∃ owner, Headed chatId horizon state owner) → Headed chatId horizon state chat.createdBy := by
    rintro state same ⟨owner, headed⟩
    have named := headed.named
    rw [Db.owner?, same] at named
    cases named
    exact headed
  have newRole : newOwner.roleId ≠ .owner := by
    intro top
    refine apart ?_
    rw [newUser]
    exact (headOf charter₃ later.inv).sole newOwnerId newOwner newFound top
  refine safe_previousOwnerRow (by simp) (by rw [Db.owner?, charter₃]; rfl)
    (fun row asked own => ?_) later.inv fun fourth previous still inChat ofUser role => ?_
  · rw [applyAll_nil] at asked
    obtain ⟨inChat, _⟩ := Db.member_key asked
    obtain ⟨owned, stored, role, _⟩ := (headOf charter₂ rely.inv).present
    rw [← own, (Db.member_key asked).2, asked] at stored
    cases stored
    exact ⟨inChat, role⟩
  · have charter₄ := (charter_kept (by simp) still).trans charter₃
    refine Contract.safe_statement fun fifth unchanged _ _ done => ?_
    split at done
    · rename_i present
      rw [if_pos present, if_pos present, sameId]
      have charter₅ := (charter_kept (by simp) unchanged).trans charter₄
      refine safe_transferRoles (by simp) ?_ (by rwa [ofUser]) newInChat newRole inChat role
      rw [Db.owner?, charter₅, ofUser]
      rfl
    · cases done

theorem holds_transferChatOwnership (target : ChatId) (newOwnerId : UserId) :
    (ownerContract chatId horizon).Keeps (transferChatOwnership user now target newOwnerId) := by
  by_cases here : target = chatId
  · rw [here]
    exact holds_transferHere user now newOwnerId
  · exact holds_transferOther user now target newOwnerId here

end Programs

/-- The commands that move the ownership of a chat, remove a member, ban him or change his role. -/
inductive OwnershipCommand : Handler Unit → Prop
  | transferChatOwnership (user now chatId newOwnerId) :
      OwnershipCommand (transferChatOwnership user now chatId newOwnerId)
  | leaveChat (user chatId) : OwnershipCommand (leaveChat user chatId)
  | kickMember (user now chatId targetUserId) :
      OwnershipCommand (kickMember user now chatId targetUserId)
  | banMember (user now chatId targetUserId bannedUntil) :
      OwnershipCommand (banMember user now chatId targetUserId bannedUntil)
  | changeMemberRole (user now chatId targetUserId roleId) :
      OwnershipCommand (changeMemberRole user now chatId targetUserId roleId)

theorem holds_ownershipCommand (chatId : ChatId) (horizon : Nat) {program : Handler Unit}
    (command : OwnershipCommand program) : (ownerContract chatId horizon).Keeps program := by
  cases command with
  | transferChatOwnership user now target newOwnerId =>
      exact holds_transferChatOwnership user now target newOwnerId
  | leaveChat user target => exact holds_leaveChat user target
  | kickMember user now target userId => exact holds_kickMember user now target userId
  | banMember user now target userId bannedUntil =>
      exact holds_banMember user now target userId bannedUntil
  | changeMemberRole user now target userId roleId =>
      exact holds_changeMemberRole user now target userId roleId

/-- `created_by` of the chat names a member with the OWNER role who is not banned. -/
def OwnerInPlace (chatId : ChatId) (horizon : Nat) (db : Db) : Prop :=
  ∃ chat row, db.chat? chatId = some chat ∧ db.member? chatId chat.createdBy = some row ∧
    row.roleId = .owner ∧ row.isBanned horizon = false

theorem headed_inPlace {chatId : ChatId} {horizon : Nat} {db : Db} {owner : UserId}
    (headed : Headed chatId horizon db owner) : OwnerInPlace chatId horizon db := by
  have named := headed.named
  simp only [Db.owner?, Db.charter?, Option.map_map, Option.map_eq_some_iff] at named
  obtain ⟨chat, found, rfl⟩ := named
  obtain ⟨row, stored, role, free⟩ := headed.present
  exact ⟨chat, row, found, stored, role, free⟩

/-- In every interleaving of transfers, leaves, kicks, bans and role changes whose writes spare
the owner, `created_by` names an owner in place in every committed state. -/
theorem owner_inPlace_in_run (chatId : ChatId) (horizon : Nat) (db : Db) (owner : UserId)
    (start : Headed chatId horizon db owner) (final : System Db Write RowKey ChatError)
    (run : Run OwnershipCommand (OwnerSpared chatId horizon) (System.idle db) final) :
    OwnerInPlace chatId horizon final.db := by
  have holds : (ownerContract chatId horizon).inv final.db :=
    Contract.run_inv (fun _ command => holds_ownershipCommand chatId horizon command)
      (Contract.sound_idle ⟨owner, start⟩) run
  obtain ⟨_, headed⟩ := holds
  exact headed_inPlace headed

def spares (chatId : ChatId) (horizon : Nat) (seen : Db) : Write → Bool
  | .deleteMember target userId _ => target != chatId || seen.owner? chatId != some userId
  | .patchMember target userId _ patch => target != chatId ||
      if patch.roleId = some .owner then
        seen.owner? chatId == some userId &&
          (seen.member? chatId userId).all fun row => !row.isBanned horizon
      else seen.owner? chatId != some userId
  | _ => true

theorem spares_sound (chatId : ChatId) (horizon : Nat) (seen : Db) (writes : List Write)
    (found : (writes.all (spares chatId horizon seen)) = true) :
    OwnerSpared chatId horizon seen writes := by
  intro write member
  have passed := (List.all_eq_true.mp found) write member
  cases write with
  | deleteMember target userId id =>
      intro here
      simpa [spares, here] using passed
  | patchMember target userId id patch =>
      intro here
      simp only [spares, here, bne_self_eq_false, Bool.false_or] at passed
      split at passed
      · rename_i crowned
        rw [if_pos crowned]
        simp only [Bool.and_eq_true, beq_iff_eq] at passed
        refine ⟨passed.1, fun row stored => ?_⟩
        simpa [stored] using passed.2
      · rename_i other
        rw [if_neg other]
        simpa using passed
  | _ => trivial

def ownedGroup : Db :=
  applyAll
    [.insertChat { id := 1, type := .group, createdBy := 1, memberCount := 3 },
      .insertMember 1 1 .owner, .insertMember 1 2 .member, .insertMember 1 3 .member] {}

theorem ownedGroup_headed : Headed 1 0 ownedGroup 1 := by
  refine ⟨by decide +kernel, ⟨_, rfl, by decide +kernel, by decide +kernel⟩, ?_⟩
  intro userId row stored top
  have listed : row ∈ ownedGroup.members.rows := ((Table.find?_some_iff _ _ _).mp stored).1
  have owners : ∀ row ∈ ownedGroup.members.rows, row.roleId = .owner → row.userId = 1 := by
    decide +kernel
  rw [← (Db.member_key stored).2]
  exact owners row listed top

def transferBesideKick : List (Label Db Write RowKey ChatError) :=
  [Label.start (transferChatOwnership { id := 1 } 0 1 3),
    Label.start (kickMember { id := 1 } 0 1 2)] ++
    (List.replicate 3 [Label.exec 0, Label.exec 1]).flatten ++ List.replicate 5 (Label.exec 0) ++
    List.replicate 4 (Label.exec 1)

theorem owner_inPlace_after_transfer :
    ∃ final, (System.idle ownedGroup).steps
        (fun seen writes => writes.all (spares 1 0 seen)) transferBesideKick = some final ∧
      final.sessions.all Session.Finished = true ∧ final.db.owner? 1 = some 3 ∧
      OwnerInPlace 1 0 final.db := by
  have outcome : ((System.idle ownedGroup).steps
      (fun seen writes => writes.all (spares 1 0 seen)) transferBesideKick).map
        (fun final => (final.sessions.all Session.Finished, final.db.owner? 1)) =
      some (true, some 3) := by decide +kernel
  obtain ⟨final, reached, ended⟩ := Option.map_eq_some_iff.mp outcome
  simp only [Prod.mk.injEq] at ended
  refine ⟨final, reached, ended.1, ended.2,
    owner_inPlace_in_run 1 0 ownedGroup 1 ownedGroup_headed final ?_⟩
  refine run_of_steps _ (spares_sound 1 0) transferBesideKick _ _ _ ?_ .refl reached
  intro program started
  simp [transferBesideKick] at started
  rcases started with rfl | rfl
  · exact .transferChatOwnership _ _ _ _
  · exact .kickMember _ _ _ _

def leaveAroundTransfer : List (Label Db Write RowKey ChatError) :=
  [Label.start (leaveChat { id := 3 } 1), Label.start (transferChatOwnership { id := 1 } 0 1 3)] ++
    List.replicate 2 (Label.exec 0) ++ List.replicate 8 (Label.exec 1) ++
    List.replicate 4 (Label.exec 0)

theorem owner_lost_to_leave :
    ¬ ∀ (db : Db) (final : System Db Write RowKey ChatError), Headed 1 0 db 1 →
      Run OwnershipCommand (fun _ _ => True) (System.idle db) final →
      (∀ session ∈ final.sessions, session.Finished = true) → OwnerInPlace 1 0 final.db := by
  intro claimed
  have outcome : ((System.idle ownedGroup).steps (fun _ _ => true) leaveAroundTransfer).map
      (fun final => (final.sessions.all Session.Finished, (final.db.chat? 1).map (·.createdBy),
        final.db.member? 1 3)) = some (true, some 3, none) := by decide +kernel
  obtain ⟨final, reached, ended⟩ := Option.map_eq_some_iff.mp outcome
  simp only [Prod.mk.injEq, List.all_eq_true] at ended
  obtain ⟨finished, named, gone⟩ := ended
  have inPlace : OwnerInPlace 1 0 final.db := by
    refine claimed ownedGroup final ownedGroup_headed ?_ finished
    refine run_of_steps (fun _ _ => true) (fun _ _ _ => trivial) leaveAroundTransfer _ _ _ ?_
      .refl reached
    intro program started
    simp [leaveAroundTransfer] at started
    rcases started with rfl | rfl
    · exact .leaveChat _ _
    · exact .transferChatOwnership _ _ _ _
  obtain ⟨chat, row, found, stored, _⟩ := inPlace
  rw [found, Option.map_some, Option.some.injEq] at named
  rw [named, gone] at stored
  cases stored

end Messanger
