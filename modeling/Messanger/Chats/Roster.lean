import Messanger.Chats.CommandsCore

/-!
The counter of a chat against its membership rows while a session is in the middle of
changing both: what each statement of the membership commands does to the difference.
-/

namespace Messanger

open Relational

structure Roster where
  memberCount : Option Int
  members : List (UserId × MemberId)

namespace Roster

def drift (roster : Roster) : Option Int :=
  roster.memberCount.map fun count => count - roster.members.length

def present (roster : Roster) (userId : UserId) : Bool :=
  roster.members.any fun entry => entry.1 == userId

end Roster

def Db.roster (db : Db) (chatId : ChatId) : Roster where
  memberCount := (db.openChat? chatId).map (·.memberCount)
  members := (db.members.select fun member => decide (member.chatId = chatId)).map fun member =>
    (member.userId, member.id)

namespace Db

theorem roster_length (db : Db) (chatId : ChatId) :
    (db.roster chatId).members.length = db.memberRows chatId := by
  simp [roster, memberRows, Table.select, Table.count, List.countP_eq_length_filter]

theorem roster_present (db : Db) (chatId : ChatId) (userId : UserId) :
    (db.roster chatId).present userId = (db.member? chatId userId).isSome := by
  rw [Bool.eq_iff_iff]
  simp only [Roster.present, roster, Table.select, List.any_map, List.any_filter, List.any_eq_true,
    Function.comp_apply, Bool.and_eq_true, decide_eq_true_eq, beq_iff_eq]
  constructor
  · rintro ⟨member, stored, inChat, sameUser⟩
    have found : db.member? chatId userId = some member :=
      (db.members.find?_some_iff _ _).mpr ⟨stored, by simp [ChatMember.key, inChat, sameUser]⟩
    simp [found]
  · intro found
    obtain ⟨member, found⟩ := Option.isSome_iff_exists.mp found
    obtain ⟨stored, key⟩ := (db.members.find?_some_iff _ _).mp found
    simp only [ChatMember.key, Prod.mk.injEq] at key
    exact ⟨member, stored, key.1, key.2⟩

end Db

section Writes

variable (chatId : ChatId) (db : Db)

theorem roster_shift (delta : Int) :
    (Db.apply (.shiftMemberCount chatId delta) db).roster chatId =
      { db.roster chatId with
        memberCount := (db.roster chatId).memberCount.map (· + delta) } := by
  simp only [Db.apply, Db.roster, Roster.mk.injEq]
  refine ⟨?_, rfl⟩
  rw [Db.openChat_updateChat]
  · cases found : db.openChat? chatId with
    | none => rfl
    | some chat => simp [Db.openChat_id found]
  · exact fun _ => rfl

theorem roster_insert (userId : UserId) (roleId : ChatRoleId)
    (absent : db.member? chatId userId = none) :
    (Db.apply (.insertMember chatId userId roleId) db).roster chatId =
      { db.roster chatId with
        members := (db.roster chatId).members ++ [(userId, db.nextMemberId)] } := by
  simp only [Db.apply, Db.roster, Roster.mk.injEq]
  refine ⟨rfl, ?_⟩
  simp only [Table.select]
  rw [Table.rows_insert _ _ (by simpa [Db.member?, ChatMember.key] using absent)]
  simp

theorem roster_delete (userId : UserId) (id : MemberId) :
    (Db.apply (.deleteMember chatId userId id) db).roster chatId =
      { db.roster chatId with
        members := (db.roster chatId).members.filter fun entry => entry ≠ (userId, id) } := by
  simp only [Db.apply, Db.roster, Roster.mk.injEq]
  refine ⟨rfl, ?_⟩
  simp only [Table.select, Table.delete, List.filter_filter, List.filter_map]
  refine congrArg (List.map _) (List.filter_congr fun member _ => ?_)
  by_cases inChat : member.chatId = chatId <;>
    simp [Db.isMemberRow, ChatMember.key, inChat, Prod.ext_iff]

def Neutral : Write → Prop
  | .shiftMemberCount target _ => target ≠ chatId
  | .insertMember target _ _ => target ≠ chatId
  | .deleteMember target _ _ => target ≠ chatId
  | .insertChat _ => False
  | .patchChat _ _ => False
  | .patchMember _ _ _ _ => False
  | .allocateMessageSeq _ _ _ => False
  | _ => True

theorem roster_neutral (write : Write) (neutral : Neutral chatId write) :
    (Db.apply write db).roster chatId = db.roster chatId := by
  cases write
  case shiftMemberCount target delta =>
    simp only [Neutral] at neutral
    simp only [Db.apply, Db.roster, Roster.mk.injEq]
    refine ⟨?_, rfl⟩
    rw [Db.openChat_updateChat]
    · cases found : db.openChat? chatId with
      | none => rfl
      | some chat => simp [Db.openChat_id found, Ne.symm neutral]
    · exact fun _ => rfl
  case insertMember target userId roleId =>
    simp only [Neutral] at neutral
    simp only [Db.apply, Db.roster, Roster.mk.injEq]
    refine ⟨rfl, ?_⟩
    simp only [Table.select, Table.insert]
    split
    · rfl
    · simp [neutral]
  case deleteMember target userId id =>
    simp only [Neutral] at neutral
    simp only [Db.apply, Db.roster, Roster.mk.injEq]
    refine ⟨rfl, ?_⟩
    simp only [Table.select, Table.delete, List.filter_filter]
    refine congrArg (List.map _) (List.filter_congr fun member _ => ?_)
    by_cases inChat : member.chatId = chatId
    · simp [Db.isMemberRow, ChatMember.key, inChat, Ne.symm neutral]
    · simp [inChat]
  all_goals first | rfl | exact neutral.elim

theorem roster_neutral_all (log : List Write) (neutral : ∀ write ∈ log, Neutral chatId write) :
    (applyAll log db).roster chatId = db.roster chatId :=
  applyAll_preserves (fun after => after.roster chatId = db.roster chatId) log
    (fun write member after same => (roster_neutral chatId after write (neutral write member)).trans
      same) db rfl

end Writes

/-- Every `DELETE` of a membership row of the chat still finds its row. -/
def DeletesFound (chatId : ChatId) (seen : Db) (writes : List Write) : Prop :=
  ∀ userId id, .deleteMember chatId userId id ∈ writes →
    ∃ row, seen.member? chatId userId = some row ∧ row.id = id

/-- The counter is exact in every committed state, and whoever holds the chat row knows the
counter and the members. -/
def countContract (chatId : ChatId) : Contract Db Write RowKey (Option Roster) where
  inv db := (db.roster chatId).drift = some 0
  view key db := if key = .chat chatId then some (db.roster chatId) else none
  ok := DeletesFound chatId

section Steps

variable {chatId : ChatId} {Result Answer : Type}
  {Post : Result → List RowKey → List Write → Db → Prop}
  {held : List RowKey} {log : List Write} {db : Db}

theorem roster_of_rely {after : Db} (locked : RowKey.chat chatId ∈ held)
    (rely : (countContract chatId).Rely held db after) :
    after.roster chatId = db.roster chatId := by
  simpa [countContract] using rely.kept (.chat chatId) locked

/-- A session in the middle of a membership change: it has moved the counter by `owed` more than
the rows, and who is present after its writes depends only on who was present before. -/
structure Owes (chatId : ChatId) (owed : Int) (held : List RowKey) (log : List Write) (db : Db) :
    Prop where
  locked : RowKey.chat chatId ∈ held
  blind : ∀ left right : Db, left.roster chatId = right.roster chatId → ∀ userId,
    ((applyAll log left).roster chatId).present userId =
      ((applyAll log right).roster chatId).present userId
  drift : ∀ after, (countContract chatId).Rely held db after →
    ((applyAll log after).roster chatId).drift = some owed

/-- The same for a session that works on chat `target`, which may be another chat; a session
that has not touched the roster owes nothing. -/
def Stands (chatId target : ChatId) (owed : Int) (held : List RowKey) (log : List Write)
    (db : Db) : Prop :=
  ((∀ write ∈ log, Neutral chatId write) ∧ (target = chatId → owed = 0)) ∨
    (target = chatId ∧ Owes chatId owed held log db)

theorem stands_neutral {target : ChatId} {owed : Int} {keys : List RowKey} {writes : List Write}
    {after : Db} (stands : Stands chatId target owed held log db)
    (rely : (countContract chatId).Rely held db after)
    (neutral : ∀ write ∈ writes, Neutral chatId write) :
    Stands chatId target owed (held ++ keys) (log ++ writes) after := by
  rcases stands with ⟨quiet, settled⟩ | ⟨here, owes⟩
  · refine .inl ⟨fun write member => ?_, settled⟩
    rcases List.mem_append.mp member with old | new
    · exact quiet write old
    · exact neutral write new
  · refine .inr ⟨here, List.mem_append_left _ owes.locked, ?_, ?_⟩
    · intro left right same userId
      rw [applyAll_append, applyAll_append, roster_neutral_all _ _ _ neutral,
        roster_neutral_all _ _ _ neutral]
      exact owes.blind left right same userId
    · intro later relied
      rw [applyAll_append, roster_neutral_all _ _ _ neutral]
      exact owes.drift later (Contract.rely_trans rely (Contract.rely_fewer relied))

theorem safe_neutral {locks : Db → List RowKey} {writes : Db → List Write}
    {answer : Db → Except ChatError Answer} {rest : Answer → Handler Result} {target : ChatId}
    {owed : Int} (stands : Stands chatId target owed held log db)
    (neutral : ∀ seen, ∀ write ∈ writes seen, Neutral chatId write)
    (next : ∀ answer held log db, Stands chatId target owed held log db →
      (countContract chatId).Safe Post (rest answer) held log db) :
    (countContract chatId).Safe Post ((Tx.statement locks writes answer).bind rest) held log db := by
  refine Contract.safe_statement fun after rely _ result _ => ?_
  exact next result _ _ _ (stands_neutral stands rely (neutral _))

theorem safe_quiet {locks : Db → List RowKey} {writes : Db → List Write}
    {answer : Db → Except ChatError Answer} {rest : Answer → Handler Result}
    (quiet : ∀ write ∈ log, Neutral chatId write)
    (neutral : ∀ seen, ∀ write ∈ writes seen, Neutral chatId write)
    (next : ∀ answer held log db, (∀ write ∈ log, Neutral chatId write) →
      (countContract chatId).Safe Post (rest answer) held log db) :
    (countContract chatId).Safe Post ((Tx.statement locks writes answer).bind rest) held log db := by
  refine Contract.safe_statement fun after rely _ result _ => ?_
  refine next result _ _ _ fun write member => ?_
  rcases List.mem_append.mp member with old | new
  · exact quiet write old
  · exact neutral _ write new

theorem insert_drift {roster : Roster} {owed : Int} {entry : UserId × MemberId}
    (drift : roster.drift = some owed) :
    Roster.drift { roster with members := roster.members ++ [entry] } = some (owed - 1) := by
  obtain ⟨count, members⟩ := roster
  cases count with
  | none => simp [Roster.drift] at drift
  | some count =>
      simp only [Roster.drift, Option.map_some, Option.some.injEq, List.length_append,
        List.length_singleton] at drift ⊢
      push_cast
      omega

theorem present_insert (db : Db) (userId : UserId) (roleId : ChatRoleId) (other : UserId) :
    ((Db.apply (.insertMember chatId userId roleId) db).roster chatId).present other =
      ((db.roster chatId).present other || userId == other) := by
  cases absent : db.member? chatId userId with
  | none =>
      rw [roster_insert _ _ _ _ absent]
      simp [Roster.present]
  | some row =>
      have unchanged : Db.apply (.insertMember chatId userId roleId) db =
          { db with nextMemberId := db.nextMemberId + 1 } := by
        simp only [Db.apply]
        rw [Table.insert_taken _ _ (by
          simpa [Db.member?, ChatMember.key] using Option.isSome_iff_exists.mpr ⟨row, absent⟩)]
      rw [unchanged]
      change (db.roster chatId).present other = _
      by_cases same : userId = other
      · subst same
        simp [Db.roster_present, absent]
      · simp [same]

theorem safe_insertMember {target : ChatId} {roleId : ChatRoleId} {userId : UserId} {owed : Int}
    {rest : Unit → Handler Result} (stands : Stands chatId target owed held log db)
    (positive : 0 < owed)
    (next : ∀ held log db, Stands chatId target (owed - 1) held log db →
      (countContract chatId).Safe Post (rest ()) held log db) :
    (countContract chatId).Safe Post ((insertMember target roleId userId).bind rest)
      held log db := by
  refine Contract.safe_statement fun after rely _ result answered => ?_
  cases taken : ((applyAll log after).member? target userId).isSome with
  | true => simp [taken] at answered
  | false =>
      simp only [taken, Bool.false_eq_true, if_false]
      refine next _ _ _ ?_
      rcases stands with ⟨quiet, settled⟩ | ⟨here, owes⟩
      · have elsewhere : target ≠ chatId := by
          intro here
          have nothing := settled here
          omega
        refine .inl ⟨fun write member => ?_, fun here => absurd here elsewhere⟩
        rcases List.mem_append.mp member with old | new
        · exact quiet write old
        · rw [List.mem_singleton.mp new]
          exact elsewhere
      · subst here
        refine .inr ⟨rfl, List.mem_append_left _ owes.locked, ?_, ?_⟩
        · intro left right same other
          rw [applyAll_append, applyAll_append]
          simp only [applyAll_cons, applyAll_nil, Db.apply_eq, present_insert]
          rw [owes.blind left right same other]
        · intro later relied
          have kept := Contract.rely_fewer relied
          have absent : (applyAll log later).member? target userId = none := by
            have same := owes.blind later after (roster_of_rely owes.locked kept) userId
            rw [Db.roster_present, Db.roster_present, taken] at same
            simpa using same
          rw [applyAll_append]
          simp only [applyAll_cons, applyAll_nil, Db.apply_eq]
          rw [roster_insert _ _ _ _ absent]
          exact insert_drift (owes.drift later (Contract.rely_trans rely kept))

theorem safe_commit_stands {target : ChatId} {result : Unit → Result}
    (stands : Stands chatId target 0 held log db) :
    (countContract chatId).Safe (fun _ _ _ _ => True)
      ((Tx.commitNow : Handler Unit).bind fun ended => .done (result ended)) held log db := by
  refine Contract.safe_commit_last fun after rely => ?_
  rcases stands with ⟨quiet, _⟩ | ⟨_, owes⟩
  · have same := roster_neutral_all chatId after log quiet
    refine ⟨?_, trivial, fun key _ => ?_⟩
    · change ((applyAll log after).roster chatId).drift = some 0
      rw [same]
      exact rely.1
    · change (if key = .chat chatId then some ((applyAll log after).roster chatId) else none) = _
      rw [same]
      rfl
  · refine ⟨owes.drift after rely, trivial, fun key free => ?_⟩
    have other : key ≠ .chat chatId := fun same => free (same ▸ owes.locked)
    simp [countContract, other]

structure Shifted (chatId : ChatId) (owed : Int) (held : List RowKey) (log : List Write) (db : Db) :
    Prop where
  locked : RowKey.chat chatId ∈ held
  frame : ∀ before : Db, ((applyAll log before).roster chatId).members =
    (before.roster chatId).members
  drift : ∀ after, (countContract chatId).Rely held db after →
    ((applyAll log after).roster chatId).drift = some owed

def ShiftedAt (chatId target : ChatId) (owed : Int) (held : List RowKey) (log : List Write)
    (db : Db) : Prop :=
  if target = chatId then Shifted chatId owed held log db
  else ∀ write ∈ log, Neutral chatId write

theorem stands_of_shifted {target : ChatId} {owed : Int}
    (shifted : ShiftedAt chatId target owed held log db) :
    Stands chatId target owed held log db := by
  by_cases here : target = chatId
  · simp only [ShiftedAt, here, if_true] at shifted
    refine .inr ⟨here, shifted.locked, fun left right same userId => ?_, shifted.drift⟩
    simp only [Roster.present, shifted.frame, same]
  · simp only [ShiftedAt, here, if_false] at shifted
    exact .inl ⟨shifted, fun same => absurd same here⟩

theorem shift_drift {roster : Roster} {delta : Int} (exact : roster.drift = some 0) :
    Roster.drift { roster with memberCount := roster.memberCount.map (· + delta) } =
      some delta := by
  obtain ⟨count, members⟩ := roster
  cases count with
  | none => simp [Roster.drift] at exact
  | some count =>
      simp only [Roster.drift, Option.map_some, Option.some.injEq] at exact ⊢
      omega

theorem open_of_inv {after : Db} (holds : (countContract chatId).inv after) :
    (after.openChat? chatId).isSome := by
  change (after.roster chatId).drift = some 0 at holds
  cases found : after.openChat? chatId with
  | none => simp [Db.roster, Roster.drift, found] at holds
  | some chat => rfl

theorem shiftedAt_of_shift {target : ChatId} {delta : Int} {after : Db}
    (neutral : ∀ write ∈ log, Neutral chatId write) :
    ShiftedAt chatId target delta (held ++ [.chat target])
      (log ++ [.shiftMemberCount target delta]) after := by
  by_cases here : target = chatId
  · subst here
    simp only [ShiftedAt, if_true]
    refine ⟨by simp, fun before => ?_, fun later relied => ?_⟩
    · rw [applyAll_append]
      simp only [applyAll_cons, applyAll_nil, Db.apply_eq, roster_shift]
      rw [roster_neutral_all _ _ _ neutral]
    · rw [applyAll_append]
      simp only [applyAll_cons, applyAll_nil, Db.apply_eq, roster_shift]
      rw [roster_neutral_all _ _ _ neutral]
      exact shift_drift relied.1
  · simp only [ShiftedAt, here, if_false]
    intro write member
    rcases List.mem_append.mp member with old | new
    · exact neutral write old
    · rw [List.mem_singleton.mp new]
      exact here

theorem safe_reserveSeats {chat : Chat} {count : Nat} {rest : Unit → Handler Result}
    (neutral : ∀ write ∈ log, Neutral chatId write)
    (next : ∀ held log db, Stands chatId chat.id count held log db →
      (countContract chatId).Safe Post (rest ()) held log db) :
    (countContract chatId).Safe Post ((reserveSeats chat count).bind rest) held log db := by
  unfold reserveSeats
  simp only [Tx.bind_eq, Tx.bind_assoc]
  refine Contract.safe_statement fun after rely _ result answered => ?_
  refine Contract.safe_require fun granted => ?_
  simp only [Except.ok.injEq] at answered
  subst answered
  rw [Option.isSome_map] at granted
  simp only [granted, if_true]
  exact next _ _ _ (stands_of_shifted (shiftedAt_of_shift neutral))

theorem safe_decrement {target : ChatId} {rest : Option Int → Handler Result}
    (neutral : ∀ write ∈ log, Neutral chatId write)
    (next : ∀ answer held log db, ShiftedAt chatId target (-1) held log db →
      (countContract chatId).Safe Post (rest answer) held log db) :
    (countContract chatId).Safe Post ((shiftMemberCount target (-1) none).bind rest)
      held log db := by
  refine Contract.safe_statement fun after rely _ result _ => ?_
  refine next result _ _ _ ?_
  cases matched : ((applyAll log after).shiftable? target (-1) none).isSome with
  | true =>
      simp only [if_true]
      exact shiftedAt_of_shift neutral
  | false =>
      have other : target ≠ chatId := by
        rintro rfl
        have opened := open_of_inv rely.1
        have same := congrArg Roster.memberCount (roster_neutral_all target after log neutral)
        simp only [Db.roster] at same
        obtain ⟨chat, found⟩ := Option.isSome_iff_exists.mp opened
        cases seen : (applyAll log after).openChat? target with
        | none => simp [seen, found] at same
        | some current => simp [Db.shiftable?, seen, Option.filter] at matched
      simp only [Bool.false_eq_true, if_false, List.append_nil]
      simpa only [ShiftedAt, other, if_false] using neutral

theorem roster_nodup (db : Db) (chatId : ChatId) : (db.roster chatId).members.Nodup := by
  have users : ((db.roster chatId).members.map Prod.fst).Nodup := by
    simp only [Db.roster, Table.select, List.map_map]
    have pairs : ((db.members.rows.filter fun member => decide (member.chatId = chatId)).map
        ChatMember.key).Nodup := db.members.unique.sublist (List.filter_sublist.map _)
    refine List.Nodup.of_map (fun userId => (chatId, userId)) ?_
    rw [List.map_map]
    refine (List.map_congr_left fun member stored => ?_) ▸ pairs
    have inChat := (List.mem_filter.mp stored).2
    simp only [decide_eq_true_eq] at inChat
    simp [ChatMember.key, inChat]
  exact List.Nodup.of_map _ users

theorem delete_drift {roster : Roster} {entry : UserId × MemberId} (distinct : roster.members.Nodup)
    (member : entry ∈ roster.members) (drift : roster.drift = some (-1)) :
    Roster.drift { roster with
      members := roster.members.filter fun other => other ≠ entry } = some 0 := by
  obtain ⟨count, members⟩ := roster
  have shorter : (members.filter fun other => other ≠ entry).length = members.length - 1 := by
    rw [← List.length_erase_of_mem member, List.Nodup.erase_eq_filter distinct]
    refine congrArg List.length (List.filter_congr fun other _ => ?_)
    simp [bne, Bool.beq_eq_decide_eq]
  have positive : 0 < members.length := List.length_pos_of_mem member
  cases count with
  | none => simp [Roster.drift] at drift
  | some count =>
      simp only [Roster.drift, Option.map_some, Option.some.injEq] at drift ⊢
      rw [shorter]
      omega

theorem roster_entry {db : Db} {userId : UserId} {row : ChatMember}
    (found : db.member? chatId userId = some row) :
    (userId, row.id) ∈ (db.roster chatId).members := by
  obtain ⟨stored, key⟩ := (db.members.find?_some_iff _ _).mp found
  simp only [ChatMember.key, Prod.mk.injEq] at key
  simp only [Db.roster, Table.select, List.mem_map, List.mem_filter, decide_eq_true_eq]
  exact ⟨row, ⟨stored, key.1⟩, by simp [key.2]⟩

theorem safe_deleteMember {member : ChatMember} {rest : Unit → Handler Result}
    (shifted : ShiftedAt chatId member.chatId (-1) held log db)
    (next : ∀ held log db, Stands chatId member.chatId 0 held log db →
      (countContract chatId).Safe Post (rest ()) held log db) :
    (countContract chatId).Safe Post ((deleteMember member).bind rest) held log db := by
  refine Contract.safe_statement fun after rely met result _ => ?_
  refine next _ _ _ ?_
  by_cases here : member.chatId = chatId
  · simp only [ShiftedAt, here, if_true] at shifted
    obtain ⟨row, found, sameId⟩ := met member.userId member.id (by simp [here])
    have entry : (member.userId, member.id) ∈ (after.roster chatId).members := by
      have stored := roster_entry found
      rwa [sameId, shifted.frame] at stored
    refine .inr ⟨here, List.mem_append_left _ shifted.locked, fun left right same userId => ?_,
      fun later relied => ?_⟩
    · rw [applyAll_append, applyAll_append]
      simp only [applyAll_cons, applyAll_nil, Db.apply_eq, here, roster_delete, Roster.present,
        shifted.frame, same]
    · have kept := Contract.rely_fewer relied
      rw [applyAll_append]
      simp only [applyAll_cons, applyAll_nil, Db.apply_eq, here, roster_delete]
      refine delete_drift (roster_nodup _ _) ?_
        (shifted.drift later (Contract.rely_trans rely kept))
      rw [shifted.frame, roster_of_rely shifted.locked kept]
      exact entry
  · simp only [ShiftedAt, here, if_false] at shifted
    refine .inl ⟨fun write listed => ?_, fun same => absurd same here⟩
    rcases List.mem_append.mp listed with old | new
    · exact shifted write old
    · rw [List.mem_singleton.mp new]
      exact here

end Steps

end Messanger
