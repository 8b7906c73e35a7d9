import Messanger.Chats.Roster

/-!
`Chat.member_count` and the rows of `chat_members` under any interleaving of the commands
that add and remove members.  They stay equal as long as every `DELETE` of a membership row
still finds its row; two kicks of one member that both read the row first do not.
-/

namespace Messanger

open Relational

section Programs

variable (chatId : ChatId)

theorem quiet_stands {target : ChatId} {held : List RowKey} {db : Db} {log : List Write}
    (quiet : ∀ write ∈ log, Neutral chatId write) : Stands chatId target 0 held log db :=
  .inl ⟨quiet, fun _ => rfl⟩

variable {chatId}

theorem safe_seat {Result : Type} {chat : Chat} {role : ChatRoleId} {userId : UserId}
    {event : ChatEvent} {result : Unit → Result} {held : List RowKey} {log : List Write} {db : Db}
    (quiet : ∀ write ∈ log, Neutral chatId write) :
    (countContract chatId).Safe (fun _ _ _ _ => True)
      ((reserveSeats chat 1).bind fun _ => (insertMember chat.id role userId).bind fun _ =>
        (publish [event]).bind fun _ => (Tx.commitNow : Handler Unit).bind fun ended =>
          .done (result ended)) held log db := by
  refine safe_reserveSeats quiet fun held log db stands => ?_
  refine safe_insertMember stands (by decide) fun held log db stands => ?_
  refine safe_neutral stands (by simp [Neutral]) fun _ held log db stands => ?_
  exact safe_commit_stands (by simpa using stands)

theorem keeps_addMember (user : UserJWTData) (now : Nat) (target : ChatId) (userId : UserId)
    (roleId : Nat) : (countContract chatId).Keeps (addMember user now target userId roleId) := by
  intro db _
  unfold addMember
  simp only [Tx.bind_eq, Tx.pure_eq]
  refine Contract.safe_query fun _ _ found _ => ?_
  refine Contract.safe_require fun _ => ?_
  refine Contract.safe_ofExcept fun role _ => ?_
  refine Contract.safe_read fun _ _ => ?_
  refine Contract.safe_require fun _ => ?_
  refine Contract.safe_query fun _ _ _ _ => ?_
  exact safe_seat (by simp)

theorem safe_submitJoinRequest (now : Nat) (chat : Chat) (userId : UserId)
    (inviteLinkId : Option InviteId) (db : Db) :
    (countContract chatId).Safe (fun _ _ _ _ => True)
      (submitJoinRequest now chat userId inviteLinkId) [] [] db := by
  have quiet : ∀ held db, Stands chatId chat.id 0 held [] db :=
    fun _ _ => quiet_stands chatId (by simp)
  unfold submitJoinRequest
  simp only [Tx.bind_eq, Tx.pure_eq]
  refine Contract.safe_read fun _ _ => ?_
  refine Contract.safe_require fun _ => ?_
  refine Contract.safe_require fun _ => ?_
  refine Contract.safe_read fun _ _ => ?_
  refine Contract.safe_require fun _ => ?_
  refine Contract.safe_read fun after _ => ?_
  cases (applyAll [] after).joinRequests.find? (chat.id, userId) with
  | some existing =>
      refine Contract.safe_ofExcept fun renewed _ => ?_
      refine safe_neutral (quiet _ _) (by simp [Neutral]) fun _ held log db stands => ?_
      refine safe_neutral stands (by simp [Neutral]) fun _ held log db stands => ?_
      exact safe_commit_stands stands
  | none =>
      refine safe_neutral (quiet _ _) (by intro seen; split <;> simp [Neutral]) ?_
      intro _ held log db stands
      refine safe_neutral stands (by simp [Neutral]) fun _ held log db stands => ?_
      exact safe_commit_stands stands

theorem keeps_joinChat (user : UserJWTData) (now : Nat) (target : ChatId) :
    (countContract chatId).Keeps (joinChat user now target) := by
  intro db _
  unfold joinChat
  simp only [Tx.bind_eq, Tx.pure_eq]
  refine Contract.safe_read fun _ _ => ?_
  refine Contract.safe_orRaise fun chat _ => ?_
  refine Contract.safe_require fun _ => ?_
  split
  · exact safe_submitJoinRequest now chat user.id none _
  · refine Contract.safe_read fun _ _ => ?_
    refine Contract.safe_require fun _ => ?_
    exact safe_seat (by simp)

theorem safe_consumeLink {Result : Type} {now : Nat} {invite : ChatInviteLink}
    {rest : Unit → Handler Result} {Post : Result → List RowKey → List Write → Db → Prop}
    {held : List RowKey} {log : List Write} {db : Db}
    (quiet : ∀ write ∈ log, Neutral chatId write)
    (next : ∀ held log db, (∀ write ∈ log, Neutral chatId write) →
      (countContract chatId).Safe Post (rest ()) held log db) :
    (countContract chatId).Safe Post ((consumeLink now invite).bind rest) held log db := by
  unfold consumeLink
  simp only [Tx.bind_eq, Tx.pure_eq, Tx.bind_assoc]
  refine safe_quiet quiet (by intro seen; split <;> simp [Neutral]) ?_
  intro consumed held log db quiet
  cases consumed with
  | some _ => exact next held log db quiet
  | none =>
      simp only [Tx.bind_assoc]
      exact Contract.safe_read fun _ _ => Contract.safe_raise

theorem keeps_joinChatByInvite (user : UserJWTData) (now : Nat) (code : String) :
    (countContract chatId).Keeps (joinChatByInvite user now code) := by
  intro db _
  unfold joinChatByInvite
  simp only [Tx.bind_eq, Tx.pure_eq]
  refine Contract.safe_read fun _ _ => ?_
  refine Contract.safe_orRaise fun invite _ => ?_
  refine Contract.safe_require fun _ => ?_
  refine Contract.safe_read fun _ _ => ?_
  refine Contract.safe_orRaise fun chat _ => ?_
  refine Contract.safe_require fun _ => ?_
  split
  · exact safe_submitJoinRequest now chat user.id (some invite.id) _
  · refine Contract.safe_read fun _ _ => ?_
    refine Contract.safe_require fun _ => ?_
    refine Contract.safe_require fun _ => ?_
    exact safe_consumeLink (by simp) fun held log db quiet => safe_seat quiet

theorem safe_admitRequests {Result : Type} {chat : Chat} {toAdd : List ChatJoinRequest}
    {rest : Unit → Handler Result} {Post : Result → List RowKey → List Write → Db → Prop}
    {held : List RowKey} {log : List Write} {db : Db}
    (quiet : ∀ write ∈ log, Neutral chatId write)
    (next : ∀ held log db, Stands chatId chat.id toAdd.length held log db →
      (countContract chatId).Safe Post (rest ()) held log db) :
    (countContract chatId).Safe Post ((admitRequests chat toAdd).bind rest) held log db := by
  unfold admitRequests
  split
  · rename_i none
    rw [List.isEmpty_iff] at none
    subst none
    exact next held log db (quiet_stands chatId quiet)
  · simp only [Tx.bind_eq, Tx.bind_assoc]
    refine safe_reserveSeats quiet fun held log db stands => ?_
    refine safe_neutral stands ?_ fun _ held log db stands => next held log db stands
    intro seen write member
    obtain ⟨entry, _, rfl⟩ := List.mem_map.mp member
    trivial

theorem keeps_approveJoinRequests (user : UserJWTData) (now : Nat) (target : ChatId)
    (userIds : List UserId) :
    (countContract chatId).Keeps (approveJoinRequests user now target userIds) := by
  intro db _
  unfold approveJoinRequests
  simp only [Tx.bind_eq, Tx.pure_eq]
  refine Contract.safe_query fun _ _ found _ => ?_
  refine Contract.safe_require fun _ => ?_
  refine safe_quiet (by simp) (by simp) fun pending held log db quiet => ?_
  refine Contract.safe_read fun after _ => ?_
  refine safe_admitRequests quiet fun held log db stands => ?_
  refine Contract.safe_each (fun _ held log db => Stands chatId found.chat.id _ held log db)
    ?_ ?_ _ held log db stands
  · intro request others held log db next stands onwards
    refine safe_neutral stands (by intro seen; split <;> simp [Neutral]) ?_
    exact fun _ held log db stands => onwards held log db stands
  · intro held log db stands
    refine Contract.safe_each
      (fun items held log db => Stands chatId found.chat.id items.length held log db)
      ?_ ?_ _ held log db stands
    · intro request others held log db next stands onwards
      refine safe_insertMember stands (by simp) fun held log db stands => ?_
      refine onwards held log db ?_
      simpa using stands
    · intro held log db stands
      refine safe_neutral stands (by simp [Neutral]) fun _ held log db stands => ?_
      exact safe_commit_stands (by simpa using stands)

theorem safe_removal {Result : Type} {chat : Chat} {member : ChatMember} {event : ChatEvent}
    {result : Unit → Result} {held : List RowKey} {log : List Write} {db : Db}
    (quiet : ∀ write ∈ log, Neutral chatId write) (same : member.chatId = chat.id) :
    (countContract chatId).Safe (fun _ _ _ _ => True)
      ((shiftMemberCount chat.id (-1) none).bind fun _ => (deleteMember member).bind fun _ =>
        (publish [event]).bind fun _ => (Tx.commitNow : Handler Unit).bind fun ended =>
          .done (result ended)) held log db := by
  refine safe_decrement quiet fun _ held log db shifted => ?_
  refine safe_deleteMember (by rwa [same]) fun held log db stands => ?_
  refine safe_neutral stands (by simp [Neutral]) fun _ held log db stands => ?_
  exact safe_commit_stands stands

theorem member_chat_of_reads {first second : Db} {target : ChatId} {userId : UserId} {chat : Chat}
    {member : ChatMember} (chatFound : first.openChat? target = some chat)
    (memberFound : second.member? target userId = some member) : member.chatId = chat.id := by
  have key := Table.key_of_find? memberFound
  simp only [ChatMember.key, Prod.mk.injEq] at key
  rw [Db.openChat_id chatFound, key.1]

theorem keeps_kickMember (user : UserJWTData) (now : Nat) (target : ChatId) (userId : UserId) :
    (countContract chatId).Keeps (kickMember user now target userId) := by
  intro db _
  unfold kickMember
  simp only [Tx.bind_eq, Tx.pure_eq]
  refine Contract.safe_read fun _ _ => ?_
  refine Contract.safe_orRaise fun chat chatFound => ?_
  refine Contract.safe_read fun _ _ => ?_
  refine Contract.safe_read fun _ _ => ?_
  refine Contract.safe_orRaise fun member memberFound => ?_
  refine Contract.safe_require fun _ => ?_
  refine Contract.safe_require fun _ => ?_
  exact safe_removal (by simp) (member_chat_of_reads chatFound memberFound)

theorem keeps_leaveChat (user : UserJWTData) (target : ChatId) :
    (countContract chatId).Keeps (leaveChat user target) := by
  intro db _
  unfold leaveChat
  simp only [Tx.bind_eq, Tx.pure_eq]
  refine Contract.safe_read fun _ _ => ?_
  refine Contract.safe_orRaise fun chat chatFound => ?_
  refine Contract.safe_read fun _ _ => ?_
  refine Contract.safe_orRaise fun member memberFound => ?_
  refine Contract.safe_require fun _ => ?_
  exact safe_removal (by simp) (member_chat_of_reads chatFound memberFound)

end Programs

/-- The commands that add or remove members, by any users with any arguments. -/
inductive MembershipCommand : Handler Unit → Prop
  | addMember (user : UserJWTData) (now : Nat) (chatId : ChatId) (targetUserId : UserId)
      (roleId : Nat) : MembershipCommand (addMember user now chatId targetUserId roleId)
  | joinChat (user : UserJWTData) (now : Nat) (chatId : ChatId) :
      MembershipCommand (joinChat user now chatId).void
  | joinChatByInvite (user : UserJWTData) (now : Nat) (code : String) :
      MembershipCommand (joinChatByInvite user now code).void
  | approveJoinRequests (user : UserJWTData) (now : Nat) (chatId : ChatId)
      (userIds : List UserId) :
      MembershipCommand (approveJoinRequests user now chatId userIds).void
  | kickMember (user : UserJWTData) (now : Nat) (chatId : ChatId) (targetUserId : UserId) :
      MembershipCommand (kickMember user now chatId targetUserId)
  | leaveChat (user : UserJWTData) (chatId : ChatId) : MembershipCommand (leaveChat user chatId)

theorem keeps_membershipCommand (chatId : ChatId) {program : Handler Unit}
    (command : MembershipCommand program) : (countContract chatId).Keeps program := by
  cases command with
  | addMember user now target userId roleId => exact keeps_addMember user now target userId roleId
  | joinChat user now target => exact Contract.keeps_void (keeps_joinChat user now target)
  | joinChatByInvite user now code =>
      exact Contract.keeps_void (keeps_joinChatByInvite user now code)
  | approveJoinRequests user now target userIds =>
      exact Contract.keeps_void (keeps_approveJoinRequests user now target userIds)
  | kickMember user now target userId => exact keeps_kickMember user now target userId
  | leaveChat user target => exact keeps_leaveChat user target

/-- `member_count` of the open chat is the number of its membership rows. -/
def CountExact (chatId : ChatId) (db : Db) : Prop :=
  ∃ chat, db.openChat? chatId = some chat ∧ chat.memberCount = db.memberRows chatId

theorem countExact_iff (chatId : ChatId) (db : Db) :
    CountExact chatId db ↔ (db.roster chatId).drift = some 0 := by
  unfold CountExact
  rw [← Db.roster_length]
  cases found : db.openChat? chatId with
  | none => simp [Roster.drift, Db.roster, found]
  | some chat =>
      simp only [Option.some.injEq, exists_eq_left', Roster.drift]
      simp only [Db.roster, found, Option.map_some, Option.some.injEq]
      omega

/-- In every interleaving of membership commands in which each `DELETE` of a membership row of
the chat finds its row, the counter is exact in every committed state. -/
theorem memberCount_exact_in_run (chatId : ChatId) (db : Db) (start : CountExact chatId db)
    (final : System Db Write RowKey ChatError)
    (run : Run MembershipCommand (DeletesFound chatId) (System.idle db) final) :
    CountExact chatId final.db := by
  rw [countExact_iff] at start ⊢
  have sound : (countContract chatId).Sound (System.idle db : System Db Write RowKey ChatError) :=
    Contract.sound_idle start
  exact Contract.run_inv (fun _ command => keeps_membershipCommand chatId command) sound run

instance (chatId : ChatId) (db : Db) : Decidable (CountExact chatId db) :=
  match found : db.openChat? chatId with
  | none => .isFalse (by rintro ⟨chat, same, _⟩; rw [found] at same; cases same)
  | some chat => decidable_of_iff (chat.memberCount = db.memberRows chatId)
      (by simp [CountExact, found])

def deletesFound (chatId : ChatId) (seen : Db) (writes : List Write) : Bool :=
  writes.all fun write =>
    match write with
    | .deleteMember target userId id =>
        target != chatId || (seen.member? target userId).any fun row => row.id == id
    | _ => true

theorem deletesFound_sound (chatId : ChatId) (seen : Db) (writes : List Write)
    (found : deletesFound chatId seen writes = true) : DeletesFound chatId seen writes := by
  intro userId id member
  have matched := (List.all_eq_true.mp found) _ member
  simp only [bne_self_eq_false, Bool.false_or, Option.any_eq_true, beq_iff_eq] at matched
  exact matched

def groupOfThree : Db :=
  applyAll
    [.insertChat { id := 1, type := .group, createdBy := 1, memberCount := 3 },
      .insertMember 1 1 .owner, .insertMember 1 2 .admin, .insertMember 1 3 .member] {}

def kickBy (requester target : UserId) : Handler Unit :=
  kickMember { id := requester } 0 1 target

def execTimes (session times : Nat) : List (Label Db Write RowKey ChatError) :=
  List.replicate times (.exec session)

def singleKick : List (Label Db Write RowKey ChatError) :=
  .start (kickBy 1 3) :: execTimes 0 7

def doubleKick : List (Label Db Write RowKey ChatError) :=
  [Label.start (kickBy 1 3), Label.start (kickBy 2 3)] ++ execTimes 0 3 ++ execTimes 1 3 ++
    execTimes 0 4 ++ execTimes 1 4

theorem memberCount_exact_after_kick :
    ∃ final, (System.idle groupOfThree).steps (deletesFound 1) singleKick = some final ∧
      final.db.memberRows 1 = 2 ∧ CountExact 1 final.db := by
  have outcome : ((System.idle groupOfThree).steps (deletesFound 1) singleKick).map
      (fun final => final.db.memberRows 1) = some 2 := by decide +kernel
  obtain ⟨final, reached, rows⟩ := Option.map_eq_some_iff.mp outcome
  refine ⟨final, reached, rows, memberCount_exact_in_run 1 groupOfThree (by decide +kernel) final ?_⟩
  refine run_of_steps (deletesFound 1) (deletesFound_sound 1) singleKick _ _ _ ?_ .refl reached
  intro program started
  simp only [singleKick, execTimes, List.mem_cons, List.mem_replicate, Label.start.injEq] at started
  rcases started with rfl | ⟨_, impossible⟩
  · exact .kickMember _ _ _ _
  · cases impossible

/-- Both kicks commit and the counter has lost two members while one row is gone. -/
theorem memberCount_drifts :
    ¬ ∀ (db : Db) (final : System Db Write RowKey ChatError), CountExact 1 db →
      Run MembershipCommand (fun _ _ => True) (System.idle db) final →
      (∀ session ∈ final.sessions, session.Finished = true) → CountExact 1 final.db := by
  intro claimed
  have outcome : ((System.idle groupOfThree).steps (fun _ _ => true) doubleKick).map
      (fun final => (final.sessions.all Session.Finished, decide (CountExact 1 final.db))) =
        some (true, false) := by decide +kernel
  obtain ⟨final, reached, ended⟩ := Option.map_eq_some_iff.mp outcome
  simp only [Prod.mk.injEq, List.all_eq_true, decide_eq_false_iff_not] at ended
  refine ended.2 (claimed groupOfThree final (by decide +kernel) ?_ ended.1)
  refine run_of_steps (fun _ _ => true) (fun _ _ _ => trivial) doubleKick _ _ _ ?_ .refl reached
  intro program started
  simp only [doubleKick, execTimes, List.mem_append, List.mem_cons, List.mem_replicate,
    Label.start.injEq, List.not_mem_nil, reduceCtorEq, and_false, or_false] at started
  rcases started with rfl | rfl
  · exact .kickMember _ _ _ _
  · exact .kickMember _ _ _ _

end Messanger
