import Messanger.Chats.MemberEffects

/-!
Bans and mutes live on the membership row.  They outlast every run in which the restricted
user does not come back through a door that gives him a fresh row.
-/

namespace Messanger

open Relational

inductive Restriction where
  | ban
  | mute
  deriving DecidableEq, Repr

namespace Restriction

def impose (kind : Restriction) (chatId : ChatId) (userId : UserId) (limit : Option Nat) :
    Command :=
  match kind with
  | ban => .banMember chatId userId limit
  | mute => .muteMember chatId userId limit

def column (kind : Restriction) (row : ChatMember) : Option Nat :=
  match kind with
  | ban => row.bannedUntil
  | mute => row.mutedUntil

def active (kind : Restriction) (row : ChatMember) (now : Nat) : Bool :=
  match kind with
  | ban => row.isBanned now
  | mute => row.isMuted now

theorem active_of_column {kind : Restriction} {row : ChatMember} {limit now : Nat}
    (stands : kind.column row = some limit) (early : now < limit) : kind.active row now = true := by
  cases kind with
  | ban =>
      simp only [column] at stands
      simp [active, ChatMember.isBanned, stands, early]
  | mute =>
      simp only [column] at stands
      simp [active, ChatMember.isMuted, stands, early]

/-- Commands of others that lift or replace the restriction or give the user a row again. -/
def Withdraws (kind : Restriction) (chatId : ChatId) (userId : UserId) (request : Request) :
    Prop :=
  request.user.id ≠ userId ∧
    match request.command with
    | .addMember target targetUserId _ => target = chatId ∧ targetUserId = userId
    | .approveJoinRequests target userIds => target = chatId ∧ userId ∈ userIds
    | .banMember target targetUserId _ => kind = ban ∧ target = chatId ∧ targetUserId = userId
    | .unbanMember target targetUserId => kind = ban ∧ target = chatId ∧ targetUserId = userId
    | .muteMember target targetUserId _ => kind = mute ∧ target = chatId ∧ targetUserId = userId
    | .unmuteMember target targetUserId => kind = mute ∧ target = chatId ∧ targetUserId = userId
    | _ => False

structure Stands (kind : Restriction) (chatId : ChatId) (userId : UserId) (limit : Nat)
    (db : Db) : Prop where
  known : (db.charter? chatId).isSome
  carried : ∀ row, db.member? chatId userId = some row → kind.column row = some limit

end Restriction

/-- The user has no row and asks, himself, to join a chat that lets him in at once. -/
def Rejoins (chatId : ChatId) (userId : UserId) (db : Db) (request : Request) : Prop :=
  request.user.id = userId ∧ db.member? chatId userId = none ∧
    ∃ roleId, request.Grants db chatId userId roleId

section Steps

variable {kind : Restriction} {chatId : ChatId} {userId : UserId} {limit : Nat} {request : Request}
  {db final : Db}

theorem grants_of_absent {roleId : ChatRoleId} (absent : db.member? chatId userId = none)
    (known : (db.charter? chatId).isSome) (granted : request.Grants db chatId userId roleId) :
    kind.Withdraws chatId userId request ∨ Rejoins chatId userId db request := by
  by_cases own : request.user.id = userId
  · exact .inr ⟨own, absent, roleId, granted⟩
  · refine .inl ⟨own, ?_⟩
    obtain ⟨user, now, command⟩ := request
    cases command
    case addMember => exact ⟨granted.1, granted.2.1⟩
    case joinChat => exact absurd granted.2.1 own
    case joinChatByInvite => exact absurd granted.1 own
    case approveJoinRequests => exact ⟨granted.1, granted.2.1⟩
    case createChat =>
      obtain ⟨rfl, fresh⟩ := granted
      simp [Db.charter?, fresh] at known
    all_goals cases granted

theorem column_of_revises {row : ChatMember} {patch : MemberPatch}
    (revises : request.Revises db row patch)
    (kept : ¬ kind.Withdraws row.chatId row.userId request) :
    kind.column (patch.apply row) = kind.column row := by
  obtain ⟨user, now, command⟩ := request
  cases command
  case banMember =>
    obtain ⟨⟨inChat, ofUser, _⟩, other, rfl⟩ := revises
    cases kind with
    | ban => exact absurd ⟨Ne.symm (ofUser ▸ other), rfl, inChat.symm, ofUser.symm⟩ kept
    | mute => rfl
  case unbanMember =>
    obtain ⟨⟨inChat, ofUser, _⟩, other, rfl⟩ := revises
    cases kind with
    | ban => exact absurd ⟨Ne.symm (ofUser ▸ other), rfl, inChat.symm, ofUser.symm⟩ kept
    | mute => rfl
  case muteMember =>
    obtain ⟨⟨inChat, ofUser, _⟩, other, rfl⟩ := revises
    cases kind with
    | ban => rfl
    | mute => exact absurd ⟨Ne.symm (ofUser ▸ other), rfl, inChat.symm, ofUser.symm⟩ kept
  case unmuteMember =>
    obtain ⟨⟨inChat, ofUser, _⟩, other, rfl⟩ := revises
    cases kind with
    | ban => rfl
    | mute => exact absurd ⟨Ne.symm (ofUser ▸ other), rfl, inChat.symm, ofUser.symm⟩ kept
  case changeMemberRole =>
    obtain ⟨_, role, _, rfl⟩ := revises
    cases kind <;> rfl
  case updateChatState =>
    obtain ⟨_, _, state, rfl⟩ := revises
    cases kind <;> rfl
  all_goals cases revises

theorem stands_step (effect : Effect request db final)
    (stands : kind.Stands chatId userId limit db)
    (kept : ¬ kind.Withdraws chatId userId request)
    (away : ¬ Rejoins chatId userId db request) : kind.Stands chatId userId limit final := by
  obtain ⟨charter, known⟩ := Option.isSome_iff_exists.mp stands.known
  cases effect with
  | still members charters =>
      obtain ⟨deletedAt, found⟩ := charters chatId charter known
      refine ⟨by rw [found]; rfl, fun row stored => stands.carried row ?_⟩
      rw [← members, stored]
  | seated target seated =>
      refine ⟨by rw [seated.charters chatId charter known]; rfl, fun row stored => ?_⟩
      cases before : db.member? chatId userId with
      | some old =>
          rw [seated.kept chatId userId old before] at stored
          cases stored
          exact stands.carried _ before
      | none =>
          obtain ⟨rfl, granted, _⟩ := seated.fresh chatId userId row before stored
          rcases grants_of_absent before stands.known granted with withdraws | rejoins
          · exact absurd withdraws kept
          · exact absurd rejoins away
  | amended row patch amended reason =>
      refine ⟨by rw [amended.charters, known]; rfl, fun changed stored => ?_⟩
      rw [amended.members] at stored
      split at stored
      · rename_i here
        obtain ⟨rfl, rfl⟩ := here
        cases stored
        rw [column_of_revises reason kept]
        exact stands.carried row amended.found
      · exact stands.carried changed stored
  | removed row removed reason =>
      refine ⟨by rw [removed.charters, known]; rfl, fun other stored => ?_⟩
      rw [removed.members] at stored
      split at stored
      · cases stored
      · exact stands.carried other stored
  | transferred target owner newOwner transferred reason =>
      refine ⟨?_, fun row stored => ?_⟩
      · rw [transferred.charters]
        split
        · rfl
        · rw [known]
          rfl
      · rw [transferred.members] at stored
        obtain ⟨old, found, rfl⟩ := Option.map_eq_some_iff.mp stored
        rw [← stands.carried old found]
        unfold ChatMember.handed
        cases kind <;> (split <;> [rfl; (split <;> rfl)])

end Steps

theorem stands_amended {kind : Restriction} {chatId : ChatId} {userId : UserId} {limit : Nat}
    {row : ChatMember} {patch : MemberPatch} {db after : Db}
    (found : db.member? chatId userId = some row) (known : (db.chat? chatId).isSome)
    (amended : Amended row patch db after)
    (restricted : kind.column (patch.apply row) = some limit) :
    kind.Stands chatId userId limit after := by
  obtain ⟨inChat, ofUser⟩ := Db.member_key found
  refine ⟨?_, fun changed stored => ?_⟩
  · rw [amended.charters, Db.charter?, Option.isSome_map]
    exact known
  · rw [amended.members, if_pos ⟨inChat.symm, ofUser.symm⟩] at stored
    cases stored
    exact restricted

theorem stands_imposed {kind : Restriction} {chatId : ChatId} {userId : UserId}
    {requested : Option Nat} {limit : Nat} {request : Request} {db after : Db} {reply : Reply}
    (imposes : request.command = kind.impose chatId userId requested)
    (restricts : restrictedUntil request.now requested = some limit)
    (imposed : perform request db = (.ok reply, after)) :
    kind.Stands chatId userId limit after := by
  obtain ⟨user, now, command⟩ := request
  simp only at imposes restricts
  subst imposes
  cases kind with
  | ban =>
      obtain ⟨_, row, found, known, amended, _⟩ := Tx.ends_ok
        (Tx.ends_answered (banMember_ends user now db chatId userId requested)) imposed
      exact stands_amended found known amended restricts
  | mute =>
      obtain ⟨_, row, found, known, amended, _⟩ := Tx.ends_ok
        (Tx.ends_answered (muteMember_ends user now db chatId userId requested)) imposed
      exact stands_amended found known amended restricts

/-- A ban or mute outlasts every run, by any users, in which nobody else lifts it or takes the
user in again and he himself, once he has left, does not walk in through an open door. -/
theorem restriction_outlasts_run (kind : Restriction) (chatId : ChatId) (userId : UserId)
    (requested : Option Nat) (limit : Nat) (request : Request) (db after final : Db)
    (reply : Reply) (imposes : request.command = kind.impose chatId userId requested)
    (restricts : restrictedUntil request.now requested = some limit)
    (imposed : perform request db = (.ok reply, after))
    (run : Reaches (fun seen later => ¬ kind.Withdraws chatId userId later ∧
      ¬ Rejoins chatId userId seen later) after final) :
    ∀ row, final.member? chatId userId = some row →
      ∀ now, now < limit → kind.active row now = true := by
  have stands := reaches_invariant (kind.Stands chatId userId limit)
    (stands_imposed imposes restricts imposed)
    (fun seen later met stands =>
      stands_step (perform_effect later seen) stands met.1 met.2) run
  intro row stored now early
  exact Restriction.active_of_column (stands.carried row stored) early

def publicGroup : Db :=
  applyAll
    [.insertChat { id := 1, type := .group, createdBy := 1, memberCount := 3, isPublic := true },
      .insertMember 1 1 .owner, .insertMember 1 2 .admin, .insertMember 1 3 .member] {}

def banOfThree : Request := ⟨{ id := 1 }, 0, .banMember 1 3 none⟩

def byThree (command : Command) : Request := ⟨{ id := 3 }, 1, command⟩

/-- The ban stands while its target tries to come in by the open door. -/
theorem ban_outlasts_join : ∃ row,
    (perform (byThree (.joinChat 1)) (perform banOfThree publicGroup).2).2.member? 1 3 = some row ∧
      row.isBanned 5 = true := by
  have found : ((perform (byThree (.joinChat 1)) (perform banOfThree publicGroup).2).2.member?
      1 3).isSome = true := by decide +kernel
  obtain ⟨row, stored⟩ := Option.isSome_iff_exists.mp found
  have fine : (perform banOfThree publicGroup).1.isOk = true := by decide +kernel
  obtain ⟨reply, imposed⟩ := perform_ok fine
  refine ⟨row, stored, restriction_outlasts_run .ban 1 3 none permanentUntil banOfThree publicGroup
    _ _ reply rfl rfl imposed (.step .refl ⟨?_, ?_⟩) row stored 5 (by decide)⟩
  · exact fun withdraws => withdraws.2
  · rintro ⟨_, absent, _⟩
    have present : ((perform banOfThree publicGroup).2.member? 1 3).isSome = true := by
      decide +kernel
    rw [absent] at present
    cases present

/-- Leaving and joining again wipes the ban out: the row of the second join is not banned. -/
theorem ban_lost_by_leaving :
    ¬ ∀ (kind : Restriction) (chatId : ChatId) (userId : UserId) (requested : Option Nat)
      (limit : Nat) (request : Request) (db after final : Db) (reply : Reply),
      request.command = kind.impose chatId userId requested →
      restrictedUntil request.now requested = some limit →
      perform request db = (.ok reply, after) →
      Reaches (fun _ later => later.user.id = userId ∧ later.now < limit ∧
        (later.command = .leaveChat chatId ∨ later.command = .joinChat chatId ∨
          ∃ code, later.command = .joinChatByInvite code)) after final →
      ∀ row, final.member? chatId userId = some row →
        ∀ now, now < limit → kind.active row now = true := by
  intro claimed
  have fine : (perform banOfThree publicGroup).1.isOk = true := by decide +kernel
  obtain ⟨reply, imposed⟩ := perform_ok fine
  have cleared : ((perform (byThree (.joinChat 1)) (perform (byThree (.leaveChat 1))
      (perform banOfThree publicGroup).2).2).2.member? 1 3).map (fun row => row.isBanned 5) =
        some false := by decide +kernel
  obtain ⟨row, stored, free⟩ := Option.map_eq_some_iff.mp cleared
  have banned := claimed .ban 1 3 none permanentUntil banOfThree publicGroup _ _ reply rfl rfl imposed
    (.step (.step .refl ⟨rfl, by decide, .inl rfl⟩) ⟨rfl, by decide, .inr (.inl rfl)⟩) row stored 5
    (by decide)
  rw [Restriction.active, free] at banned
  cases banned

end Messanger
