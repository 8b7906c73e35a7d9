import Mathlib.Data.Finset.Lattice.Lemmas
import Messanger.Privacy.ProfilesCore

/-!
Whether a user may write to another.  In a direct chat one statement asks for the peer and for all
that decides about it; before there is a chat, the repositories answer for sets of owners.
-/

namespace Messanger

open Relational

structure DirectPeerState where
  peerId : UserId
  blocked : Bool
  visibility : PrivacyVisibility
  granted : Option Bool
  deriving DecidableEq, Repr

abbrev ChatMembers := Table ChatMember (ChatId × UserId) ChatMember.key

/-- The chat is one of these two users and of no one else. -/
structure PeersOf (members : ChatMembers) (chatId : ChatId) (userId peerId : UserId) : Prop where
  apart : peerId ≠ userId
  present : (members.find? (chatId, peerId)).isSome
  only : ∀ row ∈ members.rows, row.chatId = chatId → row.userId = userId ∨ row.userId = peerId

namespace Projection

variable (db : Projection) (members : ChatMembers)

def isBlockedBetween (userId otherUserId : UserId) : Bool :=
  db.blocks.any fun (ownerId, targetId) =>
    (ownerId == userId && targetId == otherUserId) || (ownerId == otherUserId && targetId == userId)

/-- The row of the outer joins for one member; without a profile its column is null. -/
def peerState (peerId viewerId : UserId) (rule : PrivacyRule) : DirectPeerState where
  peerId := peerId
  blocked := db.blocks.any fun (ownerId, targetId) =>
    (ownerId == peerId && targetId == viewerId) || (ownerId == viewerId && targetId == peerId)
  visibility :=
    match (db.profile? peerId).map fun row => row.privacyColumn rule with
    | none => .default
    | some visibility => ChatUserProfile.parseVisibility visibility
  granted := (db.exceptions.find? (peerId, rule.value, viewerId)).map ChatUserPrivacyException.allow

def directPeerState (chatId : ChatId) (viewerId : UserId) (rule : PrivacyRule) :
    Option DirectPeerState :=
  ((members.select fun row => row.chatId == chatId && row.userId != viewerId).head?).map fun row =>
    db.peerState row.userId viewerId rule

def peerAllows (state : DirectPeerState) (viewerId : UserId) : Bool :=
  let isContact :=
    if state.granted = none ∧ state.visibility = .contacts then
      decide (db.contactsOf viewerId {state.peerId} ≠ ∅)
    else false
  isAllowed state.visibility isContact state.granted

/-- What `ensure_can_message` and `ensure_can_call` have in common. -/
def ensureDirect (chat : Chat) (userId : UserId) (rule : PrivacyRule)
    (restricted : Option ChatId → UserId → ChatError) : Except ChatError Unit :=
  if chat.type ≠ .direct then .ok ()
  else
    match db.directPeerState members chat.id userId rule with
    | none => .ok ()
    | some state =>
        if state.blocked then .error (.userBlocked (some chat.id) state.peerId)
        else if !db.peerAllows state userId then .error (restricted (some chat.id) state.peerId)
        else .ok ()

def ensureCanMessage (chat : Chat) (userId : UserId) : Except ChatError Unit :=
  db.ensureDirect members chat userId .messages .messagesPrivacyRestricted

def ensureCanCall (chat : Chat) (userId : UserId) : Except ChatError Unit :=
  db.ensureDirect members chat userId .calls .callsPrivacyRestricted

def ensureCanStartDirect (userId peerId : UserId) : Except ChatError Unit :=
  if db.isBlockedBetween userId peerId then .error (.userBlocked none peerId)
  else if peerId ∉ db.allowedBy .messages userId {peerId} then
    .error (.messagesPrivacyRestricted none peerId)
  else .ok ()

variable {db members} {userId peerId viewerId : UserId} {chat : Chat} {rule : PrivacyRule}

theorem isBlockedBetween_iff : db.isBlockedBetween userId peerId = true ↔
    (userId, peerId) ∈ db.blocks ∨ (peerId, userId) ∈ db.blocks := by
  simp only [isBlockedBetween, List.any_eq_true, Bool.or_eq_true, Bool.and_eq_true, beq_iff_eq,
    Prod.exists]
  constructor
  · rintro ⟨_, _, member, ⟨rfl, rfl⟩ | ⟨rfl, rfl⟩⟩
    · exact .inl member
    · exact .inr member
  · rintro (member | member)
    · exact ⟨_, _, member, .inl ⟨rfl, rfl⟩⟩
    · exact ⟨_, _, member, .inr ⟨rfl, rfl⟩⟩

theorem peerState_blocked :
    (db.peerState peerId userId rule).blocked = db.isBlockedBetween userId peerId := by
  have same : (db.peerState peerId userId rule).blocked = db.isBlockedBetween peerId userId := rfl
  rw [same, Bool.eq_iff_iff, isBlockedBetween_iff, isBlockedBetween_iff, or_comm]

theorem directPeerState_eq (peers : PeersOf members chat.id userId peerId) :
    db.directPeerState members chat.id userId rule = some (db.peerState peerId userId rule) := by
  obtain ⟨found, stored⟩ := Option.isSome_iff_exists.mp peers.present
  obtain ⟨member, key⟩ := (members.find?_some_iff _ _).mp stored
  obtain ⟨here, peer⟩ : found.chatId = chat.id ∧ found.userId = peerId := Prod.mk.inj key
  have chosen : found ∈ members.select fun row =>
      row.chatId == chat.id && row.userId != userId := by
    simp [Table.select, member, here, peer, peers.apart]
  unfold directPeerState
  cases first : members.select fun row => row.chatId == chat.id && row.userId != userId with
  | nil =>
      rw [first] at chosen
      cases chosen
  | cons row rest =>
      have listed : row ∈ members.select fun row =>
          row.chatId == chat.id && row.userId != userId := by
        rw [first]
        exact List.mem_cons_self
      simp only [Table.select, List.mem_filter, Bool.and_eq_true, beq_iff_eq, bne_iff_ne] at listed
      obtain ⟨inside, there, other⟩ := listed
      rcases peers.only row inside there with own | own
      · exact absurd own other
      · rw [List.head?_cons, Option.map_some, own]

theorem peerAllows_iff (apart : peerId ≠ viewerId) :
    db.peerAllows (db.peerState peerId viewerId rule) viewerId = true ↔
      peerId ∈ db.allowedBy rule viewerId {peerId} := by
  have foreign : some viewerId ≠ some peerId := fun same => apart (Option.some.inj same).symm
  have rest : ({peerId} : Finset UserId).filter (fun owner => some viewerId ≠ some owner) =
      {peerId} := by
    rw [Finset.filter_singleton, if_pos foreign]
  have self : ({peerId} : Finset UserId).filter (fun owner => some viewerId = some owner) = ∅ := by
    rw [Finset.filter_singleton, if_neg foreign]
  have visible : (db.visibilityMap rule {peerId} peerId).getD .default =
      (db.peerState peerId viewerId rule).visibility := by
    simp only [visibilityMap, Finset.mem_singleton, if_true, peerState]
    cases db.profile? peerId with
    | none => rfl
    | some row => rfl
  have granted : db.exceptionsFor rule viewerId {peerId} peerId =
      (db.peerState peerId viewerId rule).granted := by
    simp only [exceptionsFor, Finset.mem_singleton, if_true, peerState]
  simp only [Projection.allowedBy, Messanger.allowedBy, rest, self, Finset.singleton_ne_empty,
    if_false, Finset.empty_union, Finset.filter_singleton, visible, granted]
  unfold peerAllows
  by_cases asks : (db.peerState peerId viewerId rule).granted = none ∧
      (db.peerState peerId viewerId rule).visibility = .contacts
  · have same : (db.peerState peerId viewerId rule).peerId = peerId := rfl
    have contact : db.contactsOf viewerId {peerId} ≠ ∅ ↔ peerId ∈ db.contactsOf viewerId {peerId} := by
      simp only [contactsOf, Finset.filter_singleton]
      split
      · simp
      · simp
    simp only [asks, and_self, if_true, same, Finset.singleton_ne_empty, if_false, contact]
    split
    · rename_i allowed
      exact ⟨fun _ => Finset.mem_singleton_self _, fun _ => allowed⟩
    · rename_i refused
      exact ⟨fun allowed => absurd allowed refused, fun absent => absurd absent (Finset.notMem_empty _)⟩
  · simp only [asks, if_false, if_true, Finset.notMem_empty, decide_false]
    split
    · rename_i allowed
      exact ⟨fun _ => Finset.mem_singleton_self _, fun _ => allowed⟩
    · rename_i refused
      exact ⟨fun allowed => absurd allowed refused, fun absent => absurd absent (Finset.notMem_empty _)⟩

theorem ensureDirect_eq {restricted : Option ChatId → UserId → ChatError}
    (direct : chat.type = .direct) (peers : PeersOf members chat.id userId peerId) :
    db.ensureDirect members chat userId rule restricted =
      if db.isBlockedBetween userId peerId then .error (.userBlocked (some chat.id) peerId)
      else if peerId ∉ db.allowedBy rule userId {peerId} then
        .error (restricted (some chat.id) peerId)
      else .ok () := by
  have kind : ¬chat.type ≠ .direct := fun other => other direct
  have allows : db.peerAllows (db.peerState peerId userId rule) userId = true ↔
      peerId ∈ db.allowedBy rule userId {peerId} := peerAllows_iff peers.apart
  simp only [ensureDirect, kind, if_false, directPeerState_eq peers, peerState_blocked]
  split
  · rfl
  · by_cases allowed : peerId ∈ db.allowedBy rule userId {peerId}
    · rw [allows.mpr allowed]
      simp [allowed]
    · have refused : db.peerAllows (db.peerState peerId userId rule) userId = false :=
        Bool.eq_false_iff.mpr fun yes => allowed (allows.mp yes)
      simp only [refused, Bool.not_false, if_true, allowed, not_false_eq_true]
      rfl

/-- Writing in a direct chat and starting one are refused for the same reasons. -/
theorem message_as_start (db : Projection) (members : ChatMembers) (chat : Chat)
    (userId peerId : UserId) (direct : chat.type = .direct)
    (peers : PeersOf members chat.id userId peerId) :
    ((∃ chatId other, db.ensureCanMessage members chat userId = .error (.userBlocked chatId other)) ↔
        ∃ chatId other, db.ensureCanStartDirect userId peerId = .error (.userBlocked chatId other)) ∧
      ((∃ chatId other, db.ensureCanMessage members chat userId =
          .error (.messagesPrivacyRestricted chatId other)) ↔
        ∃ chatId other, db.ensureCanStartDirect userId peerId =
          .error (.messagesPrivacyRestricted chatId other)) ∧
      (db.ensureCanMessage members chat userId = .ok () ↔
        db.ensureCanStartDirect userId peerId = .ok ()) := by
  rw [ensureCanMessage, ensureDirect_eq direct peers, ensureCanStartDirect]
  by_cases blocked : db.isBlockedBetween userId peerId = true
  · simp [blocked]
  · by_cases allowed : peerId ∈ db.allowedBy .messages userId {peerId}
    · simp [blocked, allowed]
    · simp [blocked, allowed]

section Example

def directPair : ChatMembers :=
  ⟨[{ id := 1, chatId := 10, userId := 1, roleId := .directMember },
    { id := 2, chatId := 10, userId := 2, roleId := .directMember }], by decide⟩

def closedPeer : Projection where
  profiles := ⟨[{ userId := 2, privacyMessages := "contacts", createdAt := 0, updatedAt := 0 }],
    by decide⟩
  contacts := [(2, 1)]

theorem message_as_start_contact :
    closedPeer.ensureCanMessage directPair { id := 10, type := .direct, createdBy := 1 } 1 = .ok () ↔
      closedPeer.ensureCanStartDirect 1 2 = .ok () := by
  refine (message_as_start closedPeer directPair { id := 10, type := .direct, createdBy := 1 } 1 2
    rfl ⟨by decide, by decide, ?_⟩).2.2
  intro row member _
  rcases List.mem_cons.mp member with rfl | member
  · exact .inl rfl
  · rw [List.mem_singleton.mp member]
    exact .inr rfl

end Example

end Projection

end Messanger
