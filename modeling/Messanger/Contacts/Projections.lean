import Messanger.Contacts.Mutual
import Messanger.Privacy.ProfilesCore

/-!
The contacts that the chats keep.  They see the events of the address books and nothing else; a
batch of waiting owners publishes no more events than its command has left, so the rows it inserts
beyond that stay unknown to the chats.
-/

namespace Messanger.Contacts

open Relational Processes Reciprocal

variable {services : Services}

def ContactEvent.project : ContactEvent → Projection → Projection
  | .contactAdded ownerId contactId _ _, store => store.applyUserContact ownerId contactId true
  | .contactRemoved ownerId contactId, store => store.applyUserContact ownerId contactId false
  | .userBlocked ownerId targetId, store => store.applyUserBlock ownerId targetId true
  | .userUnblocked ownerId targetId, store => store.applyUserBlock ownerId targetId false

/-- Each event is consumed once, in the order of publication. -/
def consumed (events : List ContactEvent) (store : Projection) : Projection :=
  events.foldl (fun store event => event.project store) store

/-- The chats have the pairs of the rows. -/
def Mirrors (store : Projection) (db : Db) : Prop := ∀ ownerId contactId,
  (ownerId, contactId) ∈ store.contacts ↔ (db.contact? ownerId contactId).isSome

section Consuming

variable {store : Projection} {events : List ContactEvent} {ownerId contactId : UserId}

theorem consumed_append (first second : List ContactEvent) :
    consumed (first ++ second) store = consumed second (consumed first store) := List.foldl_append

theorem contacts_block (targetId : UserId) (blocked : Bool) :
    (store.applyUserBlock ownerId targetId blocked).contacts = store.contacts := by
  cases blocked with
  | true => rfl
  | false => rfl

theorem mem_consumed_added
    (added : ∀ event ∈ events, ∃ owner contact source isMutual,
      event = .contactAdded owner contact source isMutual) :
    (ownerId, contactId) ∈ (consumed events store).contacts ↔
      (ownerId, contactId) ∈ store.contacts ∨
        ∃ source isMutual, .contactAdded ownerId contactId source isMutual ∈ events := by
  induction events generalizing store with
  | nil => simp [consumed]
  | cons event rest ih =>
      obtain ⟨owner, contact, source, isMutual, rfl⟩ := added event List.mem_cons_self
      have later := @ih (store.applyUserContact owner contact true)
        fun other member => added other (List.mem_cons_of_mem _ member)
      refine later.trans ?_
      simp only [Projection.applyUserContact, Projection.addContact, if_true, List.mem_insert_iff,
        Prod.mk.injEq, List.mem_cons, ContactEvent.contactAdded.injEq]
      constructor
      · rintro ((⟨rfl, rfl⟩ | before) | ⟨given, flag, member⟩)
        · exact .inr ⟨source, isMutual, .inl ⟨rfl, rfl, rfl, rfl⟩⟩
        · exact .inl before
        · exact .inr ⟨given, flag, .inr member⟩
      · rintro (before | ⟨given, flag, ⟨rfl, rfl, _, _⟩ | member⟩)
        · exact .inl (.inr before)
        · exact .inl (.inl ⟨rfl, rfl⟩)
        · exact .inr ⟨given, flag, member⟩

theorem contacts_consumed_silent
    (silent : ∀ event ∈ events, ∀ owner contact source isMutual,
      event ≠ .contactAdded owner contact source isMutual ∧ event ≠ .contactRemoved owner contact) :
    (consumed events store).contacts = store.contacts := by
  induction events generalizing store with
  | nil => rfl
  | cons event rest ih =>
      have later := @ih (event.project store)
        fun other member => silent other (List.mem_cons_of_mem _ member)
      refine later.trans ?_
      have here := silent event List.mem_cons_self
      cases event with
      | contactAdded owner contact source isMutual =>
          exact absurd rfl (here owner contact source isMutual).1
      | contactRemoved owner contact => exact absurd rfl (here owner contact .manual false).2
      | userBlocked owner target => exact contacts_block target true
      | userUnblocked owner target => exact contacts_block target false

end Consuming

section Following

variable {store : Projection} {db : Db} {log : List Write} {pairs : List (UserId × UserId)}

/-- The chats have what the events of the outbox told them. -/
def InStep (store : Projection) (db : Db) : Prop := Mirrors (consumed db.outbox store) db

theorem outbox_consumed : consumed (applyAll log db).outbox store =
    consumed (published log) (consumed db.outbox store) := by
  rw [outbox_applyAll, consumed_append]

theorem inStep_grows (inStep : InStep store db) (grows : Grows pairs db (applyAll log db))
    (announces : Announces pairs db (published log)) : InStep store (applyAll log db) := by
  intro ownerId contactId
  have added : ∀ event ∈ published log, ∃ owner contact source isMutual,
      event = .contactAdded owner contact source isMutual := by
    intro event member
    obtain ⟨owner, contact, source, isMutual, same, _⟩ := announces.only event member
    exact ⟨owner, contact, source, isMutual, same⟩
  have present := grows.present ownerId contactId
  rw [isSome_book, isSome_book] at present
  rw [outbox_consumed, mem_consumed_added added, inStep ownerId contactId, present]
  constructor
  · rintro (before | ⟨source, isMutual, member⟩)
    · exact .inl before
    · obtain ⟨owner, contact, _, _, same, chosen, _⟩ := announces.only _ member
      cases same
      exact .inr chosen
  · rintro (before | chosen)
    · exact .inl before
    · cases there : db.contact? ownerId contactId with
      | some row => exact .inl rfl
      | none => exact .inr (announces.all ownerId contactId chosen there)

theorem inStep_leaves (inStep : InStep store db) (leaves : Leaves db log) :
    InStep store (applyAll log db) := by
  intro ownerId contactId
  have present := leaves.grows.present ownerId contactId
  rw [isSome_book, isSome_book] at present
  rw [outbox_consumed, contacts_consumed_silent leaves.silent, inStep ownerId contactId, present]
  simp

theorem inStep_removes {ownerId contactId : UserId} (inStep : InStep store db)
    (removes : Removes ownerId contactId db log) : InStep store (applyAll log db) := by
  intro owner contact
  have present := removes.shrinks.present owner contact
  rw [isSome_book, isSome_book] at present
  rw [outbox_consumed, removes.announced, present, ← inStep owner contact]
  change (owner, contact) ∈ (consumed db.outbox store).contacts.filter
    (· ≠ (ownerId, contactId)) ↔ _
  rw [List.mem_filter, decide_eq_true_eq]

theorem announces_resolved {eventsLeft : Nat} {mutualOwners : List UserId}
    (fits : (pairs.filter fun key => (db.contacts.find? key).isNone).length ≤ eventsLeft) :
    Announces pairs db (resolvedEvents eventsLeft mutualOwners
      (pairs.filter fun key => (db.contacts.find? key).isNone)) := by
  have member (pair : UserId × UserId) :
      pair ∈ ((pairs.filter fun key => (db.contacts.find? key).isNone).insertionSort
        fun left right => left.1 < right.1 ∨ left.1 = right.1 ∧ left.2 ≤ right.2).take eventsLeft ↔
          pair ∈ pairs ∧ db.contacts.find? pair = none := by
    rw [List.take_of_length_le (by rwa [List.length_insertionSort]),
      (List.perm_insertionSort _ _).mem_iff, List.mem_filter, Option.isNone_iff_eq_none]
  constructor
  · intro event inside
    obtain ⟨⟨owner, contact⟩, listed, rfl⟩ := List.mem_map.mp inside
    obtain ⟨chosen, absent⟩ := (member _).mp listed
    exact ⟨owner, contact, _, _, rfl, chosen, absent⟩
  · intro owner contact chosen absent
    exact ⟨_, _, List.mem_map_of_mem ((member _).mpr ⟨chosen, absent⟩)⟩

/-- No owner of the batch is left without an event. -/
def fitsEvents : UserId → IdentifierHash → Progress → Db → Prop :=
  fun userId identifierHash progress db =>
    (progress.newPairs identifierHash userId db).length ≤ progress.eventsLeft

theorem upheld_inStep (store : Projection) : Upheld services (InStep store) fitsEvents where
  adds := fun _ _ _ _ inStep adds => inStep_grows inStep adds.grows adds.announces
  removes := fun _ _ _ _ inStep removes => inStep_removes inStep removes
  imports := fun _ _ _ _ inStep imports => inStep_grows inStep imports.grows imports.announces
  leaves := fun _ _ inStep leaves => inStep_leaves inStep leaves
  resolves := by
    intro db log userId identifierHash progress inStep fits resolves
    obtain ⟨mutualOwners, events⟩ := resolves.events
    refine inStep_grows inStep resolves.grows ?_
    rw [events]
    exact announces_resolved fits

/-- `owners_having_contact`. -/
def Db.ownersHavingContact (db : Db) (contactId : UserId) (ownerIds : Finset UserId) :
    Finset UserId :=
  ownerIds.filter fun ownerId => (db.contact? ownerId contactId).isSome

/-- In a run whose batches are all announced in full, the chats have the pairs of the rows once
they have consumed every event, and read for a rule what the profiles read. -/
theorem inStep_of_fits {world : World} {store : Projection}
    {final : Site World Op Command ContactError ContactAnswer} (inStep : InStep store world.db)
    (run : Runs (byTransaction services) (batchTerms services fitsEvents)
      ⟨⟨world, [], []⟩, []⟩ final) :
    Mirrors (consumed final.world.db.outbox store) final.world.db ∧
      ∀ contactId ownerIds, (consumed final.world.db.outbox store).contactsOf contactId ownerIds =
        final.world.db.ownersHavingContact contactId ownerIds := by
  have mirrors : Mirrors (consumed final.world.db.outbox store) final.world.db :=
    (upheld_inStep store).runs inStep run
  refine ⟨mirrors, fun contactId ownerIds => Finset.filter_congr fun ownerId _ => ?_⟩
  exact mirrors ownerId contactId

end Following

section Example

def fitsEventsCheck (userId : UserId) (identifierHash : IdentifierHash) (progress : Progress)
    (db : Db) : Bool :=
  decide ((progress.newPairs identifierHash userId db).length ≤ progress.eventsLeft)

theorem fitsEventsCheck_sound {userId : UserId} {identifierHash : IdentifierHash}
    {progress : Progress} {db : Db}
    (passed : fitsEventsCheck userId identifierHash progress db = true) :
    fitsEvents userId identifierHash progress db := by
  rw [fitsEventsCheck, decide_eq_true_eq] at passed
  exact passed

def meetingFits : Option (Site World Op Command ContactError ContactAnswer) :=
  Site.steps (byTransaction plainServices) (fun _ _ => true)
    (batchActs plainServices fitsEventsCheck) ⟨⟨twoProfiles, [], []⟩, []⟩ meetingMoves

theorem inStep_after_import : ∃ final, meetingFits = some final ∧
    final.world.db.outbox =
      [.contactAdded 1 2 .manual false, .contactAdded 2 1 .fromImport true] ∧
    Mirrors (consumed final.world.db.outbox {}) final.world.db := by
  have events : meetingFits.map (fun site => site.world.db.outbox) =
      some [.contactAdded 1 2 .manual false, .contactAdded 2 1 .fromImport true] := by
    decide +kernel
  obtain ⟨final, reached, same⟩ := Option.map_eq_some_iff.mp events
  have inStep : InStep {} twoProfiles.db := fun ownerId contactId => by
    rw [show twoProfiles.db.contact? ownerId contactId = none from rfl]
    simp [consumed, twoProfiles]
  have run : Runs (byTransaction plainServices) (batchTerms plainServices fitsEvents)
      ⟨⟨twoProfiles, [], []⟩, []⟩ final :=
    runs_of_steps meetingMoves (fun _ _ _ => trivial)
      (fun _ _ _ _ _ => batchActs_sound fun _ _ _ _ => fitsEventsCheck_sound) .refl reached
  exact ⟨final, reached, same, (inStep_of_fits inStep run).1⟩

def crowd (count : Nat) : World where
  db :=
    { pending := ((List.range count).map fun ownerId =>
        ({ ownerId := ownerId + 1, identifierHash := [97], createdAt := 0 } :
          PendingContact)).foldl (fun table row => table.insert row) .empty }

def crowdedMoves : List (Move Command) :=
  [.start (.registerUserIdentifier 2 { userId := 500, email := "a" }), .exec 0, .exec 0, .exec 0]

def crowdedSite : Option (Site World Op Command ContactError ContactAnswer) :=
  Site.steps (byTransaction plainServices) (fun _ _ => true) (fun _ _ _ _ _ => true)
    ⟨⟨crowd 101, [], []⟩, []⟩ crowdedMoves

/-- The last of a hundred and one owners has a contact that the chats never hear of. -/
theorem last_owner_unknown : ¬∀ (services : Services) (world : World) (store : Projection)
    (final : Site World Op Command ContactError ContactAnswer), InStep store world.db →
      Runs (byTransaction services) {} ⟨⟨world, [], []⟩, []⟩ final →
        Mirrors (consumed final.world.db.outbox store) final.world.db := by
  intro always
  have found : crowdedSite.map (fun site =>
      (decide ((101, 500) ∈ (consumed site.world.db.outbox {}).contacts),
        (site.world.db.contact? 101 500).isSome)) = some (false, true) := by decide +kernel
  obtain ⟨final, reached, same⟩ := Option.map_eq_some_iff.mp found
  obtain ⟨unknown, there⟩ := Prod.mk.inj same
  have inStep : InStep {} (crowd 101).db := fun ownerId contactId => by
    rw [show (crowd 101).db.contact? ownerId contactId = none from rfl]
    simp [consumed, crowd]
  have mirrors := always plainServices (crowd 101) {} final inStep
    (runs_of_steps crowdedMoves (fun _ _ _ => trivial) (fun _ _ _ _ _ _ => trivial) .refl reached)
  exact of_decide_eq_false unknown ((mirrors 101 500).mpr there)

end Example

end Messanger.Contacts
