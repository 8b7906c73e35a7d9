import Messanger.Contacts.Batches

/-!
The flags of the contacts in every committed state: a contact is marked as mutual if and only if
each of the two users has the other.
-/

namespace Messanger.Contacts

open Relational Processes Reciprocal

variable {services : Services}

def anyBatch : UserId → IdentifierHash → Progress → Db → Prop := fun _ _ _ _ => True

theorem upheld_faithful : Upheld services (fun db => Faithful db.book) anyBatch where
  adds := fun _ _ _ _ good adds => adds.grows.faithful good
  removes := fun _ _ _ _ good removes => removes.shrinks.faithful good
  imports := fun _ _ _ _ good imports => imports.grows.faithful good
  leaves := fun _ _ good leaves => leaves.grows.faithful good
  resolves := fun _ _ _ _ _ good _ resolves => resolves.grows.faithful good

theorem mutual_iff_of_faithful {db : Db} (faithful : Faithful db.book) (ownerId contactId : UserId) :
    (∃ row, db.contact? ownerId contactId = some row ∧ row.isMutual = true) ↔
      (db.contact? ownerId contactId).isSome ∧ (db.contact? contactId ownerId).isSome := by
  constructor
  · rintro ⟨row, found, flag⟩
    have flagged : db.book ownerId contactId = some true := by
      rw [Db.book, found, Option.map_some, flag]
    have opposite := (faithful _ _ _ flagged).mp rfl
    exact ⟨by rw [found]; rfl, isSome_book ▸ opposite⟩
  · rintro ⟨here, opposite⟩
    obtain ⟨row, found⟩ := Option.isSome_iff_exists.mp here
    refine ⟨row, found, ?_⟩
    have flagged : db.book ownerId contactId = some row.isMutual := by
      rw [Db.book, found, Option.map_some]
    exact (faithful _ _ _ flagged).mpr (isSome_book ▸ opposite)

/-- In every committed state of every run a row is marked as mutual if and only if both rows are
there. -/
theorem mutual_iff_both {world : World}
    {final : Site World Op Command ContactError ContactAnswer} (faithful : Faithful world.db.book)
    (run : Runs (byTransaction services) {} ⟨⟨world, [], []⟩, []⟩ final)
    (ownerId contactId : UserId) :
    (∃ row, final.world.db.contact? ownerId contactId = some row ∧ row.isMutual = true) ↔
      (final.world.db.contact? ownerId contactId).isSome ∧
        (final.world.db.contact? contactId ownerId).isSome := by
  have acts (scene : Books) (index : Nat) (tag : Command) (label : Op) (effect : World → World)
      (_ : ({} : BookTerms).Acts scene index tag label effect) :
      (batchTerms services anyBatch).Acts scene index tag label effect :=
    fun _ _ _ _ _ _ => trivial
  have kept : Faithful final.world.db.book :=
    upheld_faithful.runs faithful (run.mono (fun _ _ _ => trivial) acts)
  exact mutual_iff_of_faithful kept ownerId contactId

section Example

def plainServices : Services where
  hash email := .ok (some (email.toList.map fun char => UInt8.ofNat char.toNat))
  lower := id
  strip := id

def twoProfiles : World where
  db := { profiles := [⟨1, "first", false, 0⟩, ⟨2, "second", false, 0⟩] }

theorem faithful_empty {db : Db} (none : db.contacts = .empty) : Faithful db.book := by
  intro ownerId contactId flag found
  rw [Db.book, Db.contact?, none, Table.find?_empty] at found
  cases found

def meetingMoves : List (Move Command) :=
  [.start (.addContact { ownerId := 1, userId := some 2 }), .exec 0,
    .start (.importContacts { ownerId := 2, entries := [{ email := "a" }] }), .exec 1,
    .start (.registerUserIdentifier 2 { userId := 1, email := "a" }), .exec 2, .exec 2, .exec 2]

def meetingSite : Option (Site World Op Command ContactError ContactAnswer) :=
  Site.steps (byTransaction plainServices) (fun _ _ => true) (fun _ _ _ _ _ => true)
    ⟨⟨twoProfiles, [], []⟩, []⟩ meetingMoves

theorem mutual_after_registering : ∃ final, meetingSite = some final ∧
    final.world.db.contacts.rows.map (fun row => (row.key, row.isMutual)) =
      [((1, 2), true), ((2, 1), true)] ∧
    ((∃ row, final.world.db.contact? 1 2 = some row ∧ row.isMutual = true) ↔
      (final.world.db.contact? 1 2).isSome ∧ (final.world.db.contact? 2 1).isSome) := by
  have rows : meetingSite.map (fun site =>
      site.world.db.contacts.rows.map fun row => (row.key, row.isMutual)) =
        some [((1, 2), true), ((2, 1), true)] := by decide +kernel
  obtain ⟨final, reached, same⟩ := Option.map_eq_some_iff.mp rows
  have faithful : Faithful twoProfiles.db.book := faithful_empty rfl
  have run : Runs (byTransaction plainServices) {} ⟨⟨twoProfiles, [], []⟩, []⟩ final :=
    runs_of_steps meetingMoves (fun _ _ _ => trivial) (fun _ _ _ _ _ _ => trivial) .refl reached
  exact ⟨final, reached, same, mutual_iff_both faithful run 1 2⟩

end Example

end Messanger.Contacts
