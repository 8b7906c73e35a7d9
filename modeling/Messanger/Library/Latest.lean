import Mathlib.Data.List.Induction

/-!
Registers that keep the event with the greatest stamp.  What one holds at the end depends on the
events that were written, and neither on their order nor on how often each came.

The last event of a kind in a history, with what has come since.
-/

namespace Latest

variable {Event : Type} (stamp : Event → Nat)

def keep (held : Option Event) (event : Event) : Option Event :=
  if held.all fun old => decide (stamp old < stamp event) then some event else held

def latest (events : List Event) : Option Event := events.foldl (keep stamp) none

/-- Stamps tell the events apart. -/
def Distinct (events : List Event) : Prop :=
  ∀ left ∈ events, ∀ right ∈ events, stamp left = stamp right → left = right

structure IsLatest (events : List Event) (held : Option Event) : Prop where
  member : ∀ event, held = some event → event ∈ events
  greatest : ∀ event ∈ events, ∃ last, held = some last ∧ stamp event ≤ stamp last

variable {stamp} {events others : List Event} {held other : Option Event} {event : Event}

theorem keep_cases : (keep stamp held event = some event ∧
      ∀ old, held = some old → stamp old < stamp event) ∨
    (keep stamp held event = held ∧ ∃ old, held = some old ∧ stamp event ≤ stamp old) := by
  unfold keep
  cases held with
  | none => exact .inl ⟨rfl, fun _ none => by cases none⟩
  | some old =>
      by_cases older : stamp old < stamp event
      · refine .inl ⟨if_pos (by simpa using older), ?_⟩
        intro other same
        cases same
        exact older
      · exact .inr ⟨if_neg (by simpa using older), old, rfl, by omega⟩

theorem isLatest_keep (before : IsLatest stamp events held) :
    IsLatest stamp (events ++ [event]) (keep stamp held event) := by
  rcases @keep_cases Event stamp held event with ⟨taken, newer⟩ | ⟨left, old, present, stale⟩
  · rw [taken]
    refine ⟨fun last same => ?_, fun written member => ⟨event, rfl, ?_⟩⟩
    · cases same
      exact List.mem_append_right _ (List.mem_singleton_self _)
    · rcases List.mem_append.mp member with early | late
      · obtain ⟨last, there, bound⟩ := before.greatest written early
        exact Nat.le_trans bound (Nat.le_of_lt (newer last there))
      · exact Nat.le_of_eq (congrArg _ (List.mem_singleton.mp late))
  · rw [left]
    refine ⟨fun last same => List.mem_append_left _ (before.member last same), ?_⟩
    intro written member
    rcases List.mem_append.mp member with early | late
    · exact before.greatest written early
    · rw [List.mem_singleton.mp late]
      exact ⟨old, present, stale⟩

theorem latest_concat : latest stamp (events ++ [event]) = keep stamp (latest stamp events) event := by
  rw [latest, List.foldl_append]
  rfl

theorem isLatest_latest (events : List Event) : IsLatest stamp events (latest stamp events) := by
  induction events using List.reverseRecOn with
  | nil => exact ⟨fun _ none => (by cases none), fun _ member => (by cases member)⟩
  | append_singleton events event ih =>
      rw [latest_concat]
      exact isLatest_keep ih

theorem isLatest_unique (distinct : Distinct stamp events)
    (same : ∀ event, event ∈ events ↔ event ∈ others) (first : IsLatest stamp events held)
    (second : IsLatest stamp others other) : held = other := by
  cases held with
  | none =>
      cases other with
      | none => rfl
      | some late =>
          obtain ⟨_, none, _⟩ := first.greatest late ((same late).mpr (second.member late rfl))
          cases none
  | some early =>
      have inside := first.member early rfl
      obtain ⟨late, rfl, bound⟩ := second.greatest early ((same early).mp inside)
      have written := (same late).mpr (second.member late rfl)
      obtain ⟨held, there, back⟩ := first.greatest late written
      cases there
      exact congrArg some (distinct _ inside late written (Nat.le_antisymm bound back))

theorem latest_eq (distinct : Distinct stamp events)
    (same : ∀ event, event ∈ events ↔ event ∈ others) :
    latest stamp events = latest stamp others :=
  isLatest_unique distinct same (isLatest_latest events) (isLatest_latest others)

theorem latest_greatest (distinct : Distinct stamp events) (member : event ∈ events)
    (greatest : ∀ other ∈ events, stamp other ≤ stamp event) :
    latest stamp events = some event := by
  refine isLatest_unique distinct (fun _ => Iff.rfl) (isLatest_latest events) ?_
  refine ⟨fun _ same => ?_, fun other written => ⟨event, rfl, greatest other written⟩⟩
  cases same
  exact member

section Since

variable {Item : Type} {Wanted : Item → Prop} {items before after : List Item} {last item : Item}

theorem split_concat (same : items ++ [last] = before ++ item :: after) :
    (item = last ∧ before = items ∧ after = []) ∨
      ∃ rest, after = rest ++ [last] ∧ items = before ++ item :: rest := by
  rcases List.eq_nil_or_concat after with rfl | ⟨rest, final, rfl⟩
  · obtain ⟨front, lasts⟩ := List.append_inj' same rfl
    exact .inl ⟨(List.head_eq_of_cons_eq lasts).symm, front.symm, rfl⟩
  · rw [List.concat_eq_append, ← List.cons_append, ← List.append_assoc] at same
    obtain ⟨front, lasts⟩ := List.append_inj' same rfl
    rw [List.concat_eq_append, List.head_eq_of_cons_eq lasts]
    exact .inr ⟨rest, rfl, front⟩

def Since (Wanted : Item → Prop) (items : List Item) (item : Item) (after : List Item) : Prop :=
  ∃ before, items = before ++ item :: after ∧ Wanted item ∧ ∀ other ∈ after, ¬ Wanted other

theorem since_last (wanted : Wanted last) : Since Wanted (items ++ [last]) last [] :=
  ⟨items, rfl, wanted, fun _ member => nomatch member⟩

theorem since_later (since : Since Wanted items item after) (other : ¬ Wanted last) :
    Since Wanted (items ++ [last]) item (after ++ [last]) := by
  obtain ⟨before, rfl, wanted, none⟩ := since
  refine ⟨before, by simp, wanted, fun later member => ?_⟩
  rcases List.mem_append.mp member with old | new
  · exact none later old
  · exact List.mem_singleton.mp new ▸ other

theorem since_concat (since : Since Wanted (items ++ [last]) item after) :
    (Wanted last ∧ item = last ∧ after = []) ∨
      ¬ Wanted last ∧ ∃ rest, after = rest ++ [last] ∧ Since Wanted items item rest := by
  obtain ⟨before, same, wanted, none⟩ := since
  rcases split_concat same with ⟨rfl, _, rfl⟩ | ⟨rest, rfl, older⟩
  · exact .inl ⟨wanted, rfl, rfl⟩
  · refine .inr ⟨none last (List.mem_append_right _ (List.mem_singleton_self last)), rest, rfl,
      before, older, wanted, fun other member => none other (List.mem_append_left _ member)⟩

theorem since_mem (since : Since Wanted items item after) : item ∈ items := by
  obtain ⟨before, rfl, _⟩ := since
  simp

end Since

end Latest
