import Mathlib.Logic.Basic

/-!
Directed graphs each edge of which carries a flag that tells whether the opposite edge is there.
The flag is kept up by marking edges after some were entered or withdrawn.
-/

namespace Reciprocal

variable {Node : Type}

abbrev Book (Node : Type) := Node → Node → Option Bool

/-- An edge is flagged if and only if the opposite edge is there. -/
def Faithful (book : Book Node) : Prop :=
  ∀ source target flag, book source target = some flag →
    (flag = true ↔ (book target source).isSome)

variable [DecidableEq Node]

def enter (edges : List (Node × Node)) (book : Book Node) : Book Node := fun source target =>
  (book source target).or (if (source, target) ∈ edges then some false else none)

def mark (edges : List (Node × Node)) (flag : Bool) (book : Book Node) : Book Node :=
  fun source target =>
    if (source, target) ∈ edges then (book source target).map fun _ => flag
    else book source target

def withdraw (edge : Node × Node) (book : Book Node) : Book Node := fun source target =>
  if (source, target) = edge then none else book source target

variable {book : Book Node} {edges marks : List (Node × Node)} {source target : Node}

theorem isSome_mark {flag : Bool} :
    (mark edges flag book source target).isSome = (book source target).isSome := by
  unfold mark
  split
  · rw [Option.isSome_map]
  · rfl

theorem isSome_enter :
    (enter edges book source target).isSome ↔
      (book source target).isSome ∨ (source, target) ∈ edges := by
  unfold enter
  by_cases entered : (source, target) ∈ edges
  · simp [entered]
  · simp [entered]

theorem faithful_enter (faithful : Faithful book)
    (met : ∀ source target, (source, target) ∈ marks →
      (enter edges book source target).isSome → (enter edges book target source).isSome)
    (marked : ∀ source target, (source, target) ∈ edges →
      (enter edges book target source).isSome →
        (source, target) ∈ marks ∧ (target, source) ∈ marks) :
    Faithful (mark marks true (enter edges book)) := by
  intro source target flag found
  rw [isSome_mark]
  unfold mark at found
  split at found
  · rename_i chosen
    obtain ⟨old, entered, same⟩ := Option.map_eq_some_iff.mp found
    subst same
    exact iff_of_true rfl (met source target chosen (by rw [entered]; rfl))
  · rename_i left
    unfold enter at found
    rw [isSome_enter]
    cases present : book source target with
    | some old =>
        rw [present, Option.some_or, Option.some.injEq] at found
        subst found
        rw [faithful source target old present]
        refine ⟨Or.inl, fun opposite => opposite.elim id fun entered => ?_⟩
        have both := marked target source entered (isSome_enter.mpr (.inl (by rw [present]; rfl)))
        exact absurd both.2 left
    | none =>
        rw [present, Option.none_or] at found
        split at found
        · rename_i entered
          cases found
          refine iff_of_false (by decide) fun opposite => left ?_
          exact (marked source target entered (isSome_enter.mpr opposite)).1
        · cases found

theorem faithful_withdraw (faithful : Faithful book) :
    Faithful (mark [(source, target), (target, source)] false (withdraw (source, target) book)) := by
  intro left right flag found
  rw [isSome_mark]
  unfold mark withdraw at *
  by_cases gone : (left, right) = (source, target)
  · simp [gone] at found
  · rw [if_neg gone] at found
    by_cases opposite : (left, right) = (target, source)
    · simp only [opposite, List.mem_cons, List.not_mem_nil, or_false, or_true, if_true] at found
      obtain ⟨old, _, same⟩ := Option.map_eq_some_iff.mp found
      obtain ⟨rfl, rfl⟩ := Prod.mk.inj opposite
      simp [← same]
    · have unmarked : (left, right) ∉ [(source, target), (target, source)] := by
        simp only [List.mem_cons, List.not_mem_nil, or_false, not_or]
        exact ⟨gone, opposite⟩
      rw [if_neg unmarked] at found
      have away : (right, left) ≠ (source, target) := by
        intro same
        obtain ⟨rfl, rfl⟩ := Prod.mk.inj same
        exact opposite rfl
      rw [if_neg away]
      exact faithful left right flag found

end Reciprocal
