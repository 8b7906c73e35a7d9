import Mathlib.Data.List.Flatten
import Mathlib.Data.List.Nodup
import Mathlib.Data.List.Sort

/-!
Pages by offset.  Every page is cut from an arrangement of the rows of its own, as a database makes
it that sorts once more for each page; rows that the order does not tell apart may change places
from page to page.  The orders that sort by several clauses come last.
-/

namespace Offsets

variable {Row : Type} {le : Row → Row → Prop} {rows first second : List Row} {size : Nat}

structure Arranges (le : Row → Row → Prop) (rows answer : List Row) : Prop where
  perm : answer.Perm rows
  sorted : answer.Pairwise le

/-- `OFFSET (number - 1) * size LIMIT size`. -/
def page (size number : Nat) (answer : List Row) : List Row :=
  (answer.drop ((number - 1) * size)).take size

/-- The pages from the first one on, each of an answer of its own. -/
def read (size : Nat) (answers : Nat → List Row) (count : Nat) : List Row :=
  (List.range count).flatMap fun index => page size (index + 1) (answers (index + 1))

def Parted (le : Row → Row → Prop) (answer : List Row) (place : Nat) : Prop :=
  ∀ before ∈ answer.take place, ∀ after ∈ answer.drop place, ¬le after before

theorem read_succ (answers : Nat → List Row) (count : Nat) :
    read size answers (count + 1) =
      read size answers count ++ page size (count + 1) (answers (count + 1)) := by
  rw [read, List.range_succ, List.flatMap_append, List.flatMap_singleton]
  rfl

theorem page_append (number : Nat) (answer : List Row) :
    answer.take (number * size) ++ page size (number + 1) answer =
      answer.take ((number + 1) * size) := by
  rw [page, Nat.add_sub_cancel, Nat.succ_mul, List.take_add]

theorem take_perm (distinct : rows.Nodup) (left : Arranges le rows first)
    (right : Arranges le rows second) {place : Nat} (parted : Parted le first place) :
    (second.take place).Perm (first.take place) := by
  have lengths : (second.take place).length = (first.take place).length := by
    rw [List.length_take, List.length_take, left.perm.length_eq, right.perm.length_eq]
  have firstDistinct : (first.take place).Nodup :=
    (left.perm.nodup_iff.mpr distinct).sublist (List.take_sublist _ _)
  have secondDistinct : (second.take place).Nodup :=
    (right.perm.nodup_iff.mpr distinct).sublist (List.take_sublist _ _)
  have placed : ∀ row ∈ rows, row ∈ first.take place ∨ row ∈ first.drop place := by
    intro row member
    rw [← List.mem_append, List.take_append_drop]
    exact left.perm.mem_iff.mpr member
  have front : first.take place ⊆ second.take place := by
    intro row member
    by_contra missing
    have known := right.perm.mem_iff.mpr (left.perm.mem_iff.mp (List.mem_of_mem_take member))
    rw [← List.take_append_drop place second, List.mem_append] at known
    have behind := known.resolve_left missing
    have ordered := right.sorted
    rw [← List.take_append_drop place second, List.pairwise_append] at ordered
    -- whatever stands before the row in the other answer belongs to the front
    have back : second.take place ⊆ first.take place := by
      intro other stands
      have among := right.perm.mem_iff.mp (List.mem_of_mem_take stands)
      refine (placed other among).resolve_right fun rest => ?_
      exact parted row member other rest (ordered.2.2 other stands row behind)
    have same := (List.subperm_of_subset secondDistinct back).perm_of_length_le lengths.ge
    exact missing (same.mem_iff.mpr member)
  exact ((List.subperm_of_subset firstDistinct front).perm_of_length_le lengths.le).symm

theorem read_perm_take (distinct : rows.Nodup) (arranged : Arranges le rows first)
    (parted : ∀ number, Parted le first (number * size)) (answers : Nat → List Row)
    (lawful : ∀ number, Arranges le rows (answers number)) (count : Nat) :
    (read size answers count).Perm (first.take (count * size)) := by
  induction count with
  | zero => simp [read]
  | succ count ih =>
      have same := take_perm distinct arranged (lawful (count + 1)) (parted count)
      have more := take_perm distinct arranged (lawful (count + 1)) (parted (count + 1))
      rw [read_succ]
      refine ((ih.trans same.symm).append_right _).trans ?_
      rw [page_append]
      exact more

section Ties

variable {before after : Row} {front rest : List Row}

theorem arranges_swap (arranged : Arranges le rows (front ++ before :: after :: rest))
    (tied : le after before) : Arranges le rows (front ++ after :: before :: rest) where
  perm := ((List.Perm.swap before after rest).append_left front).trans arranged.perm
  sorted := by
    have sorted := arranged.sorted
    simp only [List.pairwise_append, List.pairwise_cons, List.mem_cons] at sorted ⊢
    obtain ⟨ahead, ⟨first, second, later⟩, across⟩ := sorted
    refine ⟨ahead, ⟨?_, ?_, later⟩, ?_⟩
    · rintro other (rfl | member)
      · exact tied
      · exact second other member
    · exact fun other member => first other (.inr member)
    · rintro other member last (rfl | rfl | listed)
      · exact across other member last (.inr (.inl rfl))
      · exact across other member last (.inl rfl)
      · exact across other member last (.inr (.inr listed))

def Tied (le : Row → Row → Prop) (answer : List Row) (place : Nat) : Prop :=
  ∃ front before after rest, answer = front ++ before :: after :: rest ∧
    front.length + 1 = place ∧ le after before

theorem parted_of_untied (total : ∀ left right, le left right ∨ le right left)
    (trans : ∀ first second third, le first second → le second third → le first third)
    (sorted : first.Pairwise le) {place : Nat} (untied : ¬Tied le first place) :
    Parted le first place := by
  intro one ahead other behind placed
  obtain ⟨front, before, taken⟩ := List.append_of_mem ahead
  have positive : 0 < place := by
    by_contra none
    rw [Nat.eq_zero_of_not_pos none, List.take_zero] at ahead
    cases ahead
  have inside : place < first.length := by
    by_contra beyond
    rw [List.drop_of_length_le (Nat.le_of_not_lt beyond)] at behind
    cases behind
  have refl : ∀ row, le row row := fun row => (total row row).elim id id
  have last : first[place - 1] ∈ first.take place := by
    refine List.mem_take_iff_getElem.mpr ⟨place - 1, by omega, rfl⟩
  have split : first = first.take (place - 1) ++ first[place - 1] :: first[place] ::
      first.drop (place + 1) := by
    have ends : first.drop (place - 1) =
        first[place - 1] :: first[place] :: first.drop (place + 1) := by
      rw [List.drop_eq_getElem_cons (by omega), Nat.sub_add_cancel positive,
        List.drop_eq_getElem_cons inside]
    rw [← ends, List.take_append_drop]
  refine untied ⟨_, _, _, _, split, by rw [List.length_take]; omega, ?_⟩
  have upTo : le one first[place - 1] := by
    obtain ⟨index, bound, rfl⟩ := List.mem_take_iff_getElem.mp ahead
    rcases Nat.lt_or_ge index (place - 1) with early | late
    · exact List.pairwise_iff_getElem.mp sorted index (place - 1) (by omega) (by omega) early
    · obtain rfl : index = place - 1 := by omega
      exact refl _
  have onward : le first[place] other := by
    obtain ⟨index, bound, rfl⟩ := List.mem_drop_iff_getElem.mp behind
    rcases Nat.eq_zero_or_pos index with none | some
    · subst none
      exact refl _
    · exact List.pairwise_iff_getElem.mp sorted place (place + index) inside (by omega) (by omega)
  exact trans _ _ _ onward (trans _ _ _ placed upTo)

theorem mem_page {answer : List Row} {number place : Nat} {row : Row}
    (found : answer[place]? = some row) (starts : (number - 1) * size ≤ place)
    (ends : place < (number - 1) * size + size) :
    row ∈ page size number answer := by
  refine List.mem_of_getElem? (i := place - (number - 1) * size) ?_
  rw [page, List.getElem?_take_of_lt (by omega), List.getElem?_drop, ← found]
  congr 1
  omega

theorem read_twice (arranged : Arranges le rows first) {number count : Nat}
    (positive : 0 < size) (more : number < count) (tied : Tied le first (number * size)) :
    ∃ answers, (∀ number, Arranges le rows (answers number)) ∧ ¬(read size answers count).Nodup := by
  obtain ⟨front, before, after, rest, rfl, place, alike⟩ := tied
  have some : 0 < number := by
    by_contra none
    rw [Nat.eq_zero_of_not_pos none, Nat.zero_mul] at place
    omega
  refine ⟨fun page => if page ≤ number then front ++ before :: after :: rest
    else front ++ after :: before :: rest, fun page => ?_, fun distinct => ?_⟩
  · dsimp only
    split
    · exact arranged
    · exact arranges_swap arranged alike
  · have apart := (List.nodup_flatMap.mp distinct).2
    have pair := List.pairwise_iff_getElem.mp apart (number - 1) number (by simp; omega)
      (by simp; omega) (by omega)
    simp only [List.getElem_range] at pair
    have whole : (number - 1) * size + size = number * size := by
      rw [← Nat.succ_mul, Nat.succ_eq_add_one, Nat.sub_add_cancel some]
    refine pair (a := before) ?_ ?_
    · dsimp only
      rw [if_pos (by omega)]
      refine @mem_page _ _ _ _ front.length _ (by simp) ?_ ?_
      · rw [Nat.add_sub_cancel]
        omega
      · rw [Nat.add_sub_cancel]
        omega
    · dsimp only
      rw [if_neg (by omega)]
      refine @mem_page _ _ _ _ (front.length + 1) _ (by simp) ?_ ?_
      · rw [Nat.add_sub_cancel]
        omega
      · rw [Nat.add_sub_cancel]
        omega

end Ties

theorem read_perm_iff (total : ∀ left right, le left right ∨ le right left)
    (trans : ∀ first second third, le first second → le second third → le first third)
    (positive : 0 < size) (distinct : rows.Nodup) (arranged : Arranges le rows first) {count : Nat}
    (enough : rows.length ≤ count * size) :
    (∀ answers, (∀ number, Arranges le rows (answers number)) →
      (read size answers count).Perm rows) ↔ ∀ number, ¬Tied le first (number * size) := by
  constructor
  · intro complete number tied
    have more : number < count := by
      obtain ⟨front, before, after, rest, split, place, _⟩ := tied
      have length := arranged.perm.length_eq
      rw [split, List.length_append, List.length_cons, List.length_cons] at length
      exact Nat.lt_of_mul_lt_mul_right (Nat.lt_of_lt_of_le (by omega) enough)
    obtain ⟨answers, lawful, twice⟩ := read_twice arranged positive more tied
    exact twice ((complete answers lawful).nodup_iff.mpr distinct)
  · intro untied answers lawful
    have pages := read_perm_take distinct arranged
      (fun number => parted_of_untied total trans arranged.sorted (untied number)) answers lawful count
    rw [List.take_of_length_le (by rw [arranged.perm.length_eq]; exact enough)] at pages
    exact pages.trans arranged.perm

/-- One clause of `ORDER BY`. -/
structure Clause (Row : Type) where
  le : Row → Row → Bool
  total : ∀ left right, le left right = true ∨ le right left = true
  trans : ∀ first second third, le first second = true → le second third = true →
    le first third = true

namespace Clause

def reverse (clause : Clause Row) : Clause Row where
  le left right := clause.le right left
  total left right := clause.total right left
  trans first second third one other := clause.trans third second first other one

def ofKey {Key : Type} [LinearOrder Key] (key : Row → Key) : Clause Row where
  le left right := decide (key left ≤ key right)
  total left right := by
    rw [decide_eq_true_iff, decide_eq_true_iff]
    exact le_total _ _
  trans first second third one other := by
    rw [decide_eq_true_iff] at one other ⊢
    exact le_trans one other

def placed : List (Clause Row) → Row → Row → Bool
  | [], _, _ => true
  | clause :: rest, left, right =>
      clause.le left right && (!clause.le right left || placed rest left right)

variable {clause : Clause Row} {clauses rest : List (Clause Row)} {left right : Row}

theorem placed_cons : placed (clause :: rest) left right = true ↔
    clause.le left right = true ∧ (clause.le right left = true → placed rest left right = true) := by
  rw [placed, Bool.and_eq_true, Bool.or_eq_true, Bool.not_eq_true', ← Bool.not_eq_true]
  exact and_congr_right fun _ => (imp_iff_not_or).symm

theorem placed_total (clauses : List (Clause Row)) (left right : Row) :
    placed clauses left right = true ∨ placed clauses right left = true := by
  induction clauses with
  | nil => exact .inl rfl
  | cons clause rest ih =>
      rw [placed_cons, placed_cons]
      by_cases onward : clause.le left right = true
      · by_cases back : clause.le right left = true
        · exact ih.imp (fun before => ⟨onward, fun _ => before⟩) fun after => ⟨back, fun _ => after⟩
        · exact .inl ⟨onward, fun other => absurd other back⟩
      · have back := (clause.total left right).resolve_left onward
        exact .inr ⟨back, fun other => absurd other onward⟩

theorem placed_trans (clauses : List (Clause Row)) (first second third : Row)
    (one : placed clauses first second = true) (other : placed clauses second third = true) :
    placed clauses first third = true := by
  induction clauses with
  | nil => rfl
  | cons clause rest ih =>
      rw [placed_cons] at one other ⊢
      refine ⟨clause.trans _ _ _ one.1 other.1, fun back => ih (one.2 ?_) (other.2 ?_)⟩
      · exact clause.trans _ _ _ other.1 back
      · exact clause.trans _ _ _ back one.1

theorem placed_both : placed clauses left right = true ∧ placed clauses right left = true ↔
    ∀ clause ∈ clauses, clause.le left right = true ∧ clause.le right left = true := by
  induction clauses with
  | nil => simp [placed]
  | cons clause rest ih =>
      rw [List.forall_mem_cons, ← ih, placed_cons, placed_cons]
      constructor
      · rintro ⟨onward, back⟩
        exact ⟨⟨onward.1, back.1⟩, onward.2 back.1, back.2 onward.1⟩
      · rintro ⟨alike, both⟩
        exact ⟨⟨alike.1, fun _ => both.1⟩, alike.2, fun _ => both.2⟩

end Clause

end Offsets
