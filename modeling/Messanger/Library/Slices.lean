import Mathlib.Data.List.Induction
import Mathlib.Data.List.Nodup
import Mathlib.Data.List.Count

/-!
Python's slices of a list, one after the other, and lists that are read bucket by bucket.
-/

namespace Python

variable {Item : Type}

/-- `[items[i:i + size] for i in range(0, len(items), size)]`. -/
def slices (size : Nat) (items : List Item) : List (List Item) :=
  (List.range ((items.length + size - 1) / size)).map fun i => (items.drop (i * size)).take size

variable {size : Nat}

theorem flatten_slices (positive : 0 < size) (items : List Item) :
    (slices size items).flatten = items := by
  have front : ∀ count, ((List.range count).map fun i =>
      (items.drop (i * size)).take size).flatten = items.take (count * size) := by
    intro count
    induction count with
    | zero => simp
    | succ count ih =>
        rw [List.range_succ, List.map_append, List.flatten_append, ih, Nat.succ_mul, List.take_add]
        simp
  rw [slices, front]
  refine List.take_of_length_le ?_
  have whole := Nat.div_add_mod (items.length + size - 1) size
  have rest := Nat.mod_lt (items.length + size - 1) positive
  rw [Nat.mul_comm] at whole
  omega

theorem nil_not_mem_slices (positive : 0 < size) (items : List Item) : [] ∉ slices size items := by
  intro member
  obtain ⟨i, inside, empty⟩ := List.mem_map.mp member
  have below := (Nat.lt_div_iff_mul_lt positive).mp (List.mem_range.mp inside)
  have bounds := congrArg List.length empty
  rw [List.length_take, List.length_drop, List.length_nil] at bounds
  omega

theorem count_part [BEq Item] [LawfulBEq Item] (parts : List (List Item)) (item : Item)
    (once : parts.flatten.count item = 1) (number : Nat) :
    (parts[number]?.getD []).count item =
      if number = parts.findIdx (·.contains item) then 1 else 0 := by
  induction parts generalizing number with
  | nil => simp at once
  | cons part others ih =>
      rw [List.flatten_cons, List.count_append] at once
      rw [List.findIdx_cons]
      cases here : part.contains item with
      | true =>
          have positive := List.count_pos_iff.mpr (List.contains_iff_mem.mp here)
          rw [cond_true]
          cases number with
          | zero =>
              rw [List.getElem?_cons_zero, Option.getD_some, if_pos rfl]
              omega
          | succ number =>
              rw [List.getElem?_cons_succ, if_neg (Nat.succ_ne_zero number)]
              have absent : item ∉ others.flatten := List.count_eq_zero.mp (by omega)
              refine List.count_eq_zero.mpr fun member => absent ?_
              cases found : others[number]? with
              | none =>
                  rw [found] at member
                  cases member
              | some later =>
                  rw [found] at member
                  exact List.mem_flatten.mpr ⟨later, List.mem_of_getElem? found, member⟩
      | false =>
          have none : part.count item = 0 :=
            List.count_eq_zero.mpr fun member => by
              rw [List.contains_iff_mem.mpr member] at here
              cases here
          rw [cond_false]
          cases number with
          | zero => simp [none]
          | succ number =>
              rw [List.getElem?_cons_succ, ih (by omega)]
              simp

theorem flatMap_positions {Result : Type} (items : List Item) (read : Item → List Result) :
    ((List.range items.length).flatMap fun i => (items[i]?).elim [] read) = items.flatMap read := by
  induction items using List.reverseRecOn with
  | nil => rfl
  | append_singleton items item ih =>
      rw [List.length_append, List.length_singleton, List.range_succ, List.flatMap_append,
        List.flatMap_append, ← ih, List.flatMap_singleton, List.flatMap_singleton]
      refine congrArg₂ (· ++ ·) (List.flatMap_congr fun i inside => ?_) ?_
      · rw [List.getElem?_append_left (List.mem_range.mp inside)]
      · rw [List.getElem?_append_right (Nat.le_refl _), Nat.sub_self]
        rfl

theorem flatten_positions (parts : List (List Item)) {bound : Nat} (fits : parts.length ≤ bound) :
    ((List.range bound).flatMap fun i => parts[i]?.getD []) = parts.flatten := by
  obtain ⟨more, rfl⟩ := Nat.exists_eq_add_of_le fits
  have whole := flatMap_positions parts id
  rw [List.flatMap_id] at whole
  rw [List.range_add, List.flatMap_append, ← whole]
  refine (congrArg₂ (· ++ ·) (List.flatMap_congr fun i _ => ?_) ?_).trans (List.append_nil _)
  · cases parts[i]? with
    | none => rfl
    | some part => rfl
  · refine List.flatMap_eq_nil_iff.mpr fun i inside => ?_
    obtain ⟨beyond, _, rfl⟩ := List.mem_map.mp inside
    rw [List.getElem?_eq_none (by omega)]
    rfl

theorem count_copies [BEq Item] [LawfulBEq Item] {items : List Item} (distinct : items.Nodup)
    (copies : Item → Nat) {item : Item} (member : item ∈ items) :
    (items.flatMap fun item => List.replicate (copies item) item).count item = copies item := by
  induction items with
  | nil => cases member
  | cons other others ih =>
      obtain ⟨absent, apart⟩ := List.nodup_cons.mp distinct
      rw [List.flatMap_cons, List.count_append, List.count_replicate]
      rcases List.mem_cons.mp member with rfl | later
      · have none : item ∉ others.flatMap fun item => List.replicate (copies item) item := by
          intro inside
          obtain ⟨other, listed, copy⟩ := List.mem_flatMap.mp inside
          rw [(List.mem_replicate.mp copy).2] at absent
          exact absent listed
        simp [List.count_eq_zero.mpr none]
      · have differ : other ≠ item := fun same => absent (same ▸ later)
        rw [ih apart later]
        simp [differ]

theorem copies_filter (items : List Item) (copies : Item → Nat) (chosen : Item → Bool)
    (single : ∀ item ∈ items, copies item = if chosen item then 1 else 0) :
    (items.flatMap fun item => List.replicate (copies item) item) = items.filter chosen := by
  induction items with
  | nil => rfl
  | cons item others ih =>
      rw [List.flatMap_cons, ih fun other inside => single other (List.mem_cons_of_mem _ inside),
        single item List.mem_cons_self, List.filter_cons]
      cases chosen item with
      | true => rfl
      | false => rfl

end Python

namespace Buckets

variable {Item : Type} (key : Item → Nat) (items : List Item)

/-- The items with the keys below a bound, one key after the other. -/
def read (bound : Nat) : List Item :=
  (List.range bound).flatMap fun number => items.filter fun item => decide (key item = number)

variable {key items}

theorem read_succ (bound : Nat) : read key items (bound + 1) =
    read key items bound ++ items.filter fun item => decide (key item = bound) := by
  rw [read, List.range_succ, List.flatMap_append, List.flatMap_singleton, read]

theorem mem_read {bound : Nat} {item : Item} (member : item ∈ read key items bound) :
    item ∈ items ∧ key item < bound := by
  obtain ⟨number, below, inside⟩ := List.mem_flatMap.mp member
  obtain ⟨listed, same⟩ := List.mem_filter.mp inside
  rw [decide_eq_true_eq] at same
  exact ⟨listed, same ▸ List.mem_range.mp below⟩

theorem read_sorted (bound : Nat) :
    (read key items bound).Pairwise fun left right => key left ≤ key right := by
  induction bound with
  | zero => exact List.Pairwise.nil
  | succ bound ih =>
      rw [read_succ]
      refine List.pairwise_append.mpr ⟨ih, ?_, fun left before right here => ?_⟩
      · refine List.Pairwise.imp_of_mem (fun {left right} inLeft inRight _ => ?_)
          (List.pairwise_of_forall (R := fun _ _ => True) fun _ _ => trivial)
        have first := (List.mem_filter.mp inLeft).2
        have second := (List.mem_filter.mp inRight).2
        rw [decide_eq_true_eq] at first second
        omega
      · have second := (List.mem_filter.mp here).2
        rw [decide_eq_true_eq] at second
        have first := (mem_read before).2
        omega

theorem read_of_sorted (sorted : items.Pairwise fun left right => key left ≤ key right)
    (bound : Nat) : read key items bound = items.filter fun item => decide (key item < bound) := by
  induction bound with
  | zero => simp [read]
  | succ bound ih =>
      rw [read_succ, ih]
      clear ih
      induction items with
      | nil => rfl
      | cons item others rest =>
          obtain ⟨least, sorted⟩ := List.pairwise_cons.mp sorted
          have tail := rest sorted
          by_cases below : key item < bound
          · have apart : key item ≠ bound := by omega
            have next : key item < bound + 1 := by omega
            simp only [List.filter_cons, below, apart, next, decide_true, decide_false, if_true,
              Bool.false_eq_true, if_false, List.cons_append, tail]
          · have none : others.filter (fun other => decide (key other < bound)) = [] := by
              refine List.filter_eq_nil_iff.mpr fun other member => ?_
              have after := least other member
              rw [decide_eq_true_eq]
              omega
            rw [none, List.nil_append] at tail
            by_cases here : key item = bound
            · rw [List.filter_cons_of_neg (by simpa using below),
                List.filter_cons_of_pos (by simpa using here),
                List.filter_cons_of_pos (by rw [decide_eq_true_eq]; omega), none, List.nil_append, tail]
            · have next : ¬ key item < bound + 1 := by omega
              simp only [List.filter_cons, below, here, next, decide_false, Bool.false_eq_true,
                if_false, none, List.nil_append, tail]

theorem read_eq_iff {bound : Nat} (below : ∀ item ∈ items, key item < bound) :
    read key items bound = items ↔ items.Pairwise fun left right => key left ≤ key right := by
  constructor
  · intro same
    rw [← same]
    exact read_sorted bound
  · intro sorted
    rw [read_of_sorted sorted]
    exact List.filter_eq_self.mpr fun item member => decide_eq_true (below item member)

end Buckets
