import Mathlib.Data.List.Sort
import Mathlib.Data.List.TakeWhile

/-!
The first few of a list after a stable sort by a key.
-/

namespace Ranking

variable {Item : Type} (key : Item → Nat)

/-- `sorted(items, key=key)[:count]`. -/
def firstBy (count : Nat) (items : List Item) : List Item :=
  (items.insertionSort fun left right => key left ≤ key right).take count

def ahead [DecidableEq Item] (items : List Item) (item : Item) : Nat :=
  items.countP (fun other => key other < key item) +
    (items.takeWhile (· ≠ item)).countP (fun other => key other = key item)

variable {key} {items : List Item} {item other : Item} {count : Nat}

theorem length_firstBy (key : Item → Nat) (items : List Item) (count : Nat) :
    (firstBy key count items).length = min count items.length := by
  rw [firstBy, List.length_take, List.length_insertionSort]

theorem mem_of_firstBy (member : item ∈ firstBy key count items) : item ∈ items :=
  (List.mem_insertionSort _).mp (List.mem_of_mem_take member)

theorem nodup_insertionSort (key : Item → Nat) (once : items.Nodup) :
    (items.insertionSort fun left right => key left ≤ key right).Nodup :=
  (List.perm_insertionSort _ items).nodup_iff.mpr once

theorem nodup_firstBy (once : items.Nodup) : (firstBy key count items).Nodup :=
  (nodup_insertionSort key once).sublist (List.take_sublist _ _)

theorem mem_of_pair_sublist {before after : List Item} (once : (before ++ item :: after).Nodup)
    (pair : [other, item].Sublist (before ++ item :: after)) : other ∈ before := by
  have absent : item ∉ after := (List.nodup_cons.mp (List.nodup_append.mp once).2.1).1
  obtain ⟨left, right, split, inBefore, inAfter⟩ := List.sublist_append_iff.mp pair
  cases left with
  | nil =>
      rw [List.nil_append] at split
      subst split
      cases inAfter with
      | cons _ later => exact absurd (later.subset (by simp)) absent
      | cons_cons _ later => exact absurd (later.subset (by simp)) absent
  | cons first rest =>
      rw [List.cons_append, List.cons.injEq] at split
      rw [split.1]
      exact inBefore.subset List.mem_cons_self

variable [DecidableEq Item]

theorem pair_sublist_of_takeWhile (member : item ∈ items)
    (first : other ∈ items.takeWhile (· ≠ item)) : [other, item].Sublist items := by
  rw [← List.takeWhile_append_dropWhile (p := (· ≠ item)) (l := items)] at member
  have later : item ∈ items.dropWhile (· ≠ item) := by
    rcases List.mem_append.mp member with early | late
    · exact absurd (List.mem_takeWhile_imp early) (by simp)
    · exact late
  have joined := (List.singleton_sublist.mpr first).append (List.singleton_sublist.mpr later)
  rwa [List.takeWhile_append_dropWhile] at joined

theorem not_mem_firstBy (once : items.Nodup) (behind : count ≤ ahead key items item) :
    item ∉ firstBy key count items := by
  intro chosen
  have member := mem_of_firstBy chosen
  obtain ⟨before, after, split⟩ := List.append_of_mem chosen
  have short : before.length < count := by
    have bound := length_firstBy key items count
    rw [split, List.length_append, List.length_cons] at bound
    omega
  have sorted : items.insertionSort (fun left right => key left ≤ key right) =
      before ++ item :: (after ++
        (items.insertionSort fun left right => key left ≤ key right).drop count) := by
    have whole := List.take_append_drop count
      (items.insertionSort fun left right => key left ≤ key right)
    rw [← firstBy, split, List.append_assoc, List.cons_append] at whole
    exact whole.symm
  have onceSorted := nodup_insertionSort key once
  have ordered := List.pairwise_insertionSort (fun left right => key left ≤ key right) items
  rw [sorted] at onceSorted ordered
  have smaller : ∀ other ∈ items.filter (fun other => key other < key item), other ∈ before := by
    intro other found
    obtain ⟨inItems, less⟩ := List.mem_filter.mp found
    rw [← List.mem_insertionSort (fun left right => key left ≤ key right), sorted] at inItems
    rcases List.mem_append.mp inItems with early | late
    · exact early
    · rcases List.mem_cons.mp late with rfl | later
      · simp at less
      · have order := (List.pairwise_cons.mp (List.pairwise_append.mp ordered).2.1).1 other later
        simp only [decide_eq_true_eq] at less
        omega
  have equal : ∀ other ∈ (items.takeWhile (· ≠ item)).filter (fun other => key other = key item),
      other ∈ before := by
    intro other found
    obtain ⟨first, same⟩ := List.mem_filter.mp found
    have pair := List.pair_sublist_insertionSort (r := fun left right => key left ≤ key right)
      (Nat.le_of_eq (of_decide_eq_true same)) (pair_sublist_of_takeWhile member first)
    rw [sorted] at pair
    exact mem_of_pair_sublist onceSorted pair
  have distinct : (items.filter (fun other => key other < key item) ++
      (items.takeWhile (· ≠ item)).filter (fun other => key other = key item)).Nodup := by
    rw [List.nodup_append]
    refine ⟨once.filter _, (once.sublist (List.takeWhile_sublist _)).filter _, ?_⟩
    intro left leftIn right rightIn same
    have less := of_decide_eq_true (List.mem_filter.mp leftIn).2
    have equals := of_decide_eq_true (List.mem_filter.mp rightIn).2
    rw [same] at less
    omega
  have fits := (List.subperm_of_subset distinct fun other found => by
    rcases List.mem_append.mp found with less | same
    · exact smaller other less
    · exact equal other same).length_le
  rw [List.length_append, ← List.countP_eq_length_filter, ← List.countP_eq_length_filter] at fits
  rw [ahead] at behind
  omega

end Ranking
