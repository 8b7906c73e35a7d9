import Mathlib.Data.List.Nodup
import Mathlib.Data.List.Count

/-!
Relational tables with one unique key.  A table is a list of rows whose keys are
pairwise distinct; the statements below never break that, so a lookup by key has
at most one answer and every statement is described by what it does to lookups.
-/

namespace Relational

structure Table (Row Key : Type) (key : Row → Key) where
  rows : List Row
  unique : (rows.map key).Nodup

namespace Table

variable {Row Key : Type} {key : Row → Key}

@[ext] theorem ext_rows {left right : Table Row Key key} (same : left.rows = right.rows) :
    left = right := by
  cases left
  cases right
  simp only at same
  subst same
  rfl

def empty : Table Row Key key := ⟨[], List.nodup_nil⟩

@[simp] theorem rows_empty : (empty : Table Row Key key).rows = [] := rfl

instance : Inhabited (Table Row Key key) := ⟨empty⟩

def select (table : Table Row Key key) (wanted : Row → Bool) : List Row :=
  table.rows.filter wanted

def count (table : Table Row Key key) (wanted : Row → Bool) : Nat :=
  table.rows.countP wanted

theorem map_key_update (wanted : Row → Bool) (change : Row → Row)
    (keeps : ∀ row, key (change row) = key row) (rows : List Row) :
    (rows.map fun row => if wanted row then change row else row).map key = rows.map key := by
  rw [List.map_map]
  refine List.map_congr_left fun row _ => ?_
  simp only [Function.comp_apply]
  split
  · exact keeps row
  · rfl

/-- `UPDATE … SET change WHERE wanted`, for a change that leaves the key columns alone. -/
def update (table : Table Row Key key) (wanted : Row → Bool) (change : Row → Row)
    (keeps : ∀ row, key (change row) = key row) : Table Row Key key where
  rows := table.rows.map fun row => if wanted row then change row else row
  unique := by
    rw [map_key_update wanted change keeps]
    exact table.unique

theorem update_self (table : Table Row Key key) (wanted : Row → Bool) {change : Row → Row}
    (keeps : ∀ row, key (change row) = key row) (same : ∀ row, change row = row) :
    table.update wanted change keeps = table := by
  cases table
  simp [update, same]

def delete (table : Table Row Key key) (unwanted : Row → Bool) : Table Row Key key where
  rows := table.rows.filter fun row => !unwanted row
  unique := table.unique.sublist (List.filter_sublist.map key)

theorem row_unique (table : Table Row Key key) {left right : Row}
    (leftMember : left ∈ table.rows) (rightMember : right ∈ table.rows)
    (same : key left = key right) : left = right :=
  List.inj_on_of_nodup_map table.unique leftMember rightMember same

theorem count_update (table : Table Row Key key) (changed wanted : Row → Bool)
    (change : Row → Row) (keeps : ∀ row, key (change row) = key row)
    (blind : ∀ row, wanted (change row) = wanted row) :
    (table.update changed change keeps).count wanted = table.count wanted := by
  simp only [count, update, List.countP_map]
  refine congrArg (fun test => List.countP test table.rows) (funext fun row => ?_)
  simp only [Function.comp_apply]
  split
  · exact blind row
  · rfl

theorem count_le {left right : Table Row Key key} {wanted other : Row → Bool}
    (covered : ∀ row ∈ left.rows, wanted row = true →
      ∃ before ∈ right.rows, key before = key row ∧ other before = true) :
    left.count wanted ≤ right.count other := by
  have distinct : ((left.rows.filter wanted).map key).Nodup :=
    left.unique.sublist (List.filter_sublist.map key)
  have inside : (left.rows.filter wanted).map key ⊆ (right.rows.filter other).map key := by
    intro target member
    obtain ⟨row, listed, rfl⟩ := List.mem_map.mp member
    obtain ⟨stored, passed⟩ := List.mem_filter.mp listed
    obtain ⟨before, known, same, counts⟩ := covered row stored passed
    exact List.mem_map.mpr ⟨before, List.mem_filter.mpr ⟨known, counts⟩, same⟩
  have shorter := (List.subperm_of_subset distinct inside).length_le
  rw [List.length_map, List.length_map] at shorter
  rw [count, count, List.countP_eq_length_filter, List.countP_eq_length_filter]
  exact shorter

theorem count_delete_found (table : Table Row Key key) (unwanted wanted : Row → Bool)
    (row : Row) (member : row ∈ table.rows)
    (only : ∀ other ∈ table.rows, unwanted other = true ↔ other = row) :
    (table.delete unwanted).count wanted + (if wanted row then 1 else 0) =
      table.count wanted := by
  have nodupRows : table.rows.Nodup := List.Nodup.of_map key table.unique
  have split := List.countP_eq_countP_filter_add table.rows wanted unwanted
  have dropped : table.rows.filter unwanted = [row] := by
    refine List.perm_singleton.mp ((List.perm_ext_iff_of_nodup (nodupRows.filter _)
      (List.nodup_singleton row)).mpr fun other => ?_)
    rw [List.mem_filter, List.mem_singleton]
    constructor
    · rintro ⟨otherMember, matched⟩
      exact (only other otherMember).mp matched
    · rintro rfl
      exact ⟨member, (only other member).mpr rfl⟩
  rw [dropped, List.countP_singleton] at split
  simp only [count, delete]
  rw [split, Nat.add_comm]

theorem delete_absent (table : Table Row Key key) (unwanted : Row → Bool)
    (none : ∀ row ∈ table.rows, unwanted row = false) : table.delete unwanted = table := by
  refine ext_rows (List.filter_eq_self.mpr fun row member => ?_)
  simp [none row member]

variable [DecidableEq Key]

def find? (table : Table Row Key key) (wanted : Key) : Option Row :=
  table.rows.find? fun row => decide (key row = wanted)

theorem find?_some_iff (table : Table Row Key key) (wanted : Key) (row : Row) :
    table.find? wanted = some row ↔ row ∈ table.rows ∧ key row = wanted := by
  constructor
  · intro found
    have matched := List.find?_some found
    exact ⟨List.mem_of_find?_eq_some found, of_decide_eq_true matched⟩
  · rintro ⟨member, same⟩
    cases found : table.find? wanted with
    | none =>
        have absent := (List.find?_eq_none.mp found) row member
        simp [same] at absent
    | some other =>
        have otherMember := List.mem_of_find?_eq_some found
        have otherKey : key other = wanted :=
          of_decide_eq_true (List.find?_some (p := fun row => decide (key row = wanted)) found)
        rw [table.row_unique otherMember member (otherKey.trans same.symm)]

theorem find?_none_iff (table : Table Row Key key) (wanted : Key) :
    table.find? wanted = none ↔ ∀ row ∈ table.rows, key row ≠ wanted := by
  simp [find?, List.find?_eq_none]

theorem select_key (table : Table Row Key key) (target : Key) (wanted : Row → Bool)
    (only : ∀ row, wanted row = true → key row = target) :
    table.select wanted = ((table.find? target).filter wanted).toList := by
  obtain ⟨rows, unique⟩ := table
  simp only [select, find?]
  induction rows with
  | nil => rfl
  | cons row rest ih =>
      rw [List.map_cons, List.nodup_cons] at unique
      by_cases same : key row = target
      · have others : rest.filter wanted = [] := by
          refine List.filter_eq_nil_iff.mpr fun other member passed => unique.1 ?_
          rw [same, ← only other passed]
          exact List.mem_map_of_mem member
        rw [List.find?_cons_of_pos (by simpa using same), List.filter_cons, others, Option.filter_some]
        split
        · rfl
        · rfl
      · have unwanted : ¬wanted row = true := fun passed => same (only row passed)
        rw [List.find?_cons_of_neg (by simpa using same), List.filter_cons_of_neg unwanted]
        exact ih unique.2

theorem key_of_find? {table : Table Row Key key} {wanted : Key} {row : Row}
    (found : table.find? wanted = some row) : key row = wanted :=
  ((table.find?_some_iff wanted row).mp found).2

/-- `INSERT`; a row whose key is taken is refused and leaves the table as it is. -/
def insert (table : Table Row Key key) (row : Row) : Table Row Key key :=
  if taken : (table.find? (key row)).isSome then table
  else
    { rows := table.rows ++ [row]
      unique := by
        have absent : table.find? (key row) = none := by
          simpa using taken
        rw [List.map_append, List.map_singleton]
        refine List.nodup_append.mpr ⟨table.unique, List.nodup_singleton _, ?_⟩
        rintro _ leftMember _ rightMember
        obtain ⟨other, otherMember, rfl⟩ := List.mem_map.mp leftMember
        rw [List.mem_singleton.mp rightMember]
        exact (table.find?_none_iff (key row)).mp absent other otherMember }

@[simp] theorem find?_empty (wanted : Key) :
    (empty : Table Row Key key).find? wanted = none := rfl

theorem rows_insert (table : Table Row Key key) (row : Row)
    (absent : table.find? (key row) = none) :
    (table.insert row).rows = table.rows ++ [row] := by
  simp [insert, absent]

theorem insert_taken (table : Table Row Key key) (row : Row)
    (taken : (table.find? (key row)).isSome) : table.insert row = table := by
  simp [insert, taken]

@[simp] theorem find?_update (table : Table Row Key key) (wanted : Row → Bool)
    (change : Row → Row) (keeps : ∀ row, key (change row) = key row) (target : Key) :
    (table.update wanted change keeps).find? target =
      (table.find? target).map fun row => if wanted row then change row else row := by
  simp only [find?, update, List.find?_map]
  congr 1
  refine congrArg (fun test => List.find? test table.rows) (funext fun row => ?_)
  simp only [Function.comp_apply]
  split
  · rw [keeps]
  · rfl

theorem find?_delete (table : Table Row Key key) (unwanted : Row → Bool) (target : Key) :
    (table.delete unwanted).find? target =
      (table.find? target).filter fun row => !unwanted row := by
  cases found : table.find? target with
  | none =>
      rw [Option.filter_none, find?_none_iff]
      intro row member
      exact (table.find?_none_iff target).mp found row (List.mem_of_mem_filter member)
  | some row =>
      obtain ⟨member, same⟩ := (table.find?_some_iff target row).mp found
      cases dropped : unwanted row with
      | true =>
          simp only [Option.filter_some, dropped, Bool.not_true, Bool.false_eq_true, if_false]
          rw [find?_none_iff]
          intro other otherMember otherKey
          obtain ⟨otherRow, kept⟩ := List.mem_filter.mp otherMember
          rw [table.row_unique otherRow member (otherKey.trans same.symm)] at kept
          simp [dropped] at kept
      | false =>
          simp only [Option.filter_some, dropped, Bool.not_false, if_true]
          rw [find?_some_iff]
          exact ⟨List.mem_filter.mpr ⟨member, by simp [dropped]⟩, same⟩

theorem find?_insert (table : Table Row Key key) (row : Row) (target : Key) :
    (table.insert row).find? target =
      (table.find? target).or (if key row = target then some row else none) := by
  cases taken : table.find? (key row) with
  | some other =>
      rw [insert_taken table row (by simp [taken])]
      split
      · rename_i same
        rw [← same, taken]
        rfl
      · rw [Option.or_none]
  | none =>
      simp only [find?, rows_insert table row taken, List.find?_append, List.find?_singleton,
        decide_eq_true_eq]

theorem find?_insert_self (table : Table Row Key key) (row : Row)
    (absent : table.find? (key row) = none) : (table.insert row).find? (key row) = some row := by
  simp [find?_insert, absent]

theorem find?_insert_other (table : Table Row Key key) (row : Row) (target : Key)
    (other : key row ≠ target) : (table.insert row).find? target = table.find? target := by
  simp [find?_insert, other]

theorem find?_delete_other (table : Table Row Key key) (unwanted : Row → Bool) (target : Key)
    (kept : ∀ row, key row = target → unwanted row = false) :
    (table.delete unwanted).find? target = table.find? target := by
  rw [find?_delete]
  cases found : table.find? target with
  | none => rfl
  | some row => simp [kept row (key_of_find? found)]

theorem find?_update_other (table : Table Row Key key) (wanted : Row → Bool)
    (change : Row → Row) (keeps : ∀ row, key (change row) = key row) (target : Key)
    (kept : ∀ row, key row = target → wanted row = false) :
    (table.update wanted change keeps).find? target = table.find? target := by
  rw [find?_update]
  cases found : table.find? target with
  | none => rfl
  | some row => simp [kept row (key_of_find? found)]

theorem find?_foldl_insert (table : Table Row Key key) (rows : List Row) (target : Key) :
    (rows.foldl (fun table row => table.insert row) table).find? target =
      (table.find? target).or (rows.find? fun row => decide (key row = target)) := by
  induction rows generalizing table with
  | nil => rw [List.foldl_nil, List.find?_nil, Option.or_none]
  | cons row rows ih =>
      rw [List.foldl_cons, ih, find?_insert, Option.or_assoc]
      congr 1
      by_cases same : key row = target
      · simp [same]
      · simp [same]

theorem mem_rows_iff (table : Table Row Key key) (row : Row) :
    row ∈ table.rows ↔ table.find? (key row) = some row := by
  simp [find?_some_iff]

theorem mem_insert {table : Table Row Key key} {new row : Row} (member : row ∈ (table.insert new).rows) :
    row ∈ table.rows ∨ row = new := by
  rw [mem_rows_iff, find?_insert, Option.or_eq_some_iff] at member
  rcases member with old | ⟨_, inserted⟩
  · exact .inl ((mem_rows_iff _ _).mpr old)
  · exact .inr (Option.some.inj (Option.ite_none_right_eq_some.mp inserted).2).symm

theorem count_insert (table : Table Row Key key) (row : Row) (wanted : Row → Bool)
    (absent : table.find? (key row) = none) :
    (table.insert row).count wanted = table.count wanted + if wanted row then 1 else 0 := by
  rw [count, rows_insert table row absent, List.countP_append, List.countP_singleton]
  rfl

section Sequence

variable {numbered : Row → Nat}

def nextKey (table : Table Row Nat numbered) : Nat :=
  (table.rows.map numbered).foldl max 0 + 1

theorem le_foldl_max (keys : List Nat) (start : Nat) :
    start ≤ keys.foldl max start ∧ ∀ wanted ∈ keys, wanted ≤ keys.foldl max start := by
  induction keys generalizing start with
  | nil => exact ⟨Nat.le_refl _, fun _ member => nomatch member⟩
  | cons first rest ih =>
      obtain ⟨above, bounds⟩ := ih (max start first)
      refine ⟨?_, ?_⟩
      · rw [List.foldl_cons]
        omega
      · intro wanted member
        rw [List.foldl_cons]
        rcases List.mem_cons.mp member with rfl | later
        · omega
        · exact bounds wanted later

theorem find?_nextKey (table : Table Row Nat numbered) : table.find? table.nextKey = none := by
  rw [find?_none_iff]
  intro row member same
  have bound := (le_foldl_max (table.rows.map numbered) 0).2 (numbered row)
    (List.mem_map_of_mem member)
  rw [same, nextKey] at bound
  omega

end Sequence

end Table

section Columns

variable {Value : Type} [DecidableEq Value] {old new : Value}

/-- What a mapper writes of a column that was loaded as `old`. -/
def changed (old new : Value) : Option Value := if old = new then none else some new

theorem getD_changed (old new : Value) : (changed old new).getD old = new := by
  unfold changed
  split
  · assumption
  · rfl

theorem getD_unchanged (same : old = new) (current : Value) :
    (changed old new).getD current = current := by
  rw [changed, if_pos same]
  rfl

theorem getD_written (differ : old ≠ new) (current : Value) :
    (changed old new).getD current = new := by
  rw [changed, if_neg differ]
  rfl

end Columns

theorem nodup_eraseDups {Item : Type} [DecidableEq Item] (items : List Item) :
    items.eraseDups.Nodup := by
  induction size : items.length using Nat.strongRecOn generalizing items with
  | ind size ih =>
      cases items with
      | nil => exact List.nodup_nil
      | cons item others =>
          rw [List.eraseDups_cons]
          refine List.nodup_cons.mpr ⟨fun member => ?_, ?_⟩
          · have kept := (List.mem_filter.mp (List.mem_eraseDups.mp member)).2
            simp at kept
          · refine ih (others.filter fun other => !other == item).length ?_ _ rfl
            rw [← size, List.length_cons]
            have fewer := List.length_filter_le (fun other => !other == item) others
            omega

end Relational
