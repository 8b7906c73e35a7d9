import Messanger.Library.Table
import Mathlib.Data.List.Sort

/-!
Coalescing queues: a hash with one payload per field and a set of due times.  A newer payload
replaces the one that waits; the field keeps its first due time.  A claim takes the fields that
are due, with their payloads, out of both.
-/

namespace Relational

structure Queue (Field Payload : Type) where
  pending : Table (Field × Payload) Field Prod.fst := .empty
  due : Table (Field × Nat) Field Prod.fst := .empty

namespace Queue

variable {Field Payload : Type} [DecidableEq Field]

def payload? (queue : Queue Field Payload) (field : Field) : Option Payload :=
  (queue.pending.find? field).map Prod.snd

def isDue (queue : Queue Field Payload) (field : Field) : Bool := (queue.due.find? field).isSome

/-- `HSET pending field payload` and `ZADD due NX deadline field`. -/
def put (queue : Queue Field Payload) (field : Field) (payload : Payload) (deadline : Nat) :
    Queue Field Payload where
  pending := (queue.pending.delete fun row => decide (row.1 = field)).insert (field, payload)
  due := queue.due.insert (field, deadline)

/-- `ZREM due field` and `HDEL pending field`. -/
def drop (queue : Queue Field Payload) (field : Field) : Queue Field Payload where
  pending := queue.pending.delete fun row => decide (row.1 = field)
  due := queue.due.delete fun entry => decide (entry.1 = field)

/-- `ZRANGEBYSCORE due -inf now LIMIT 0 limit`; `before` orders the fields of one due time. -/
def dueFields (queue : Queue Field Payload) (before : Field → Field → Bool) (now limit : Nat) :
    List Field :=
  (((queue.due.select fun entry => decide (entry.2 ≤ now)).insertionSort fun left right =>
    left.2 < right.2 ∨ (left.2 = right.2 ∧ before left.1 right.1 = true)).take limit).map Prod.fst

def claim : List Field → Queue Field Payload → List (Field × Payload) × Queue Field Payload
  | [], queue => ([], queue)
  | field :: fields, queue =>
      let claimed := claim fields (queue.drop field)
      match queue.payload? field with
      | some payload => ((field, payload) :: claimed.1, claimed.2)
      | none => claimed

def claimDue (queue : Queue Field Payload) (before : Field → Field → Bool) (now limit : Nat) :
    List (Field × Payload) × Queue Field Payload :=
  claim (queue.dueFields before now limit) queue

section Lookups

variable (queue : Queue Field Payload) (field target : Field) (payload : Payload) (deadline : Nat)

theorem find?_dropped :
    (queue.pending.delete fun row => decide (row.1 = field)).find? target =
      if field = target then none else queue.pending.find? target := by
  rw [Table.find?_delete]
  cases found : queue.pending.find? target with
  | none => split <;> rfl
  | some row =>
      obtain ⟨own, waiting⟩ := row
      have key : own = target := Table.key_of_find? found
      subst key
      by_cases same : own = field
      · simp [same, Option.filter]
      · have other : ¬ field = own := fun equal => same equal.symm
        simp [same, other, Option.filter]

theorem payload?_put :
    (queue.put field payload deadline).payload? target =
      if field = target then some payload else queue.payload? target := by
  rw [payload?, put, Table.find?_insert, find?_dropped]
  by_cases same : field = target
  · simp [same]
  · simp [same, payload?]

theorem payload?_drop :
    (queue.drop field).payload? target = if field = target then none else queue.payload? target := by
  rw [payload?, drop, find?_dropped]
  split
  · rfl
  · rfl

theorem isDue_put :
    (queue.put field payload deadline).isDue target = (queue.isDue target || decide (field = target)) := by
  simp only [isDue, put, Table.find?_insert, Option.isSome_or]
  by_cases same : field = target
  · simp [same]
  · simp [same]

theorem isDue_drop (other : field ≠ target) : (queue.drop field).isDue target = queue.isDue target := by
  rw [isDue, drop, Table.find?_delete_other, ← isDue]
  intro row same
  simpa [same] using fun equal : target = field => other equal.symm

end Lookups

section Claims

variable {queue : Queue Field Payload} {fields : List Field} {target : Field}

theorem payload?_claim :
    (claim fields queue).2.payload? target =
      if target ∈ fields then none else queue.payload? target := by
  induction fields generalizing queue with
  | nil => simp [claim]
  | cons field fields ih =>
      have tail : (claim fields (queue.drop field)).2.payload? target =
          if target ∈ field :: fields then none else queue.payload? target := by
        rw [ih, payload?_drop]
        by_cases same : field = target
        · simp [same]
        · have other : ¬ target = field := fun equal => same equal.symm
          simp [same, other]
      simp only [claim]
      split
      · exact tail
      · exact tail

theorem mem_claim {payload : Payload} :
    (target, payload) ∈ (claim fields queue).1 ↔
      target ∈ fields ∧ queue.payload? target = some payload := by
  induction fields generalizing queue with
  | nil => simp [claim]
  | cons field fields ih =>
      have tail : (target, payload) ∈ (claim fields (queue.drop field)).1 ↔
          target ≠ field ∧ target ∈ fields ∧ queue.payload? target = some payload := by
        rw [ih, payload?_drop]
        by_cases same : field = target
        · simp [same]
        · have other : ¬ target = field := fun equal => same equal.symm
          simp [same, other]
      have head : ∀ {found : Option Payload}, queue.payload? field = found → target = field →
          queue.payload? target = found := fun given same => same ▸ given
      simp only [claim]
      split
      · rename_i found waiting
        rw [List.mem_cons, tail, List.mem_cons, Prod.mk.injEq]
        by_cases same : target = field
        · rw [head waiting same]
          simp [same, eq_comm]
        · simp [same]
      · rename_i absent
        rw [tail, List.mem_cons]
        by_cases same : target = field
        · rw [head absent same]
          simp
        · simp [same]

theorem claim_nodup : ((claim fields queue).1.map Prod.fst).Nodup := by
  induction fields generalizing queue with
  | nil => simp [claim]
  | cons field fields ih =>
      simp only [claim]
      split
      · rw [List.map_cons, List.nodup_cons]
        refine ⟨fun again => ?_, ih⟩
        obtain ⟨⟨_, payload⟩, member, rfl⟩ := List.mem_map.mp again
        have waiting := (mem_claim.mp member).2
        simp [payload?_drop] at waiting
      · exact ih

end Claims

def Backed (queue : Queue Field Payload) : Prop :=
  ∀ field, (queue.payload? field).isSome → queue.isDue field = true

theorem backed_empty : (({} : Queue Field Payload)).Backed := fun _ waits => nomatch waits

theorem Backed.put {queue : Queue Field Payload} (backed : queue.Backed) (field : Field)
    (payload : Payload) (deadline : Nat) : (queue.put field payload deadline).Backed := by
  intro target waits
  rw [isDue_put]
  rw [payload?_put] at waits
  by_cases same : field = target
  · simp [same]
  · rw [if_neg same] at waits
    simp [backed target waits]

theorem Backed.drop {queue : Queue Field Payload} (backed : queue.Backed) (field : Field) :
    (queue.drop field).Backed := by
  intro target waits
  rw [payload?_drop] at waits
  by_cases same : field = target
  · simp [same] at waits
  · rw [if_neg same] at waits
    rw [isDue_drop queue field target same]
    exact backed target waits

theorem Backed.claim {queue : Queue Field Payload} (backed : queue.Backed) (fields : List Field) :
    (Queue.claim fields queue).2.Backed := by
  induction fields generalizing queue with
  | nil => exact backed
  | cons field fields ih =>
      simp only [Queue.claim]
      split
      · exact ih (backed.drop field)
      · exact ih (backed.drop field)

theorem Backed.payload?_none {queue : Queue Field Payload} (backed : queue.Backed)
    (empty : queue.due.rows = []) (field : Field) : queue.payload? field = none := by
  cases waiting : queue.payload? field with
  | none => rfl
  | some payload =>
      have due := backed field (by rw [waiting]; rfl)
      simp [isDue, Table.find?, empty] at due

end Queue

end Relational
