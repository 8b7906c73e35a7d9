import Mathlib.Logic.Function.Basic
import Mathlib.Data.List.Pairwise

/-!
Slots that are taken for a time.  Whoever finds a slot free takes it until a deadline; whoever
comes before the deadline is told how long is left, and changes nothing.
-/

namespace Cooldown

structure Call (Key : Type) where
  key : Key
  moment : Nat
  duration : Nat
  deriving DecidableEq, Repr

def Call.deadline {Key : Type} (call : Call Key) : Nat := call.moment + call.duration

abbrev Slots (Key : Type) := Key → Option Nat

section Answers

variable {Key : Type}

/-- How long the slot is still taken; none when the call takes it. -/
def answer (slots : Slots Key) (call : Call Key) : Option Nat :=
  (slots call.key).bind fun deadline =>
    if deadline < call.moment then none else some (deadline - call.moment)

theorem late_of_granted {slots : Slots Key} {call : Call Key} {deadline : Nat}
    (taken : slots call.key = some deadline) (granted : answer slots call = none) :
    deadline < call.moment := by
  rw [answer, taken, Option.bind_some] at granted
  split at granted
  · assumption
  · cases granted

variable [DecidableEq Key]

def take (slots : Slots Key) (call : Call Key) : Slots Key :=
  if (answer slots call).isNone then Function.update slots call.key (some call.deadline) else slots

/-- The calls one after the other, each with its answer. -/
def answers : Slots Key → List (Call Key) → List (Call Key × Option Nat)
  | _, [] => []
  | slots, call :: rest => (call, answer slots call) :: answers (take slots call) rest

variable {slots : Slots Key} {call : Call Key} {calls : List (Call Key)}

theorem take_granted (granted : answer slots call = none) :
    take slots call = Function.update slots call.key (some call.deadline) := by
  rw [take, if_pos (by rw [granted]; rfl)]

theorem take_refused {left : Nat} (refused : answer slots call = some left) :
    take slots call = slots := by
  rw [take, if_neg (by rw [refused]; simp)]

theorem granted_late {key : Key} {deadline : Nat} (taken : slots key = some deadline) :
    ∀ entry ∈ answers slots calls, entry.2 = none → entry.1.key = key →
      deadline < entry.1.moment := by
  induction calls generalizing slots deadline with
  | nil =>
      intro entry member
      cases member
  | cons call rest ih =>
      intro entry member granted same
      rcases List.mem_cons.mp member with rfl | later
      · exact late_of_granted (same ▸ taken) granted
      · cases answered : answer slots call with
        | some left =>
            rw [take_refused answered] at later
            exact ih taken entry later granted same
        | none =>
            rw [take_granted answered] at later
            by_cases here : call.key = key
            · subst here
              have own := late_of_granted taken answered
              have next := ih (Function.update_self _ _ _) entry later granted same
              rw [Call.deadline] at next
              omega
            · have kept : Function.update slots call.key (some call.deadline) key = some deadline := by
                rw [Function.update_of_ne (Ne.symm here), taken]
              exact ih kept entry later granted same

theorem grants_apart (slots : Slots Key) (calls : List (Call Key)) :
    (answers slots calls).Pairwise fun first second => first.2 = none → second.2 = none →
      first.1.key = second.1.key → first.1.deadline < second.1.moment := by
  induction calls generalizing slots with
  | nil => exact .nil
  | cons call rest ih =>
      refine List.pairwise_cons.mpr ⟨fun entry later first second same => ?_, ih _⟩
      rw [take_granted first] at later
      exact granted_late (Function.update_self _ _ _) entry later second same.symm

end Answers

end Cooldown
