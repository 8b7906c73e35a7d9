import Mathlib.Algebra.GroupWithZero.Nat
import Mathlib.Algebra.Order.BigOperators.Group.List
import Mathlib.Algebra.Order.Group.Nat
import Messanger.Library.Processes

/-!
Sums over the tasks of a site.  Each task is at a stage of its program and weighs something there;
what the world counts is compared with the sum of the weights, action by action.
-/

namespace Processes

variable {World Label Tag Error Answer : Type}

theorem sum_zipWith_set {Left Right : Type} (weigh : Left → Right → Nat) (lefts : List Left)
    (rights : List Right) (index : Nat) {left : Left} {old : Right} (new : Right)
    (foundLeft : lefts[index]? = some left) (foundRight : rights[index]? = some old) :
    (lefts.zipWith weigh (rights.set index new)).sum + weigh left old =
      (lefts.zipWith weigh rights).sum + weigh left new := by
  induction lefts generalizing rights index with
  | nil => simp at foundLeft
  | cons first lefts ih =>
      cases rights with
      | nil => simp at foundRight
      | cons second rights =>
          cases index with
          | zero =>
              simp only [List.getElem?_cons_zero, Option.some.injEq] at foundLeft foundRight
              subst foundLeft foundRight
              simp only [List.set_cons_zero, List.zipWith_cons_cons, List.sum_cons]
              omega
          | succ index =>
              have rest := ih rights index foundLeft foundRight
              simp only [List.set_cons_succ, List.zipWith_cons_cons, List.sum_cons]
              omega

theorem sum_zipWith_le {Left Right : Type} {light heavy : Left → Right → Nat}
    (below : ∀ left right, light left right ≤ heavy left right) (lefts : List Left)
    (rights : List Right) : (lefts.zipWith light rights).sum ≤ (lefts.zipWith heavy rights).sum := by
  induction lefts generalizing rights with
  | nil => exact Nat.le_refl _
  | cons left lefts ih =>
      cases rights with
      | nil => exact Nat.le_refl _
      | cons right rights =>
          simp only [List.zipWith_cons_cons, List.sum_cons]
          exact Nat.add_le_add (below left right) (ih rights)

theorem le_sum_zipWith {Left Right : Type} (weigh : Left → Right → Nat) {lefts : List Left}
    {rights : List Right} {index : Nat} {left : Left} {right : Right}
    (foundLeft : lefts[index]? = some left) (foundRight : rights[index]? = some right) :
    weigh left right ≤ (lefts.zipWith weigh rights).sum := by
  refine List.le_sum_of_mem (List.mem_of_getElem? (i := index) ?_)
  rw [List.getElem?_zipWith, foundLeft, foundRight]

abbrev Weight (World Label Tag Error Answer : Type) :=
  Tag → Process World Label Error Answer → Nat

namespace Site

variable (weigh : Weight World Label Tag Error Answer) (site : Site World Label Tag Error Answer)

def total : Nat :=
  (site.opened.zipWith (fun (task : Opened Tag) rest => weigh task.tag rest) site.rests).sum

variable {weigh} {site} {other : Weight World Label Tag Error Answer}

theorem total_opening (length : site.rests.length = site.opened.length) (tag : Tag)
    (program : Process World Label Error Answer) :
    Site.total weigh ⟨site.toScene.opening tag, site.rests ++ [program]⟩ =
      site.total weigh + weigh tag program := by
  rw [total, Scene.opening, List.zipWith_append length.symm, List.sum_append]
  simp [total]

theorem total_after {index : Nat} {task : Opened Tag} {old : Process World Label Error Answer}
    (found : site.opened[index]? = some task) (left : site.rests[index]? = some old) (label : Label)
    (effect : World → World) (outcome : Option (Except Error Answer))
    (new : Process World Label Error Answer) :
    Site.total weigh ⟨site.toScene.after index task.tag label effect outcome,
        site.rests.set index new⟩ + weigh task.tag old =
      site.total weigh + weigh task.tag new :=
  sum_zipWith_set (fun (task : Opened Tag) rest => weigh task.tag rest) site.opened site.rests index
    new found left

theorem weight_le_total {index : Nat} {task : Opened Tag}
    {rest : Process World Label Error Answer} (found : site.opened[index]? = some task)
    (left : site.rests[index]? = some rest) : weigh task.tag rest ≤ site.total weigh :=
  le_sum_zipWith (fun (task : Opened Tag) rest => weigh task.tag rest) found left

theorem total_le (light : ∀ tag rest, weigh tag rest ≤ other tag rest) :
    site.total weigh ≤ site.total other :=
  sum_zipWith_le (fun (task : Opened Tag) rest => light task.tag rest) site.opened site.rests

theorem total_congr (same : ∀ (index : Nat) (task : Opened Tag) rest, site.opened[index]? = some task →
    site.rests[index]? = some rest → weigh task.tag rest = other task.tag rest) :
    site.total weigh = site.total other := by
  refine congrArg List.sum (List.ext_getElem? fun index => ?_)
  rw [List.getElem?_zipWith, List.getElem?_zipWith]
  cases found : site.opened[index]? with
  | none => rfl
  | some task =>
      cases left : site.rests[index]? with
      | none => rfl
      | some rest => exact congrArg some (same index task rest found left)

end Site

structure Staged (Stage : Tag → Process World Label Error Answer → Prop)
    (site : Site World Label Tag Error Answer) : Prop where
  length : site.rests.length = site.opened.length
  stage : ∀ (index : Nat) (task : Opened Tag) rest, site.opened[index]? = some task →
    site.rests[index]? = some rest → Stage task.tag rest

section Stages

variable {program : Tag → Process World Label Error Answer}
  {terms : Terms World Label Tag Error Answer} {initial final : Site World Label Tag Error Answer}
  {Stage : Tag → Process World Label Error Answer → Prop}
  {Holds : Site World Label Tag Error Answer → Prop}

theorem Runs.staged (run : Runs program terms initial final) (begun : Staged Stage initial)
    (holds : Holds initial)
    (opens : ∀ site tag, Staged Stage site → Holds site → Stage tag (program tag) ∧
      Holds ⟨site.toScene.opening tag, site.rests ++ [program tag]⟩)
    (acts : ∀ site (index : Nat) (task : Opened Tag) label effect next, Staged Stage site → Holds site →
      site.opened[index]? = some task → site.rests[index]? = some (.act label effect next) →
      Stage task.tag (.act label effect next) → terms.Acts site.toScene index task.tag label effect →
      Stage task.tag (next site.world) ∧
        Holds ⟨site.toScene.after index task.tag label effect (next site.world).outcome?,
          site.rests.set index (next site.world)⟩) :
    Staged Stage final ∧ Holds final := by
  induction run with
  | refl => exact ⟨begun, holds⟩
  | @step site next move _ allowed stepped ih =>
      obtain ⟨staged, holds⟩ := ih
      cases move with
      | start tag =>
          cases stepped
          obtain ⟨first, kept⟩ := opens site tag staged holds
          refine ⟨⟨?_, fun index task rest found left => ?_⟩, kept⟩
          · simp only [Scene.opening, List.length_append, List.length_singleton, staged.length]
          · rcases Scene.getElem?_opening found with old | ⟨rfl, rfl⟩
            · rw [List.getElem?_append_left (by
                rw [staged.length]
                exact (List.getElem?_eq_some_iff.mp old).1)] at left
              exact staged.stage index task rest old left
            · rw [← staged.length, List.getElem?_concat_length] at left
              cases left
              exact first
      | exec index =>
          rw [Site.step] at stepped
          split at stepped
          · rename_i task label effect rest found left
            cases stepped
            obtain ⟨stage, kept⟩ := acts site index task label effect rest staged holds found left
              (staged.stage index task _ found left) (allowed task label effect rest found left)
            refine ⟨⟨(List.length_set).trans staged.length, fun other others after found' left' => ?_⟩,
              kept⟩
            by_cases same : other = index
            · subst same
              rw [List.getElem?_set_self (List.getElem?_eq_some_iff.mp left).1] at left'
              cases left'
              cases Option.some.inj (found'.symm.trans found)
              exact stage
            · rw [List.getElem?_set_ne (Ne.symm same)] at left'
              exact staged.stage other others after found' left'
          · cases stepped

end Stages

end Processes
