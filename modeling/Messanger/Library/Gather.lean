import Mathlib.Data.List.Nodup
import Mathlib.Logic.Function.Basic
import Mathlib.Logic.Function.Iterate

/-!
A loop that runs ready callbacks first-in first-out, and jobs that run together: each job starts
its batches of children one after the other and waits until all children of a batch have ended.
The jobs go in lockstep: the children run batch by batch, in the order of the jobs within a batch.
-/

namespace Gather

/-- What waits in the ready queue: a job that goes on, a child that runs, the callback of a child
that has ended, the callback of a job that has ended, and the one who waits for all the jobs. -/
inductive Handle (Item : Type) where
  | job (id : Nat)
  | child (id : Nat) (item : Item)
  | childDone (id : Nat)
  | jobDone
  | finish

/-- `rest` are the batches a job has not started, `waiting` the children it waits for. -/
structure Loop (Item : Type) where
  ready : List (Handle Item)
  rest : Nat → List (List Item)
  waiting : Nat → Nat := fun _ => 0
  unfinished : Nat
  log : List (Nat × Item) := []
  finished : Bool := false

variable {Item : Type}

namespace Loop

def start (jobs : List (List (List Item))) : Loop Item where
  ready := (List.range jobs.length).map .job
  rest := fun id => jobs[id]?.getD []
  unfinished := jobs.length

/-- The callback at the head of the queue runs. -/
def step (loop : Loop Item) : Loop Item :=
  match loop.ready with
  | [] => loop
  | .job id :: ready =>
      match loop.rest id with
      | [] => { loop with ready := ready ++ [.jobDone] }
      | batch :: later =>
          { loop with
            ready := ready ++ batch.map (.child id)
            rest := Function.update loop.rest id later
            waiting := Function.update loop.waiting id batch.length }
  | .child id item :: ready =>
      { loop with ready := ready ++ [.childDone id], log := loop.log ++ [(id, item)] }
  | .childDone id :: ready =>
      let left := loop.waiting id - 1
      { loop with
        ready := if left = 0 then ready ++ [.job id] else ready
        waiting := Function.update loop.waiting id left }
  | .jobDone :: ready =>
      let left := loop.unfinished - 1
      { loop with
        ready := if left = 0 then ready ++ [.finish] else ready
        unfinished := left }
  | .finish :: ready => { loop with ready := ready, finished := true }

def after (count : Nat) (loop : Loop Item) : Loop Item := step^[count] loop

end Loop

inductive Steps : Loop Item → Loop Item → Prop
  | refl (loop : Loop Item) : Steps loop loop
  | next {loop later : Loop Item} {handle : Handle Item} {ready : List (Handle Item)} :
      loop.ready = handle :: ready → handle ≠ .finish → Steps loop.step later → Steps loop later

variable {loop later : Loop Item}

theorem Steps.trans {last : Loop Item} (first : Steps loop later) (second : Steps later last) :
    Steps loop last := by
  induction first with
  | refl => exact second
  | next head other _ ih => exact .next head other (ih second)

theorem Steps.finished (steps : Steps loop later) : later.finished = loop.finished := by
  induction steps with
  | refl => rfl
  | @next loop later handle ready head other _ ih =>
      rw [ih, Loop.step, head]
      cases handle with
      | finish => exact absurd rfl other
      | job id =>
          dsimp only
          split
          · rfl
          · rfl
      | child id item => rfl
      | childDone id => rfl
      | jobDone => rfl

theorem Steps.before (steps : Steps loop later) (idle : loop.finished = false) (count : Nat) :
    (loop.after count).finished = false ∨ ∃ more, loop.after count = later.after more := by
  induction steps generalizing count with
  | refl loop => exact .inr ⟨count, rfl⟩
  | @next loop later handle ready head other steps ih =>
      cases count with
      | zero => exact .inl idle
      | succ count =>
          have onwards := (Steps.next head other (.refl _) : Steps loop loop.step).finished
          have shifted : loop.after (count + 1) = loop.step.after count :=
            Function.iterate_succ_apply _ _ _
          rw [shifted]
          exact ih (onwards.trans idle) count

theorem Steps.count (steps : Steps loop later) : ∃ count, loop.after count = later := by
  induction steps with
  | refl => exact ⟨0, rfl⟩
  | next _ _ _ ih =>
      obtain ⟨count, reached⟩ := ih
      exact ⟨count + 1, (Function.iterate_succ_apply _ _ _).trans reached⟩

section Phases

def launch (rest : Nat → List (List Item)) (id : Nat) : List (Handle Item) :=
  match rest id with
  | [] => [.jobDone]
  | batch :: _ => batch.map (.child id)

theorem step_job {id : Nat} {ready : List (Handle Item)} (head : loop.ready = .job id :: ready) :
    loop.step.ready = ready ++ launch loop.rest id ∧
      (∀ other, loop.step.rest other =
        if other = id then (loop.rest id).tail else loop.rest other) ∧
      (∀ other, loop.step.waiting other = if other = id ∧ loop.rest id ≠ [] then
        ((loop.rest id).head?.getD []).length else loop.waiting other) ∧
      loop.step.unfinished = loop.unfinished ∧ loop.step.log = loop.log := by
  cases batches : loop.rest id with
  | nil =>
      simp only [Loop.step, head, batches, launch, List.tail_nil, ne_eq, not_true_eq_false,
        and_false, if_false, and_true, true_and, implies_true]
      intro other
      split
      · rename_i same
        rw [same, batches]
      · rfl
  | cons batch later =>
      simp [Loop.step, head, batches, launch, Function.update_apply]

theorem steps_jobs (ids : List Nat) (distinct : ids.Nodup) : ∀ (loop : Loop Item)
    (queue : List (Handle Item)), loop.ready = ids.map .job ++ queue →
      ∃ later, Steps loop later ∧ later.ready = queue ++ ids.flatMap (launch loop.rest) ∧
        (∀ id, later.rest id = if id ∈ ids then (loop.rest id).tail else loop.rest id) ∧
        (∀ id, later.waiting id = if id ∈ ids ∧ loop.rest id ≠ [] then
          ((loop.rest id).head?.getD []).length else loop.waiting id) ∧
        later.unfinished = loop.unfinished ∧ later.log = loop.log := by
  induction ids with
  | nil =>
      intro loop queue ready
      exact ⟨loop, .refl loop, by simpa using ready, by simp, by simp, rfl, rfl⟩
  | cons id others ih =>
      intro loop queue ready
      obtain ⟨absent, apart⟩ := List.nodup_cons.mp distinct
      have head : loop.ready = .job id :: (others.map .job ++ queue) := ready
      obtain ⟨queued, rest, waiting, unfinished, log⟩ := step_job head
      obtain ⟨later, steps, front, left, waits, same, kept⟩ := ih apart loop.step
        (queue ++ launch loop.rest id) (by rw [queued, List.append_assoc])
      have other : ∀ next ∈ others, next ≠ id := fun next member same => absent (same ▸ member)
      refine ⟨later, .next head nofun steps, ?_, fun next => ?_, fun next => ?_,
        same.trans unfinished, kept.trans log⟩
      · rw [front, List.flatMap_cons, List.append_assoc]
        refine congrArg (fun spawned => queue ++ (launch loop.rest id ++ spawned)) ?_
        refine List.flatMap_congr fun next member => ?_
        rw [launch, launch, rest, if_neg (other next member)]
      · simp only [left, rest, List.mem_cons]
        by_cases here : next = id
        · subst here
          simp [absent]
        · simp [here]
      · simp only [waits, waiting, rest, List.mem_cons]
        by_cases here : next = id
        · subst here
          simp [absent]
        · simp [here]

def Handle.Runs : Handle Item → Prop
  | .child _ _ => True
  | .jobDone => True
  | _ => False

def Handle.ran : Handle Item → Option (Nat × Item)
  | .child id item => some (id, item)
  | _ => none

def Handle.callback : Handle Item → Option (Handle Item)
  | .child id _ => some (.childDone id)
  | _ => none

def Handle.isDone : Handle Item → Bool
  | .jobDone => true
  | _ => false

theorem steps_children (handles : List (Handle Item)) (runs : ∀ handle ∈ handles, handle.Runs) :
    ∀ (loop : Loop Item) (queue : List (Handle Item)), loop.ready = handles ++ queue →
      handles.countP Handle.isDone < loop.unfinished →
      ∃ later, Steps loop later ∧ later.ready = queue ++ handles.filterMap Handle.callback ∧
        later.rest = loop.rest ∧ later.waiting = loop.waiting ∧
        later.unfinished = loop.unfinished - handles.countP Handle.isDone ∧
        later.log = loop.log ++ handles.filterMap Handle.ran := by
  induction handles with
  | nil =>
      intro loop queue ready _
      exact ⟨loop, .refl loop, by simpa using ready, rfl, rfl, rfl, by simp⟩
  | cons handle others ih =>
      intro loop queue ready fewer
      have onwards := ih fun next member => runs next (List.mem_cons_of_mem _ member)
      cases handle with
      | job id => exact (runs _ List.mem_cons_self).elim
      | childDone id => exact (runs _ List.mem_cons_self).elim
      | finish => exact (runs _ List.mem_cons_self).elim
      | child id item =>
          have head : loop.ready = .child id item :: (others ++ queue) := ready
          have moved : loop.step = { loop with
              ready := others ++ queue ++ [Handle.childDone id]
              log := loop.log ++ [(id, item)] } := by
            rw [Loop.step, head]
          obtain ⟨later, steps, front, rest, waiting, unfinished, log⟩ := onwards loop.step
            (queue ++ [Handle.childDone id]) (by rw [moved, List.append_assoc])
            (by rw [moved]; simpa [Handle.isDone] using fewer)
          rw [moved] at rest waiting unfinished log
          refine ⟨later, .next head nofun steps, ?_, rest, waiting, ?_, ?_⟩
          · simpa [Handle.callback] using front
          · simpa [Handle.isDone] using unfinished
          · simpa [Handle.ran] using log
      | jobDone =>
          have head : loop.ready = .jobDone :: (others ++ queue) := ready
          rw [List.countP_cons_of_pos rfl] at fewer ⊢
          rw [List.filterMap_cons_none rfl, List.filterMap_cons_none rfl]
          have moved : loop.step = { loop with
              ready := others ++ queue, unfinished := loop.unfinished - 1 } := by
            rw [Loop.step, head]
            simp only [if_neg (by omega : loop.unfinished - 1 ≠ 0)]
          obtain ⟨later, steps, front, rest, waiting, unfinished, log⟩ := onwards loop.step queue
            (by rw [moved]) (by rw [moved]; dsimp only; omega)
          rw [moved] at rest waiting unfinished log
          refine ⟨later, .next head nofun steps, front, rest, waiting, ?_, log⟩
          rw [unfinished]
          dsimp only
          omega

theorem steps_callbacks (id : Nat) : ∀ (children : Nat) (loop : Loop Item)
    (queue : List (Handle Item)), 0 < children →
      loop.ready = List.replicate children (Handle.childDone id) ++ queue →
        loop.waiting id = children →
      ∃ later, Steps loop later ∧ later.ready = queue ++ [Handle.job id] ∧ later.rest = loop.rest ∧
        (∀ other, other ≠ id → later.waiting other = loop.waiting other) ∧
        later.unfinished = loop.unfinished ∧ later.log = loop.log := by
  intro children
  induction children with
  | zero => exact fun _ _ positive => absurd positive (Nat.lt_irrefl 0)
  | succ children ih =>
      intro loop queue _ ready waits
      have head : loop.ready =
          .childDone id :: (List.replicate children (Handle.childDone id) ++ queue) :=
        ready
      by_cases last : children = 0
      · subst last
        have moved : loop.step = { loop with
            ready := queue ++ [Handle.job id], waiting := Function.update loop.waiting id 0 } := by
          rw [Loop.step, head]
          simp [waits]
        refine ⟨loop.step, .next head nofun (.refl _), ?_⟩
        rw [moved]
        exact ⟨rfl, rfl, fun other apart => Function.update_of_ne apart _ _, rfl, rfl⟩
      · have moved : loop.step = { loop with
            ready := List.replicate children (Handle.childDone id) ++ queue
            waiting := Function.update loop.waiting id children } := by
          rw [Loop.step, head]
          simp [waits, last]
        obtain ⟨later, steps, front, rest, waiting, unfinished, log⟩ := ih loop.step queue
          (Nat.pos_of_ne_zero last) (by rw [moved]) (by rw [moved]; exact Function.update_self _ _ _)
        rw [moved] at rest waiting unfinished log
        refine ⟨later, .next head nofun steps, front, rest, fun other apart => ?_, unfinished, log⟩
        rw [waiting other apart]
        exact Function.update_of_ne apart _ _

theorem steps_all_callbacks (ids : List Nat) (distinct : ids.Nodup) (children : Nat → Nat)
    (positive : ∀ id ∈ ids, 0 < children id) : ∀ (loop : Loop Item) (queue : List (Handle Item)),
      loop.ready =
          ids.flatMap (fun id => List.replicate (children id) (Handle.childDone id)) ++ queue →
      (∀ id ∈ ids, loop.waiting id = children id) →
      ∃ later, Steps loop later ∧ later.ready = queue ++ ids.map .job ∧ later.rest = loop.rest ∧
        later.unfinished = loop.unfinished ∧ later.log = loop.log := by
  induction ids with
  | nil =>
      intro loop queue ready _
      exact ⟨loop, .refl loop, by simpa using ready, rfl, rfl, rfl⟩
  | cons id others ih =>
      intro loop queue ready waits
      obtain ⟨absent, apart⟩ := List.nodup_cons.mp distinct
      obtain ⟨middle, first, front, rest, waiting, unfinished, log⟩ := steps_callbacks id
        (children id) loop
          (others.flatMap (fun id => List.replicate (children id) (Handle.childDone id)) ++
          queue) (positive id List.mem_cons_self) (by rw [ready, List.flatMap_cons, List.append_assoc])
        (waits id List.mem_cons_self)
      obtain ⟨later, second, ends, rest', unfinished', log'⟩ := ih apart
        (fun next member => positive next (List.mem_cons_of_mem _ member)) middle
        (queue ++ [Handle.job id]) (by rw [front, List.append_assoc]) fun next member => by
          rw [waiting next fun same => absent (same ▸ member)]
          exact waits next (List.mem_cons_of_mem _ member)
      refine ⟨later, first.trans second, ?_, rest'.trans rest, unfinished'.trans unfinished,
        log'.trans log⟩
      rw [ends, List.append_assoc]
      rfl

section Rounds

def layer (rest : Nat → List (List Item)) (ids : List Nat) (number : Nat) : List (Nat × Item) :=
  ids.flatMap fun id => ((rest id)[number]?.getD []).map (Prod.mk id)

structure Waiting (loop : Loop Item) (ids : List Nat) : Prop where
  ready : loop.ready = ids.map .job
  distinct : ids.Nodup
  unfinished : loop.unfinished = ids.length
  filled : ∀ id ∈ ids, [] ∉ loop.rest id

variable {ids : List Nat}

theorem launched_runs (rest : Nat → List (List Item)) (ids : List Nat) :
    ∀ handle ∈ ids.flatMap (launch rest), handle.Runs := by
  intro handle member
  obtain ⟨id, _, launched⟩ := List.mem_flatMap.mp member
  unfold launch at launched
  split at launched
  · rw [List.mem_singleton.mp launched]
    trivial
  · obtain ⟨item, _, rfl⟩ := List.mem_map.mp launched
    trivial

section Children

variable (id : Nat) (batch : List Item)

theorem ran_children : (batch.map (Handle.child id)).filterMap Handle.ran =
    batch.map (Prod.mk id) := by
  induction batch with
  | nil => rfl
  | cons item others ih => exact congrArg ((id, item) :: ·) ih

theorem callback_children : (batch.map (Handle.child id)).filterMap Handle.callback =
    List.replicate batch.length (.childDone id) := by
  induction batch with
  | nil => rfl
  | cons item others ih => exact congrArg (Handle.childDone id :: ·) ih

theorem done_children : (batch.map (Handle.child id)).countP Handle.isDone = 0 := by
  refine List.countP_eq_zero.mpr fun handle member => ?_
  obtain ⟨item, _, rfl⟩ := List.mem_map.mp member
  exact Bool.false_ne_true

end Children

theorem launched_ran (rest : Nat → List (List Item)) (ids : List Nat) :
    (ids.flatMap (launch rest)).filterMap Handle.ran = layer rest ids 0 := by
  rw [List.filterMap_flatMap, layer]
  refine List.flatMap_congr fun id _ => ?_
  rw [launch]
  cases rest id with
  | nil => rfl
  | cons batch later =>
      exact ran_children id batch

theorem launched_callbacks (rest : Nat → List (List Item)) (ids : List Nat) :
    (ids.flatMap (launch rest)).filterMap Handle.callback =
      (ids.filter fun id => !(rest id).isEmpty).flatMap fun id =>
        List.replicate ((rest id).head?.getD []).length (.childDone id) := by
  induction ids with
  | nil => rfl
  | cons id others ih =>
      rw [List.flatMap_cons, List.filterMap_append, ih, launch, List.filter_cons]
      cases batches : rest id with
      | nil => rfl
      | cons batch later =>
          simp only [List.isEmpty_cons, Bool.not_false, if_true, List.flatMap_cons, batches,
            List.head?_cons, Option.getD_some, callback_children]

theorem launched_done (rest : Nat → List (List Item)) (ids : List Nat) :
    (ids.flatMap (launch rest)).countP Handle.isDone +
      (ids.filter fun id => !(rest id).isEmpty).length = ids.length := by
  induction ids with
  | nil => rfl
  | cons id others ih =>
      rw [List.flatMap_cons, List.countP_append, launch, List.filter_cons]
      cases batches : rest id with
      | nil =>
          simp only [List.isEmpty_nil, Bool.not_true, Bool.false_eq_true, if_false, List.length_cons,
            List.countP_singleton, Handle.isDone, if_true]
          omega
      | cons batch later =>
          simp only [List.isEmpty_cons, Bool.not_false, if_true, done_children, List.length_cons]
          omega

theorem Waiting.round (waiting : Waiting loop ids) {id : Nat} (member : id ∈ ids)
    (more : loop.rest id ≠ []) :
    ∃ later live, Steps loop later ∧ Waiting later live ∧
      live = ids.filter (fun id => !(loop.rest id).isEmpty) ∧
      (∀ id ∈ live, later.rest id = (loop.rest id).tail) ∧
      later.log = loop.log ++ layer loop.rest ids 0 := by
  obtain ⟨first, steps, front, left, waits, unfinished, log⟩ := steps_jobs ids waiting.distinct loop []
    (by rw [waiting.ready, List.append_nil])
  have alive : 0 < (ids.filter fun id => !(loop.rest id).isEmpty).length := by
    refine List.length_pos_of_mem (List.mem_filter.mpr ⟨member, ?_⟩)
    simpa using more
  have counted := launched_done loop.rest ids
  obtain ⟨second, steps', front', rest', waits', unfinished', log'⟩ := steps_children
    (ids.flatMap (launch loop.rest)) (launched_runs loop.rest ids) first []
    (by rw [front, List.append_nil]; rfl) (by rw [unfinished, waiting.unfinished]; omega)
  rw [List.nil_append, launched_callbacks] at front'
  have waited : ∀ id ∈ ids.filter (fun id => !(loop.rest id).isEmpty),
      0 < ((loop.rest id).head?.getD []).length ∧
        second.waiting id = ((loop.rest id).head?.getD []).length := by
    intro id inside
    obtain ⟨own, filled⟩ := List.mem_filter.mp inside
    have begun : loop.rest id ≠ [] := by simpa using filled
    refine ⟨?_, by rw [waits', waits, if_pos ⟨own, begun⟩]⟩
    obtain ⟨batch, later, batches⟩ := List.exists_cons_of_ne_nil begun
    have full := waiting.filled id own
    rw [batches] at full ⊢
    refine List.length_pos_of_ne_nil fun empty => full ?_
    rw [show batch = [] from empty]
    exact List.mem_cons_self
  obtain ⟨third, steps'', front'', rest'', unfinished'', log''⟩ := steps_all_callbacks
    (ids.filter fun id => !(loop.rest id).isEmpty) (waiting.distinct.filter _)
    (fun id => ((loop.rest id).head?.getD []).length) (fun id inside => (waited id inside).1) second []
    (by rw [front', List.append_nil]) fun id inside => (waited id inside).2
  refine ⟨third, _, (steps.trans steps').trans steps'', ⟨front'', waiting.distinct.filter _, ?_,
    fun id inside => ?_⟩, rfl, fun id inside => ?_, ?_⟩
  · rw [unfinished'', unfinished', unfinished, waiting.unfinished]
    omega
  · have own := (List.mem_filter.mp inside).1
    rw [rest'', rest', left, if_pos own]
    exact fun empty => waiting.filled id own (List.mem_of_mem_tail empty)
  · rw [rest'', rest', left, if_pos (List.mem_filter.mp inside).1]
  · rw [log'', log', log, launched_ran]

theorem Waiting.end (waiting : Waiting loop ids) (filled : ids ≠ [])
    (done : ∀ id ∈ ids, loop.rest id = []) :
    ∃ later, Steps loop later ∧ later.ready = [.finish] ∧ later.log = loop.log := by
  obtain ⟨first, steps, front, _, _, unfinished, log⟩ := steps_jobs ids waiting.distinct loop []
    (by rw [waiting.ready, List.append_nil])
  obtain ⟨others, last, rfl⟩ := List.eq_nil_or_concat' ids |>.resolve_left filled
  have ended : ∀ ids : List Nat, (∀ id ∈ ids, loop.rest id = []) →
      ids.flatMap (launch loop.rest) = List.replicate ids.length .jobDone := by
    intro ids done
    induction ids with
    | nil => rfl
    | cons id others ih =>
        rw [List.flatMap_cons, launch, done id List.mem_cons_self,
          ih fun next member => done next (List.mem_cons_of_mem _ member)]
        rfl
  rw [List.nil_append, ended _ done, List.length_append, List.length_singleton,
    List.replicate_succ'] at front
  have counted : (List.replicate others.length (.jobDone : Handle Item)).countP Handle.isDone =
      others.length := by
    rw [List.countP_replicate]
    rfl
  obtain ⟨second, steps', front', _, _, unfinished', log'⟩ := steps_children
    (List.replicate others.length .jobDone)
    (fun handle member => by rw [(List.mem_replicate.mp member).2]; trivial) first [.jobDone] front
    (by rw [counted, unfinished, waiting.unfinished, List.length_append, List.length_singleton]; omega)
  have quiet : (List.replicate others.length (.jobDone : Handle Item)).filterMap Handle.callback =
      [] := by
    rw [List.filterMap_replicate]
    rfl
  have idle : (List.replicate others.length (.jobDone : Handle Item)).filterMap Handle.ran = [] := by
    rw [List.filterMap_replicate]
    rfl
  rw [quiet, List.append_nil] at front'
  rw [idle, List.append_nil, log] at log'
  have single : second.unfinished = 1 := by
    rw [unfinished', counted, unfinished, waiting.unfinished, List.length_append,
      List.length_singleton]
    omega
  have moved : second.step = { second with ready := [.finish], unfinished := 0 } := by
    rw [Loop.step, front']
    simp [single]
  refine ⟨second.step, (steps.trans steps').trans (.next front' nofun (.refl _)), ?_, ?_⟩
  · rw [moved]
  · rw [moved]
    exact log'

theorem layer_empty {rest : Nat → List (List Item)} (done : ∀ id ∈ ids, rest id = []) (number : Nat) :
    layer rest ids number = [] := by
  refine List.flatMap_eq_nil_iff.mpr fun id member => ?_
  rw [done id member]
  rfl

theorem layer_succ {rest rest' : Nat → List (List Item)} {live : List Nat}
    (alive : live = ids.filter fun id => !(rest id).isEmpty)
    (left : ∀ id ∈ live, rest' id = (rest id).tail) (number : Nat) :
    layer rest ids (number + 1) = layer rest' live number := by
  have kept : ∀ ids : List Nat, (ids.filter fun id => !(rest id).isEmpty).flatMap (fun id =>
      ((rest id)[number + 1]?.getD []).map (Prod.mk id)) = layer rest ids (number + 1) := by
    intro ids
    induction ids with
    | nil => rfl
    | cons id others ih =>
        rw [List.filter_cons, layer, List.flatMap_cons]
        cases batches : rest id with
        | nil => exact ih
        | cons batch later =>
            simp only [List.isEmpty_cons, Bool.not_false, if_true, List.flatMap_cons, batches]
            exact congrArg (_ ++ ·) ih
  rw [← kept ids, ← alive, layer]
  refine List.flatMap_congr fun id member => ?_
  rw [left id member, List.getElem?_tail]

theorem Waiting.complete : ∀ (rounds : Nat) {loop : Loop Item} {ids : List Nat}, Waiting loop ids →
    ids ≠ [] → (∀ id ∈ ids, (loop.rest id).length ≤ rounds) →
      ∃ later, Steps loop later ∧ later.ready = [.finish] ∧
        later.log = loop.log ++ (List.range rounds).flatMap (layer loop.rest ids) := by
  intro rounds
  induction rounds with
  | zero =>
      intro loop ids waiting filled short
      have done : ∀ id ∈ ids, loop.rest id = [] := fun id member =>
        List.length_eq_zero_iff.mp (Nat.le_zero.mp (short id member))
      obtain ⟨later, steps, front, log⟩ := waiting.end filled done
      exact ⟨later, steps, front, by simpa using log⟩
  | succ rounds ih =>
      intro loop ids waiting filled short
      by_cases done : ∀ id ∈ ids, loop.rest id = []
      · obtain ⟨later, steps, front, log⟩ := waiting.end filled done
        refine ⟨later, steps, front, ?_⟩
        rw [log, List.flatMap_eq_nil_iff.mpr fun number _ => layer_empty done number, List.append_nil]
      · obtain ⟨id, member, more⟩ : ∃ id ∈ ids, loop.rest id ≠ [] := by
          simpa only [not_forall, exists_prop] using done
        obtain ⟨middle, live, first, waits, alive, left, log⟩ := waiting.round member more
        have inside : id ∈ live := by
          rw [alive]
          exact List.mem_filter.mpr ⟨member, by simpa using more⟩
        obtain ⟨later, second, front, log'⟩ := ih waits (List.ne_nil_of_mem inside) fun next own => by
          have bounded := short next (by rw [alive] at own; exact (List.mem_filter.mp own).1)
          rw [left next own, List.length_tail]
          omega
        refine ⟨later, first.trans second, front, ?_⟩
        rw [log', log, List.append_assoc, List.range_succ_eq_map, List.flatMap_cons, List.flatMap_map]
        refine congrArg (fun rest => loop.log ++ (layer loop.rest ids 0 ++ rest)) ?_
        exact List.flatMap_congr fun number _ => (layer_succ alive left number).symm

end Rounds

end Phases

section Runs

variable (jobs : List (List (List Item)))

def order (rounds : Nat) : List (Nat × Item) :=
  (List.range rounds).flatMap (layer (fun id => jobs[id]?.getD []) (List.range jobs.length))

def Ends (final : Loop Item) : Prop := ∃ count, (Loop.start jobs).after count = final ∧ final.ready = []

variable {jobs}

theorem after_still (still : loop.ready = []) (count : Nat) : loop.after count = loop := by
  induction count with
  | zero => rfl
  | succ count ih =>
      rw [Loop.after, Function.iterate_succ_apply', ← Loop.after, ih, Loop.step, still]

theorem Ends.unique {first second : Loop Item} (one : Ends jobs first) (other : Ends jobs second) :
    first = second := by
  obtain ⟨short, rfl, still⟩ := one
  obtain ⟨long, rfl, rest⟩ := other
  have later : ∀ more, (Loop.start jobs).after (short + more) = ((Loop.start jobs).after short).after
      more := fun more => by
    rw [Loop.after, Nat.add_comm, Function.iterate_add_apply]
    rfl
  have earlier : ∀ more, (Loop.start jobs).after (long + more) = ((Loop.start jobs).after long).after
      more := fun more => by
    rw [Loop.after, Nat.add_comm, Function.iterate_add_apply]
    rfl
  rw [← after_still still long, ← later, Nat.add_comm, earlier, after_still rest]

variable {rounds : Nat} (many : jobs ≠ []) (filled : ∀ job ∈ jobs, [] ∉ job)
  (short : ∀ job ∈ jobs, job.length ≤ rounds)
include many filled short

theorem run_start : ∃ later, Steps (Loop.start jobs) later ∧ later.ready = [.finish] ∧
    later.log = order jobs rounds := by
  have known : ∀ id ∈ List.range jobs.length, jobs[id]?.getD [] ∈ jobs := by
    intro id member
    rw [List.getElem?_eq_getElem (List.mem_range.mp member), Option.getD_some]
    exact List.getElem_mem _
  have waiting : Waiting (Loop.start jobs) (List.range jobs.length) :=
    ⟨rfl, List.nodup_range, List.length_range.symm, fun id member => filled _ (known id member)⟩
  obtain ⟨later, steps, front, log⟩ := waiting.complete rounds (by
    rw [Ne, List.range_eq_nil, List.length_eq_zero_iff]
    exact many) fun id member => short _ (known id member)
  exact ⟨later, steps, front, log⟩

theorem ends_start : ∃ final, Ends jobs final ∧ final.finished = true ∧
    final.log = order jobs rounds := by
  obtain ⟨later, steps, front, log⟩ := run_start many filled short
  obtain ⟨count, reached⟩ := steps.count
  have moved : later.step = { later with ready := [], finished := true } := by
    rw [Loop.step, front]
  refine ⟨later.step, ⟨count + 1, ?_, by rw [moved]⟩, by rw [moved], by rw [moved]; exact log⟩
  rw [Loop.after, Function.iterate_succ_apply', ← Loop.after, reached]

theorem finished_last {count : Nat} (told : ((Loop.start jobs).after count).finished = true) :
    ((Loop.start jobs).after count).log = order jobs rounds := by
  obtain ⟨later, steps, front, log⟩ := run_start many filled short
  have moved : later.step = { later with ready := [], finished := true } := by
    rw [Loop.step, front]
  rcases steps.before rfl count with idle | ⟨more, reached⟩
  · rw [idle] at told
    cases told
  · have still : later.step.ready = [] := by rw [moved]
    cases more with
    | zero =>
        rw [reached] at told
        have idle : later.finished = false := steps.finished
        exact absurd told (by rw [Loop.after, Function.iterate_zero, id, idle]; exact Bool.false_ne_true)
    | succ more =>
        rw [reached, Loop.after, Function.iterate_succ_apply, ← Loop.after, after_still still, moved]
        exact log

end Runs

end Gather
