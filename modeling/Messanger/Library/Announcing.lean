import Messanger.Library.Chronicle

/-!
Tasks that look and tasks that announce.  What a task that only looks finds depends on no more than
what it looks at, so it is the same as long as that is; and a task announces its writes when an
announcement comes after each of them before the task ends.
-/

namespace Processes

variable {World Label Error Answer Other Tag View Wider : Type}

namespace Process

section Seeing

def Sees (view : World → View) : Process World Label Error Answer → Prop
  | .done _ => True
  | .act _ effect next => (∀ world, view (effect world) = view world) ∧
      (∀ left right, view left = view right → next left = next right) ∧
        ∀ world, (next world).Sees view

variable {view : World → View} {process : Process World Label Error Answer} {left right : World}

theorem sees_observe {label : Label} {read : World → Answer}
    (same : ∀ left right, view left = view right → read left = read right) :
    (Process.observe label read : Process World Label Error Answer).Sees view :=
  ⟨fun _ => rfl, fun left right agree => congrArg (fun answer => Process.done (.ok answer))
    (same left right agree), fun _ => trivial⟩

theorem sees_perform {label : Label} {effect : World → World}
    (same : ∀ world, view (effect world) = view world) :
    (Process.perform label effect : Process World Label Error Unit).Sees view :=
  ⟨same, fun _ _ _ => rfl, fun _ => trivial⟩

theorem sees_bind {next : Answer → Process World Label Error Other} (first : process.Sees view)
    (rest : ∀ answer, (next answer).Sees view) : (process >>= next).Sees view := by
  induction process with
  | done outcome =>
      cases outcome with
      | ok answer => exact rest answer
      | error error => trivial
  | act label effect after ih =>
      refine ⟨first.1, fun left right agree => ?_, fun world => ih world (first.2.2 world)⟩
      exact congrArg (fun before => Process.bind before next) (first.2.1 left right agree)

theorem sees_lift (check : Except Error Answer) :
    (liftM check : Process World Label Error Answer).Sees view := trivial

theorem sees_ite {condition : Prop} [Decidable condition]
    {first second : Process World Label Error Answer} (yes : first.Sees view)
    (no : second.Sees view) : (if condition then first else second).Sees view := by
  split
  · exact yes
  · exact no

theorem Sees.wider {wider : World → Wider} (sees : process.Sees view)
    (leaves : process.Every fun _ effect => ∀ world, wider (effect world) = wider world)
    (shows : ∀ left right, wider left = wider right → view left = view right) :
    process.Sees wider := by
  induction process with
  | done outcome => trivial
  | act label effect next ih =>
      exact ⟨leaves.1, fun left right agree => sees.2.1 left right (shows left right agree),
        fun world => ih world (sees.2.2 world) (leaves.2 world)⟩

theorem run_sees (sees : process.Sees view) (agree : view left = view right) :
    (process.run left).2 = (process.run right).2 := by
  induction process generalizing left right with
  | done outcome => rfl
  | act label effect next ih =>
      rw [run_act, run_act, sees.2.1 left right agree]
      refine ih right (sees.2.2 right) ?_
      rw [sees.1, sees.1, agree]

theorem run_idle (idle : process.Every fun _ effect => effect = id) (world : World) :
    (process.run world).1 = world := by
  induction process generalizing world with
  | done outcome => rfl
  | act label effect next ih =>
      have same : effect world = world := congrFun idle.1 world
      rw [run_act, same]
      exact ih world (idle.2 world) world

end Seeing

section Every

variable {Holds : Label → (World → World) → Prop}

theorem every_observe {label : Label} {read : World → Answer} (holds : Holds label id) :
    (Process.observe label read : Process World Label Error Answer).Every Holds :=
  ⟨holds, fun _ => trivial⟩

theorem every_lift (check : Except Error Answer) :
    (liftM check : Process World Label Error Answer).Every Holds := trivial

theorem every_ite {condition : Prop} [Decidable condition]
    {first second : Process World Label Error Answer} (yes : first.Every Holds)
    (no : second.Every Holds) : (if condition then first else second).Every Holds := by
  split
  · exact yes
  · exact no

theorem every_rescue {process : Process World Label Error Answer}
    {handler : Error → Process World Label Error Answer} (first : process.Every Holds)
    (handled : ∀ error, (handler error).Every Holds) : (process.rescue handler).Every Holds := by
  induction process with
  | done outcome =>
      cases outcome with
      | ok answer => trivial
      | error error => exact handled error
  | act label effect next ih => exact ⟨first.1, fun world => ih world (first.2 world)⟩

theorem every_forM {Item : Type} {action : Item → Process World Label Error Unit}
    (items : List Item) (each : ∀ item, (action item).Every Holds) :
    (items.forM action).Every Holds := by
  induction items with
  | nil => trivial
  | cons item rest ih => exact every_bind (each item) fun _ => ih

end Every

section Announcing

variable (Lawful : Label → (World → World) → Prop) (announces : Label → Bool)
  (writes : Label → World → Bool)

def Announces : Bool → Process World Label Error Answer → Prop
  | owes, .done _ => owes = false
  | owes, .act label effect next => Lawful label effect ∧
      ∀ world, (next world).Announces (!announces label && (owes || writes label world))

def Still (label : Label) (effect : World → World) : Prop :=
  Lawful label effect ∧ ∀ world, writes label world = false

variable {Lawful announces writes} {process : Process World Label Error Answer}

theorem announces_still (still : process.Every (Still Lawful writes)) :
    process.Announces Lawful announces writes false := by
  induction process with
  | done outcome => rfl
  | act label effect next ih =>
      refine ⟨still.1.1, fun world => ?_⟩
      rw [still.1.2 world, Bool.or_false, Bool.and_false]
      exact ih world (still.2 world)

theorem announces_next {next : Answer → Process World Label Error Other}
    (still : process.Every (Still Lawful writes))
    (rest : ∀ answer, (next answer).Announces Lawful announces writes false) :
    (process >>= next).Announces Lawful announces writes false := by
  induction process with
  | done outcome =>
      cases outcome with
      | ok answer => exact rest answer
      | error error => rfl
  | act label effect after ih =>
      refine ⟨still.1.1, fun world => ?_⟩
      rw [still.1.2 world, Bool.or_false, Bool.and_false]
      exact ih world (still.2 world)

theorem announces_map {owes : Bool} {answer : Answer → Other}
    (announcing : process.Announces Lawful announces writes owes) :
    (answer <$> process).Announces Lawful announces writes owes := by
  induction process generalizing owes with
  | done outcome =>
      cases outcome with
      | ok answer => exact announcing
      | error error => exact announcing
  | act label effect next ih =>
      exact ⟨announcing.1, fun world => ih world (announcing.2 world)⟩

theorem announces_ite {condition : Prop} [Decidable condition] {owes : Bool}
    {first second : Process World Label Error Answer}
    (yes : first.Announces Lawful announces writes owes)
    (no : second.Announces Lawful announces writes owes) :
    (if condition then first else second).Announces Lawful announces writes owes := by
  split
  · exact yes
  · exact no

theorem announces_commit {commit announcement : Label} {effect : World → Except Error World}
    {announced : World → World} {next : Unit → Process World Label Error Answer}
    (lawful : Lawful commit fun world => (effect world).toOption.getD world)
    (announcedLawful : Lawful announcement announced)
    (wrote : ∀ world, writes commit world = (effect world).isOk)
    (silent : announces commit = false) (loud : announces announcement = true)
    (rest : (next ()).Announces Lawful announces writes false) :
    (Process.attempt commit effect >>= fun _ => Process.perform announcement announced >>= next)
      |>.Announces Lawful announces writes false := by
  rw [attempt_bind]
  refine ⟨lawful, fun world => ?_⟩
  rw [wrote, silent]
  dsimp only
  cases effect world with
  | error error => rfl
  | ok after =>
      refine ⟨announcedLawful, fun world => ?_⟩
      rw [loud]
      exact rest

theorem announces_commit_last {commit announcement : Label} {effect : World → Except Error World}
    {announced : World → World}
    (lawful : Lawful commit fun world => (effect world).toOption.getD world)
    (announcedLawful : Lawful announcement announced)
    (wrote : ∀ world, writes commit world = (effect world).isOk)
    (silent : announces commit = false) (loud : announces announcement = true) :
    (Process.attempt commit effect >>= fun _ => Process.perform announcement announced)
      |>.Announces Lawful announces writes false := by
  let next : Unit → Process World Label Error Unit := fun _ => .done (.ok ())
  have rest : (next ()).Announces Lawful announces writes false := rfl
  exact announces_commit lawful announcedLawful wrote silent loud rest

end Announcing

end Process

namespace Scene

variable (announces : Label → Bool) (writes : Label → World → Bool)
  (scene : Scene World Label Tag Error Answer)

/-- The task has announced all that it wrote. -/
def Settled (index : Nat) : Prop :=
  ∀ before (change : Entry World Label Tag Error Answer) after,
    scene.history = before ++ change :: after → change.index = index →
      writes change.label change.before = true →
        ∃ entry ∈ change :: after, entry.index = index ∧ announces entry.label = true

def Announced : Prop :=
  ∀ before (change : Entry World Label Tag Error Answer) after,
    scene.history = before ++ change :: after → writes change.label change.before = true →
      (∃ entry ∈ change :: after, entry.index = change.index ∧ announces entry.label = true) ∨
        scene.Running change.index

variable {announces writes scene} {now : Scene World Label Tag Error Answer} {index : Nat}
  {tag : Tag} {label : Label} {effect : World → World} {outcome : Option (Except Error Answer)}

theorem settled_after (settled : announces label = true ∨
      (writes label scene.world = false ∧ scene.Settled announces writes index)) :
    (scene.after index tag label effect outcome).Settled announces writes index := by
  intro before change after same mine wrote
  have last : announces label = true → ∀ entries,
      entries ++ [⟨index, tag, label, scene.world, effect scene.world, outcome⟩] = change :: after →
        ∃ entry ∈ change :: after, entry.index = index ∧ announces entry.label = true := by
    intro loud entries whole
    refine ⟨⟨index, tag, label, scene.world, effect scene.world, outcome⟩, ?_, rfl, loud⟩
    rw [← whole]
    exact List.mem_append_right _ (List.mem_singleton_self _)
  rcases Latest.split_concat same with ⟨rfl, _, rfl⟩ | ⟨rest, rfl, older⟩
  · rcases settled with loud | ⟨none, _⟩
    · exact last loud [] rfl
    · rw [none] at wrote
      cases wrote
  · rcases settled with loud | ⟨_, settled⟩
    · exact last loud (change :: rest) rfl
    · obtain ⟨entry, member, told⟩ := settled before change rest older mine wrote
      exact ⟨entry, List.mem_append_left [_] member, told⟩

theorem Settled.later (settled : scene.Settled announces writes index)
    (meanwhile : scene.Meanwhile index now) : now.Settled announces writes index := by
  obtain ⟨_, more, history, others⟩ := meanwhile
  intro before change after same mine wrote
  rw [history] at same
  rcases List.append_eq_append_iff.mp same with ⟨middle, rfl, late⟩ | ⟨middle, early, late⟩
  · refine absurd mine (others change ?_)
    rw [late]
    exact List.mem_append_right _ List.mem_cons_self
  · cases middle with
    | nil =>
        refine absurd mine (others change ?_)
        rw [← List.nil_append more, ← late]
        exact List.mem_cons_self
    | cons first rest =>
        obtain ⟨rfl, rfl⟩ := List.cons_eq_cons.mp late
        obtain ⟨entry, member, told⟩ := settled before _ rest early mine wrote
        exact ⟨entry, List.mem_append_left more member, told⟩

theorem announced_after (announced : scene.Announced announces writes)
    (settled : outcome.isSome →
      (scene.after index tag label effect outcome).Settled announces writes index)
    (running : scene.Running index) :
    (scene.after index tag label effect outcome).Announced announces writes := by
  intro before change after same wrote
  by_cases mine : change.index = index
  · cases ended : outcome with
    | none =>
        right
        rw [mine]
        exact running.after fun _ => rfl
    | some result =>
        rw [ended] at settled
        left
        rw [mine]
        exact settled rfl before change after (by rw [← same, ended]) mine wrote
  · rcases Latest.split_concat same with ⟨rfl, _, _⟩ | ⟨rest, rfl, older⟩
    · exact absurd rfl mine
    · rcases announced before change rest older wrote with ⟨entry, member, told⟩ | runs
      · exact .inl ⟨entry, List.mem_append_left [_] member, told⟩
      · exact .inr (runs.after fun same => absurd same mine)

theorem Connected.steady (view : World → View) {number later : Nat} (connected : scene.Connected)
    (same : ∀ entry ∈ scene.history.drop number, view entry.after = view entry.before)
    (ordered : number ≤ later) (past : later ≤ scene.history.length) :
    view (scene.worldAt later) = view (scene.worldAt number) := by
  have step : ∀ entry ∈ scene.history, view entry.before = view (scene.worldAt number) →
      view entry.after = view (scene.worldAt number) ∨ view entry.after ≠ view entry.before := by
    intro entry _ before
    by_cases kept : view entry.after = view entry.before
    · exact .inl (kept.trans before)
    · exact .inr kept
  rcases connected.lasts (fun world => view world = view (scene.worldAt number)) step ordered past rfl
    with still | ⟨between, entry, lower, _, found, changed⟩
  · exact still
  · exact absurd (same entry (mem_drop found lower)) changed

end Scene

section Keeping

variable {terms : Terms World Label Tag Error Answer}
  {Inv : Scene World Label Tag Error Answer → Prop} {index : Nat} {tag : Tag}
  {Lawful : Label → (World → World) → Prop} {announces : Label → Bool}
  {writes : Label → World → Bool} {owes : Bool}
  {process : Process World Label Error Answer} {scene : Scene World Label Tag Error Answer}

theorem keeps_announcing
    (kept : ∀ now label effect outcome, now.Tagged → now.Running index →
      now.opened[index]?.map Opened.tag = some tag → Inv now →
      terms.Acts now index tag label effect → Lawful label effect →
        (outcome.isSome →
          (now.after index tag label effect outcome).Settled announces writes index) →
          Inv (now.after index tag label effect outcome))
    (announcing : process.Announces Lawful announces writes owes)
    (found : scene.opened[index]?.map Opened.tag = some tag)
    (settled : owes = false → scene.Settled announces writes index) :
    Keeps terms Inv index tag process scene := by
  induction process generalizing scene owes with
  | done outcome => trivial
  | act label effect next ih =>
      intro now meanwhile tagged running inv acts
      have foundNow : now.opened[index]?.map Opened.tag = some tag := by
        obtain ⟨task, opened, same⟩ := Option.map_eq_some_iff.mp found
        rw [meanwhile.opened opened, Option.map_some, same]
      have rest := announcing.2 now.world
      have settles : ∀ outcome, (!announces label && (owes || writes label now.world)) = false →
          (now.after index tag label effect outcome).Settled announces writes index := by
        intro outcome none
        refine Scene.settled_after ?_
        cases loud : announces label with
        | true => exact .inl rfl
        | false =>
            rw [loud, Bool.not_false, Bool.true_and, Bool.or_eq_false_iff] at none
            exact .inr ⟨none.2, (settled none.1).later meanwhile⟩
      refine ⟨kept now label effect _ tagged running foundNow inv acts announcing.1 ?_,
        ih now.world rest foundNow (settles _)⟩
      generalize next now.world = left at rest
      cases left with
      | done outcome => exact fun _ => settles _ rest
      | act _ _ _ => exact fun ended => nomatch ended

end Keeping

end Processes
