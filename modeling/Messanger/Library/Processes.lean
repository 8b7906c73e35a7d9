import Mathlib.Logic.Basic

/-!
Tasks that take turns on one world.  An action of a task is atomic and is written down with its
label; between two actions of a task any others may act.  What a task still knows after a pause is
what the record of the actions tells.
-/

namespace Processes

variable {World Label Error Answer Other Tag : Type}

inductive Process (World Label Error Answer : Type) where
  | done (outcome : Except Error Answer)
  | act (label : Label) (effect : World → World) (next : World → Process World Label Error Answer)

namespace Process

def bind : Process World Label Error Answer → (Answer → Process World Label Error Other) →
    Process World Label Error Other
  | .done (.ok answer), next => next answer
  | .done (.error error), _ => .done (.error error)
  | .act label effect rest, next => .act label effect fun world => (rest world).bind next

instance : Monad (Process World Label Error) where
  pure answer := .done (.ok answer)
  bind := bind

instance : MonadLift (Except Error) (Process World Label Error) := ⟨.done⟩

/-- What `except` does with an error of the `try` block. -/
def rescue (handler : Error → Process World Label Error Answer) :
    Process World Label Error Answer → Process World Label Error Answer
  | .done (.ok answer) => .done (.ok answer)
  | .done (.error error) => handler error
  | .act label effect rest => .act label effect fun world => (rest world).rescue handler

def raise (error : Error) : Process World Label Error Answer := .done (.error error)

def observe (label : Label) (read : World → Answer) : Process World Label Error Answer :=
  .act label id fun world => .done (.ok (read world))

def perform (label : Label) (effect : World → World) : Process World Label Error Unit :=
  .act label effect fun _ => .done (.ok ())

def attempt (label : Label) (effect : World → Except Error World) :
    Process World Label Error Unit :=
  .act label (fun world => (effect world).toOption.getD world)
    fun world => .done ((effect world).map fun _ => ())

def transact (label : Label) (effect : World → Except Error (Answer × World)) :
    Process World Label Error Answer :=
  .act label (fun world => ((effect world).toOption.map Prod.snd).getD world)
    fun world => .done ((effect world).map Prod.fst)

/-- The process with no other beside it. -/
def run : Process World Label Error Answer → World → World × Except Error Answer
  | .done outcome, world => (world, outcome)
  | .act _ effect next, world => (next world).run (effect world)

def outcome? : Process World Label Error Answer → Option (Except Error Answer)
  | .done outcome => some outcome
  | .act _ _ _ => none

section Equations

variable (label : Label) (effect : World → World) (rest : World → Process World Label Error Answer)
  (next : Answer → Process World Label Error Other) (answer : Answer) (error : Error)

@[simp] theorem done_ok_bind :
    ((.done (.ok answer) : Process World Label Error Answer) >>= next) = next answer := rfl

@[simp] theorem pure_bind_process :
    ((pure answer : Process World Label Error Answer) >>= next) = next answer := rfl

@[simp] theorem lift_ok_bind :
    ((liftM (.ok answer : Except Error Answer) : Process World Label Error Answer) >>= next) =
      next answer := rfl

@[simp] theorem lift_error_bind :
    ((liftM (.error error : Except Error Answer) : Process World Label Error Answer) >>= next) =
      .done (.error error) := rfl

@[simp] theorem done_error_bind :
    ((.done (.error error) : Process World Label Error Answer) >>= next) = .done (.error error) :=
  rfl

@[simp] theorem raise_bind :
    ((raise error : Process World Label Error Answer) >>= next) = .done (.error error) := rfl

@[simp] theorem act_bind :
    (Process.act label effect rest >>= next) =
      .act label effect fun world => rest world >>= next := rfl

@[simp] theorem observe_bind (read : World → Answer) :
    ((observe label read : Process World Label Error Answer) >>= next) =
      .act label id fun world => next (read world) := rfl

@[simp] theorem perform_bind (next : Unit → Process World Label Error Other) :
    ((perform label effect : Process World Label Error Unit) >>= next) =
      .act label effect fun _ => next () := rfl

theorem rescue_observe (read : World → Answer) (handler : Error → Process World Label Error Other) :
    (observe label read >>= next).rescue handler =
      observe label read >>= fun answer => (next answer).rescue handler := rfl

theorem rescue_attempt (effect : World → Except Error World)
    (next : Unit → Process World Label Error Answer)
    (handler : Error → Process World Label Error Answer) :
    (attempt label effect >>= next).rescue handler =
      .act label (fun world => (effect world).toOption.getD world) fun world =>
        match effect world with
        | .ok _ => (next ()).rescue handler
        | .error error => handler error := by
  refine congrArg (Process.act label _) (funext fun world => ?_)
  change ((Process.done ((effect world).map fun _ => ())).bind next).rescue handler = _
  cases effect world with
  | ok after => rfl
  | error error => rfl

theorem attempt_bind (effect : World → Except Error World)
    (next : Unit → Process World Label Error Other) :
    (attempt label effect >>= next) =
      .act label (fun world => (effect world).toOption.getD world) fun world =>
        match effect world with
        | .ok _ => next ()
        | .error error => .done (.error error) := by
  refine congrArg (Process.act label _) (funext fun world => ?_)
  change (Process.done ((effect world).map fun _ => ())).bind next = _
  cases effect world with
  | ok after => rfl
  | error error => rfl

theorem transact_bind (effect : World → Except Error (Answer × World)) :
    (transact label effect >>= next) =
      .act label (fun world => ((effect world).toOption.map Prod.snd).getD world) fun world =>
        match effect world with
        | .ok result => next result.1
        | .error error => .done (.error error) := by
  refine congrArg (Process.act label _) (funext fun world => ?_)
  change (Process.done ((effect world).map Prod.fst)).bind next = _
  cases effect world with
  | ok result => rfl
  | error error => rfl

@[simp] theorem run_done (outcome : Except Error Answer) (world : World) :
    (Process.done outcome : Process World Label Error Answer).run world = (world, outcome) := rfl

@[simp] theorem run_act (world : World) :
    (Process.act label effect rest).run world = (rest world).run (effect world) := rfl

theorem bind_assoc {Last : Type} (process : Process World Label Error Answer)
    (last : Other → Process World Label Error Last) :
    ((process >>= next) >>= last) = process >>= fun answer => next answer >>= last := by
  induction process with
  | done outcome =>
      cases outcome with
      | ok answer => rfl
      | error error => rfl
  | act label effect rest ih => exact congrArg (Process.act label effect) (funext ih)

theorem run_lift (check : Except Error Answer) (world : World) :
    ((liftM check : Process World Label Error Answer) >>= next).run world =
      match check with
      | .ok answer => (next answer).run world
      | .error error => (world, .error error) := by
  cases check with
  | ok answer => rfl
  | error error => rfl

theorem run_bind (process : Process World Label Error Answer) (world : World) :
    (process >>= next).run world =
      match process.run world with
      | (after, .ok answer) => (next answer).run after
      | (after, .error error) => (after, .error error) := by
  induction process generalizing world with
  | done outcome =>
      cases outcome with
      | ok answer => rfl
      | error error => rfl
  | act label effect rest ih => exact ih world (effect world)

theorem run_rescue (handler : Error → Process World Label Error Answer)
    (process : Process World Label Error Answer) (world : World) :
    (process.rescue handler).run world =
      match process.run world with
      | (after, .ok answer) => (after, .ok answer)
      | (after, .error error) => (handler error).run after := by
  induction process generalizing world with
  | done outcome =>
      cases outcome with
      | ok answer => rfl
      | error error => rfl
  | act label effect rest ih => exact ih world (effect world)

end Equations

section Preserving

def Preserves (Inv : World → Prop) (process : Process World Label Error Answer) : Prop :=
  ∀ world, Inv world → Inv (process.run world).1

variable {Inv : World → Prop}

theorem preserves_pure (answer : Answer) :
    (pure answer : Process World Label Error Answer).Preserves Inv := fun _ inv => inv

theorem preserves_raise (error : Error) :
    (raise error : Process World Label Error Answer).Preserves Inv := fun _ inv => inv

theorem preserves_lift (check : Except Error Answer) :
    (liftM check : Process World Label Error Answer).Preserves Inv := fun _ inv => inv

theorem preserves_observe (label : Label) (read : World → Answer) :
    (observe label read : Process World Label Error Answer).Preserves Inv := fun _ inv => inv

theorem preserves_perform {label : Label} {effect : World → World}
    (kept : ∀ world, Inv world → Inv (effect world)) :
    (perform label effect : Process World Label Error Unit).Preserves Inv :=
  fun world inv => kept world inv

theorem preserves_attempt {label : Label} {effect : World → Except Error World}
    (kept : ∀ world after, Inv world → effect world = .ok after → Inv after) :
    (attempt label effect : Process World Label Error Unit).Preserves Inv := by
  intro world inv
  simp only [attempt, run_act, run_done]
  cases done : effect world with
  | error error => exact inv
  | ok after => exact kept world after inv done

theorem preserves_transact {label : Label} {effect : World → Except Error (Answer × World)}
    (kept : ∀ world answer after, Inv world → effect world = .ok (answer, after) → Inv after) :
    (transact label effect : Process World Label Error Answer).Preserves Inv := by
  intro world inv
  simp only [transact, run_act, run_done]
  cases done : effect world with
  | error error => exact inv
  | ok result => exact kept world result.1 result.2 inv done

theorem preserves_bind {process : Process World Label Error Answer}
    {next : Answer → Process World Label Error Other} (first : process.Preserves Inv)
    (rest : ∀ answer, (next answer).Preserves Inv) : (process >>= next).Preserves Inv := by
  intro world inv
  have kept := first world inv
  rw [run_bind]
  split
  · rename_i after answer ran
    rw [ran] at kept
    exact rest answer after kept
  · rename_i after error ran
    rw [ran] at kept
    exact kept

theorem preserves_rescue {process : Process World Label Error Answer}
    {handler : Error → Process World Label Error Answer} (first : process.Preserves Inv)
    (handled : ∀ error, (handler error).Preserves Inv) :
    (process.rescue handler).Preserves Inv := by
  intro world inv
  have kept := first world inv
  rw [run_rescue]
  split
  · rename_i after answer ran
    rw [ran] at kept
    exact kept
  · rename_i after error ran
    rw [ran] at kept
    exact handled error after kept

theorem preserves_ite {condition : Prop} [Decidable condition]
    {first second : Process World Label Error Answer} (yes : first.Preserves Inv)
    (no : second.Preserves Inv) : (if condition then first else second).Preserves Inv := by
  by_cases holds : condition
  · rw [if_pos holds]
    exact yes
  · rw [if_neg holds]
    exact no

end Preserving

section Failing

def Fails (process : Process World Label Error Answer) (world : World) : Prop :=
  ∀ answer, (process.run world).2 ≠ .ok answer

variable {world : World}

theorem fails_raise (error : Error) :
    (raise error : Process World Label Error Answer).Fails world := fun _ same => nomatch same

theorem fails_observe {label : Label} {read : World → Answer}
    {next : Answer → Process World Label Error Other} (rest : (next (read world)).Fails world) :
    (observe label read >>= next).Fails world := rest

theorem fails_bind {process : Process World Label Error Answer} (failed : process.Fails world)
    (next : Answer → Process World Label Error Other) : (process >>= next).Fails world := by
  intro answer
  rw [run_bind]
  split
  · rename_i after other ran
    exact absurd (congrArg Prod.snd ran) (failed other)
  · exact fun same => nomatch same

theorem fails_ok_bind {process : Process World Label Error Answer} {answer : Answer} {after : World}
    {next : Answer → Process World Label Error Other} (ran : process.run world = (after, .ok answer))
    (rest : (next answer).Fails after) : (process >>= next).Fails world := by
  rw [Fails, run_bind, ran]
  exact rest

theorem fails_rescue {process : Process World Label Error Answer} {error : Error}
    {handler : Error → Process World Label Error Answer}
    (ran : (process.run world).2 = .error error)
    (handled : ∀ after, (handler error).Fails after) : (process.rescue handler).Fails world := by
  intro answer
  rw [run_rescue]
  split
  · rename_i after other done
    rw [done] at ran
    cases ran
  · rename_i after other done
    rw [done] at ran
    cases ran
    exact handled after answer

end Failing

section Visiting

/-- The actions with the world each of them finds, and how the process ends, when others act in
between: the next action finds the next of these worlds. -/
def visits : Process World Label Error Answer → (Nat → World) →
    List (Label × World) × Except Error Answer
  | .done outcome, _ => ([], outcome)
  | .act label _ next, worlds =>
      let rest := (next (worlds 0)).visits fun count => worlds (count + 1)
      ((label, worlds 0) :: rest.1, rest.2)

variable (worlds : Nat → World)

@[simp] theorem visits_pure (answer : Answer) :
    (pure answer : Process World Label Error Answer).visits worlds = ([], .ok answer) := rfl

@[simp] theorem visits_observe_bind (label : Label) (read : World → Answer)
    (next : Answer → Process World Label Error Other) :
    (observe label read >>= next).visits worlds =
      ((label, worlds 0) ::
          ((next (read (worlds 0))).visits fun count => worlds (count + 1)).1,
        ((next (read (worlds 0))).visits fun count => worlds (count + 1)).2) := rfl

end Visiting

section Never

def Never (Bad : Answer → Prop) : Process World Label Error Answer → Prop
  | .done (.ok answer) => ¬Bad answer
  | .done (.error _) => True
  | .act _ _ next => ∀ world, (next world).Never Bad

end Never

section Every

def Every (Holds : Label → (World → World) → Prop) : Process World Label Error Answer → Prop
  | .done _ => True
  | .act label effect next => Holds label effect ∧ ∀ world, (next world).Every Holds

theorem every_bind {Holds : Label → (World → World) → Prop}
    {process : Process World Label Error Answer} {next : Answer → Process World Label Error Other}
    (first : process.Every Holds) (rest : ∀ answer, (next answer).Every Holds) :
    (process >>= next).Every Holds := by
  induction process with
  | done outcome =>
      cases outcome with
      | ok answer => exact rest answer
      | error error => trivial
  | act label effect after ih => exact ⟨first.1, fun world => ih world (first.2 world)⟩

theorem Every.mono {Holds Other : Label → (World → World) → Prop}
    {process : Process World Label Error Answer} (every : process.Every Holds)
    (mono : ∀ label effect, Holds label effect → Other label effect) : process.Every Other := by
  induction process with
  | done outcome => trivial
  | act label effect next ih => exact ⟨mono label effect every.1, fun world => ih world (every.2 world)⟩

end Every

end Process

/-- An action that was taken, with the world before and after it, and how the task ended if it did. -/
structure Entry (World Label Tag Error Answer : Type) where
  index : Nat
  tag : Tag
  label : Label
  before : World
  after : World
  outcome : Option (Except Error Answer)

/-- A task that was started when so many actions had been taken. -/
structure Opened (Tag : Type) where
  tag : Tag
  since : Nat
  deriving DecidableEq, Repr

structure Scene (World Label Tag Error Answer : Type) where
  world : World
  opened : List (Opened Tag) := []
  history : List (Entry World Label Tag Error Answer) := []

namespace Scene

variable (scene : Scene World Label Tag Error Answer)

def opening (tag : Tag) : Scene World Label Tag Error Answer :=
  { scene with opened := scene.opened ++ [⟨tag, scene.history.length⟩] }

def after (index : Nat) (tag : Tag) (label : Label) (effect : World → World)
    (outcome : Option (Except Error Answer)) : Scene World Label Tag Error Answer :=
  { scene with
    world := effect scene.world
    history := scene.history ++
      [⟨index, tag, label, scene.world, effect scene.world, outcome⟩] }

def Tagged : Prop := ∀ entry ∈ scene.history, ∃ since ≤ scene.history.length,
  scene.opened[entry.index]? = some ⟨entry.tag, since⟩

def Meanwhile (index : Nat) (now : Scene World Label Tag Error Answer) : Prop :=
  (∃ more, now.opened = scene.opened ++ more) ∧
    ∃ more, now.history = scene.history ++ more ∧ ∀ entry ∈ more, entry.index ≠ index

def Running (index : Nat) : Prop :=
  ∀ entry ∈ scene.history, entry.index = index → entry.outcome = none

variable {scene} {now later : Scene World Label Tag Error Answer} {index : Nat}

theorem Running.after {tag : Tag} {label : Label} {effect : World → World}
    {outcome : Option (Except Error Answer)} {other : Nat} (running : scene.Running other)
    (goes : other = index → outcome = none) :
    (scene.after index tag label effect outcome).Running other := by
  intro entry member mine
  rcases List.mem_append.mp member with before | last
  · exact running entry before mine
  · rw [List.mem_singleton.mp last] at mine ⊢
    exact goes mine.symm

def ended (scene : Scene World Label Tag Error Answer) : Bool :=
  (List.range scene.opened.length).all fun index =>
    scene.history.any fun entry => entry.index == index && entry.outcome.isSome

theorem not_running_of_ended (ended : scene.ended = true) {task : Opened Tag}
    (found : scene.opened[index]? = some task) : ¬scene.Running index := by
  intro running
  have bound := (List.getElem?_eq_some_iff.mp found).1
  have last := List.all_eq_true.mp ended index (List.mem_range.mpr bound)
  obtain ⟨entry, member, here⟩ := List.any_eq_true.mp last
  rw [Bool.and_eq_true, beq_iff_eq] at here
  rw [running entry member here.1] at here
  exact nomatch here.2

theorem Meanwhile.refl : scene.Meanwhile index scene :=
  ⟨⟨[], (List.append_nil _).symm⟩, [], (List.append_nil _).symm, fun _ member => nomatch member⟩

theorem Meanwhile.trans (first : scene.Meanwhile index now) (second : now.Meanwhile index later) :
    scene.Meanwhile index later := by
  obtain ⟨⟨newer, opened⟩, more, history, others⟩ := first
  obtain ⟨⟨newest, openedLater⟩, further, historyLater, othersLater⟩ := second
  refine ⟨⟨newer ++ newest, ?_⟩, more ++ further, ?_, ?_⟩
  · rw [openedLater, opened, List.append_assoc]
  · rw [historyLater, history, List.append_assoc]
  · intro entry member
    rcases List.mem_append.mp member with early | late
    · exact others entry early
    · exact othersLater entry late

theorem Meanwhile.kept (meanwhile : scene.Meanwhile index now)
    {entry : Entry World Label Tag Error Answer} (member : entry ∈ scene.history) :
    entry ∈ now.history := by
  obtain ⟨_, more, history, _⟩ := meanwhile
  rw [history]
  exact List.mem_append_left _ member

theorem Meanwhile.kept_after {tag : Tag} {label : Label} {effect : World → World}
    {outcome : Option (Except Error Answer)} {other : Nat}
    (meanwhile : (scene.after index tag label effect outcome).Meanwhile other now)
    {entry : Entry World Label Tag Error Answer} (member : entry ∈ scene.history) :
    entry ∈ now.history :=
  meanwhile.kept (List.mem_append_left _ member)

theorem Meanwhile.last {tag : Tag} {label : Label} {effect : World → World}
    {outcome : Option (Except Error Answer)} {other : Nat}
    (meanwhile : (scene.after index tag label effect outcome).Meanwhile other now) :
    ⟨index, tag, label, scene.world, effect scene.world, outcome⟩ ∈ now.history :=
  meanwhile.kept (List.mem_append_right _ (List.mem_singleton_self _))

def own (scene : Scene World Label Tag Error Answer) (index : Nat) :
    List (Entry World Label Tag Error Answer) :=
  scene.history.filter fun entry => entry.index == index

theorem mem_own {entry : Entry World Label Tag Error Answer} :
    entry ∈ scene.own index ↔ entry ∈ scene.history ∧ entry.index = index := by
  rw [own, List.mem_filter, beq_iff_eq]

theorem Meanwhile.own_eq (meanwhile : scene.Meanwhile index now) :
    now.own index = scene.own index := by
  obtain ⟨_, more, history, others⟩ := meanwhile
  have none : more.filter (fun entry => entry.index == index) = [] := by
    rw [List.filter_eq_nil_iff]
    intro entry member
    simpa using others entry member
  rw [own, own, history, List.filter_append, none, List.append_nil]

theorem own_after {tag : Tag} {label : Label} {effect : World → World}
    {outcome : Option (Except Error Answer)} :
    (scene.after index tag label effect outcome).own index =
      scene.own index ++ [⟨index, tag, label, scene.world, effect scene.world, outcome⟩] := by
  simp [own, after]

theorem own_opening (tagged : scene.Tagged) (tag : Tag) :
    (scene.opening tag).own scene.opened.length = [] := by
  rw [own, List.filter_eq_nil_iff]
  intro entry member mine
  obtain ⟨_, _, found⟩ := tagged entry member
  rw [beq_iff_eq.mp mine] at found
  have bound := (List.getElem?_eq_some_iff.mp found).1
  omega

theorem Meanwhile.opened (meanwhile : scene.Meanwhile index now) {other : Nat}
    {task : Opened Tag} (found : scene.opened[other]? = some task) :
    now.opened[other]? = some task := by
  obtain ⟨⟨more, opened⟩, _⟩ := meanwhile
  rw [opened, List.getElem?_append_left (List.getElem?_eq_some_iff.mp found).1]
  exact found

theorem getElem?_opening {tag : Tag} {other : Nat} {task : Opened Tag}
    (found : (scene.opening tag).opened[other]? = some task) :
    scene.opened[other]? = some task ∨
      (other = scene.opened.length ∧ task = ⟨tag, scene.history.length⟩) := by
  by_cases old : other < scene.opened.length
  · left
    rw [opening, List.getElem?_append_left old] at found
    exact found
  · right
    have bound := (List.getElem?_eq_some_iff.mp found).1
    simp only [opening, List.length_append, List.length_singleton] at bound
    have new : other = scene.opened.length := by omega
    subst new
    simp only [opening, List.getElem?_concat_length, Option.some.injEq] at found
    exact ⟨rfl, found.symm⟩

theorem opened_of_entry (tagged : scene.Tagged) {entry : Entry World Label Tag Error Answer}
    (member : entry ∈ scene.history) :
    ∃ opened ∈ scene.opened, scene.opened[entry.index]? = some opened ∧ opened.tag = entry.tag := by
  obtain ⟨since, _, found⟩ := tagged entry member
  exact ⟨_, List.mem_of_getElem? found, found, rfl⟩

def AtEnd (Holds : List (Entry World Label Tag Error Answer) →
      Entry World Label Tag Error Answer → Prop) (scene : Scene World Label Tag Error Answer) : Prop :=
  ∀ entry ∈ scene.history, entry.outcome.isSome → Holds (scene.own entry.index) entry

def Earlier (Holds : List (Entry World Label Tag Error Answer) →
      Entry World Label Tag Error Answer → Prop)
    (history : List (Entry World Label Tag Error Answer)) : Prop :=
  ∀ before entry after, history = before ++ entry :: after → Holds before entry

theorem earlier_nil {Holds : List (Entry World Label Tag Error Answer) →
    Entry World Label Tag Error Answer → Prop} : Earlier Holds [] := by
  intro before entry after same
  cases before with
  | nil => cases same
  | cons first rest => cases same

theorem earlier_concat {Holds : List (Entry World Label Tag Error Answer) →
      Entry World Label Tag Error Answer → Prop}
    {history : List (Entry World Label Tag Error Answer)}
    {last : Entry World Label Tag Error Answer} (earlier : Earlier Holds history)
    (holds : Holds history last) : Earlier Holds (history ++ [last]) := by
  intro before entry after same
  rcases List.eq_nil_or_concat after with rfl | ⟨rest, final, rfl⟩
  · obtain ⟨rfl, lasts⟩ := List.append_inj' same rfl
    rw [← List.head_eq_of_cons_eq lasts]
    exact holds
  · rw [List.concat_eq_append, ← List.cons_append, ← List.append_assoc] at same
    exact earlier before entry rest (List.append_inj' same rfl).1

theorem earlier_unique {Kind : Entry World Label Tag Error Answer → Prop}
    {history : List (Entry World Label Tag Error Answer)}
    (first : Earlier (fun before entry => Kind entry → ∀ other ∈ before, ¬Kind other) history)
    {left right : Entry World Label Tag Error Answer} (leftMember : left ∈ history)
    (rightMember : right ∈ history) (leftKind : Kind left) (rightKind : Kind right) :
    left = right := by
  obtain ⟨before, after, same⟩ := List.append_of_mem leftMember
  have leftFirst := first before left after same leftKind
  rw [same] at rightMember
  rcases List.mem_append.mp rightMember with early | late
  · exact absurd rightKind (leftFirst right early)
  · rcases List.mem_cons.mp late with rfl | later
    · rfl
    · obtain ⟨between, rest, split⟩ := List.append_of_mem later
      rw [split, ← List.cons_append, ← List.append_assoc] at same
      have rightFirst := first _ right rest same rightKind
      have between_left : left ∈ before ++ left :: between :=
        List.mem_append_right _ List.mem_cons_self
      exact absurd leftKind (rightFirst left between_left)

theorem earlier_mono {Holds Other : List (Entry World Label Tag Error Answer) →
      Entry World Label Tag Error Answer → Prop}
    {history : List (Entry World Label Tag Error Answer)} (earlier : Earlier Holds history)
    (mono : ∀ before entry, Holds before entry → Other before entry) : Earlier Other history :=
  fun before entry after same => mono before entry (earlier before entry after same)

end Scene

/-- The scene with what is left of each task. -/
structure Site (World Label Tag Error Answer : Type) extends
    Scene World Label Tag Error Answer where
  rests : List (Process World Label Error Answer) := []

inductive Move (Tag : Type) where
  | start (tag : Tag)
  | exec (index : Nat)
  deriving DecidableEq, Repr

section Runs

variable (program : Tag → Process World Label Error Answer)

def Site.step (site : Site World Label Tag Error Answer) :
    Move Tag → Option (Site World Label Tag Error Answer)
  | .start tag => some ⟨site.toScene.opening tag, site.rests ++ [program tag]⟩
  | .exec index =>
      match site.opened[index]?, site.rests[index]? with
      | some task, some (.act label effect next) =>
          let rest := next site.world
          some ⟨site.toScene.after index task.tag label effect rest.outcome?,
            site.rests.set index rest⟩
      | _, _ => none

structure Terms (World Label Tag Error Answer : Type) where
  Opens : Scene World Label Tag Error Answer → Tag → Prop := fun _ _ => True
  Acts : Scene World Label Tag Error Answer → Nat → Tag → Label → (World → World) → Prop :=
    fun _ _ _ _ _ => True

def Terms.Allow (terms : Terms World Label Tag Error Answer)
    (site : Site World Label Tag Error Answer) : Move Tag → Prop
  | .start tag => terms.Opens site.toScene tag
  | .exec index => ∀ task label effect next, site.opened[index]? = some task →
      site.rests[index]? = some (.act label effect next) →
        terms.Acts site.toScene index task.tag label effect

inductive Runs (terms : Terms World Label Tag Error Answer)
    (initial : Site World Label Tag Error Answer) : Site World Label Tag Error Answer → Prop
  | refl : Runs terms initial initial
  | step {site next : Site World Label Tag Error Answer} {move : Move Tag} :
      Runs terms initial site → terms.Allow site move → site.step program move = some next →
        Runs terms initial next

def Site.allows (opens : Scene World Label Tag Error Answer → Tag → Bool)
    (acts : Scene World Label Tag Error Answer → Nat → Tag → Label → (World → World) → Bool)
    (site : Site World Label Tag Error Answer) : Move Tag → Bool
  | .start tag => opens site.toScene tag
  | .exec index =>
      match site.opened[index]?, site.rests[index]? with
      | some task, some (.act label effect _) => acts site.toScene index task.tag label effect
      | _, _ => true

def Site.steps (opens : Scene World Label Tag Error Answer → Tag → Bool)
    (acts : Scene World Label Tag Error Answer → Nat → Tag → Label → (World → World) → Bool)
    (site : Site World Label Tag Error Answer) :
    List (Move Tag) → Option (Site World Label Tag Error Answer)
  | [] => some site
  | move :: rest =>
      if site.allows opens acts move then
        match site.step program move with
        | none => none
        | some next => next.steps opens acts rest
      else none

variable {program} {terms : Terms World Label Tag Error Answer}
  {initial site final : Site World Label Tag Error Answer}

theorem Runs.mono {other : Terms World Label Tag Error Answer}
    (opens : ∀ scene tag, terms.Opens scene tag → other.Opens scene tag)
    (acts : ∀ scene index tag label effect, terms.Acts scene index tag label effect →
      other.Acts scene index tag label effect)
    (run : Runs program terms initial final) : Runs program other initial final := by
  induction run with
  | refl => exact .refl
  | @step site next move _ allowed stepped ih =>
      refine .step ih ?_ stepped
      cases move with
      | start tag => exact opens _ _ allowed
      | exec index =>
          intro task label effect rest found left
          exact acts _ _ _ _ _ (allowed task label effect rest found left)

theorem runs_of_steps {opens : Scene World Label Tag Error Answer → Tag → Bool}
    {acts : Scene World Label Tag Error Answer → Nat → Tag → Label → (World → World) → Bool}
    (moves : List (Move Tag))
    (opensSound : ∀ scene tag, opens scene tag = true → terms.Opens scene tag)
    (actsSound : ∀ scene index tag label effect, acts scene index tag label effect = true →
      terms.Acts scene index tag label effect)
    (reached : Runs program terms initial site)
    (stepped : site.steps program opens acts moves = some final) :
    Runs program terms initial final := by
  induction moves generalizing site with
  | nil =>
      cases stepped
      exact reached
  | cons move rest ih =>
      rw [Site.steps] at stepped
      split at stepped
      · rename_i allowed
        split at stepped
        · cases stepped
        · rename_i next moved
          refine ih (.step reached ?_ moved) stepped
          cases move with
          | start tag => exact opensSound _ _ allowed
          | exec index =>
              intro task label effect next found left
              simp only [Site.allows, found, left] at allowed
              exact actsSound _ _ _ _ _ allowed
      · cases stepped

end Runs

section Keeping

variable (terms : Terms World Label Tag Error Answer)
  (Inv : Scene World Label Tag Error Answer → Prop)

def Keeps (index : Nat) (tag : Tag) :
    Process World Label Error Answer → Scene World Label Tag Error Answer → Prop
  | .done _, _ => True
  | .act label effect next, scene => ∀ now, scene.Meanwhile index now → now.Tagged →
      now.Running index → Inv now → terms.Acts now index tag label effect →
        Inv (now.after index tag label effect (next now.world).outcome?) ∧
          Keeps index tag (next now.world)
            (now.after index tag label effect (next now.world).outcome?)

variable {terms Inv} {index : Nat} {tag : Tag} {process : Process World Label Error Answer}
  {scene now : Scene World Label Tag Error Answer}

theorem Keeps.later (keeps : Keeps terms Inv index tag process scene)
    (meanwhile : scene.Meanwhile index now) : Keeps terms Inv index tag process now := by
  cases process with
  | done outcome => trivial
  | act label effect next =>
      intro later passed tagged running inv acts
      exact keeps later (meanwhile.trans passed) tagged running inv acts

section Rules

variable {label : Label} {next : Answer → Process World Label Error Other}

theorem keeps_observe {Inv : Scene World Label Tag Error Other → Prop}
    {terms : Terms World Label Tag Error Other} {scene : Scene World Label Tag Error Other}
    {read : World → Answer}
    (step : ∀ now, scene.Meanwhile index now → now.Tagged → now.Running index → Inv now →
      terms.Acts now index tag label id → ∀ answer, read now.world = answer →
        Inv (now.after index tag label id (next answer).outcome?) ∧
          Keeps terms Inv index tag (next answer)
            (now.after index tag label id (next answer).outcome?)) :
    Keeps terms Inv index tag (.observe label read >>= next) scene :=
  fun now meanwhile tagged running inv acts =>
    step now meanwhile tagged running inv acts (read now.world) rfl

theorem keeps_perform {Inv : Scene World Label Tag Error Other → Prop}
    {terms : Terms World Label Tag Error Other} {scene : Scene World Label Tag Error Other}
    {effect : World → World} {next : Unit → Process World Label Error Other}
    (step : ∀ now, scene.Meanwhile index now → now.Tagged → now.Running index → Inv now →
      terms.Acts now index tag label effect →
        Inv (now.after index tag label effect (next ()).outcome?) ∧
          Keeps terms Inv index tag (next ())
            (now.after index tag label effect (next ()).outcome?)) :
    Keeps terms Inv index tag (.perform label effect >>= next) scene := step

end Rules

theorem keeps_act {label : Label} {effect : World → World}
    {rest : World → Process World Label Error Answer}
    (step : ∀ now, scene.Meanwhile index now → now.Tagged → now.Running index → Inv now →
      terms.Acts now index tag label effect →
        Inv (now.after index tag label effect (rest now.world).outcome?) ∧
          Keeps terms Inv index tag (rest now.world)
            (now.after index tag label effect (rest now.world).outcome?)) :
    Keeps terms Inv index tag (.act label effect rest) scene := step

theorem keeps_every {Holds : Label → (World → World) → Prop}
    (kept : ∀ now label effect outcome, now.opened[index]?.map Opened.tag = some tag → now.Tagged →
      now.Running index → Inv now → terms.Acts now index tag label effect → Holds label effect →
        Inv (now.after index tag label effect outcome))
    (every : process.Every Holds) (found : scene.opened[index]?.map Opened.tag = some tag) :
    Keeps terms Inv index tag process scene := by
  induction process generalizing scene with
  | done outcome => trivial
  | act label effect next ih =>
      intro now meanwhile tagged running inv acts
      have foundNow : now.opened[index]?.map Opened.tag = some tag := by
        obtain ⟨task, opened, same⟩ := Option.map_eq_some_iff.mp found
        rw [meanwhile.opened opened, Option.map_some, same]
      exact ⟨kept now label effect _ foundNow tagged running inv acts every.1,
        ih now.world (every.2 now.world) foundNow⟩

theorem Scene.tagged_opening (tagged : scene.Tagged) : (scene.opening tag).Tagged := by
  intro entry member
  obtain ⟨since, bound, found⟩ := tagged entry member
  refine ⟨since, bound, ?_⟩
  rw [Scene.opening, List.getElem?_append_left (List.getElem?_eq_some_iff.mp found).1]
  exact found

theorem Scene.tagged_after {task : Opened Tag} {label : Label} {effect : World → World}
    {outcome : Option (Except Error Answer)} (tagged : scene.Tagged)
    (found : scene.opened[index]? = some task) (since : task.since ≤ scene.history.length) :
    (scene.after index task.tag label effect outcome).Tagged := by
  intro entry member
  have longer : (scene.after index task.tag label effect outcome).history.length =
      scene.history.length + 1 := by
    rw [Scene.after, List.length_append, List.length_singleton]
  rcases List.mem_append.mp member with before | last
  · obtain ⟨start, bound, opened⟩ := tagged entry before
    exact ⟨start, by omega, opened⟩
  · rw [List.mem_singleton.mp last]
    exact ⟨task.since, by omega, found⟩

structure Kept (terms : Terms World Label Tag Error Answer)
    (Inv : Scene World Label Tag Error Answer → Prop) (site : Site World Label Tag Error Answer) :
    Prop where
  inv : Inv site.toScene
  tagged : site.toScene.Tagged
  past : ∀ task ∈ site.opened, task.since ≤ site.history.length
  running : ∀ index label effect next, site.rests[index]? = some (.act label effect next) →
    site.toScene.Running index
  length : site.rests.length = site.opened.length
  keep : ∀ index task rest, site.opened[index]? = some task → site.rests[index]? = some rest →
    Keeps terms Inv index task.tag rest site.toScene

theorem Scene.meanwhile_opening : scene.Meanwhile index (scene.opening tag) :=
  ⟨⟨_, rfl⟩, [], (List.append_nil _).symm, fun _ member => nomatch member⟩

theorem Scene.meanwhile_after {other : Nat} {label : Label} {effect : World → World}
    {outcome : Option (Except Error Answer)} (different : index ≠ other) :
    scene.Meanwhile other (scene.after index tag label effect outcome) := by
  refine ⟨⟨[], (List.append_nil _).symm⟩, _, rfl, ?_⟩
  intro entry member
  rw [List.mem_singleton.mp member]
  exact different

theorem Scene.atEnd_after {Holds : List (Entry World Label Tag Error Answer) →
      Entry World Label Tag Error Answer → Prop} {label : Label} {effect : World → World}
    {outcome : Option (Except Error Answer)} (atEnd : scene.AtEnd Holds)
    (running : scene.Running index)
    (last : outcome.isSome → Holds
      (scene.own index ++ [⟨index, tag, label, scene.world, effect scene.world, outcome⟩])
      ⟨index, tag, label, scene.world, effect scene.world, outcome⟩) :
    (scene.after index tag label effect outcome).AtEnd Holds := by
  intro entry member ended
  rcases List.mem_append.mp member with before | new
  · by_cases mine : entry.index = index
    · rw [running entry before mine] at ended
      cases ended
    · rw [(Scene.meanwhile_after (Ne.symm mine)).own_eq]
      exact atEnd entry before ended
  · rw [List.mem_singleton.mp new] at ended ⊢
    rw [Scene.own_after]
    exact last ended

variable {program : Tag → Process World Label Error Answer}
  {initial site next final : Site World Label Tag Error Answer} {move : Move Tag}

theorem Kept.step (opening : ∀ scene tag, scene.Tagged → Inv scene → terms.Opens scene tag →
      Inv (scene.opening tag) ∧
        Keeps terms Inv scene.opened.length tag (program tag) (scene.opening tag))
    (kept : Kept terms Inv site) (allowed : terms.Allow site move)
    (stepped : site.step program move = some next) : Kept terms Inv next := by
  cases move with
  | start tag =>
      cases stepped
      obtain ⟨inv, keeps⟩ := opening site.toScene tag kept.tagged kept.inv allowed
      refine ⟨inv, Scene.tagged_opening kept.tagged, ?_, ?_, ?_, ?_⟩
      · intro task member
        rcases List.mem_append.mp member with before | last
        · exact kept.past task before
        · rw [List.mem_singleton.mp last]
          exact Nat.le_refl _
      · intro index label effect rest left entry member mine
        by_cases old : index < site.opened.length
        · rw [List.getElem?_append_left (by rw [kept.length]; exact old)] at left
          exact kept.running index label effect rest left entry member mine
        · obtain ⟨_, _, found⟩ := kept.tagged entry member
          have bound := (List.getElem?_eq_some_iff.mp found).1
          omega
      · simp only [Scene.opening, List.length_append, List.length_singleton, kept.length]
      · intro index task rest found left
        by_cases old : index < site.opened.length
        · simp only [Scene.opening, List.getElem?_append_left old] at found
          rw [List.getElem?_append_left (by rw [kept.length]; exact old)] at left
          exact (kept.keep index task rest found left).later Scene.meanwhile_opening
        · have bound := (List.getElem?_eq_some_iff.mp found).1
          simp only [Scene.opening, List.length_append, List.length_singleton] at bound
          have new : index = site.opened.length := by omega
          subst new
          have task_eq : task = ⟨tag, site.history.length⟩ := by
            simpa [Scene.opening] using found.symm
          have rest_eq : rest = program tag := by
            rw [← kept.length] at left
            simpa using left.symm
          rw [task_eq, rest_eq]
          exact keeps
  | exec index =>
      rw [Site.step] at stepped
      split at stepped
      · rename_i task label effect rest found left
        cases stepped
        have acts := allowed task label effect rest found left
        obtain ⟨inv, keeps⟩ := kept.keep index task _ found left site.toScene Scene.Meanwhile.refl
          kept.tagged (kept.running index label effect rest left) kept.inv acts
        have since := kept.past task (List.mem_of_getElem? found)
        refine ⟨inv, Scene.tagged_after kept.tagged found since, ?_, ?_, ?_, ?_⟩
        · intro other member
          have bound := kept.past other member
          simp only [Scene.after, List.length_append, List.length_singleton]
          omega
        · intro other otherLabel otherEffect otherRest otherLeft entry member mine
          by_cases same : other = index
          · subst same
            rw [List.getElem?_set_self (List.getElem?_eq_some_iff.mp left).1] at otherLeft
            have acting := Option.some.inj otherLeft
            rcases List.mem_append.mp member with before | last
            · exact kept.running other label effect rest left entry before mine
            · rw [List.mem_singleton.mp last]
              simp only [acting, Process.outcome?]
          · rw [List.getElem?_set_ne (Ne.symm same)] at otherLeft
            rcases List.mem_append.mp member with before | last
            · exact kept.running other otherLabel otherEffect otherRest otherLeft entry before mine
            · rw [List.mem_singleton.mp last] at mine
              exact absurd mine.symm same
        · simp only [List.length_set]
          exact kept.length
        · intro other otherTask otherRest otherFound otherLeft
          by_cases same : other = index
          · subst same
            have bound := (List.getElem?_eq_some_iff.mp left).1
            rw [List.getElem?_set_self bound] at otherLeft
            cases otherLeft
            have task_eq : otherTask = task := Option.some.inj (otherFound.symm.trans found)
            rw [task_eq]
            exact keeps
          · rw [List.getElem?_set_ne (Ne.symm same)] at otherLeft
            exact (kept.keep other otherTask otherRest otherFound otherLeft).later
              (Scene.meanwhile_after (Ne.symm same))
      · cases stepped

theorem Runs.keeps (opening : ∀ scene tag, scene.Tagged → Inv scene → terms.Opens scene tag →
      Inv (scene.opening tag) ∧
        Keeps terms Inv scene.opened.length tag (program tag) (scene.opening tag))
    (kept : Kept terms Inv initial) (run : Runs program terms initial final) :
    Kept terms Inv final := by
  induction run with
  | refl => exact kept
  | step _ allowed stepped ih => exact ih.step opening allowed stepped

theorem kept_initial {world : World} (inv : Inv ⟨world, [], []⟩) :
    Kept terms Inv ⟨⟨world, [], []⟩, []⟩ where
  inv := inv
  tagged := fun _ member => nomatch member
  past := fun _ member => nomatch member
  running := fun _ _ _ _ left => nomatch left
  length := rfl
  keep := fun _ _ _ found => nomatch found

end Keeping

end Processes
