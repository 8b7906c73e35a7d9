import Messanger.Library.Processes

/-!
Tasks that give way only after certain actions.  A turn of a task is what it does up to and with
the next such action, or to its end; tasks that take turns are tasks whose actions are turns.
-/

namespace Processes

variable {World Label Error Answer Other Tag : Type}

namespace Process

variable (gives : Label → Bool)

def turn : Process World Label Error Answer → World → World × Process World Label Error Answer
  | .done outcome, world => (world, .done outcome)
  | .act label effect next, world =>
      if gives label then (effect world, next world) else (next world).turn (effect world)

def turns : Process World Label Error Answer →
    Process World Label Error Answer × (World → Process World Label Error Answer)
  | .done outcome => (.done outcome, fun _ => .done outcome)
  | .act label effect next =>
      let rest := fun world =>
        if gives label then (turns (next world)).1 else (turns (next world)).2 (effect world)
      (.act label (fun world => ((Process.act label effect next).turn gives world).1) rest, rest)

def coarse (process : Process World Label Error Answer) : Process World Label Error Answer :=
  (process.turns gives).1

theorem turns_rest (process : Process World Label Error Answer) (world : World) :
    (process.turns gives).2 world = ((process.turn gives world).2).coarse gives := by
  induction process generalizing world with
  | done outcome => rfl
  | act label effect next ih =>
      simp only [turns, turn]
      split
      · rfl
      · exact ih world (effect world)

theorem coarse_act (label : Label) (effect : World → World)
    (next : World → Process World Label Error Answer) :
    (Process.act label effect next).coarse gives =
      .act label (fun world => ((Process.act label effect next).turn gives world).1)
        fun world => (((Process.act label effect next).turn gives world).2).coarse gives := by
  refine congrArg (Process.act label _) (funext fun world => ?_)
  exact turns_rest gives (.act label effect next) world

@[simp] theorem outcome?_coarse (process : Process World Label Error Answer) :
    (process.coarse gives).outcome? = process.outcome? := by
  cases process with
  | done outcome => rfl
  | act label effect next => rfl

variable {gives}

def Until (gives : Label → Bool) (Post : World → Process World Label Error Answer → Prop) :
    Process World Label Error Answer → World → Prop
  | .done outcome, world => Post world (.done outcome)
  | .act label effect next, world =>
      if gives label then Post (effect world) (next world)
      else (next world).Until gives Post (effect world)

def Within (gives : Label → Bool) (Post : World → Except Error Answer → Prop) :
    Process World Label Error Answer → World → Prop
  | .done outcome, world => Post world outcome
  | .act label effect next, world =>
      gives label = false ∧ (next world).Within gives Post (effect world)

section Until

variable {Post : World → Process World Label Error Answer → Prop} {world : World}

theorem until_iff (process : Process World Label Error Answer) :
    process.Until gives Post world ↔ Post (process.turn gives world).1 (process.turn gives world).2 := by
  induction process generalizing world with
  | done outcome => rfl
  | act label effect next ih =>
      simp only [Until, turn]
      split
      · rfl
      · exact ih world

theorem Until.mono {Weaker : World → Process World Label Error Answer → Prop}
    {process : Process World Label Error Answer} (holds : process.Until gives Post world)
    (weaker : ∀ world rest, Post world rest → Weaker world rest) :
    process.Until gives Weaker world := by
  rw [until_iff] at holds ⊢
  exact weaker _ _ holds

theorem until_within {part : Process World Label Error Other}
    {next : Other → Process World Label Error Answer}
    (within : part.Within gives (fun world outcome =>
      match outcome with
      | .ok answer => (next answer).Until gives Post world
      | .error error => Post world (.done (.error error))) world) :
    (part >>= next).Until gives Post world := by
  induction part generalizing world with
  | done outcome =>
      cases outcome with
      | ok answer => exact within
      | error error => exact within
  | act label effect rest ih =>
      rw [act_bind, Until, within.1]
      exact ih world within.2

end Until

section Within

variable {Post : World → Except Error Answer → Prop} {world : World}

theorem Within.mono {Weaker : World → Except Error Answer → Prop}
    {process : Process World Label Error Answer} (holds : process.Within gives Post world)
    (weaker : ∀ world outcome, Post world outcome → Weaker world outcome) :
    process.Within gives Weaker world := by
  induction process generalizing world with
  | done outcome => exact weaker _ _ holds
  | act label effect next ih => exact ⟨holds.1, ih world holds.2⟩

theorem within_bind {part : Process World Label Error Other}
    {next : Other → Process World Label Error Answer}
    (within : part.Within gives (fun world outcome =>
      match outcome with
      | .ok answer => (next answer).Within gives Post world
      | .error error => Post world (.error error)) world) :
    (part >>= next).Within gives Post world := by
  induction part generalizing world with
  | done outcome =>
      cases outcome with
      | ok answer => exact within
      | error error => exact within
  | act label effect rest ih => exact ⟨within.1, ih world within.2⟩

theorem run_of_within {process : Process World Label Error Answer}
    (holds : process.Within gives Post world) :
    Post (process.run world).1 (process.run world).2 := by
  induction process generalizing world with
  | done outcome => exact holds
  | act label effect next ih => exact ih world holds.2

end Within

section Every

variable {Holds : (World → World) → Prop}

theorem holds_turn (idle : Holds id)
    (comp : ∀ (first : World → World) (second : World → World → World), Holds first →
      (∀ world, Holds (second world)) → Holds fun world => second world (first world))
    {process : Process World Label Error Answer}
    (every : process.Every fun _ effect => Holds effect) :
    Holds fun world => (process.turn gives world).1 := by
  induction process with
  | done outcome => exact idle
  | act label effect next ih =>
      simp only [turn]
      cases gives label with
      | true => exact every.1
      | false => exact comp effect _ every.1 fun world => ih world (every.2 world)

theorem every_coarse (idle : Holds id)
    (comp : ∀ (first : World → World) (second : World → World → World), Holds first →
      (∀ world, Holds (second world)) → Holds fun world => second world (first world))
    {process : Process World Label Error Answer}
    (every : process.Every fun _ effect => Holds effect) :
    (process.coarse gives).Every fun _ effect => Holds effect := by
  have both : (process.coarse gives).Every (fun _ effect => Holds effect) ∧
      ∀ world, ((process.turns gives).2 world).Every fun _ effect => Holds effect := by
    induction process with
    | done outcome => exact ⟨trivial, fun _ => trivial⟩
    | act label effect next ih =>
        have rest : ∀ world, ((Process.act label effect next).turns gives).2 world |>.Every
            fun _ effect => Holds effect := by
          intro world
          simp only [turns]
          split
          · exact (ih world (every.2 world)).1
          · exact (ih world (every.2 world)).2 (effect world)
        exact ⟨⟨holds_turn idle comp every, rest⟩, rest⟩
  exact both.1

end Every

end Process

section Keeping

variable {terms : Terms World Label Tag Error Answer}
  {Inv : Scene World Label Tag Error Answer → Prop} {gives : Label → Bool} {index : Nat} {tag : Tag}
  {process : Process World Label Error Answer} {scene : Scene World Label Tag Error Answer}

theorem keeps_coarse
    (step : ∀ now label, scene.Meanwhile index now → now.Tagged → now.Running index → Inv now →
      terms.Acts now index tag label (fun world => (process.turn gives world).1) →
        process.Until gives (fun world rest =>
          Inv (now.after index tag label (fun _ => world) rest.outcome?) ∧
            Keeps terms Inv index tag (rest.coarse gives)
              (now.after index tag label (fun _ => world) rest.outcome?)) now.world) :
    Keeps terms Inv index tag (process.coarse gives) scene := by
  cases process with
  | done outcome => trivial
  | act label effect next =>
      rw [Process.coarse_act]
      intro now meanwhile tagged running inv acts
      have kept := (Process.until_iff _).mp (step now label meanwhile tagged running inv acts)
      rw [Process.outcome?_coarse]
      exact kept

end Keeping

end Processes
