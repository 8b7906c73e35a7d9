import Messanger.Library.Chronicle

/-!
Processes as parts of a larger system.  A process that was written for one part of a world runs in
the whole of it; and any process may end before any of its actions, as when it dies or the database
goes away, and what the action would have done is then not done.
-/

namespace Processes

variable {World Label Error Answer Other Tag Small Op Fault : Type}

structure Part (World Label Error Small Op Fault : Type) where
  get : World → Small
  set : Small → World → World
  label : Op → Label
  error : Fault → Error

namespace Process

variable (part : Part World Label Error Small Op Fault)

def embed : Process Small Op Fault Answer → Process World Label Error Answer
  | .done outcome => .done (outcome.mapError part.error)
  | .act op effect next =>
      .act (part.label op) (fun world => part.set (effect (part.get world)) world)
        fun world => (next (part.get world)).embed

variable {part} {process : Process Small Op Fault Answer}

theorem embed_bind (next : Answer → Process Small Op Fault Other) :
    (process >>= next).embed part = process.embed part >>= fun answer => (next answer).embed part := by
  induction process with
  | done outcome =>
      cases outcome with
      | ok answer => rfl
      | error error => rfl
  | act op effect rest ih =>
      exact congrArg (Process.act _ _) (funext fun world => ih (part.get world))

theorem along_embed {Holds : Op → (Small → Small) → Prop}
    {Wider : Label → (World → World) → Prop} {Post : Answer → Prop}
    (along : process.Along Holds Post)
    (wider : ∀ op effect, Holds op effect →
      Wider (part.label op) fun world => part.set (effect (part.get world)) world) :
    (process.embed part).Along Wider Post := by
  induction process with
  | done outcome =>
      cases outcome with
      | ok answer => exact along
      | error error => trivial
  | act op effect next ih =>
      exact ⟨wider op effect along.1, fun world => ih (part.get world) (along.2 (part.get world))⟩

end Process

def falter (falters : World → Option Error) (tick effect : World → World) (world : World) : World :=
  tick (if (falters world).isSome then world else effect world)

def Process.frail (falters : World → Option Error) (tick : World → World) :
    Process World Label Error Answer → Process World Label Error Answer
  | .done outcome => .done outcome
  | .act label effect next => .act label (falter falters tick effect) fun world =>
      match falters world with
      | some error => .done (.error error)
      | none => (next world).frail falters tick

def Faltering (falters : World → Option Error) (tick : World → World)
    (Holds : Label → (World → World) → Prop) (label : Label) (effect : World → World) : Prop :=
  ∃ inner, Holds label inner ∧ effect = falter falters tick inner

variable {falters : World → Option Error} {tick effect : World → World} {world : World}

theorem falter_cases (falters : World → Option Error) (tick effect : World → World) (world : World) :
    falter falters tick effect world = tick world ∨
      (falters world = none ∧ falter falters tick effect world = tick (effect world)) := by
  cases failed : falters world with
  | some error => exact .inl (by rw [falter, failed]; rfl)
  | none => exact .inr ⟨rfl, by rw [falter, failed]; rfl⟩

namespace Process

variable {process : Process World Label Error Answer}

theorem frail_bind (next : Answer → Process World Label Error Other) :
    (process >>= next).frail falters tick =
      process.frail falters tick >>= fun answer => (next answer).frail falters tick := by
  induction process with
  | done outcome =>
      cases outcome with
      | ok answer => rfl
      | error error => rfl
  | act label effect rest ih =>
      refine congrArg (Process.act label _) (funext fun world => ?_)
      change (match falters world with
        | some error => Process.done (.error error)
        | none => (rest world >>= next).frail falters tick) =
          Process.bind (match falters world with
            | some error => Process.done (.error error)
            | none => (rest world).frail falters tick) fun answer => (next answer).frail falters tick
      cases falters world with
      | some error => rfl
      | none => exact ih world

theorem along_frail {Holds : Label → (World → World) → Prop} {Post : Answer → Prop}
    (along : process.Along Holds Post) :
    (process.frail falters tick).Along (Faltering falters tick Holds) Post := by
  induction process with
  | done outcome =>
      cases outcome with
      | ok answer => exact along
      | error error => trivial
  | act label effect rest ih =>
      refine ⟨⟨effect, along.1, rfl⟩, fun world => ?_⟩
      cases failed : falters world with
      | some error => simp only [failed, Along]
      | none =>
          simp only [failed]
          exact ih world (along.2 world)

end Process

section Keeping

variable {terms : Terms World Label Tag Error Answer}
  {Inv : Scene World Label Tag Error Answer → Prop} {index : Nat} {tag : Tag} {label : Label}
  {next : World → Process World Label Error Answer} {scene : Scene World Label Tag Error Answer}

theorem keeps_frail
    (step : ∀ now, scene.Meanwhile index now → now.Tagged → now.Running index → Inv now →
      terms.Acts now index tag label (falter falters tick effect) →
        (∀ outcome, Inv (now.after index tag label (falter falters tick effect) outcome)) ∧
          (falters now.world = none → ((next now.world).frail falters tick).outcome? = none →
            Keeps terms Inv index tag ((next now.world).frail falters tick)
              (now.after index tag label (falter falters tick effect) none))) :
    Keeps terms Inv index tag ((Process.act label effect next).frail falters tick) scene := by
  intro now meanwhile tagged running inv acts
  obtain ⟨kept, rest⟩ := step now meanwhile tagged running inv acts
  refine ⟨kept _, ?_⟩
  cases failed : falters now.world with
  | some error => simp only [failed, Keeps]
  | none =>
      have goes := rest failed
      simp only [failed]
      generalize (next now.world).frail falters tick = left at goes ⊢
      cases left with
      | done outcome => trivial
      | act label effect next => exact goes rfl

end Keeping

end Processes
