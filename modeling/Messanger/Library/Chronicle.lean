import Messanger.Library.Latest
import Messanger.Library.Processes

/-!
The worlds that a scene has gone through, and parts of a task whose actions all are of a kind: what
the task knows when a part begins it still knows at its end, with what it has found out meanwhile.
-/

namespace Processes

variable {World Label Error Answer Other Tag : Type}

namespace Scene

variable {scene now : Scene World Label Tag Error Answer} {index number : Nat}

def worldAt (scene : Scene World Label Tag Error Answer) (number : Nat) : World :=
  ((scene.history[number]?).map Entry.before).getD scene.world

@[simp] theorem worldAt_length : scene.worldAt scene.history.length = scene.world := by
  simp [worldAt]

@[simp] theorem length_after {tag : Tag} {label : Label} {effect : World → World}
    {outcome : Option (Except Error Answer)} :
    (scene.after index tag label effect outcome).history.length = scene.history.length + 1 := by
  simp [after]

theorem worldAt_after {tag : Tag} {label : Label} {effect : World → World}
    {outcome : Option (Except Error Answer)} (past : number ≤ scene.history.length) :
    (scene.after index tag label effect outcome).worldAt number = scene.worldAt number := by
  rcases Nat.lt_or_eq_of_le past with before | rfl
  · rw [worldAt, worldAt, after, List.getElem?_append_left before,
      List.getElem?_eq_getElem before]
    rfl
  · simp [worldAt, after]

@[simp] theorem worldAt_last {tag : Tag} {label : Label} {effect : World → World}
    {outcome : Option (Except Error Answer)} :
    (scene.after index tag label effect outcome).worldAt (scene.history.length + 1) =
      effect scene.world := by
  simp [worldAt, after]

theorem Meanwhile.length_le (meanwhile : scene.Meanwhile index now) :
    scene.history.length ≤ now.history.length := by
  obtain ⟨_, more, history, _⟩ := meanwhile
  rw [history, List.length_append]
  omega

theorem Meanwhile.worldAt_eq (meanwhile : scene.Meanwhile index now)
    (past : number < scene.history.length) : now.worldAt number = scene.worldAt number := by
  obtain ⟨_, more, history, _⟩ := meanwhile
  rw [worldAt, worldAt, history, List.getElem?_append_left past,
    List.getElem?_eq_getElem past]
  rfl

theorem drop_after {tag : Tag} {label : Label} {effect : World → World}
    {outcome : Option (Except Error Answer)} (past : number ≤ scene.history.length) :
    (scene.after index tag label effect outcome).history.drop number =
      scene.history.drop number ++ [⟨index, tag, label, scene.world, effect scene.world, outcome⟩] := by
  rw [after, List.drop_append_of_le_length past]

/-- No task has acted after its end. -/
def Orderly (scene : Scene World Label Tag Error Answer) : Prop :=
  Earlier (fun before entry => ∀ earlier ∈ before, earlier.index = entry.index →
    earlier.outcome = none) scene.history

theorem orderly_after {tag : Tag} {label : Label} {effect : World → World}
    {outcome : Option (Except Error Answer)} (orderly : scene.Orderly)
    (running : scene.Running index) : (scene.after index tag label effect outcome).Orderly :=
  earlier_concat orderly running

def Connected (scene : Scene World Label Tag Error Answer) : Prop :=
  ∀ number entry, scene.history[number]? = some entry → scene.worldAt (number + 1) = entry.after

theorem connected_after {tag : Tag} {label : Label} {effect : World → World}
    {outcome : Option (Except Error Answer)} (connected : scene.Connected) :
    (scene.after index tag label effect outcome).Connected := by
  intro number entry found
  have bound := (List.getElem?_eq_some_iff.mp found).1
  rw [length_after] at bound
  rcases Nat.lt_or_eq_of_le (Nat.le_of_lt_succ bound) with before | rfl
  · rw [worldAt_after before]
    rw [after, List.getElem?_append_left before] at found
    exact connected number entry found
  · rw [worldAt_last]
    simp only [after, List.getElem?_concat_length] at found
    rw [← Option.some.inj found]

theorem Connected.worldAt_meanwhile {tag : Tag} {label : Label} {effect : World → World}
    {outcome : Option (Except Error Answer)} {other : Nat} (connected : now.Connected)
    (meanwhile : (scene.after index tag label effect outcome).Meanwhile other now) :
    now.worldAt (scene.history.length + 1) = effect scene.world := by
  obtain ⟨_, more, history, _⟩ := meanwhile
  have found : now.history[scene.history.length]? =
      some ⟨index, tag, label, scene.world, effect scene.world, outcome⟩ := by
    rw [history, List.getElem?_append_left (by rw [length_after]; exact Nat.lt_succ_self _)]
    exact List.getElem?_concat_length
  exact connected _ _ found

theorem Connected.worldAt_begun (connected : now.Connected) (began : scene.Connected)
    (meanwhile : scene.Meanwhile index now) (acted : scene.history ≠ []) :
    now.worldAt scene.history.length = scene.world := by
  obtain ⟨_, more, history, _⟩ := meanwhile
  rcases List.eq_nil_or_concat scene.history with empty | ⟨front, last, filled⟩
  · exact absurd empty acted
  · rw [List.concat_eq_append] at filled
    have length : scene.history.length = front.length + 1 := by
      rw [filled, List.length_append, List.length_singleton]
    have first : scene.history[front.length]? = some last := by
      rw [filled, List.getElem?_concat_length]
    have second : now.history[front.length]? = some last := by
      rw [history, List.getElem?_append_left (by omega), first]
    rw [length, connected _ _ second, ← began _ _ first, ← length, worldAt_length]

theorem Connected.induct_meanwhile (Holds : List (Entry World Label Tag Error Answer) → World → Prop)
    (connected : now.Connected) (began : scene.Connected) (meanwhile : scene.Meanwhile index now)
    (acted : scene.history ≠ []) (start : Holds scene.history scene.world)
    (step : ∀ before (entry : Entry World Label Tag Error Answer) after,
      now.history = before ++ entry :: after → entry.index ≠ index →
        Holds before entry.before → Holds (before ++ [entry]) entry.after) :
    Holds now.history now.world := by
  have begun := connected.worldAt_begun began meanwhile acted
  obtain ⟨_, more, history, others⟩ := meanwhile
  have steps : ∀ count ≤ more.length,
      Holds (scene.history ++ more.take count) (now.worldAt (scene.history.length + count)) := by
    intro count bound
    induction count with
    | zero =>
        rw [List.take_zero, List.append_nil, Nat.add_zero, begun]
        exact start
    | succ count ih =>
        have split : now.history =
            (scene.history ++ more.take count) ++ more[count] :: more.drop (count + 1) := by
          rw [history, List.append_assoc, List.getElem_cons_drop, List.take_append_drop]
        have found : now.history[scene.history.length + count]? = some more[count] := by
          rw [history, List.getElem?_append_right (Nat.le_add_right _ _), Nat.add_sub_cancel_left]
          exact List.getElem?_eq_getElem _
        have before : now.worldAt (scene.history.length + count) = (more[count]).before := by
          rw [worldAt, found]
          rfl
        have held := ih (Nat.le_of_succ_le bound)
        rw [before] at held
        rw [← Nat.add_assoc, connected _ _ found, List.take_succ_eq_append_getElem bound,
          ← List.append_assoc]
        exact step _ _ _ split (others _ (List.getElem_mem bound)) held
  have finish := steps more.length (Nat.le_refl _)
  rw [List.take_length, ← List.length_append, ← history, worldAt_length] at finish
  exact finish

theorem Connected.lasts (Holds : World → Prop)
    {Ends : Entry World Label Tag Error Answer → Prop} {later : Nat} (connected : scene.Connected)
    (step : ∀ entry ∈ scene.history, Holds entry.before → Holds entry.after ∨ Ends entry)
    (ordered : number ≤ later) (past : later ≤ scene.history.length)
    (held : Holds (scene.worldAt number)) : Holds (scene.worldAt later) ∨
      ∃ between entry, number ≤ between ∧ between < later ∧
        scene.history[between]? = some entry ∧ Ends entry := by
  induction ordered with
  | refl => exact .inl held
  | @step later ordered ih =>
      have found : scene.history[later]? = some scene.history[later] :=
        List.getElem?_eq_getElem past
      rcases ih (Nat.le_of_succ_le past) with still | ⟨between, entry, lower, upper, same, ended⟩
      · have before : scene.worldAt later = (scene.history[later]).before := by
          rw [worldAt, found]
          rfl
        rw [before] at still
        rw [connected later _ found]
        rcases step _ (List.getElem_mem past) still with kept | ended
        · exact .inl kept
        · exact .inr ⟨later, _, ordered, Nat.lt_succ_self _, found, ended⟩
      · exact .inr ⟨between, entry, lower, Nat.lt_succ_of_lt upper, same, ended⟩

theorem mem_drop {entry : Entry World Label Tag Error Answer} {between : Nat}
    (found : scene.history[between]? = some entry) (lower : number ≤ between) :
    entry ∈ scene.history.drop number := by
  refine List.mem_iff_getElem?.mpr ⟨between - number, ?_⟩
  rw [List.getElem?_drop, Nat.add_sub_cancel' lower]
  exact found

end Scene

namespace Process

/-- Every action on every path is such, and so is every answer. -/
def Along (Holds : Label → (World → World) → Prop) (Post : Answer → Prop) :
    Process World Label Error Answer → Prop
  | .done (.ok answer) => Post answer
  | .done (.error _) => True
  | .act label effect next => Holds label effect ∧ ∀ world, (next world).Along Holds Post

variable {Holds : Label → (World → World) → Prop}

theorem along_bind {Mid : Answer → Prop} {Post : Other → Prop}
    {process : Process World Label Error Answer} {next : Answer → Process World Label Error Other}
    (first : process.Along Holds Mid) (rest : ∀ answer, Mid answer → (next answer).Along Holds Post) :
    (process >>= next).Along Holds Post := by
  induction process with
  | done outcome =>
      cases outcome with
      | ok answer => exact rest answer first
      | error error => trivial
  | act label effect after ih => exact ⟨first.1, fun world => ih world (first.2 world)⟩

theorem along_rescue {Post : Answer → Prop} {process : Process World Label Error Answer}
    {handler : Error → Process World Label Error Answer} (first : process.Along Holds Post)
    (handled : ∀ error, (handler error).Along Holds Post) :
    (process.rescue handler).Along Holds Post := by
  induction process with
  | done outcome =>
      cases outcome with
      | ok answer => exact first
      | error error => exact handled error
  | act label effect after ih => exact ⟨first.1, fun world => ih world (first.2 world)⟩

theorem Along.mono {Weaker : Label → (World → World) → Prop} {Post Wider : Answer → Prop}
    {process : Process World Label Error Answer} (along : process.Along Holds Post)
    (weaker : ∀ label effect, Holds label effect → Weaker label effect)
    (wider : ∀ answer, Post answer → Wider answer) : process.Along Weaker Wider := by
  induction process with
  | done outcome =>
      cases outcome with
      | ok answer => exact wider answer along
      | error error => trivial
  | act label effect next ih =>
      exact ⟨weaker label effect along.1, fun world => ih world (along.2 world)⟩

theorem Along.every {Wider : Label → (World → World) → Prop} {Post : Answer → Prop}
    {process : Process World Label Error Answer} (along : process.Along Holds Post)
    (wider : ∀ label effect, Holds label effect → Wider label effect) : process.Every Wider := by
  induction process with
  | done outcome => trivial
  | act label effect next ih =>
      exact ⟨wider label effect along.1, fun world => ih world (along.2 world)⟩

end Process

section Keeping

variable {terms : Terms World Label Tag Error Answer}
  {Inv : Scene World Label Tag Error Answer → Prop} {index : Nat} {tag : Tag}
  {scene : Scene World Label Tag Error Answer}

theorem keeps_while {Holds : Label → (World → World) → Prop} {Post : Other → Prop}
    {Local : Scene World Label Tag Error Answer → Prop}
    {part : Process World Label Error Other} {next : Other → Process World Label Error Answer}
    (lasts : ∀ scene now : Scene World Label Tag Error Answer, Local scene →
      scene.Meanwhile index now → Inv now → Local now)
    (kept : ∀ now label effect outcome, Local now → now.Tagged → now.Running index → Inv now →
      terms.Acts now index tag label effect → Holds label effect →
        Inv (now.after index tag label effect outcome) ∧
          (outcome = none → Local (now.after index tag label effect outcome)))
    (along : part.Along Holds Post)
    (rest : ∀ answer now, Post answer → Local now → Keeps terms Inv index tag (next answer) now)
    (known : Local scene) : Keeps terms Inv index tag (part >>= next) scene := by
  induction part generalizing scene with
  | done outcome =>
      cases outcome with
      | ok answer => exact rest answer scene along known
      | error error => trivial
  | act label effect after ih =>
      intro now meanwhile tagged running inv acts
      have here := lasts scene now known meanwhile inv
      have both := kept now label effect ((after now.world).bind next).outcome? here tagged running
        inv acts along.1
      refine ⟨both.1, ?_⟩
      have goes : (Process.bind (after now.world) next).outcome? = none →
          Keeps terms Inv index tag (Process.bind (after now.world) next) (now.after index tag label
            effect (Process.bind (after now.world) next).outcome?) :=
        fun running => ih now.world (along.2 now.world) (both.2 running)
      change Keeps terms Inv index tag (Process.bind (after now.world) next) (now.after index tag
        label effect (Process.bind (after now.world) next).outcome?)
      generalize Process.bind (after now.world) next = left at goes ⊢
      cases left with
      | done outcome => trivial
      | act label effect next => exact goes rfl

theorem keeps_along {Holds : Label → (World → World) → Prop} {Post : Other → Prop}
    {Local : Scene World Label Tag Error Answer → Prop}
    {part : Process World Label Error Other} {next : Other → Process World Label Error Answer}
    (lasts : ∀ scene now : Scene World Label Tag Error Answer, Local scene →
      scene.Meanwhile index now → Inv now → Local now)
    (kept : ∀ now label effect outcome, Local now → now.Tagged → now.Running index → Inv now →
      terms.Acts now index tag label effect → Holds label effect →
        Inv (now.after index tag label effect outcome) ∧
          Local (now.after index tag label effect outcome))
    (along : part.Along Holds Post)
    (rest : ∀ answer now, Post answer → Local now → Keeps terms Inv index tag (next answer) now)
    (known : Local scene) : Keeps terms Inv index tag (part >>= next) scene :=
  keeps_while lasts (fun now label effect outcome here tagged running inv acts holds =>
    ⟨(kept now label effect outcome here tagged running inv acts holds).1, fun _ =>
      (kept now label effect outcome here tagged running inv acts holds).2⟩) along rest known

end Keeping

end Processes
