import Mathlib.Logic.Function.Basic

/-!
Tasks that share a key–value server.  Each command of a task is atomic, commands of different
tasks interleave, and what a task calls besides is answered by the world.
-/

namespace KeyValue

inductive Task (Reply Result : Type) where
  | get (key : String) (next : Option String → Task Reply Result)
  | setNx (key value : String) (next : Bool → Task Reply Result)
  | set (key value : String) (next : Task Reply Result)
  | del (key : String) (next : Task Reply Result)
  | call (next : Reply → Task Reply Result)
  | done (result : Result)

namespace Task

variable {Reply Result : Type}

/-- One command: the server after it, and what is left of the task. -/
def command (keys : String → Option String) (reply : Reply) :
    Task Reply Result → Option ((String → Option String) × Task Reply Result)
  | .get key next => some (keys, next (keys key))
  | .setNx key value next =>
      match keys key with
      | some _ => some (keys, next false)
      | none => some (Function.update keys key (some value), next true)
  | .set key value next => some (Function.update keys key (some value), next)
  | .del key next => some (Function.update keys key none, next)
  | .call next => some (keys, next reply)
  | .done _ => none

def outcome? : Task Reply Result → Option Result
  | .done result => some result
  | _ => none

def KeepsTo (inside : String → Prop) : Task Reply Result → Prop
  | .get key next => inside key ∧ ∀ value, (next value).KeepsTo inside
  | .setNx key _ next => inside key ∧ ∀ acquired, (next acquired).KeepsTo inside
  | .set key _ next => inside key ∧ next.KeepsTo inside
  | .del key next => inside key ∧ next.KeepsTo inside
  | .call next => ∀ reply, (next reply).KeepsTo inside
  | .done _ => True

theorem KeepsTo.mono {inside wider : String → Prop} {task : Task Reply Result}
    (keeps : task.KeepsTo inside) (wide : ∀ key, inside key → wider key) : task.KeepsTo wider := by
  induction task with
  | get key next ih => exact ⟨wide key keeps.1, fun value => ih value (keeps.2 value)⟩
  | setNx key value next ih => exact ⟨wide key keeps.1, fun acquired => ih acquired (keeps.2 acquired)⟩
  | set key value next ih => exact ⟨wide key keeps.1, ih keeps.2⟩
  | del key next ih => exact ⟨wide key keeps.1, ih keeps.2⟩
  | call next ih => exact fun reply => ih reply (keeps reply)
  | done result => trivial

section Command

variable {inside : String → Prop} {keys after other : String → Option String} {reply : Reply}
  {task left : Task Reply Result}

theorem keepsTo_command (keeps : task.KeepsTo inside)
    (goes : task.command keys reply = some (after, left)) : left.KeepsTo inside := by
  cases task with
  | get key next =>
      cases goes
      exact keeps.2 _
  | setNx key value next =>
      simp only [command] at goes
      split at goes
      all_goals
        cases goes
        exact keeps.2 _
  | set key value next =>
      cases goes
      exact keeps.2
  | del key next =>
      cases goes
      exact keeps.2
  | call next =>
      cases goes
      exact keeps _
  | done result => cases goes

theorem command_outside (keeps : task.KeepsTo inside)
    (goes : task.command keys reply = some (after, left)) {key : String} (outside : ¬inside key) :
    after key = keys key := by
  have apart : ∀ used, inside used → key ≠ used := by
    rintro used own rfl
    exact outside own
  cases task with
  | get used next => cases goes; rfl
  | setNx used value next =>
      simp only [command] at goes
      split at goes
      · cases goes; rfl
      · cases goes
        simp [apart used keeps.1]
  | set used value next =>
      cases goes
      simp [apart used keeps.1]
  | del used next =>
      cases goes
      simp [apart used keeps.1]
  | call next => cases goes; rfl
  | done result => cases goes

theorem command_agree (keeps : task.KeepsTo inside)
    (goes : task.command keys reply = some (after, left))
    (agree : ∀ key, inside key → keys key = other key) :
    ∃ beside, task.command other reply = some (beside, left) ∧
      ∀ key, inside key → after key = beside key := by
  have updated : ∀ used value key, inside key →
      Function.update keys used value key = Function.update other used value key := by
    intro used value key own
    by_cases same : key = used
    · simp [same]
    · simp [same, agree key own]
  cases task with
  | get key next =>
      cases goes
      exact ⟨other, by simp [command, agree key keeps.1], agree⟩
  | setNx key value next =>
      simp only [command, agree key keeps.1] at goes
      split at goes
      · rename_i held
        cases goes
        exact ⟨other, by simp [command, held], agree⟩
      · rename_i free
        cases goes
        exact ⟨_, by simp [command, free], updated key _⟩
  | set key value next =>
      cases goes
      exact ⟨_, rfl, updated key _⟩
  | del key next =>
      cases goes
      exact ⟨_, rfl, updated key _⟩
  | call next =>
      cases goes
      exact ⟨other, rfl, agree⟩
  | done result => cases goes

end Command

end Task

/-- The server, the tasks, and the replies the world gave, in their order. -/
structure Site (Reply Result : Type) where
  keys : String → Option String := fun _ => none
  tasks : List (Task Reply Result) := []
  replies : List Reply := []

/-- `reply` is what the world answers if the task calls. -/
inductive Move (Reply Result : Type) where
  | start (task : Task Reply Result)
  | exec (task : Nat) (reply : Reply)

inductive Turn (Reply : Type) where
  | exec (task : Nat) (reply : Reply)
  | expire (key : String)

def Turn.isOf {Reply : Type} (mine : Nat → Bool) : Turn Reply → Bool
  | .exec task _ => mine task
  | .expire _ => true

namespace Site

variable {Reply Result : Type}

def step (site : Site Reply Result) : Move Reply Result → Option (Site Reply Result)
  | .start task => some { site with tasks := site.tasks ++ [task] }
  | .exec index reply =>
      match site.tasks[index]? with
      | none => none
      | some (.done _) => none
      | some (.get key next) => some { site with tasks := site.tasks.set index (next (site.keys key)) }
      | some (.setNx key value next) =>
          match site.keys key with
          | some _ => some { site with tasks := site.tasks.set index (next false) }
          | none =>
              some { site with
                keys := Function.update site.keys key (some value)
                tasks := site.tasks.set index (next true) }
      | some (.set key value next) =>
          some { site with
            keys := Function.update site.keys key (some value)
            tasks := site.tasks.set index next }
      | some (.del key next) =>
          some { site with
            keys := Function.update site.keys key none
            tasks := site.tasks.set index next }
      | some (.call next) =>
          some { site with
            tasks := site.tasks.set index (next reply)
            replies := site.replies ++ [reply] }

def steps (ok : Site Reply Result → Move Reply Result → Bool) (site : Site Reply Result) :
    List (Move Reply Result) → Option (Site Reply Result)
  | [] => some site
  | move :: rest =>
      if ok site move then
        match site.step move with
        | none => none
        | some next => next.steps ok rest
      else none

/-- A run, each move meeting the condition in the state it is made in. -/
inductive Runs (Holds : Site Reply Result → Move Reply Result → Prop)
    (initial : Site Reply Result) : Site Reply Result → Prop
  | refl : Runs Holds initial initial
  | step {site next : Site Reply Result} {move : Move Reply Result} : Runs Holds initial site →
      Holds site move → site.step move = some next → Runs Holds initial next

variable {Holds : Site Reply Result → Move Reply Result → Prop}
  {initial site final : Site Reply Result}

theorem Runs.invariant {Inv : Site Reply Result → Prop} (start : Inv initial)
    (kept : ∀ site move next, Inv site → Holds site move → site.step move = some next → Inv next)
    (run : Runs Holds initial final) : Inv final := by
  induction run with
  | refl => exact start
  | step _ holds stepped ih => exact kept _ _ _ ih holds stepped

theorem runs_of_steps {ok : Site Reply Result → Move Reply Result → Bool}
    (moves : List (Move Reply Result))
    (sound : ∀ site, ∀ move ∈ moves, ok site move = true → Holds site move)
    (reached : Runs Holds initial site) (stepped : site.steps ok moves = some final) :
    Runs Holds initial final := by
  induction moves generalizing site with
  | nil =>
      cases stepped
      exact reached
  | cons move rest ih =>
      rw [Site.steps] at stepped
      split at stepped
      · rename_i checked
        split at stepped
        · cases stepped
        · rename_i next moved
          refine ih (fun site other member => sound site other (List.mem_cons_of_mem _ member)) ?_
            stepped
          exact .step reached (sound site move List.mem_cons_self checked) moved
      · cases stepped

section Last

variable (keys : String → Option String) (tasks : List (Task Reply Result)) (replies : List Reply)
  (reply : Reply)

theorem exec_last (task : Task Reply Result) :
    (⟨keys, tasks ++ [task], replies⟩ : Site Reply Result).step (.exec tasks.length reply) =
      match task with
      | .done _ => none
      | .get key next => some ⟨keys, tasks ++ [next (keys key)], replies⟩
      | .setNx key value next =>
          match keys key with
          | some _ => some ⟨keys, tasks ++ [next false], replies⟩
          | none => some ⟨Function.update keys key (some value), tasks ++ [next true], replies⟩
      | .set key value next => some ⟨Function.update keys key (some value), tasks ++ [next], replies⟩
      | .del key next => some ⟨Function.update keys key none, tasks ++ [next], replies⟩
      | .call next => some ⟨keys, tasks ++ [next reply], replies ++ [reply]⟩ := by
  have last : (tasks ++ [task])[tasks.length]? = some task := by simp
  have put : ∀ other, (tasks ++ [task]).set tasks.length other = tasks ++ [other] := by simp
  cases task
  all_goals simp only [Site.step, last, put]

end Last

section Own

def take (site : Site Reply Result) : Turn Reply → Option (Site Reply Result)
  | .exec task reply => site.step (.exec task reply)
  | .expire key => some { site with keys := Function.update site.keys key none }

def follow (site : Site Reply Result) (schedule : List (Turn Reply)) : Option (Site Reply Result) :=
  schedule.foldlM take site

@[simp] theorem follow_nil : site.follow [] = some site := rfl

@[simp] theorem follow_cons (turn : Turn Reply) (rest : List (Turn Reply)) :
    site.follow (turn :: rest) = (site.take turn).bind (·.follow rest) := by
  simp [follow, List.foldlM_cons]

variable {next alone : Site Reply Result} {index : Nat} {reply : Reply}

theorem exec_command (stepped : site.step (.exec index reply) = some next) :
    ∃ task left, site.tasks[index]? = some task ∧
      task.command site.keys reply = some (next.keys, left) ∧
      next.tasks = site.tasks.set index left := by
  cases found : site.tasks[index]? with
  | none => simp [step, found] at stepped
  | some task =>
      cases task with
      | setNx key value rest =>
          simp only [step, found] at stepped
          split at stepped
          · rename_i held
            cases stepped
            exact ⟨_, _, rfl, by simp [Task.command, held], rfl⟩
          · rename_i free
            cases stepped
            exact ⟨_, _, rfl, by simp [Task.command, free], rfl⟩
      | done result => simp [step, found] at stepped
      | _ =>
          simp only [step, found] at stepped
          cases stepped
          exact ⟨_, _, rfl, rfl, rfl⟩

theorem command_exec {task left : Task Reply Result} {after : String → Option String}
    (found : site.tasks[index]? = some task)
    (goes : task.command site.keys reply = some (after, left)) :
    ∃ next, site.step (.exec index reply) = some next ∧ next.keys = after ∧
      next.tasks = site.tasks.set index left := by
  cases task with
  | setNx key value rest =>
      simp only [Task.command] at goes
      simp only [step, found]
      split at goes
      all_goals
        cases goes
        simp
  | done result => cases goes
  | _ =>
      cases goes
      simp [step, found]

structure Divided (mine : Nat → Bool) (inside : String → Prop) (site : Site Reply Result) : Prop where
  own : ∀ index task, mine index = true → site.tasks[index]? = some task → task.KeepsTo inside
  others : ∀ index task, mine index = false → site.tasks[index]? = some task →
    task.KeepsTo fun key => ¬inside key

structure Alike (mine : Nat → Bool) (inside : String → Prop) (site alone : Site Reply Result) :
    Prop where
  tasks : ∀ index, mine index = true → site.tasks[index]? = alone.tasks[index]?
  keys : ∀ key, inside key → site.keys key = alone.keys key

variable {mine : Nat → Bool} {inside : String → Prop}

theorem Divided.exec (divided : Divided mine inside site)
    (stepped : site.step (.exec index reply) = some next) : Divided mine inside next := by
  obtain ⟨task, left, found, goes, tasks⟩ := exec_command stepped
  constructor
  · intro other item own present
    rw [tasks, List.getElem?_set] at present
    split at present
    · rename_i same
      subst same
      split at present
      · cases present
        exact Task.keepsTo_command (divided.own _ _ own found) goes
      · cases present
    · exact divided.own other item own present
  · intro other item apart present
    rw [tasks, List.getElem?_set] at present
    split at present
    · rename_i same
      subst same
      split at present
      · cases present
        exact Task.keepsTo_command (divided.others _ _ apart found) goes
      · cases present
    · exact divided.others other item apart present

theorem Alike.other (alike : Alike mine inside site alone) (divided : Divided mine inside site)
    (apart : mine index = false) (stepped : site.step (.exec index reply) = some next) :
    Alike mine inside next alone := by
  obtain ⟨task, left, found, goes, tasks⟩ := exec_command stepped
  constructor
  · intro own counts
    have different : index ≠ own := by
      rintro rfl
      simp [counts] at apart
    rw [tasks, List.getElem?_set_ne different, alike.tasks own counts]
  · intro key own
    rw [← alike.keys key own]
    exact Task.command_outside (divided.others _ _ apart found) goes (by simpa using own)

theorem Alike.own (alike : Alike mine inside site alone) (divided : Divided mine inside site)
    (counts : mine index = true) (stepped : site.step (.exec index reply) = some next) :
    ∃ after, alone.step (.exec index reply) = some after ∧ Alike mine inside next after := by
  obtain ⟨task, left, found, goes, tasks⟩ := exec_command stepped
  obtain ⟨beside, same, agree⟩ := Task.command_agree (divided.own _ _ counts found) goes alike.keys
  have there := alike.tasks index counts
  obtain ⟨after, executed, keysAfter, tasksAfter⟩ := command_exec (there ▸ found) same
  refine ⟨after, executed, ?_, ?_⟩
  · intro other counted
    have before := alike.tasks other counted
    rw [tasks, tasksAfter, List.getElem?_set, List.getElem?_set]
    by_cases here : index = other
    · subst here
      have bound := (List.getElem?_eq_some_iff.mp found).1
      have boundAlone := (List.getElem?_eq_some_iff.mp (there ▸ found)).1
      simp [bound, boundAlone]
    · simp [here, before]
  · intro key own
    rw [keysAfter]
    exact agree key own

theorem Alike.take {turn : Turn Reply} (alike : Alike mine inside site alone)
    (divided : Divided mine inside site) (taken : site.take turn = some next) :
    Divided mine inside next ∧
      if turn.isOf mine then ∃ after, alone.take turn = some after ∧ Alike mine inside next after
      else Alike mine inside next alone := by
  cases turn with
  | exec index reply =>
      refine ⟨divided.exec taken, ?_⟩
      cases counts : mine index with
      | true =>
          simp only [Turn.isOf, counts, if_true]
          exact alike.own divided counts taken
      | false =>
          simp only [Turn.isOf, counts, Bool.false_eq_true, if_false]
          exact alike.other divided counts taken
  | expire key =>
      cases taken
      refine ⟨⟨divided.own, divided.others⟩, ?_⟩
      simp only [Turn.isOf, if_true]
      refine ⟨_, rfl, alike.tasks, fun own counts => ?_⟩
      by_cases same : own = key
      · simp [same]
      · simp [same, alike.keys own counts]

theorem follow_own {schedule : List (Turn Reply)} (divided : Divided mine inside site)
    (alike : Alike mine inside site alone) (followed : site.follow schedule = some final) :
    ∃ after, alone.follow (schedule.filter (Turn.isOf mine)) = some after ∧
      Alike mine inside final after := by
  induction schedule generalizing site alone with
  | nil =>
      cases followed
      exact ⟨alone, rfl, alike⟩
  | cons turn rest ih =>
      rw [follow_cons] at followed
      obtain ⟨next, taken, later⟩ := Option.bind_eq_some_iff.mp followed
      obtain ⟨still, goes⟩ := alike.take divided taken
      split at goes
      · rename_i counts
        obtain ⟨after, beside, same⟩ := goes
        obtain ⟨last, reached, matching⟩ := ih still same later
        exact ⟨last, by simp [counts, beside, reached], matching⟩
      · rename_i others
        obtain ⟨last, reached, matching⟩ := ih still goes later
        exact ⟨last, by simp [others, reached], matching⟩

end Own

end Site

end KeyValue
