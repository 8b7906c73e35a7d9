import Messanger.Library.Session
import Messanger.Library.Tasks

/-!
`IdempotencyStore.run`: the result of an operation is kept in Redis under the caller's key, and a
lock beside it keeps a second call out while the first one runs.
-/

namespace Messanger

open KeyValue

/-- What a call raises: what its operation raised, `IdempotencyConflictError`, or what
`model_validate_json` raises. -/
inductive RunError (Error : Type) where
  | operation (error : Error)
  | conflict (key : String)
  | invalidResult
  deriving DecidableEq, Repr

/-- `model_dump_json` and `model_validate_json` of the model of the results. -/
structure ResultModel (Result : Type) where
  dumpJson : Result → String
  validateJson : String → Option Result

namespace IdempotencyStore

variable {Error Result : Type}

section Code

variable (scope : String) (owner : List String)

def resultKey (key : String) : String :=
  "idempotency:" ++ scope ++ ":" ++ ":".intercalate owner ++ ":" ++ key

def lockKey (key : String) : String := resultKey scope owner key ++ ":lock"

variable (key : String) (model : ResultModel Result)

/-- The `finally` branch. -/
def released (outcome : Except (RunError Error) Result) :
    Task (Except Error Result) (Except (RunError Error) Result) :=
  .del (lockKey scope owner key) (.done outcome)

def storing (result : Result) : Task (Except Error Result) (Except (RunError Error) Result) :=
  .set (resultKey scope owner key) (model.dumpJson result) (released scope owner key (.ok result))

def operating : Task (Except Error Result) (Except (RunError Error) Result) :=
  .call fun reply =>
    match reply with
    | .ok result => storing scope owner key model result
    | .error error => released scope owner key (.error (.operation error))

def locking : Task (Except Error Result) (Except (RunError Error) Result) :=
  .setNx (lockKey scope owner key) "1" fun acquired =>
    if acquired then operating scope owner key model else .done (.error (.conflict key))

def cachedResult (json : String) : Except (RunError Error) Result :=
  match model.validateJson json with
  | some result => .ok result
  | none => .error .invalidResult

/-- The operation is what the task calls. -/
def run (key : Option String) : Task (Except Error Result) (Except (RunError Error) Result) :=
  let operation := Task.call fun reply : Except Error Result => .done (reply.mapError .operation)
  match key with
  | none => operation
  | some key =>
      if key = "" then operation
      else
        .get (resultKey scope owner key) fun cached =>
          match cached with
          | some json => .done (cachedResult model json)
          | none => locking scope owner key model

end Code

/-- Redis with the calls under way. -/
abbrev Calls (Error Result : Type) := Site (Except Error Result) (Except (RunError Error) Result)

/-- The results of the operations that did not raise. -/
def succeeded (replies : List (Except Error Result)) : List Result :=
  replies.filterMap Except.toOption

/-- Only calls for the key are made, and none takes the lock when a result is already kept. -/
def Fresh (scope : String) (owner : List String) (key : String) (model : ResultModel Result)
    (site : Calls Error Result) : Move (Except Error Result) (Except (RunError Error) Result) → Prop
  | .start task => task = run scope owner model (some key)
  | .exec index _ => ∀ value next,
      site.tasks[index]? = some (.setNx (lockKey scope owner key) value next) →
        site.keys (lockKey scope owner key) = none → site.keys (resultKey scope owner key) = none

def nextOutcome (results : List Result) (reply : Except Error Result) :
    Except (RunError Error) Result :=
  match results with
  | [] => reply.mapError .operation
  | result :: _ => .ok result

/-- What the callers of one key are promised. -/
structure OnceOnly (scope : String) (owner : List String) (key : String)
    (model : ResultModel Result) (site : Calls Error Result) : Prop where
  once : (succeeded site.replies).length ≤ 1
  same : ∀ result, .done (.ok result) ∈ site.tasks → succeeded site.replies = [result]
  /-- A call that has ended, failed or not, does not hold the lock. -/
  held : (site.keys (lockKey scope owner key)).isSome →
    ∃ task ∈ site.tasks, ∀ outcome, task ≠ .done outcome
  /-- Whenever no other call holds the lock, the key is usable. -/
  usable : site.keys (lockKey scope owner key) = none → ∀ reply : Except Error Result, ∃ after,
    Site.Runs (Fresh scope owner key model) site after ∧
      after.tasks = site.tasks ++ [.done (nextOutcome (succeeded site.replies) reply)]
  failed : (∀ task ∈ site.tasks, ∃ error, task = .done (.error error)) → succeeded site.replies = []

section Keys

theorem lockKey_eq (scope : String) (owner : List String) (key : String) :
    lockKey scope owner key = resultKey scope owner (key ++ ":lock") :=
  String.append_assoc

theorem run_keepsTo (scope : String) (owner : List String) (model : ResultModel Result)
    (key : String) :
    (run scope owner model (some key) :
        Task (Except Error Result) (Except (RunError Error) Result)).KeepsTo
      fun used => used = resultKey scope owner key ∨ used = lockKey scope owner key := by
  have releases : ∀ outcome : Except (RunError Error) Result,
      (released scope owner key outcome).KeepsTo
        fun used => used = resultKey scope owner key ∨ used = lockKey scope owner key :=
    fun _ => ⟨.inr rfl, trivial⟩
  simp only [run]
  split
  · exact fun _ => trivial
  · refine ⟨.inl rfl, fun cached => ?_⟩
    cases cached with
    | some json => trivial
    | none =>
        refine ⟨.inr rfl, fun acquired => ?_⟩
        cases acquired with
        | false => trivial
        | true =>
            intro reply
            cases reply with
            | ok result => exact ⟨.inl rfl, releases _⟩
            | error error => exact releases _

end Keys

section Phases

theorem lockKey_ne {scope : String} {owner : List String} {key : String} :
    lockKey scope owner key ≠ resultKey scope owner key := by
  intro same
  have lengths := congrArg String.length same
  rw [lockKey, String.length_append] at lengths
  have tail : (":lock" : String).length = 5 := rfl
  omega

attribute [irreducible] resultKey lockKey

inductive Phase (Error Result : Type) where
  | asked
  | missed
  | running
  | ran (result : Result)
  | stored (result : Result)
  | failed (error : Error)
  | ended (outcome : Except (RunError Error) Result)

variable (scope : String) (owner : List String) (key : String) (model : ResultModel Result)

def Phase.task : Phase Error Result → Task (Except Error Result) (Except (RunError Error) Result)
  | .asked => run scope owner model (some key)
  | .missed => locking scope owner key model
  | .running => operating scope owner key model
  | .ran result => storing scope owner key model result
  | .stored result => released scope owner key (.ok result)
  | .failed error => released scope owner key (.error (.operation error))
  | .ended outcome => .done outcome

def Phase.holds : Phase Error Result → Bool
  | .running | .ran _ | .stored _ | .failed _ => true
  | _ => false

def Phase.Fits (keys : String → Option String) (results : List Result) : Phase Error Result → Prop
  | .running => (keys (lockKey scope owner key)).isSome ∧
      keys (resultKey scope owner key) = none ∧ results = []
  | .ran result => (keys (lockKey scope owner key)).isSome ∧
      keys (resultKey scope owner key) = none ∧ results = [result]
  | .stored result => (keys (lockKey scope owner key)).isSome ∧
      keys (resultKey scope owner key) = some (model.dumpJson result) ∧ results = [result]
  | .failed _ => (keys (lockKey scope owner key)).isSome
  | .ended (.ok result) => keys (resultKey scope owner key) = some (model.dumpJson result) ∧
      results = [result]
  | _ => True

structure OneRun (keys : String → Option String) (phases : List (Phase Error Result))
    (results : List Result) : Prop where
  fits : ∀ phase ∈ phases, phase.Fits scope owner key model keys results
  exclusive : ∀ (left right : Nat) first second, phases[left]? = some first →
    phases[right]? = some second → first.holds = true → second.holds = true → left = right
  locked : (keys (lockKey scope owner key)).isSome → ∃ phase ∈ phases, phase.holds = true
  kept : (keys (resultKey scope owner key) = none ∧ results = []) ∨ ∃ result, results = [result] ∧
    ((keys (resultKey scope owner key) = none ∧ .ran result ∈ phases) ∨
      (keys (resultKey scope owner key) = some (model.dumpJson result) ∧
        (.stored result ∈ phases ∨ .ended (.ok result) ∈ phases)))

variable {scope owner key model} {keys after : String → Option String}
  {phases : List (Phase Error Result)} {results later : List Result} {index : Nat}
  {old new : Phase Error Result}

theorem Phase.Fits.lock {phase : Phase Error Result}
    (fits : phase.Fits scope owner key model keys results) (holds : phase.holds = true) :
    (keys (lockKey scope owner key)).isSome := by
  cases phase with
  | running => exact fits.1
  | ran _ => exact fits.1
  | stored _ => exact fits.1
  | failed _ => exact fits
  | _ => cases holds

theorem OneRun.set (one : OneRun scope owner key model keys phases results)
    (found : phases[index]? = some old) (fits : new.Fits scope owner key model after later)
    (others : ∀ phase : Phase Error Result,
      (old.holds = true ∨ keys (lockKey scope owner key) = none → phase.holds = false) →
        phase.Fits scope owner key model keys results →
          phase.Fits scope owner key model after later)
    (takes : new.holds = true → old.holds = true ∨ keys (lockKey scope owner key) = none)
    (locked : (after (lockKey scope owner key)).isSome →
      new.holds = true ∨ (old.holds = false ∧ (keys (lockKey scope owner key)).isSome))
    (kept : (after (resultKey scope owner key) = none ∧ later = []) ∨
      ∃ result, later = [result] ∧
        ((after (resultKey scope owner key) = none ∧ .ran result ∈ phases.set index new) ∨
          (after (resultKey scope owner key) = some (model.dumpJson result) ∧
            (.stored result ∈ phases.set index new ∨
              .ended (.ok result) ∈ phases.set index new)))) :
    OneRun scope owner key model after (phases.set index new) later := by
  have apart : ∀ (other : Nat) phase, other ≠ index → phases[other]? = some phase →
      old.holds = true ∨ keys (lockKey scope owner key) = none → phase.holds = false := by
    intro other phase different present held
    cases holding : phase.holds with
    | false => rfl
    | true =>
        rcases held with mine | free
        · exact absurd (one.exclusive other index phase old present found holding mine) different
        · have taken := (one.fits phase (List.mem_of_getElem? present)).lock holding
          rw [free] at taken
          cases taken
  have cases : ∀ (other : Nat) phase, (phases.set index new)[other]? = some phase →
      (other = index ∧ phase = new) ∨ (other ≠ index ∧ phases[other]? = some phase) := by
    intro other phase present
    rw [List.getElem?_set] at present
    by_cases here : index = other
    · rw [if_pos here] at present
      split at present
      · exact .inl ⟨here.symm, (Option.some.inj present).symm⟩
      · cases present
    · rw [if_neg here] at present
      exact .inr ⟨Ne.symm here, present⟩
  refine ⟨?_, ?_, ?_, kept⟩
  · intro phase member
    obtain ⟨other, present⟩ := List.getElem?_of_mem member
    rcases cases other phase present with ⟨_, rfl⟩ | ⟨different, stays⟩
    · exact fits
    · exact others phase (apart other phase different stays)
        (one.fits phase (List.mem_of_getElem? stays))
  · intro left right first second foundLeft foundRight holdsFirst holdsSecond
    rcases cases left first foundLeft with ⟨rfl, rfl⟩ | ⟨leftOther, leftStays⟩
    · rcases cases right second foundRight with ⟨rfl, rfl⟩ | ⟨rightOther, rightStays⟩
      · rfl
      · rw [apart right second rightOther rightStays (takes holdsFirst)] at holdsSecond
        cases holdsSecond
    · rcases cases right second foundRight with ⟨rfl, rfl⟩ | ⟨rightOther, rightStays⟩
      · rw [apart left first leftOther leftStays (takes holdsSecond)] at holdsFirst
        cases holdsFirst
      · exact one.exclusive left right first second leftStays rightStays holdsFirst holdsSecond
  · intro taken
    have bound : index < phases.length := (List.getElem?_eq_some_iff.mp found).1
    rcases locked taken with mine | ⟨free, before⟩
    · exact ⟨new, List.mem_set bound new, mine⟩
    · obtain ⟨phase, member, holds⟩ := one.locked before
      rcases Relational.mem_or_mem_set found member with rfl | stays
      · rw [free] at holds
        cases holds
      · exact ⟨phase, stays, holds⟩

theorem Phase.Fits.idle {phase : Phase Error Result} (holds : phase.holds = false)
    (same : after (resultKey scope owner key) = keys (resultKey scope owner key))
    (fits : phase.Fits scope owner key model keys results) :
    phase.Fits scope owner key model after results := by
  cases phase with
  | ended outcome =>
      cases outcome with
      | ok result => exact ⟨same.trans fits.1, fits.2⟩
      | error _ => trivial
  | asked => trivial
  | missed => trivial
  | _ => cases holds

theorem Phase.Fits.unkept {phase : Phase Error Result} (holds : phase.holds = false)
    (none : keys (resultKey scope owner key) = none)
    (fits : phase.Fits scope owner key model keys results) :
    phase.Fits scope owner key model after later := by
  cases phase with
  | ended outcome =>
      cases outcome with
      | ok result =>
          have some := fits.1
          rw [none] at some
          cases some
      | error _ => trivial
  | asked => trivial
  | missed => trivial
  | _ => cases holds

theorem OneRun.free (one : OneRun scope owner key model keys phases results)
    (free : keys (lockKey scope owner key) = none) :
    (keys (resultKey scope owner key) = none ∧ results = []) ∨
      ∃ result, results = [result] ∧
        keys (resultKey scope owner key) = some (model.dumpJson result) := by
  rcases one.kept with empty | ⟨result, only, ⟨_, running⟩ | ⟨stored, _⟩⟩
  · exact .inl empty
  · have taken := (one.fits _ running).1
    rw [free] at taken
    cases taken
  · exact .inr ⟨result, only, stored⟩

theorem OneRun.ready (one : OneRun scope owner key model keys phases results)
    (free : keys (lockKey scope owner key) = none)
    (none : keys (resultKey scope owner key) = none) : results = [] := by
  rcases one.free free with ⟨_, empty⟩ | ⟨_, _, stored⟩
  · exact empty
  · rw [none] at stored
    cases stored

theorem OneRun.start (one : OneRun scope owner key model keys phases results) :
    OneRun scope owner key model keys (phases ++ [.asked]) results := by
  have stays : ∀ phase ∈ phases, phase ∈ phases ++ [.asked] :=
    fun _ member => List.mem_append_left _ member
  have cases : ∀ (index : Nat) phase, (phases ++ [.asked])[index]? = some phase →
      phase.holds = true → phases[index]? = some phase := by
    intro index phase found holds
    rw [List.getElem?_append] at found
    split at found
    · exact found
    · rw [List.getElem?_singleton] at found
      split at found
      · cases found
        cases holds
      · cases found
  refine ⟨?_, ?_, ?_, ?_⟩
  · intro phase member
    rcases List.mem_append.mp member with old | fresh
    · exact one.fits phase old
    · rw [List.mem_singleton.mp fresh]
      trivial
  · intro left right first second foundLeft foundRight holdsFirst holdsSecond
    exact one.exclusive left right first second (cases left first foundLeft holdsFirst)
      (cases right second foundRight holdsSecond) holdsFirst holdsSecond
  · intro taken
    obtain ⟨phase, member, holds⟩ := one.locked taken
    exact ⟨phase, stays phase member, holds⟩
  · rcases one.kept with empty | ⟨result, only, ⟨none, ran⟩ | ⟨some, stored | ended⟩⟩
    · exact .inl empty
    · exact .inr ⟨result, only, .inl ⟨none, stays _ ran⟩⟩
    · exact .inr ⟨result, only, .inr ⟨some, .inl (stays _ stored)⟩⟩
    · exact .inr ⟨result, only, .inr ⟨some, .inr (stays _ ended)⟩⟩

theorem OneRun.keeps (one : OneRun scope owner key model keys phases results)
    (found : phases[index]? = some old)
    (same : after (resultKey scope owner key) = keys (resultKey scope owner key))
    (other : ∀ result, old ≠ .ran result ∧ old ≠ .stored result ∧ old ≠ .ended (.ok result)) :
    (after (resultKey scope owner key) = none ∧ results = []) ∨
      ∃ result, results = [result] ∧
        ((after (resultKey scope owner key) = none ∧ .ran result ∈ phases.set index new) ∨
          (after (resultKey scope owner key) = some (model.dumpJson result) ∧
            (.stored result ∈ phases.set index new ∨
              .ended (.ok result) ∈ phases.set index new))) := by
  have stays : ∀ phase ∈ phases, phase ≠ old → phase ∈ phases.set index new :=
    fun phase member different =>
      (Relational.mem_or_mem_set found member).resolve_left different
  rw [same]
  rcases one.kept with empty | ⟨result, only, ⟨none, ran⟩ | ⟨some, stored | ended⟩⟩
  · exact .inl empty
  · exact .inr ⟨result, only, .inl ⟨none, stays _ ran (Ne.symm (other result).1)⟩⟩
  · exact .inr ⟨result, only, .inr ⟨some, .inl (stays _ stored (Ne.symm (other result).2.1))⟩⟩
  · exact .inr ⟨result, only, .inr ⟨some, .inr (stays _ ended (Ne.symm (other result).2.2))⟩⟩

theorem OneRun.passes (one : OneRun scope owner key model keys phases results)
    (found : phases[index]? = some old) (fits : new.Fits scope owner key model keys results)
    (before : old.holds = false) (after : new.holds = false)
    (other : ∀ result, old ≠ .ran result ∧ old ≠ .stored result ∧ old ≠ .ended (.ok result)) :
    OneRun scope owner key model keys (phases.set index new) results := by
  have same : keys (resultKey scope owner key) = keys (resultKey scope owner key) := rfl
  refine one.set found fits (fun _ _ fits => fits) (fun holds => ?_) (fun taken => .inr ⟨before, taken⟩)
    (one.keeps found same other)
  rw [after] at holds
  cases holds

/-- The calls of a site all stand somewhere in `run`, and they run the operation once. -/
def Single (scope : String) (owner : List String) (key : String) (model : ResultModel Result)
    (site : Calls Error Result) : Prop :=
  ∃ phases : List (Phase Error Result),
    site.tasks = phases.map (Phase.task scope owner key model) ∧
      OneRun scope owner key model site.keys phases (succeeded site.replies)

variable {site next : Calls Error Result} {reply : Except Error Result}

theorem single_put (tasks : site.tasks = phases.map (Phase.task scope owner key model))
    (one : OneRun scope owner key model after (phases.set index new)
      (succeeded next.replies))
    (keys : next.keys = after) (put : next.tasks =
      site.tasks.set index (new.task scope owner key model)) :
    Single scope owner key model next := by
  refine ⟨phases.set index new, ?_, ?_⟩
  · rw [put, tasks, List.map_set]
  · rw [keys]
    exact one

theorem single_exec (given : key ≠ "")
    (roundTrip : ∀ result, model.validateJson (model.dumpJson result) = some result)
    (single : Single scope owner key model site)
    (fresh : Fresh scope owner key model site (.exec index reply))
    (stepped : site.step (.exec index reply) = some next) : Single scope owner key model next := by
  obtain ⟨phases, tasks, one⟩ := single
  have lookup : site.tasks[index]? = phases[index]?.map (Phase.task scope owner key model) := by
    rw [tasks, List.getElem?_map]
  cases found : phases[index]? with
  | none =>
      rw [found, Option.map_none] at lookup
      simp only [Site.step, lookup] at stepped
      cases stepped
  | some old =>
      rw [found, Option.map_some] at lookup
      have fits := one.fits old (List.mem_of_getElem? found)
      have lockApart : ∀ value, Function.update site.keys (lockKey scope owner key) value
          (resultKey scope owner key) = site.keys (resultKey scope owner key) :=
        fun value => Function.update_of_ne (Ne.symm lockKey_ne) value site.keys
      have resultApart : ∀ value, Function.update site.keys (resultKey scope owner key) value
          (lockKey scope owner key) = site.keys (lockKey scope owner key) :=
        fun value => Function.update_of_ne lockKey_ne value site.keys
      cases old with
      | ended outcome =>
          simp only [Site.step, lookup, Phase.task] at stepped
          cases stepped
      | asked =>
          simp only [Site.step, lookup, Phase.task, run, if_neg given] at stepped
          cases stepped
          cases cached : site.keys (resultKey scope owner key) with
          | none =>
              have moved : OneRun scope owner key model site.keys (phases.set index .missed)
                  (succeeded site.replies) :=
                one.passes found trivial rfl rfl fun _ => ⟨by simp, by simp, by simp⟩
              exact single_put tasks moved rfl rfl
          | some json =>
              have known : ∃ result, json = model.dumpJson result ∧
                  succeeded site.replies = [result] := by
                rcases one.kept with ⟨none, _⟩ | ⟨result, only, ⟨none, _⟩ | ⟨some, _⟩⟩
                · rw [cached] at none
                  cases none
                · rw [cached] at none
                  cases none
                · rw [cached] at some
                  exact ⟨result, Option.some.inj some, only⟩
              obtain ⟨result, rfl, only⟩ := known
              have moved : OneRun scope owner key model site.keys
                  (phases.set index (.ended (.ok result))) (succeeded site.replies) :=
                one.passes found ⟨cached, only⟩ rfl rfl fun _ => ⟨by simp, by simp, by simp⟩
              refine single_put tasks moved rfl ?_
              simp only [Phase.task, cachedResult, roundTrip]
      | missed =>
          simp only [Site.step, lookup, Phase.task, locking] at stepped
          cases free : site.keys (lockKey scope owner key) with
          | some _ =>
              rw [free] at stepped
              cases stepped
              have moved : OneRun scope owner key model site.keys
                  (phases.set index (.ended (.error (.conflict key)))) (succeeded site.replies) :=
                one.passes found trivial rfl rfl fun _ => ⟨by simp, by simp, by simp⟩
              exact single_put tasks moved rfl rfl
          | none =>
              rw [free] at stepped
              cases stepped
              have none := fresh _ _ lookup free
              have moved : OneRun scope owner key model
                  (Function.update site.keys (lockKey scope owner key) (some "1"))
                  (phases.set index .running) (succeeded site.replies) := by
                refine one.set found ?_ ?_ (fun _ => .inr free) (fun _ => .inl rfl)
                  (one.keeps found (lockApart _) ?_)
                · refine ⟨?_, (lockApart _).trans none, one.ready free none⟩
                  rw [Function.update_self]
                  rfl
                · exact fun phase idle fits => fits.idle (idle (.inr free)) (lockApart _)
                · exact fun _ => ⟨by simp, by simp, by simp⟩
              exact single_put tasks moved rfl rfl
      | running =>
          simp only [Site.step, lookup, Phase.task, operating] at stepped
          cases stepped
          obtain ⟨locked, none, empty⟩ := fits
          cases reply with
          | ok result =>
              have more : succeeded (site.replies ++ [Except.ok result]) = [result] := by
                have split : succeeded (site.replies ++ [Except.ok result]) =
                    succeeded site.replies ++ [result] := List.filterMap_append
                rw [split, empty]
                rfl
              have bound : index < phases.length := (List.getElem?_eq_some_iff.mp found).1
              have moved : OneRun scope owner key model site.keys (phases.set index (.ran result))
                  (succeeded (site.replies ++ [Except.ok result])) := by
                refine one.set found ⟨locked, none, more⟩ ?_ (fun _ => .inl rfl) (fun _ => .inl rfl)
                  (.inr ⟨result, more, .inl ⟨none, List.mem_set bound _⟩⟩)
                exact fun phase idle fits => fits.unkept (idle (.inl rfl)) none
              exact single_put tasks moved rfl rfl
          | error error =>
              have same : succeeded (site.replies ++ [Except.error error]) =
                  succeeded site.replies := by
                have split : succeeded (site.replies ++ [Except.error error]) =
                    succeeded site.replies ++ [] := List.filterMap_append
                rw [split, List.append_nil]
              have moved : OneRun scope owner key model site.keys
                  (phases.set index (.failed error))
                  (succeeded (site.replies ++ [Except.error error])) := by
                rw [same]
                refine one.set found locked (fun _ _ fits => fits) (fun _ => .inl rfl)
                  (fun _ => .inl rfl) (one.keeps found rfl ?_)
                exact fun _ => ⟨by simp, by simp, by simp⟩
              exact single_put tasks moved rfl rfl
      | ran result =>
          simp only [Site.step, lookup, Phase.task, storing] at stepped
          cases stepped
          obtain ⟨locked, none, only⟩ := fits
          have bound : index < phases.length := (List.getElem?_eq_some_iff.mp found).1
          have stored : Function.update site.keys (resultKey scope owner key)
              (some (model.dumpJson result)) (resultKey scope owner key) =
                some (model.dumpJson result) := Function.update_self _ _ _
          have moved : OneRun scope owner key model
              (Function.update site.keys (resultKey scope owner key) (some (model.dumpJson result)))
              (phases.set index (.stored result)) (succeeded site.replies) := by
            refine one.set found ⟨?_, stored, only⟩ ?_ (fun _ => .inl rfl) (fun _ => .inl rfl)
              (.inr ⟨result, only, .inr ⟨stored, .inl (List.mem_set bound _)⟩⟩)
            · rw [resultApart]
              exact locked
            · exact fun phase idle fits => fits.unkept (idle (.inl rfl)) none
          exact single_put tasks moved rfl rfl
      | stored result =>
          simp only [Site.step, lookup, Phase.task, released] at stepped
          cases stepped
          obtain ⟨locked, stored, only⟩ := fits
          have bound : index < phases.length := (List.getElem?_eq_some_iff.mp found).1
          have moved : OneRun scope owner key model
              (Function.update site.keys (lockKey scope owner key) none)
              (phases.set index (.ended (.ok result))) (succeeded site.replies) := by
            refine one.set found ⟨(lockApart _).trans stored, only⟩ ?_ (fun holds => by cases holds)
              ?_ (.inr ⟨result, only, .inr ⟨(lockApart _).trans stored,
                .inr (List.mem_set bound _)⟩⟩)
            · exact fun phase idle fits => fits.idle (idle (.inl rfl)) (lockApart _)
            · intro taken
              rw [Function.update_self] at taken
              cases taken
          exact single_put tasks moved rfl rfl
      | failed error =>
          simp only [Site.step, lookup, Phase.task, released] at stepped
          cases stepped
          have moved : OneRun scope owner key model
              (Function.update site.keys (lockKey scope owner key) none)
              (phases.set index (.ended (.error (.operation error)))) (succeeded site.replies) := by
            refine one.set found trivial ?_ (fun holds => by cases holds) ?_
              (one.keeps found (lockApart _) ?_)
            · exact fun phase idle fits => fits.idle (idle (.inl rfl)) (lockApart _)
            · intro taken
              rw [Function.update_self] at taken
              cases taken
            · exact fun _ => ⟨by simp, by simp, by simp⟩
          exact single_put tasks moved rfl rfl

theorem single_step (given : key ≠ "")
    (roundTrip : ∀ result, model.validateJson (model.dumpJson result) = some result)
    {move : Move (Except Error Result) (Except (RunError Error) Result)}
    (single : Single scope owner key model site) (fresh : Fresh scope owner key model site move)
    (stepped : site.step move = some next) : Single scope owner key model next := by
  cases move with
  | start task =>
      obtain ⟨phases, tasks, one⟩ := single
      cases stepped
      refine ⟨phases ++ [Phase.asked], ?_, one.start⟩
      have own : task = run scope owner model (some key) := fresh
      rw [List.map_append, tasks, own]
      rfl
  | exec index reply => exact single_exec given roundTrip single fresh stepped

theorem Phase.ended_of_done (given : key ≠ "") {phase : Phase Error Result}
    {outcome : Except (RunError Error) Result}
    (done : phase.task scope owner key model = .done outcome) : phase = .ended outcome := by
  cases phase with
  | asked =>
      simp only [Phase.task, run, if_neg given] at done
      cases done
  | ended other =>
      cases done
      rfl
  | _ => cases done

theorem OneRun.held (given : key ≠ "") (one : OneRun scope owner key model keys phases results)
    (taken : (keys (lockKey scope owner key)).isSome) :
    ∃ phase ∈ phases, ∀ outcome, phase.task scope owner key model ≠ .done outcome := by
  obtain ⟨phase, member, holds⟩ := one.locked taken
  refine ⟨phase, member, fun outcome done => ?_⟩
  rw [Phase.ended_of_done given done] at holds
  cases holds

theorem OneRun.failed (given : key ≠ "") (one : OneRun scope owner key model keys phases results)
    (all : ∀ phase ∈ phases, ∃ error, phase.task scope owner key model = .done (.error error)) :
    keys (lockKey scope owner key) = none ∧ keys (resultKey scope owner key) = none := by
  have ended : ∀ phase ∈ phases, ∃ error, phase = .ended (.error error) := by
    intro phase member
    obtain ⟨error, done⟩ := all phase member
    exact ⟨error, Phase.ended_of_done given done⟩
  constructor
  · cases taken : keys (lockKey scope owner key) with
    | none => rfl
    | some _ =>
        obtain ⟨phase, member, holds⟩ := one.locked (by rw [taken]; rfl)
        obtain ⟨error, rfl⟩ := ended phase member
        cases holds
  · rcases one.kept with ⟨none, _⟩ | ⟨result, _, ⟨none, _⟩ | ⟨_, stored | other⟩⟩
    · exact none
    · exact none
    · obtain ⟨error, same⟩ := ended _ stored
      cases same
    · obtain ⟨error, same⟩ := ended _ other
      cases same

end Phases

section Retry

variable {scope : String} {owner : List String} {key : String} {model : ResultModel Result}

variable {initial site next : Calls Error Result} {index : Nat} {reply : Except Error Result}

theorem runs_exec (reached : Site.Runs (Fresh scope owner key model) initial site)
    (safe : site.keys (lockKey scope owner key) = none → site.keys (resultKey scope owner key) = none)
    (stepped : site.step (.exec index reply) = some next) :
    Site.Runs (Fresh scope owner key model) initial next := by
  refine .step reached ?_ stepped
  exact fun _ _ _ free => safe free

theorem retry (given : key ≠ "") (keys : String → Option String)
    (tasks : List (Task (Except Error Result) (Except (RunError Error) Result)))
    (replies : List (Except Error Result)) (free : keys (lockKey scope owner key) = none)
    (none : keys (resultKey scope owner key) = none) (reply : Except Error Result) :
    ∃ after, Site.Runs (Fresh scope owner key model) ⟨keys, tasks, replies⟩ after ∧
      after.tasks = tasks ++ [Task.done (reply.mapError .operation)] := by
  let held := Function.update keys (lockKey scope owner key) (some "1")
  have unkept : held (resultKey scope owner key) = Option.none :=
    (Function.update_of_ne (Ne.symm lockKey_ne) (some "1") keys).trans none
  have taken : ∀ more : Option String, Function.update held (resultKey scope owner key) more
      (lockKey scope owner key) = some "1" := fun more =>
    (Function.update_of_ne lockKey_ne more held).trans (Function.update_self _ _ _)
  have started : Site.Runs (Fresh scope owner key model) ⟨keys, tasks, replies⟩
      ⟨keys, tasks ++ [run scope owner model (some key)], replies⟩ := by
    have own : Fresh scope owner key model ⟨keys, tasks, replies⟩
        (.start (run scope owner model (some key))) := rfl
    exact .step .refl own rfl
  have asked : (⟨keys, tasks ++ [run scope owner model (some key)], replies⟩ :
      Calls Error Result).step (.exec tasks.length reply) =
        some ⟨keys, tasks ++ [locking scope owner key model], replies⟩ := by
    rw [Site.exec_last]
    simp only [run, if_neg given, none]
  have missed := runs_exec started (fun _ => none) asked
  have locked : (⟨keys, tasks ++ [locking scope owner key model], replies⟩ :
      Calls Error Result).step (.exec tasks.length reply) =
        some ⟨held, tasks ++ [operating scope owner key model], replies⟩ := by
    rw [Site.exec_last]
    simp only [locking, free]
    rfl
  have running := runs_exec missed (fun _ => none) locked
  have operated : (⟨held, tasks ++ [operating scope owner key model], replies⟩ :
      Calls Error Result).step (.exec tasks.length reply) =
        some ⟨held, tasks ++ [match reply with
          | .ok result => storing scope owner key model result
          | .error error => released scope owner key (.error (.operation error))],
            replies ++ [reply]⟩ := Site.exec_last held tasks replies reply _
  have answered := runs_exec running (fun _ => unkept) operated
  cases reply with
  | error error =>
      have removed := Site.exec_last held tasks (replies ++ [Except.error error]) (.error error)
        (released scope owner key (.error (.operation error)))
      exact ⟨_, runs_exec answered (fun _ => unkept) removed, rfl⟩
  | ok result =>
      have kept := Site.exec_last held tasks (replies ++ [Except.ok result]) (.ok result)
        (storing scope owner key model result)
      have stored := runs_exec answered (fun _ => unkept) kept
      have removed := Site.exec_last (Function.update held (resultKey scope owner key)
        (some (model.dumpJson result))) tasks (replies ++ [Except.ok result]) (.ok result)
          (released scope owner key (.ok result))
      refine ⟨_, runs_exec stored (fun free => ?_) removed, rfl⟩
      simp only [taken] at free
      cases free

theorem reuse (given : key ≠ "")
    (roundTrip : ∀ result, model.validateJson (model.dumpJson result) = some result)
    (keys : String → Option String)
    (tasks : List (Task (Except Error Result) (Except (RunError Error) Result)))
    (replies : List (Except Error Result)) {result : Result}
    (stored : keys (resultKey scope owner key) = some (model.dumpJson result)) :
    ∃ after, Site.Runs (Fresh scope owner key model) ⟨keys, tasks, replies⟩ after ∧
      after.tasks = tasks ++ [Task.done (Except.ok result)] := by
  have started : Site.Runs (Fresh scope owner key model) ⟨keys, tasks, replies⟩
      ⟨keys, tasks ++ [run scope owner model (some key)], replies⟩ := by
    have own : Fresh scope owner key model ⟨keys, tasks, replies⟩
        (.start (run scope owner model (some key))) := rfl
    exact .step .refl own rfl
  have asked : (⟨keys, tasks ++ [run scope owner model (some key)], replies⟩ :
      Calls Error Result).step (.exec tasks.length (.ok result)) =
        some ⟨keys, tasks ++ [Task.done (Except.ok result)], replies⟩ := by
    rw [Site.exec_last]
    simp only [run, if_neg given, stored, cachedResult, roundTrip]
  refine ⟨_, .step started ?_ asked, rfl⟩
  intro value next found
  rw [List.getElem?_concat_length, Option.some.injEq] at found
  simp only [run, if_neg given] at found
  cases found

end Retry

/-- As long as no call takes the lock when a result is kept, the operation succeeds once. -/
theorem run_once {scope : String} {owner : List String} {key : String} {model : ResultModel Result}
    {keys : String → Option String} {site : Calls Error Result} (given : key ≠ "")
    (roundTrip : ∀ result, model.validateJson (model.dumpJson result) = some result)
    (unlocked : keys (lockKey scope owner key) = none)
    (unused : keys (resultKey scope owner key) = none)
    (calls : Site.Runs (Fresh scope owner key model) ⟨keys, [], []⟩ site) :
    OnceOnly scope owner key model site := by
  have start : Single scope owner key model (⟨keys, [], []⟩ : Calls Error Result) := by
    refine ⟨[], rfl, ?_, ?_, ?_, .inl ⟨unused, rfl⟩⟩
    · intro phase member
      cases member
    · intro left right first second found
      cases found
    · intro taken
      simp only [unlocked] at taken
      cases taken
  obtain ⟨phases, tasks, one⟩ : Single scope owner key model site :=
    calls.invariant start fun _ _ _ single fresh stepped => single_step given roundTrip single fresh stepped
  refine ⟨?_, ?_, fun taken => ?_, fun free reply => ?_, fun all => ?_⟩
  · rcases one.kept with ⟨_, empty⟩ | ⟨result, only, _⟩
    · rw [empty]
      exact Nat.zero_le 1
    · rw [only]
      exact Nat.le_refl 1
  · intro result member
    rw [tasks] at member
    obtain ⟨phase, inside, done⟩ := List.mem_map.mp member
    have fits := one.fits phase inside
    rw [Phase.ended_of_done given done] at fits
    exact fits.2
  · obtain ⟨phase, member, working⟩ := one.held given taken
    exact ⟨_, tasks ▸ List.mem_map_of_mem member, working⟩
  · rcases one.free free with ⟨none, empty⟩ | ⟨result, only, stored⟩
    · rw [empty]
      exact retry given site.keys site.tasks site.replies free none reply
    · rw [only]
      exact reuse given roundTrip site.keys site.tasks site.replies stored
  · obtain ⟨free, none⟩ := one.failed given fun phase member =>
      all _ (tasks ▸ List.mem_map_of_mem member)
    exact one.ready free none

section Runs

def flagModel : ResultModel Bool where
  dumpJson result := if result then "true" else "false"
  validateJson json :=
    if json = "true" then some true else if json = "false" then some false else none

def flagRun : Task (Except Unit Bool) (Except (RunError Unit) Bool) :=
  run "send_message" ["1", "c"] flagModel (some "k")

def freshly (site : Calls Unit Bool) : Move (Except Unit Bool) (Except (RunError Unit) Bool) → Bool
  | .start _ => true
  | .exec index _ =>
      match site.tasks[index]? with
      | some (.setNx _ _ _) => (site.keys (lockKey "send_message" ["1", "c"] "k")).isSome ||
          (site.keys (resultKey "send_message" ["1", "c"] "k")).isNone
      | _ => true

def retried : List (Move (Except Unit Bool) (Except (RunError Unit) Bool)) :=
  Move.start flagRun :: List.replicate 4 (Move.exec 0 (Except.error ())) ++
    Move.start flagRun :: List.replicate 5 (Move.exec 1 (Except.ok true)) ++
    [Move.start flagRun, Move.exec 2 (Except.ok false)]

theorem retried_fresh (site : Calls Unit Bool) : ∀ move ∈ retried, freshly site move = true →
    Fresh "send_message" ["1", "c"] "k" flagModel site move := by
  intro move member checked
  cases move with
  | start task =>
      simp [retried] at member
      exact member
  | exec index reply =>
      intro value next found free
      simp only [freshly, found, free, Option.isSome_none, Bool.false_or, Option.isNone_iff_eq_none]
        at checked
      exact checked

theorem run_once_retried : ∃ site,
    (⟨fun _ => none, [], []⟩ : Calls Unit Bool).steps freshly retried = some site ∧
      site.replies = [.error (), .ok true] ∧
        OnceOnly "send_message" ["1", "c"] "k" flagModel site := by
  have outcome : ((⟨fun _ => none, [], []⟩ : Calls Unit Bool).steps freshly retried).map
      (fun site => decide (site.replies = [.error (), .ok true])) = some true := by decide +kernel
  obtain ⟨site, reached, replies⟩ := Option.map_eq_some_iff.mp outcome
  refine ⟨site, reached, of_decide_eq_true replies, ?_⟩
  refine run_once (by decide) ?_ rfl rfl (Site.runs_of_steps retried retried_fresh .refl reached)
  intro result
  cases result
  · rfl
  · rfl

def crossing : List (Move (Except Unit Bool) (Except (RunError Unit) Bool)) :=
  [Move.start flagRun, Move.start flagRun, Move.exec 0 (Except.ok true),
    Move.exec 1 (Except.ok true)] ++
    List.replicate 4 (Move.exec 0 (Except.ok true)) ++
    List.replicate 4 (Move.exec 1 (Except.ok false))

/-- The operation runs twice. -/
theorem crossing_runs_twice : ∃ site,
    Site.Runs (fun _ move => ∀ task, move = .start task → task = flagRun)
      (⟨fun _ => none, [], []⟩ : Calls Unit Bool) site ∧
      succeeded site.replies = [true, false] ∧
        ¬ OnceOnly "send_message" ["1", "c"] "k" flagModel site := by
  have outcome : ((⟨fun _ => none, [], []⟩ : Calls Unit Bool).steps (fun _ _ => true) crossing).map
      (fun site => decide (succeeded site.replies = [true, false])) = some true := by decide +kernel
  obtain ⟨site, reached, replies⟩ := Option.map_eq_some_iff.mp outcome
  have twice := of_decide_eq_true replies
  refine ⟨site, Site.runs_of_steps crossing ?_ .refl reached, twice, ?_⟩
  · rintro _ move member _ task rfl
    simp [crossing] at member
    exact member
  · intro promised
    have once := promised.once
    rw [twice] at once
    revert once
    decide

end Runs

end IdempotencyStore

end Messanger
