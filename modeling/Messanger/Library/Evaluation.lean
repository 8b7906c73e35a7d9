import Messanger.Library.Session

/-!
A program run alone, statement by statement: what each kind of statement makes of the rest.
-/

namespace Relational.Tx

variable {Db Write Key Error Answer Result : Type} [Storage Db Write] {committed seen : Db}
  {rest : Answer → Tx Db Write Key Error Result}

theorem run_statement {locks : Db → List Key} {writes : Db → List Write}
    {answer : Db → Except Error Answer} :
    ((Tx.statement locks writes answer).bind rest).run committed seen =
      match answer seen with
      | .ok answer => (rest answer).run committed (applyAll (writes seen) seen)
      | .error error => (.error error, committed) := by
  simp only [statement, Tx.bind, Tx.run]
  cases answer seen with
  | ok answer => rfl
  | error error => rfl

@[simp] theorem run_read {query : Db → Answer} :
    ((Tx.read query).bind rest).run committed seen = (rest (query seen)).run committed seen := rfl

theorem run_require {condition : Bool} {error : Error} {rest : Unit → Tx Db Write Key Error Result} :
    ((Tx.require condition error).bind rest).run committed seen =
      if condition then (rest ()).run committed seen else (.error error, committed) := by
  cases condition with
  | true => rfl
  | false => rfl

theorem run_orRaise {found : Option Answer} {error : Error} :
    ((Tx.orRaise found error).bind rest).run committed seen =
      match found with
      | some answer => (rest answer).run committed seen
      | none => (.error error, committed) := by
  cases found with
  | some answer => rfl
  | none => rfl

theorem run_ofExcept {check : Except Error Answer} :
    ((Tx.ofExcept check).bind rest).run committed seen =
      match check with
      | .ok answer => (rest answer).run committed seen
      | .error error => (.error error, committed) := by
  cases check with
  | ok answer => rfl
  | error error => rfl

@[simp] theorem run_commitNow : (commitNow : Tx Db Write Key Error Unit).run committed seen =
    (.ok (), seen) := rfl

@[simp] theorem run_done {answer : Answer} :
    (Tx.done answer : Tx Db Write Key Error Answer).run committed seen = (.ok answer, committed) := rfl

@[simp] theorem run_raise {error : Error} :
    (Tx.raise error : Tx Db Write Key Error Answer).run committed seen =
      (.error error, committed) := rfl

section Failing

theorem failed_statement {locks : Db → List Key} {writes : Db → List Write}
    {answer : Db → Except Error Answer} {error : Error}
    (failed : (((Tx.statement locks writes answer).bind rest).run committed seen).1 = .error error) :
    answer seen = .error error ∨ ∃ answered, answer seen = .ok answered ∧
      ((rest answered).run committed (applyAll (writes seen) seen)).1 = .error error := by
  rw [run_statement] at failed
  cases answered : answer seen with
  | error raised =>
      rw [answered] at failed
      cases failed
      exact .inl rfl
  | ok answer =>
      rw [answered] at failed
      exact .inr ⟨answer, rfl, failed⟩

theorem failed_require {condition : Bool} {error raised : Error}
    {rest : Unit → Tx Db Write Key Error Result}
    (failed : (((Tx.require condition raised).bind rest).run committed seen).1 = .error error) :
    condition = false ∧ raised = error ∨
      condition = true ∧ ((rest ()).run committed seen).1 = .error error := by
  cases condition with
  | true => exact .inr ⟨rfl, failed⟩
  | false =>
      cases failed
      exact .inl ⟨rfl, rfl⟩

theorem failed_ofExcept {check : Except Error Answer} {error : Error}
    (failed : (((Tx.ofExcept check).bind rest).run committed seen).1 = .error error) :
    check = .error error ∨
      ∃ answered, check = .ok answered ∧ ((rest answered).run committed seen).1 = .error error := by
  cases check with
  | error raised =>
      cases failed
      exact .inl rfl
  | ok answer => exact .inr ⟨answer, rfl, failed⟩

variable (Allowed : Error → Prop)

def Raises : Tx Db Write Key Error Answer → Prop
  | .done _ => True
  | .raise error => Allowed error
  | .stmt _ _ next => ∀ seen, (next seen).Raises
  | .commit next => next.Raises

variable {Allowed}

theorem Raises.error {error : Error} {program : Tx Db Write Key Error Answer}
    (raises : program.Raises Allowed) (failed : (program.run committed seen).1 = .error error) :
    Allowed error := by
  induction program generalizing committed seen with
  | done => cases failed
  | raise raised =>
      cases failed
      exact raises
  | stmt _ writes next ih => exact ih seen (raises seen) failed
  | commit next ih => exact ih raises failed

omit [Storage Db Write] in
theorem raises_bind {program : Tx Db Write Key Error Answer} (first : program.Raises Allowed)
    (second : ∀ answer, (rest answer).Raises Allowed) : (program.bind rest).Raises Allowed := by
  induction program with
  | done answer => exact second answer
  | raise => exact first
  | stmt _ _ next ih => exact fun seen => ih seen (first seen)
  | commit next ih => exact ih first

omit [Storage Db Write] in
theorem raises_ofExcept {check : Except Error Answer}
    (allowed : ∀ error, check = .error error → Allowed error) :
    (Tx.ofExcept check : Tx Db Write Key Error Answer).Raises Allowed := by
  cases check with
  | ok => trivial
  | error error => exact allowed error rfl

omit [Storage Db Write] in
theorem raises_statement {locks : Db → List Key} {writes : Db → List Write}
    {answer : Db → Except Error Answer}
    (allowed : ∀ seen error, answer seen = .error error → Allowed error) :
    (Tx.statement locks writes answer).Raises Allowed :=
  fun seen => raises_ofExcept (allowed seen)

omit [Storage Db Write] in
theorem raises_orRaise {found : Option Answer} {error : Error} (allowed : Allowed error) :
    (Tx.orRaise found error : Tx Db Write Key Error Answer).Raises Allowed := by
  cases found with
  | some => trivial
  | none => exact allowed

omit [Storage Db Write] in
theorem raises_each {Item : Type} {action : Item → Tx Db Write Key Error Unit} {items : List Item}
    (each : ∀ item ∈ items, (action item).Raises Allowed) :
    (Tx.each action items).Raises Allowed := by
  induction items with
  | nil => trivial
  | cons item items ih =>
      exact raises_bind (each item List.mem_cons_self) fun _ =>
        ih fun other member => each other (List.mem_cons_of_mem _ member)

end Failing

section Giving

def Gives (program : Tx Db Write Key Error Result) (committed seen : Db) (result : Result)
    (final : Db) : Prop :=
  program.run committed seen = (.ok result, final)

variable {result : Result} {final : Db}

theorem gives_run {program : Tx Db Write Key Error Result} :
    program.Gives committed seen result (program.run committed seen).2 ↔
      (program.run committed seen).1 = .ok result := by
  rw [Gives, Prod.ext_iff]
  exact and_iff_left rfl

theorem gives_read {query : Db → Answer} :
    ((Tx.read query).bind rest).Gives committed seen result final ↔
      (rest (query seen)).Gives committed seen result final := Iff.rfl

theorem gives_statement {locks : Db → List Key} {writes : Db → List Write}
    {answer : Db → Except Error Answer} :
    ((Tx.statement locks writes answer).bind rest).Gives committed seen result final ↔
      ∃ answered, answer seen = .ok answered ∧
        (rest answered).Gives committed (applyAll (writes seen) seen) result final := by
  rw [Gives, run_statement]
  cases answer seen with
  | error error => simp
  | ok answer => simp [Gives]

theorem gives_require {condition : Bool} {error : Error}
    {rest : Unit → Tx Db Write Key Error Result} :
    ((Tx.require condition error).bind rest).Gives committed seen result final ↔
      condition = true ∧ (rest ()).Gives committed seen result final := by
  cases condition with
  | true => exact ⟨fun gives => ⟨rfl, gives⟩, And.right⟩
  | false => simp [Tx.require, Gives]

theorem gives_orRaise {found : Option Answer} {error : Error} :
    ((Tx.orRaise found error).bind rest).Gives committed seen result final ↔
      ∃ answer, found = some answer ∧ (rest answer).Gives committed seen result final := by
  cases found with
  | some answer => simp [Tx.orRaise]
  | none => simp [Tx.orRaise, Gives]

theorem gives_ofExcept {check : Except Error Answer} :
    ((Tx.ofExcept check).bind rest).Gives committed seen result final ↔
      ∃ answer, check = .ok answer ∧ (rest answer).Gives committed seen result final := by
  cases check with
  | ok answer => simp [Tx.ofExcept]
  | error error => simp [Tx.ofExcept, Gives]

theorem gives_commitNow {rest : Unit → Tx Db Write Key Error Result} :
    (Tx.commitNow.bind rest).Gives committed seen result final ↔
      (rest ()).Gives seen seen result final := Iff.rfl

theorem gives_done {answer : Result} :
    (Tx.done answer : Tx Db Write Key Error Result).Gives committed seen result final ↔
      answer = result ∧ committed = final := by
  simp [Gives]

end Giving

end Relational.Tx
