import Messanger.Library.Isolation

/-!
Sessions that are opened for a request each, and the journal of what they commit.  A run may ask
something of every step.  What each session is up to is stated of the rows, and holds in every
state when the session's own statements keep it and no commit of another session breaks it.
-/

namespace Relational

variable {Db Write Key Error Answer Result Tag : Type}

def Tx.Always (Holds : List Key → List Write → Tx Db Write Key Error Answer → Prop) :
    Tx Db Write Key Error Answer → List Key → List Write → Prop
  | .done answer, held, log => Holds held log (.done answer)
  | .raise error, held, log => Holds held log (.raise error)
  | .stmt locks writes next, held, log =>
      Holds held log (.stmt locks writes next) ∧
        ∀ seen, (next seen).Always Holds (held ++ locks seen) (log ++ writes seen)
  | .commit next, held, log => Holds held log (.commit next) ∧ next.Always Holds [] []

def Tx.mapError {Other : Type} (rename : Error → Other) :
    Tx Db Write Key Error Answer → Tx Db Write Key Other Answer
  | .done answer => .done answer
  | .raise error => .raise (rename error)
  | .stmt locks writes next => .stmt locks writes fun seen => (next seen).mapError rename
  | .commit next => .commit (next.mapError rename)

def Tx.reporting (program : Tx Db Write Key Error Answer) :
    Tx Db Write Key (Except Error Answer) Unit :=
  (program.mapError .error).bind fun answer => .raise (.ok answer)

section Always

variable {Holds : List Key → List Write → Tx Db Write Key Error Answer → Prop}
  {program : Tx Db Write Key Error Answer} {held : List Key} {log : List Write}

theorem Tx.Always.here (always : program.Always Holds held log) : Holds held log program := by
  cases program with
  | done _ => exact always
  | raise _ => exact always
  | stmt _ _ _ => exact always.1
  | commit _ => exact always.1

end Always

structure Journal (Db Write Key Error Tag : Type) where
  system : System Db Write Key Error
  tags : List Tag := []
  history : List (Tag × List Write) := []

inductive Action (Tag : Type) where
  | start (tag : Tag)
  | exec (index : Nat)
  | rollback (index : Nat)

namespace Journal

def idle (db : Db) : Journal Db Write Key Error Tag := { system := System.idle db }

def committed (journal : Journal Db Write Key Error Tag) (index : Nat) :
    List (Tag × List Write) :=
  match journal.system.committing index, journal.tags[index]? with
  | some log, some tag => [(tag, log)]
  | _, _ => []

variable [Storage Db Write] [DecidableEq Key] (program : Tag → Tx Db Write Key Error Unit)

def step (journal : Journal Db Write Key Error Tag) :
    Action Tag → Option (Journal Db Write Key Error Tag)
  | .start tag => (journal.system.step (.start (program tag))).map fun next =>
      { journal with system := next, tags := journal.tags ++ [tag] }
  | .exec index => (journal.system.step (.exec index)).map fun next =>
      { journal with system := next, history := journal.history ++ journal.committed index }
  | .rollback index => (journal.system.step (.rollback index)).map fun next =>
      { journal with system := next }

/-- A run, each step of which is asked for something in the state it is made in. -/
inductive Runs (Holds : Journal Db Write Key Error Tag → Action Tag → Prop)
    (initial : Journal Db Write Key Error Tag) : Journal Db Write Key Error Tag → Prop
  | refl : Runs Holds initial initial
  | step {journal next : Journal Db Write Key Error Tag} {action : Action Tag} :
      Runs Holds initial journal → Holds journal action →
      journal.step program action = some next → Runs Holds initial next

def steps (ok : Journal Db Write Key Error Tag → Action Tag → Bool)
    (journal : Journal Db Write Key Error Tag) :
    List (Action Tag) → Option (Journal Db Write Key Error Tag)
  | [] => some journal
  | action :: rest =>
      if ok journal action then
        match journal.step program action with
        | none => none
        | some next => next.steps ok rest
      else none

section Replay

omit [DecidableEq Key]

def replay (db : Db) (history : List (Tag × List Write)) : Db :=
  applyAll (history.flatMap Prod.snd) db

def Throughout (Fact : Tag → List Write → Db → Prop) (db : Db)
    (history : List (Tag × List Write)) : Prop :=
  ∀ before tag log after, history = before ++ (tag, log) :: after → Fact tag log (replay db before)

variable {Fact : Tag → List Write → Db → Prop} {db : Db} {history : List (Tag × List Write)}

omit [DecidableEq Key] in
theorem replay_concat (tag : Tag) (log : List Write) :
    replay db (history ++ [(tag, log)]) = applyAll log (replay db history) := by
  simp only [replay, List.flatMap_append, List.flatMap_singleton, applyAll_append]

omit [DecidableEq Key] in
theorem throughout_nil : Throughout Fact db [] := by
  intro before tag log after whole
  exact absurd whole.symm (List.append_ne_nil_of_right_ne_nil before (List.cons_ne_nil _ after))

omit [DecidableEq Key] in
theorem throughout_concat {tag : Tag} {log : List Write} (facts : Throughout Fact db history)
    (fact : Fact tag log (replay db history)) : Throughout Fact db (history ++ [(tag, log)]) := by
  intro before other written after whole
  rcases List.eq_nil_or_concat after with rfl | ⟨earlier, last, rfl⟩
  · obtain ⟨rfl, same⟩ := List.append_inj' whole rfl
    cases same
    exact fact
  · rw [List.concat_eq_append, ← List.cons_append, ← List.append_assoc] at whole
    exact facts before other written earlier (List.append_inj' whole rfl).1

end Replay

variable {program}

theorem runs_mono {Holds Weaker : Journal Db Write Key Error Tag → Action Tag → Prop}
    (weaker : ∀ journal action, Holds journal action → Weaker journal action)
    {initial journal : Journal Db Write Key Error Tag} (run : Runs program Holds initial journal) :
    Runs program Weaker initial journal := by
  induction run with
  | refl => exact .refl
  | step _ holds stepped ih => exact .step ih (weaker _ _ holds) stepped

theorem runs_of_steps {Holds : Journal Db Write Key Error Tag → Action Tag → Prop}
    (ok : Journal Db Write Key Error Tag → Action Tag → Bool)
    (sound : ∀ journal action, ok journal action = true → Holds journal action)
    (actions : List (Action Tag)) {initial journal final : Journal Db Write Key Error Tag}
    (reached : Runs program Holds initial journal)
    (stepped : journal.steps program ok actions = some final) :
    Runs program Holds initial final := by
  induction actions generalizing journal with
  | nil =>
      cases stepped
      exact reached
  | cons action rest ih =>
      rw [Journal.steps] at stepped
      split at stepped
      · rename_i checked
        split at stepped
        · cases stepped
        · rename_i next moved
          exact ih (.step reached (sound journal action checked) moved) stepped
      · cases stepped

end Journal

section Upheld

variable [Storage Db Write] [DecidableEq Key]

/-- The invariant of a journal: `Inv` of the rows and of what was committed, and of every open
session what it is up to. -/
structure Upheld (Inv : Db → List (Tag × List Write) → Prop)
    (Stands : Tag → Db → Session Db Write Key Error → Prop)
    (journal : Journal Db Write Key Error Tag) : Prop where
  inv : Inv journal.system.db journal.history
  tagged : journal.tags.length = journal.system.sessions.length
  apart : ∀ (left right : Nat) first second, left ≠ right →
    journal.system.sessions[left]? = some first → journal.system.sessions[right]? = some second →
    ∀ key ∈ first.held, key ∉ second.held
  stands : ∀ (index : Nat) session tag, journal.system.sessions[index]? = some session →
    journal.tags[index]? = some tag → Stands tag journal.system.db session

structure Upholds (program : Tag → Tx Db Write Key Error Unit)
    (Holds : Journal Db Write Key Error Tag → Action Tag → Prop)
    (Inv : Db → List (Tag × List Write) → Prop)
    (Stands : Tag → Db → Session Db Write Key Error → Prop) : Prop where
  opened : ∀ (journal : Journal Db Write Key Error Tag) tag, Upheld Inv Stands journal →
    Holds journal (.start tag) → Stands tag journal.system.db (Session.opened (program tag))
  ended : ∀ tag db, Stands tag db ⟨[], [], .done ()⟩
  statement : ∀ (journal : Journal Db Write Key Error Tag) (index : Nat) session tag locks writes
    next, Upheld Inv Stands journal → Holds journal (.exec index) →
    journal.system.sessions[index]? = some session → journal.tags[index]? = some tag →
    session.rest = .stmt locks writes next →
    Stands tag journal.system.db ⟨session.held ++ locks (session.seen journal.system.db),
      session.log ++ writes (session.seen journal.system.db),
      next (session.seen journal.system.db)⟩
  commit : ∀ (journal : Journal Db Write Key Error Tag) (index : Nat) session tag next,
    Upheld Inv Stands journal → Holds journal (.exec index) →
    journal.system.sessions[index]? = some session → journal.tags[index]? = some tag →
    session.rest = .commit next →
    Inv (session.seen journal.system.db) (journal.history ++ [(tag, session.log)]) ∧
      Stands tag (session.seen journal.system.db) ⟨[], [], next⟩ ∧
      ∀ otherTag other, Stands otherTag journal.system.db other →
        (∀ key ∈ session.held, key ∉ other.held) →
        Stands otherTag (session.seen journal.system.db) other

variable {program : Tag → Tx Db Write Key Error Unit}
  {Holds : Journal Db Write Key Error Tag → Action Tag → Prop}
  {Inv : Db → List (Tag × List Write) → Prop}
  {Stands : Tag → Db → Session Db Write Key Error → Prop}
  {journal next : Journal Db Write Key Error Tag}

omit [Storage Db Write] [DecidableEq Key] in
theorem Upheld.tag {index : Nat} {session : Session Db Write Key Error}
    (upheld : Upheld Inv Stands journal)
    (present : journal.system.sessions[index]? = some session) :
    ∃ tag, journal.tags[index]? = some tag := by
  have inside : index < journal.tags.length := by
    rw [upheld.tagged]
    exact (List.getElem?_eq_some_iff.mp present).1
  exact ⟨_, List.getElem?_eq_getElem inside⟩

omit [Storage Db Write] [DecidableEq Key] in
theorem upheld_set {db : Db} {history : List (Tag × List Write)} {index : Nat}
    {current : Session Db Write Key Error} (upheld : Upheld Inv Stands journal)
    (inv : Inv db history)
    (locks : ∀ (other : Nat) session, other ≠ index →
      journal.system.sessions[other]? = some session → ∀ key ∈ current.held, key ∉ session.held)
    (own : ∀ tag, journal.tags[index]? = some tag → Stands tag db current)
    (others : ∀ (other : Nat) session tag, other ≠ index →
      journal.system.sessions[other]? = some session → journal.tags[other]? = some tag →
      Stands tag db session) :
    Upheld Inv Stands
      { system := ⟨db, journal.system.sessions.set index current⟩
        tags := journal.tags
        history := history } := by
  refine ⟨inv, ?_, ?_, ?_⟩
  · rw [List.length_set]
    exact upheld.tagged
  · intro left right first second different foundLeft foundRight key member taken
    rcases getElem?_set_cases foundLeft with ⟨leftHere, rfl, _⟩ | ⟨_, leftOld⟩
    · rcases getElem?_set_cases foundRight with ⟨rightHere, _⟩ | ⟨rightAway, rightOld⟩
      · exact different (leftHere.trans rightHere.symm)
      · exact locks right second rightAway rightOld key member taken
    · rcases getElem?_set_cases foundRight with ⟨rightHere, rfl, _⟩ | ⟨_, rightOld⟩
      · have leftAway : left ≠ index := fun leftHere => different (leftHere.trans rightHere.symm)
        exact locks left first leftAway leftOld key taken member
      · exact upheld.apart left right first second different leftOld rightOld key member taken
  · intro other session tag found tagged
    rcases getElem?_set_cases found with ⟨here, rfl, _⟩ | ⟨away, old⟩
    · subst here
      exact own tag tagged
    · exact others other session tag away old tagged

omit [Storage Db Write] [DecidableEq Key] in
theorem upheld_start {tag : Tag} (upheld : Upheld Inv Stands journal)
    (opened : Stands tag journal.system.db (Session.opened (program tag))) :
    Upheld Inv Stands { journal with
      system := { journal.system with
        sessions := journal.system.sessions ++ [Session.opened (program tag)] }
      tags := journal.tags ++ [tag] } := by
  have cases : ∀ (index : Nat) session,
      (journal.system.sessions ++ [Session.opened (program tag)])[index]? = some session →
        journal.system.sessions[index]? = some session ∨
          (index = journal.system.sessions.length ∧ session = Session.opened (program tag)) := by
    intro index session found
    rw [List.getElem?_append] at found
    split at found
    · exact .inl found
    · right
      rw [List.getElem?_singleton] at found
      split at found
      · exact ⟨by omega, (Option.some.inj found).symm⟩
      · cases found
  refine ⟨upheld.inv, ?_, ?_, ?_⟩
  · simp only [List.length_append, List.length_singleton, upheld.tagged]
  · intro left right first second different foundLeft foundRight key member taken
    rcases cases left first foundLeft with leftOld | ⟨_, rfl⟩
    · rcases cases right second foundRight with rightOld | ⟨_, rfl⟩
      · exact upheld.apart left right first second different leftOld rightOld key member taken
      · cases taken
    · cases member
  · intro index session other found tagged
    rcases cases index session found with old | ⟨rfl, rfl⟩
    · rw [List.getElem?_append_left] at tagged
      · exact upheld.stands index session other old tagged
      · rw [upheld.tagged]
        exact (List.getElem?_eq_some_iff.mp old).1
    · rw [← upheld.tagged, List.getElem?_append_right (Nat.le_refl _), Nat.sub_self,
        List.getElem?_singleton] at tagged
      cases tagged
      exact opened

theorem upheld_step {action : Action Tag} (upholds : Upholds program Holds Inv Stands)
    (upheld : Upheld Inv Stands journal) (holds : Holds journal action)
    (stepped : journal.step program action = some next) : Upheld Inv Stands next := by
  cases action with
  | start tag =>
      rw [Journal.step] at stepped
      obtain ⟨system, moved, rfl⟩ := Option.map_eq_some_iff.mp stepped
      simp only [System.step, Option.some.injEq] at moved
      subst moved
      exact upheld_start upheld (upholds.opened journal tag upheld holds)
  | rollback index =>
      rw [Journal.step] at stepped
      obtain ⟨system, moved, rfl⟩ := Option.map_eq_some_iff.mp stepped
      simp only [System.step, Option.some.injEq] at moved
      subst moved
      refine upheld_set upheld upheld.inv ?_ (fun tag _ => upholds.ended tag _) ?_
      · rintro _ _ _ _ _ ⟨⟩
      · exact fun other session tag _ found tagged => upheld.stands other session tag found tagged
  | exec index =>
      rw [Journal.step] at stepped
      obtain ⟨system, moved, rfl⟩ := Option.map_eq_some_iff.mp stepped
      obtain ⟨session, present, moves⟩ := System.exec_cases moved
      obtain ⟨tag, tagged⟩ := upheld.tag present
      rcases moves with ⟨locks, writes, rest, program, rfl⟩ | ⟨rest, program, rfl⟩
      · have quiet : journal.committed index = [] := by
          simp [Journal.committed, System.committing, present, program]
        have free : journal.system.free index (locks (session.seen journal.system.db)) = true := by
          simp only [System.step, present, program] at moved
          split at moved
          · assumption
          · cases moved
        simp only [quiet, List.append_nil]
        refine upheld_set upheld upheld.inv ?_ ?_ ?_
        · intro other second away found key member
          rcases List.mem_append.mp member with held | locked
          · exact upheld.apart index other session second (Ne.symm away) present found key held
          · exact Contract.free_apart free away found key locked
        · intro other same
          obtain rfl : other = tag := Option.some.inj (same.symm.trans tagged)
          exact upholds.statement journal index session other locks writes rest upheld holds present
            tagged program
        · exact fun other second tag _ found tagged => upheld.stands other second tag found tagged
      · have written : journal.committed index = [(tag, session.log)] := by
          simp [Journal.committed, System.committing, present, program, tagged]
        obtain ⟨inv, own, others⟩ := upholds.commit journal index session tag rest upheld holds
          present tagged program
        simp only [written]
        refine upheld_set upheld inv (by rintro _ _ _ _ _ ⟨⟩) ?_ ?_
        · intro other same
          obtain rfl : other = tag := Option.some.inj (same.symm.trans tagged)
          exact own
        · intro other second otherTag away found otherTagged
          refine others otherTag second (upheld.stands other second otherTag found otherTagged) ?_
          exact upheld.apart index other session second (Ne.symm away) present found

omit [Storage Db Write] [DecidableEq Key] in
theorem upheld_idle {db : Db} (start : Inv db []) :
    Upheld Inv Stands (Journal.idle db : Journal Db Write Key Error Tag) := by
  refine ⟨start, rfl, ?_, ?_⟩
  · intro left right first second _ found
    simp [Journal.idle, System.idle] at found
  · intro index session tag found
    simp [Journal.idle, System.idle] at found

theorem runs_upheld {db : Db} (upholds : Upholds program Holds Inv Stands) (start : Inv db [])
    (run : Journal.Runs program Holds (Journal.idle db) journal) : Upheld Inv Stands journal := by
  induction run with
  | refl => exact upheld_idle start
  | step _ holds stepped ih => exact upheld_step upholds ih holds stepped

end Upheld

end Relational
