import Messanger.Library.Session

/-!
Watched sessions: beside each session stands what the others have committed since it was opened.
A program that is right as long as nobody commits a write that clashes with it keeps the
invariant in every run in which such programs do not overlap.  Where a statement starts it afresh,
only what was committed after that statement counts.
-/

namespace Relational

variable {Db Write Key Error Answer Result : Type}

def System.committing (system : System Db Write Key Error) (index : Nat) : Option (List Write) :=
  match system.sessions[index]? with
  | none => none
  | some session =>
      match session.rest with
      | .commit _ => some session.log
      | _ => none

def System.written (system : System Db Write Key Error) (index : Nat) : Nat :=
  match system.sessions[index]? with
  | none => 0
  | some session => session.log.length

/-- Each write that a session missed stands with the number of writes the session had made then. -/
structure Watched (Db Write Key Error : Type) where
  system : System Db Write Key Error
  notes : Nat → List (Nat × Write)

namespace Watched

def idle (db : Db) : Watched Db Write Key Error := ⟨System.idle db, fun _ => []⟩

def missed (watched : Watched Db Write Key Error) (index : Nat) : List Write :=
  (watched.notes index).map Prod.snd

def noted (watched : Watched Db Write Key Error) :
    Label Db Write Key Error → Nat → List (Nat × Write)
  | .start _ => fun index =>
      if index = watched.system.sessions.length then [] else watched.notes index
  | .exec committer =>
      match watched.system.committing committer with
      | none => watched.notes
      | some log => fun index =>
          if index = committer then watched.notes index
          else watched.notes index ++ log.map fun write => (watched.system.written index, write)
  | .rollback _ => watched.notes

variable [Storage Db Write] [DecidableEq Key]

def step (watched : Watched Db Write Key Error) (label : Label Db Write Key Error) :
    Option (Watched Db Write Key Error) :=
  (watched.system.step label).map fun next => ⟨next, watched.noted label⟩

/-- A run, each step of which is asked for something in the state it is made in. -/
inductive Runs (Starts : Tx Db Write Key Error Unit → Prop)
    (Meets : Watched Db Write Key Error → Label Db Write Key Error → Prop)
    (initial : Watched Db Write Key Error) : Watched Db Write Key Error → Prop
  | refl : Runs Starts Meets initial initial
  | step {watched next : Watched Db Write Key Error} {label : Label Db Write Key Error} :
      Runs Starts Meets initial watched →
      (∀ program, label = .start program → Starts program) →
      Meets watched label → watched.step label = some next → Runs Starts Meets initial next

theorem Runs.run {Starts : Tx Db Write Key Error Unit → Prop}
    {Meets : Watched Db Write Key Error → Label Db Write Key Error → Prop}
    {initial final : Watched Db Write Key Error} (runs : Runs Starts Meets initial final) :
    Run Starts (fun _ _ => True) initial.system final.system := by
  induction runs with
  | refl => exact .refl
  | @step watched next label _ started _ stepped ih =>
      obtain ⟨system, moved, rfl⟩ := Option.map_eq_some_iff.mp stepped
      refine .step ih ?_ moved
      cases label with
      | start program => exact started program rfl
      | exec index => exact fun _ _ _ _ _ _ => trivial
      | rollback index => trivial

def trace (ok : Watched Db Write Key Error → Label Db Write Key Error → Bool)
    (watched : Watched Db Write Key Error) :
    List (Label Db Write Key Error) → Option (Watched Db Write Key Error)
  | [] => some watched
  | label :: rest =>
      if ok watched label then (watched.step label).bind fun next => next.trace ok rest else none

theorem runs_of_trace {Starts : Tx Db Write Key Error Unit → Prop}
    {Meets : Watched Db Write Key Error → Label Db Write Key Error → Prop}
    {ok : Watched Db Write Key Error → Label Db Write Key Error → Bool}
    (sound : ∀ watched label, ok watched label = true → Meets watched label)
    (labels : List (Label Db Write Key Error)) {initial watched final : Watched Db Write Key Error}
    (allowed : ∀ program, .start program ∈ labels → Starts program)
    (run : Runs Starts Meets initial watched) (traced : watched.trace ok labels = some final) :
    Runs Starts Meets initial final := by
  induction labels generalizing watched with
  | nil =>
      cases traced
      exact run
  | cons label rest ih =>
      obtain ⟨passed, traced⟩ := Option.ite_none_right_eq_some.mp traced
      obtain ⟨next, stepped, traced⟩ := Option.bind_eq_some_iff.mp traced
      refine ih (fun program member => allowed program (List.mem_cons_of_mem _ member))
        (.step run (fun program same => ?_) (sound watched label passed) stepped) traced
      exact allowed program (same ▸ List.mem_cons_self)

end Watched

section Logic

variable [Storage Db Write]

structure Beside (Clash : Write → Prop) (Known : Db → Prop) (db after : Db) : Prop where
  known : Known after
  others : ∃ log, (∀ write ∈ log, ¬ Clash write) ∧ after = applyAll log db

section Beside

variable {Clash : Write → Prop} {Known : Db → Prop} {first second third : Db}

theorem Beside.refl (known : Known first) : Beside Clash Known first first :=
  ⟨known, [], by simp, rfl⟩

theorem Beside.trans (left : Beside Clash Known first second)
    (right : Beside Clash Known second third) : Beside Clash Known first third := by
  obtain ⟨early, earlyApart, rfl⟩ := left.others
  obtain ⟨late, lateApart, rfl⟩ := right.others
  refine ⟨right.known, early ++ late, fun write member => ?_, (applyAll_append _ _ _).symm⟩
  rcases List.mem_append.mp member with inEarly | inLate
  · exact earlyApart write inEarly
  · exact lateApart write inLate

theorem Beside.keeps (Holds : Db → Prop)
    (kept : ∀ write, ¬ Clash write → ∀ db, Holds db → Holds (Storage.apply write db))
    (beside : Beside Clash Known first second) (holds : Holds first) : Holds second := by
  obtain ⟨log, apart, rfl⟩ := beside.others
  exact applyAll_preserves Holds log (fun write member => kept write (apart write member)) _ holds

end Beside

/-- Every commit of the program reaches the goal, unless a write that clashes was committed since
it was opened. -/
def Tx.Undisturbed (Clash : Write → Prop) (Known Goal : Db → Prop) :
    Tx Db Write Key Error Answer → List Write → Db → Prop
  | .done _, _, _ => True
  | .raise _, _, _ => True
  | .stmt _ writes next, log, db => ∀ after, Beside Clash Known db after →
      (next (applyAll log after)).Undisturbed Clash Known Goal
        (log ++ writes (applyAll log after)) after
  | .commit next, log, db => ∀ after, Beside Clash Known db after →
      Goal (applyAll log after) ∧
        (Known (applyAll log after) → next.Undisturbed Clash Known Goal [] (applyAll log after))

/-- Each statement that writes a mark leaves a program that is undisturbed from wherever the database
is then, whatever was committed before. -/
def Tx.Renews (Mark Clash : Write → Prop) (Known Goal : Db → Prop) :
    Tx Db Write Key Error Answer → List Write → Prop
  | .done _, _ => True
  | .raise _, _ => True
  | .stmt _ writes next, log => ∀ seen,
      ((∃ mark ∈ writes seen, Mark mark) →
        ∀ db, (next seen).Undisturbed Clash Known Goal (log ++ writes seen) db) ∧
      (next seen).Renews Mark Clash Known Goal (log ++ writes seen)
  | .commit next, _ => next.Renews Mark Clash Known Goal []

namespace Tx

def Commitless : Tx Db Write Key Error Answer → Prop
  | .done _ => True
  | .raise _ => True
  | .stmt _ _ next => ∀ seen, (next seen).Commitless
  | .commit _ => False

section Commitless

omit [Storage Db Write]

variable {rest : Answer → Tx Db Write Key Error Result}

theorem commitless_bind {program : Tx Db Write Key Error Answer} (first : program.Commitless)
    (next : ∀ answer, (rest answer).Commitless) : (program.bind rest).Commitless := by
  induction program with
  | done answer => exact next answer
  | raise _ => trivial
  | stmt locks writes inner ih => exact fun seen => ih seen (first seen)
  | commit inner ih => exact first.elim

theorem commitless_read (query : Db → Answer) :
    (Tx.read query : Tx Db Write Key Error Answer).Commitless := fun _ => trivial

theorem commitless_ofExcept (outcome : Except Error Answer) :
    (Tx.ofExcept outcome : Tx Db Write Key Error Answer).Commitless := by
  cases outcome with
  | error _ => trivial
  | ok _ => trivial

theorem commitless_statement (locks : Db → List Key) (writes : Db → List Write)
    (answer : Db → Except Error Answer) : (Tx.statement locks writes answer).Commitless :=
  fun _ => commitless_ofExcept _

theorem commitless_require (condition : Bool) (error : Error) :
    (Tx.require condition error : Tx Db Write Key Error Unit).Commitless := by
  cases condition with
  | false => trivial
  | true => trivial

theorem commitless_orRaise (found : Option Answer) (error : Error) :
    (Tx.orRaise found error : Tx Db Write Key Error Answer).Commitless := by
  cases found with
  | none => trivial
  | some _ => trivial

theorem commitless_ite {condition : Prop} [Decidable condition]
    {program other : Tx Db Write Key Error Result} (left : program.Commitless)
    (right : other.Commitless) : (if condition then program else other).Commitless := by
  split
  · exact left
  · exact right

theorem commitless_each {Item : Type} {action : Item → Tx Db Write Key Error Unit}
    (round : ∀ item, (action item).Commitless) :
    ∀ items : List Item, (Tx.each action items).Commitless := by
  intro items
  induction items with
  | nil => trivial
  | cons item others ih => exact commitless_bind (round item) fun _ => ih

end Commitless

variable {Clash : Write → Prop} {Known Goal : Db → Prop} {log : List Write} {db after : Db}
  {rest : Answer → Tx Db Write Key Error Result}

theorem undisturbed_stable {program : Tx Db Write Key Error Answer}
    (holds : program.Undisturbed Clash Known Goal log db)
    (beside : Beside Clash Known db after) : program.Undisturbed Clash Known Goal log after := by
  cases program with
  | done _ => trivial
  | raise _ => trivial
  | stmt _ _ _ => exact fun later more => holds later (beside.trans more)
  | commit _ => exact fun later more => holds later (beside.trans more)

theorem undisturbed_read {query : Db → Answer}
    (next : ∀ after, Beside Clash Known db after →
      (rest (query (applyAll log after))).Undisturbed Clash Known Goal log after) :
    ((Tx.read query).bind rest).Undisturbed Clash Known Goal log db := by
  intro after beside
  rw [List.append_nil]
  exact next after beside

theorem undisturbed_statement {locks : Db → List Key} {writes : Db → List Write}
    {answer : Db → Except Error Answer}
    (next : ∀ after, Beside Clash Known db after →
      ∀ result, answer (applyAll log after) = .ok result →
        (rest result).Undisturbed Clash Known Goal (log ++ writes (applyAll log after)) after) :
    ((Tx.statement locks writes answer).bind rest).Undisturbed Clash Known Goal log db := by
  intro after beside
  dsimp only
  cases answered : answer (applyAll log after) with
  | error _ => trivial
  | ok result => exact next after beside result answered

theorem undisturbed_query {locks : Db → List Key} {answer : Db → Except Error Answer}
    (next : ∀ after, Beside Clash Known db after →
      ∀ result, answer (applyAll log after) = .ok result →
        (rest result).Undisturbed Clash Known Goal log after) :
    ((Tx.statement locks (fun _ => []) answer).bind rest).Undisturbed Clash Known Goal log db := by
  refine undisturbed_statement fun after beside result answered => ?_
  rw [List.append_nil]
  exact next after beside result answered

theorem undisturbed_require {condition : Bool} {error : Error}
    {rest : Unit → Tx Db Write Key Error Result}
    (next : condition = true → (rest ()).Undisturbed Clash Known Goal log db) :
    ((Tx.require condition error).bind rest).Undisturbed Clash Known Goal log db := by
  cases condition with
  | false => trivial
  | true => exact next rfl

theorem undisturbed_orRaise {found : Option Answer} {error : Error}
    (next : ∀ answer, found = some answer → (rest answer).Undisturbed Clash Known Goal log db) :
    ((Tx.orRaise found error).bind rest).Undisturbed Clash Known Goal log db := by
  cases found with
  | none => trivial
  | some answer => exact next answer rfl

theorem undisturbed_ofExcept {outcome : Except Error Answer}
    (next : ∀ answer, outcome = .ok answer →
      (rest answer).Undisturbed Clash Known Goal log db) :
    ((Tx.ofExcept outcome).bind rest).Undisturbed Clash Known Goal log db := by
  cases outcome with
  | error _ => trivial
  | ok answer => exact next answer rfl

theorem undisturbed_commit
    (reaches : ∀ after, Beside Clash Known db after → Goal (applyAll log after)) :
    (Tx.commitNow : Tx Db Write Key Error Unit).Undisturbed Clash Known Goal log db :=
  fun after beside => ⟨reaches after beside, fun _ => trivial⟩

theorem undisturbed_each {Item : Type} {action : Item → Tx Db Write Key Error Unit}
    {rest : Unit → Tx Db Write Key Error Result}
    (Inside : List Item → List Write → Db → Prop)
    (round : ∀ item others log db (next : Unit → Tx Db Write Key Error Result),
      Inside (item :: others) log db →
      (∀ log db, Inside others log db → (next ()).Undisturbed Clash Known Goal log db) →
      ((action item).bind next).Undisturbed Clash Known Goal log db)
    (last : ∀ log db, Inside [] log db → (rest ()).Undisturbed Clash Known Goal log db) :
    ∀ (items : List Item) (log : List Write) (db : Db), Inside items log db →
      ((Tx.each action items).bind rest).Undisturbed Clash Known Goal log db := by
  intro items
  induction items with
  | nil => exact fun log db inside => last log db inside
  | cons item others ih =>
      intro log db inside
      rw [Tx.each, Tx.bind_assoc]
      exact round item others log db _ inside fun log db inside => ih log db inside

theorem undisturbed_bind {Own : Write → Prop} {program : Tx Db Write Key Error Answer}
    (commitless : program.Commitless) (emits : program.Emits Own)
    (next : ∀ answer log db, (∀ write ∈ log, Own write) →
      (rest answer).Undisturbed Clash Known Goal log db) :
    ∀ {log : List Write} {db : Db}, (∀ write ∈ log, Own write) →
      (program.bind rest).Undisturbed Clash Known Goal log db := by
  induction program with
  | done answer => exact fun own => next answer _ _ own
  | raise _ => exact fun _ => trivial
  | stmt locks writes inner ih =>
      intro log db own after beside
      refine ih _ (commitless _) (emits.2 _) fun write member => ?_
      rcases List.mem_append.mp member with logged | written
      · exact own write logged
      · exact emits.1 _ write written
  | commit inner ih => exact commitless.elim

theorem undisturbed_of_emits {Own : Write → Prop} {program : Tx Db Write Key Error Answer}
    (harmless : ∀ log, (∀ write ∈ log, Own write) → ∀ db, Known db → Goal (applyAll log db)) :
    ∀ {log : List Write} {db : Db}, program.Emits Own → (∀ write ∈ log, Own write) →
      program.Undisturbed Clash Known Goal log db := by
  induction program with
  | done _ => exact fun _ _ => trivial
  | raise _ => exact fun _ _ => trivial
  | stmt locks writes next ih =>
      intro log db emits own after beside
      refine ih _ (emits.2 _) fun write member => ?_
      rcases List.mem_append.mp member with logged | written
      · exact own write logged
      · exact emits.1 _ write written
  | commit next ih =>
      intro log db emits own after beside
      exact ⟨harmless log own after beside.known, fun _ => ih emits fun _ member => nomatch member⟩

variable {Mark Own : Write → Prop}

theorem renews_unmarked {program : Tx Db Write Key Error Answer} :
    ∀ {log : List Write}, program.Emits (fun write => ¬ Mark write) →
      program.Renews Mark Clash Known Goal log := by
  induction program with
  | done _ => exact fun _ => trivial
  | raise _ => exact fun _ => trivial
  | stmt locks writes next ih =>
      intro log emits seen
      refine ⟨?_, ih seen (emits.2 seen)⟩
      rintro ⟨mark, member, marked⟩
      exact absurd marked (emits.1 seen mark member)
  | commit next ih => exact fun emits => ih emits

theorem renews_of_emits {program : Tx Db Write Key Error Answer}
    (harmless : ∀ log, (∀ write ∈ log, Own write) → ∀ db, Known db → Goal (applyAll log db)) :
    ∀ {log : List Write}, program.Emits Own → (∀ write ∈ log, Own write) →
      program.Renews Mark Clash Known Goal log := by
  induction program with
  | done _ => exact fun _ _ => trivial
  | raise _ => exact fun _ _ => trivial
  | stmt locks writes next ih =>
      intro log emits own seen
      have extended : ∀ write ∈ log ++ writes seen, Own write := by
        intro write member
        rcases List.mem_append.mp member with logged | written
        · exact own write logged
        · exact emits.1 seen write written
      exact ⟨fun _ db => undisturbed_of_emits harmless (emits.2 seen) extended,
        ih seen (emits.2 seen) extended⟩
  | commit next ih => exact fun emits _ => ih emits (by simp)

/-- The program is undisturbed from every database, now and after each mark. -/
structure Restarts (Mark Clash : Write → Prop) (Known Goal : Db → Prop)
    (program : Tx Db Write Key Error Answer) (log : List Write) : Prop where
  undisturbed : ∀ db, program.Undisturbed Clash Known Goal log db
  renews : program.Renews Mark Clash Known Goal log

theorem restarts_bind {program : Tx Db Write Key Error Answer} (commitless : program.Commitless)
    (next : ∀ answer log, (rest answer).Restarts Mark Clash Known Goal log) (log : List Write) :
    (program.bind rest).Restarts Mark Clash Known Goal log := by
  induction program generalizing log with
  | done answer => exact next answer log
  | raise _ => exact ⟨fun _ => trivial, trivial⟩
  | stmt locks writes inner ih =>
      have later := fun seen log => ih seen (commitless seen) log
      exact ⟨fun _ after _ => (later (applyAll log after) _).undisturbed after,
        fun seen => ⟨fun _ db => (later seen _).undisturbed db, (later seen _).renews⟩⟩
  | commit inner ih => exact commitless.elim

end Tx

section Soundness

variable [DecidableEq Key]

theorem System.exec_cases {system next : System Db Write Key Error} {index : Nat}
    (stepped : system.step (.exec index) = some next) :
    ∃ session, system.sessions[index]? = some session ∧
      ((∃ locks writes rest, session.rest = .stmt locks writes rest ∧
        next = { system with
          sessions := system.sessions.set index
            ⟨session.held ++ locks (session.seen system.db),
              session.log ++ writes (session.seen system.db), rest (session.seen system.db)⟩ }) ∨
      ∃ rest, session.rest = .commit rest ∧
        next = ⟨session.seen system.db, system.sessions.set index ⟨[], [], rest⟩⟩) := by
  simp only [System.step] at stepped
  cases found : system.sessions[index]? with
  | none => simp [found] at stepped
  | some session =>
      refine ⟨session, rfl, ?_⟩
      simp only [found] at stepped
      cases program : session.rest with
      | done _ => simp [program] at stepped
      | raise _ => simp [program] at stepped
      | stmt locks writes rest =>
          simp only [program] at stepped
          split at stepped
          · exact .inl ⟨locks, writes, rest, rfl, (Option.some.inj stepped).symm⟩
          · cases stepped
      | commit rest =>
          simp only [program] at stepped
          exact .inr ⟨rest, rfl, (Option.some.inj stepped).symm⟩

theorem getElem?_set_cases {Item : Type} {items : List Item} {index other : Nat} {item found : Item}
    (looked : (items.set index item)[other]? = some found) :
    (other = index ∧ found = item ∧ ∃ old, items[other]? = some old) ∨
      (other ≠ index ∧ items[other]? = some found) := by
  rw [List.getElem?_set] at looked
  by_cases same : index = other
  · rw [if_pos same] at looked
    split at looked
    · rename_i inside
      subst same
      exact .inl ⟨rfl, (Option.some.inj looked).symm, _, List.getElem?_eq_getElem inside⟩
    · cases looked
  · rw [if_neg same] at looked
    exact .inr ⟨fun equal => same equal.symm, looked⟩

variable {Request : Type} (program : Request → Tx Db Write Key Error Unit)
  (Own Clash : Request → Write → Prop) (Mark : Write → Prop) (Known Inv : Db → Prop)

/-- The session belongs to a request, writes what is its own, and, as long as it has written a mark
after everything it missed that clashes, is on its way to the goal. -/
def Attends (db : Db) (notes : List (Nat × Write)) (session : Session Db Write Key Error) : Prop :=
  ∃ request, session.rest.Emits (Own request) ∧ (∀ write ∈ session.log, Own request write) ∧
    session.rest.Renews Mark (Clash request) (fun db => Known db ∧ Inv db) Inv session.log ∧
    ((∀ note ∈ notes, Clash request note.2 → ∃ mark ∈ session.log.drop note.1, Mark mark) →
      session.rest.Undisturbed (Clash request) (fun db => Known db ∧ Inv db) Inv session.log db)

structure Calm (watched : Watched Db Write Key Error) : Prop where
  inv : Inv watched.system.db
  noted : ∀ index, ∀ write ∈ watched.missed index, ∃ request, Own request write
  attends : ∀ index session, watched.system.sessions[index]? = some session →
    Attends Own Clash Mark Known Inv watched.system.db (watched.notes index) session

variable {program Own Clash Mark Known Inv}

omit [DecidableEq Key] in
theorem attends_later {db after : Db} {notes : List (Nat × Write)} {log : List Write}
    {session : Session Db Write Key Error}
    (attends : Attends Own Clash Mark Known Inv db notes session)
    (known : Known after) (inv : Inv after) (committed : after = applyAll log db) :
    Attends Own Clash Mark Known Inv after
      (notes ++ log.map fun write => (session.log.length, write)) session := by
  obtain ⟨request, emits, own, renews, holds⟩ := attends
  refine ⟨request, emits, own, renews, fun marked => ?_⟩
  have before := holds fun note member => marked note (List.mem_append_left _ member)
  refine Tx.undisturbed_stable before ⟨⟨known, inv⟩, log, fun write member clashes => ?_, committed⟩
  -- A write that is committed now is after everything the session has written.
  obtain ⟨mark, later, _⟩ := marked (session.log.length, write)
    (List.mem_append_right _ (List.mem_map.mpr ⟨write, member, rfl⟩)) clashes
  rw [List.drop_length] at later
  cases later

omit [Storage Db Write] [DecidableEq Key] in
theorem marked_before {log writes : List Write} {notes : List (Nat × Write)} {Clashes : Write → Prop}
    (unmarked : ∀ mark ∈ writes, ¬ Mark mark)
    (marked : ∀ note ∈ notes, Clashes note.2 → ∃ mark ∈ (log ++ writes).drop note.1, Mark mark) :
    ∀ note ∈ notes, Clashes note.2 → ∃ mark ∈ log.drop note.1, Mark mark := by
  intro note member clashes
  obtain ⟨mark, later, is⟩ := marked note member clashes
  rw [List.drop_append] at later
  rcases List.mem_append.mp later with logged | written
  · exact ⟨mark, logged, is⟩
  · exact absurd is (unmarked mark (List.mem_of_mem_drop written))

theorem Watched.Runs.inv_marked
    {Meets : Watched Db Write Key Error → Label Db Write Key Error → Prop}
    {db : Db} {final : Watched Db Write Key Error}
    (run : Watched.Runs (fun opened => ∃ request, opened = program request) Meets
      (Watched.idle db) final)
    (Own Clash : Request → Write → Prop) (Mark : Write → Prop) (Known Inv : Db → Prop)
    (known : ∀ middle, Watched.Runs (fun opened => ∃ request, opened = program request) Meets
      (Watched.idle db) middle → Known middle.system.db)
    (emits : ∀ request, (program request).Emits (Own request))
    (holds : ∀ request db, Known db → Inv db →
      (program request).Undisturbed (Clash request) (fun db => Known db ∧ Inv db) Inv [] db)
    (renews : ∀ request,
      (program request).Renews Mark (Clash request) (fun db => Known db ∧ Inv db) Inv [])
    (settles : ∀ (watched : Watched Db Write Key Error) index request log,
      Meets watched (.exec index) → watched.system.committing index = some log →
      (∀ write ∈ log, Own request write) →
      (∀ write ∈ watched.missed index, ∃ other, Own other write) → Inv watched.system.db →
      ((∀ note ∈ watched.notes index, Clash request note.2 →
          ∃ mark ∈ log.drop note.1, Mark mark) →
        Inv (applyAll log watched.system.db)) → Inv (applyAll log watched.system.db))
    (start : Inv db) : Inv final.system.db := by
  suffices calm : Calm Own Clash Mark Known Inv final from calm.inv
  induction run with
  | refl =>
      refine ⟨start, fun index write member => ?_, fun index session found => ?_⟩
      · cases member
      · simp [Watched.idle, System.idle] at found
  | @step watched next label before started meets stepped calm =>
      have knownNext := known _ (Watched.Runs.step before started meets stepped)
      have knownNow := known _ before
      obtain ⟨system, moved, rfl⟩ := Option.map_eq_some_iff.mp stepped
      cases label with
      | start opened =>
          simp only [System.step, Option.some.injEq] at moved
          subst moved
          obtain ⟨request, rfl⟩ := started opened rfl
          refine ⟨calm.inv, fun index write member => ?_, fun index session found => ?_⟩
          · simp only [Watched.missed, Watched.noted] at member
            split at member
            · cases member
            · exact calm.noted index write member
          simp only [Watched.noted]
          rw [List.getElem?_append] at found
          split at found
          · rename_i old
            rw [if_neg (by omega)]
            exact calm.attends index session found
          · rename_i new
            rw [List.getElem?_singleton] at found
            split at found
            · cases found
              exact ⟨request, emits request, by simp [Session.opened], renews request,
                fun _ => holds request _ knownNow calm.inv⟩
            · cases found
      | rollback rolled =>
          simp only [System.step, Option.some.injEq] at moved
          subst moved
          refine ⟨calm.inv, calm.noted, fun index session found => ?_⟩
          rcases getElem?_set_cases found with ⟨rfl, rfl, old, present⟩ | ⟨_, old⟩
          · obtain ⟨request, _⟩ := calm.attends index old present
            exact ⟨request, trivial, by simp, trivial, fun _ => trivial⟩
          · exact calm.attends index session old
      | exec actor =>
          obtain ⟨session, present, moved⟩ := System.exec_cases moved
          obtain ⟨request, emits, own, renews, holds⟩ := calm.attends actor session present
          rcases moved with ⟨locks, writes, rest, program, rfl⟩ | ⟨rest, program, rfl⟩
          · have quiet : watched.noted (.exec actor) = watched.notes := by
              simp [Watched.noted, System.committing, present, program]
            rw [program] at emits renews holds
            rw [quiet]
            refine ⟨calm.inv, calm.noted, fun index other found => ?_⟩
            rcases getElem?_set_cases found with ⟨rfl, rfl, _⟩ | ⟨_, old⟩
            · obtain ⟨renewed, later⟩ := renews (session.seen watched.system.db)
              refine ⟨request, emits.2 _, fun write member => ?_, later, fun marked => ?_⟩
              · rcases List.mem_append.mp member with logged | written
                · exact own write logged
                · exact emits.1 _ write written
              · -- A statement that writes a mark starts afresh; another one goes on.
                by_cases marks : ∃ mark ∈ writes (session.seen watched.system.db), Mark mark
                · exact renewed marks _
                · refine holds (marked_before (fun mark member is => marks ⟨mark, member, is⟩) marked)
                    _ (.refl ⟨knownNext, calm.inv⟩)
            · exact calm.attends index other old
          · have committing : watched.system.committing actor = some session.log := by
              simp [System.committing, present, program]
            rw [program] at emits renews holds
            have now := fun marked => holds marked _ (.refl ⟨knownNow, calm.inv⟩)
            have inv := settles watched actor request session.log meets committing own
              (calm.noted actor) calm.inv fun marked => (now marked).1
            refine ⟨inv, fun index write member => ?_, fun index other found => ?_⟩
            · simp only [Watched.missed, Watched.noted, committing] at member
              split at member
              · exact calm.noted index write member
              · rw [List.map_append, List.map_map] at member
                rcases List.mem_append.mp member with old | new
                · exact calm.noted index write old
                · obtain ⟨_, logged, rfl⟩ := List.mem_map.mp new
                  exact ⟨request, own _ logged⟩
            simp only [Watched.noted, committing]
            rcases getElem?_set_cases found with ⟨rfl, rfl, _⟩ | ⟨different, old⟩
            · rw [if_pos rfl]
              refine ⟨request, emits, by simp, renews, fun marked => ?_⟩
              refine (now ?_).2 ⟨knownNext, inv⟩
              intro note member clashes
              obtain ⟨mark, later, _⟩ := marked note member clashes
              simp at later
            · rw [if_neg different]
              have written : watched.system.written index = other.log.length := by
                rw [System.written, old]
              rw [written]
              exact attends_later (calm.attends index other old) knownNext inv rfl

theorem Watched.Runs.inv {Meets : Watched Db Write Key Error → Label Db Write Key Error → Prop}
    {db : Db} {final : Watched Db Write Key Error}
    (run : Watched.Runs (fun opened => ∃ request, opened = program request) Meets
      (Watched.idle db) final)
    (Own Clash : Request → Write → Prop) (Known Inv : Db → Prop)
    (known : ∀ middle, Watched.Runs (fun opened => ∃ request, opened = program request) Meets
      (Watched.idle db) middle → Known middle.system.db)
    (emits : ∀ request, (program request).Emits (Own request))
    (holds : ∀ request db, Known db → Inv db →
      (program request).Undisturbed (Clash request) (fun db => Known db ∧ Inv db) Inv [] db)
    (settles : ∀ (watched : Watched Db Write Key Error) index request log,
      Meets watched (.exec index) → watched.system.committing index = some log →
      (∀ write ∈ log, Own request write) →
      (∀ write ∈ watched.missed index, ∃ other, Own other write) → Inv watched.system.db →
      ((∀ write ∈ watched.missed index, ¬ Clash request write) →
        Inv (applyAll log watched.system.db)) → Inv (applyAll log watched.system.db))
    (start : Inv db) : Inv final.system.db := by
  refine run.inv_marked Own Clash (fun _ => False) Known Inv known emits holds
    (fun request => Tx.renews_unmarked (Tx.emits_mono (emits request) fun _ _ => not_false)) ?_ start
  intro watched index request log meets committing own others inv undisturbed
  refine settles watched index request log meets committing own others inv fun apart => ?_
  refine undisturbed fun note member clashes => absurd clashes (apart note.2 ?_)
  exact List.mem_map.mpr ⟨note, member, rfl⟩

end Soundness

end Logic

end Relational
