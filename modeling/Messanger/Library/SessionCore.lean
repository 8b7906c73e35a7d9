import Mathlib.Data.List.Basic

/-!
Transactions at statement granularity.  A program is a tree of statements; each
statement names the rows it locks, the writes it buffers and how the program goes
on, all as functions of the rows the statement sees.  `run` executes one program
alone; `System.step` interleaves any number of open sessions under row locks with
read committed visibility: a statement sees the committed rows and the session's
own buffered writes.
-/

namespace Relational

class Storage (Db : Type) (Write : outParam Type) where
  apply : Write → Db → Db

def applyAll {Db Write : Type} [Storage Db Write] (log : List Write) (db : Db) : Db :=
  log.foldl (fun current write => Storage.apply write current) db

inductive Tx (Db Write Key Error Result : Type) where
  | done (result : Result)
  | raise (error : Error)
  | stmt (locks : Db → List Key) (writes : Db → List Write)
      (next : Db → Tx Db Write Key Error Result)
  | commit (next : Tx Db Write Key Error Result)

namespace Tx

variable {Db Write Key Error Result Answer : Type}

def bind : Tx Db Write Key Error Answer → (Answer → Tx Db Write Key Error Result) →
    Tx Db Write Key Error Result
  | .done answer, rest => rest answer
  | .raise error, _ => .raise error
  | .stmt locks writes next, rest => .stmt locks writes fun seen => (next seen).bind rest
  | .commit next, rest => .commit (next.bind rest)

instance : Monad (Tx Db Write Key Error) where
  pure := .done
  bind := bind

def ofExcept : Except Error Answer → Tx Db Write Key Error Answer
  | .ok answer => .done answer
  | .error error => .raise error

/-- One SQL statement: the rows it locks, what it writes and what it answers, each
computed from the rows it sees; an error answer ends the transaction. -/
def statement (locks : Db → List Key) (writes : Db → List Write)
    (answer : Db → Except Error Answer) : Tx Db Write Key Error Answer :=
  .stmt locks writes fun seen => ofExcept (answer seen)

def read (query : Db → Answer) : Tx Db Write Key Error Answer :=
  .stmt (fun _ => []) (fun _ => []) fun seen => .done (query seen)

def commitNow : Tx Db Write Key Error Unit :=
  .commit (.done ())

def require (condition : Bool) (error : Error) : Tx Db Write Key Error Unit :=
  if condition then .done () else .raise error

def orRaise (found : Option Answer) (error : Error) : Tx Db Write Key Error Answer :=
  match found with
  | some answer => .done answer
  | none => .raise error

def each {Item : Type} (action : Item → Tx Db Write Key Error Unit) :
    List Item → Tx Db Write Key Error Unit
  | [] => .done ()
  | item :: rest => (action item).bind fun _ => each action rest

def void (program : Tx Db Write Key Error Answer) : Tx Db Write Key Error Unit :=
  program.bind fun _ => .done ()

variable [Storage Db Write]

/-- The program alone: the answer and the committed rows at its end.  Writes that are
still buffered when it ends are rolled back. -/
def run : Tx Db Write Key Error Answer → Db → Db → Except Error Answer × Db
  | .done answer, committed, _ => (.ok answer, committed)
  | .raise error, committed, _ => (.error error, committed)
  | .stmt _ writes next, committed, seen =>
      (next seen).run committed (applyAll (writes seen) seen)
  | .commit next, _, seen => next.run seen seen

def exec (program : Tx Db Write Key Error Answer) (db : Db) : Except Error Answer × Db :=
  program.run db db

end Tx

structure Session (Db Write Key Error : Type) where
  held : List Key
  log : List Write
  rest : Tx Db Write Key Error Unit

structure System (Db Write Key Error : Type) where
  db : Db
  sessions : List (Session Db Write Key Error)

inductive Label (Db Write Key Error : Type) where
  | start (program : Tx Db Write Key Error Unit)
  | exec (session : Nat)
  | rollback (session : Nat)

variable {Db Write Key Error : Type} [Storage Db Write]

def Session.seen (session : Session Db Write Key Error) (db : Db) : Db :=
  applyAll session.log db

def Session.opened (program : Tx Db Write Key Error Unit) : Session Db Write Key Error :=
  ⟨[], [], program⟩

def Session.Finished (session : Session Db Write Key Error) : Bool :=
  match session.rest with
  | .done _ => true
  | .raise _ => true
  | _ => false

def System.idle (db : Db) : System Db Write Key Error := ⟨db, []⟩

section

variable [DecidableEq Key]

def System.free (system : System Db Write Key Error) (index : Nat) (locks : List Key) : Bool :=
  system.sessions.zipIdx.all fun (session, other) =>
    other == index || locks.all fun key => !session.held.contains key

def System.step (system : System Db Write Key Error) :
    Label Db Write Key Error → Option (System Db Write Key Error)
  | .start program =>
      some { system with sessions := system.sessions ++ [Session.opened program] }
  | .exec index =>
      match system.sessions[index]? with
      | none => none
      | some session =>
          match session.rest with
          | .done _ => none
          | .raise _ => none
          | .stmt locks writes next =>
              let seen := session.seen system.db
              if system.free index (locks seen) then
                some { system with
                  sessions := system.sessions.set index
                    ⟨session.held ++ locks seen, session.log ++ writes seen, next seen⟩ }
              else none
          | .commit next =>
              some
                { db := session.seen system.db
                  sessions := system.sessions.set index ⟨[], [], next⟩ }
  | .rollback index =>
      some { system with sessions := system.sessions.set index ⟨[], [], .done ()⟩ }

def System.meets (ok : Db → List Write → Bool) (system : System Db Write Key Error) :
    Label Db Write Key Error → Bool
  | .exec index =>
      match system.sessions[index]? with
      | none => true
      | some session =>
          match session.rest with
          | .stmt _ writes _ => ok (session.seen system.db) (writes (session.seen system.db))
          | _ => true
  | _ => true

def System.steps (ok : Db → List Write → Bool) (system : System Db Write Key Error) :
    List (Label Db Write Key Error) → Option (System Db Write Key Error)
  | [] => some system
  | label :: rest =>
      if system.meets ok label then
        match system.step label with
        | none => none
        | some next => next.steps ok rest
      else none

/-- What a run may do: programs it starts satisfy `Starts`, and every statement it executes
satisfies `Ok` on the rows it sees and the writes it buffers. -/
def Label.Admissible (Starts : Tx Db Write Key Error Unit → Prop)
    (Ok : Db → List Write → Prop) (system : System Db Write Key Error) :
    Label Db Write Key Error → Prop
  | .start program => Starts program
  | .exec index => ∀ session locks writes next, system.sessions[index]? = some session →
      session.rest = .stmt locks writes next →
      Ok (session.seen system.db) (writes (session.seen system.db))
  | .rollback _ => True

inductive Run (Starts : Tx Db Write Key Error Unit → Prop) (Ok : Db → List Write → Prop)
    (initial : System Db Write Key Error) : System Db Write Key Error → Prop
  | refl : Run Starts Ok initial initial
  | step {system next : System Db Write Key Error} {label : Label Db Write Key Error} :
      Run Starts Ok initial system → label.Admissible Starts Ok system →
      system.step label = some next → Run Starts Ok initial next

end

end Relational
