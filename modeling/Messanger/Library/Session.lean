import Messanger.Library.SessionCore

/-!
Two program logics for transactions.  `Tx.Ends` describes a program that runs alone:
either it fails and leaves the rows as they were, or it ends in a state that meets the
postcondition.  `Contract.Safe` describes a program among others: it may rely on the
rows it holds, and every commit keeps the invariant and what other holders rely on.
Programs that are all safe keep the invariant in every interleaving.
-/

namespace Relational

variable {Db Write Key Error Answer Result : Type} [Storage Db Write]

@[simp] theorem applyAll_nil (db : Db) : applyAll ([] : List Write) db = db := rfl

@[simp] theorem applyAll_cons (write : Write) (log : List Write) (db : Db) :
    applyAll (write :: log) db = applyAll log (Storage.apply write db) := rfl

theorem applyAll_append (first second : List Write) (db : Db) :
    applyAll (first ++ second) db = applyAll second (applyAll first db) := by
  simp [applyAll]

theorem applyAll_preserves (Holds : Db → Prop) (log : List Write)
    (kept : ∀ write ∈ log, ∀ db, Holds db → Holds (Storage.apply write db)) :
    ∀ db, Holds db → Holds (applyAll log db) := by
  induction log with
  | nil => exact fun _ holds => holds
  | cons write rest ih =>
      intro db holds
      exact ih (fun other member => kept other (List.mem_cons_of_mem _ member)) _
        (kept write List.mem_cons_self db holds)

namespace Tx

section Bind

variable (program : Tx Db Write Key Error Answer) (rest : Answer → Tx Db Write Key Error Result)

omit [Storage Db Write] in
@[simp] theorem bind_eq : (program >>= rest) = program.bind rest := rfl

omit [Storage Db Write] in
@[simp] theorem pure_eq (answer : Answer) :
    (pure answer : Tx Db Write Key Error Answer) = .done answer := rfl

omit [Storage Db Write] in
@[simp] theorem done_bind (answer : Answer) :
    (Tx.done answer : Tx Db Write Key Error Answer).bind rest = rest answer := rfl

omit [Storage Db Write] in
@[simp] theorem raise_bind (error : Error) :
    (Tx.raise error : Tx Db Write Key Error Answer).bind rest = .raise error := rfl

omit [Storage Db Write] in
theorem ite_bind (condition : Prop) [Decidable condition]
    (other : Tx Db Write Key Error Answer) :
    (if condition then program else other).bind rest =
      if condition then program.bind rest else other.bind rest := by
  split
  · rfl
  · rfl

omit [Storage Db Write] in
theorem bind_assoc {Final : Type} (last : Result → Tx Db Write Key Error Final) :
    (program.bind rest).bind last = program.bind fun answer => (rest answer).bind last := by
  induction program with
  | done _ => rfl
  | raise _ => rfl
  | stmt locks writes next ih => exact congrArg (Tx.stmt locks writes) (funext ih)
  | commit next ih => exact congrArg Tx.commit ih

end Bind

theorem run_answered (wrap : Answer → Result) (program : Tx Db Write Key Error Answer) :
    ∀ committed seen, (program.bind fun answer => .done (wrap answer)).run committed seen =
      ((program.run committed seen).1.map wrap, (program.run committed seen).2) := by
  induction program with
  | done _ => exact fun _ _ => rfl
  | raise _ => exact fun _ _ => rfl
  | stmt locks writes next ih => exact fun committed seen => ih seen committed _
  | commit next ih => exact fun _ seen => ih seen seen

/-- A program run alone either fails without a trace or ends as `Post` says. -/
def Ends (program : Tx Db Write Key Error Answer) (committed seen : Db)
    (Post : Answer → Db → Prop) : Prop :=
  match program.run committed seen with
  | (.error _, final) => final = committed
  | (.ok answer, final) => Post answer final

section Ends

variable {committed seen : Db} {Post : Result → Db → Prop}
  {rest : Answer → Tx Db Write Key Error Result}

theorem ends_raise {error : Error} :
    (Tx.raise error : Tx Db Write Key Error Result).Ends committed seen Post := rfl

theorem ends_done {result : Result} (ended : Post result committed) :
    (Tx.done result : Tx Db Write Key Error Result).Ends committed seen Post := ended

theorem ends_commit {result : Unit → Result} (ended : Post (result ()) seen) :
    (Tx.bind (commitNow : Tx Db Write Key Error Unit) fun ended => .done (result ended)).Ends
      committed seen Post := ended

theorem ends_read {query : Db → Answer} (next : (rest (query seen)).Ends committed seen Post) :
    ((Tx.read query).bind rest).Ends committed seen Post := next

theorem ends_read_last {query : Db → Result} (ended : Post (query seen) committed) :
    (Tx.read query : Tx Db Write Key Error Result).Ends committed seen Post := ended

theorem ends_statement {locks : Db → List Key} {writes : Db → List Write}
    {answer : Db → Except Error Answer}
    (next : ∀ result, answer seen = .ok result →
      (rest result).Ends committed (applyAll (writes seen) seen) Post) :
    ((statement locks writes answer).bind rest).Ends committed seen Post := by
  simp only [statement, Tx.bind, Ends, run]
  cases answered : answer seen with
  | error error => rfl
  | ok result => exact next result answered

theorem ends_require {condition : Bool} {error : Error}
    {rest : Unit → Tx Db Write Key Error Result}
    (next : condition = true → (rest ()).Ends committed seen Post) :
    ((require condition error).bind rest).Ends committed seen Post := by
  cases condition with
  | false => exact ends_raise
  | true => exact next rfl

theorem ends_orRaise {found : Option Answer} {error : Error}
    (next : ∀ answer, found = some answer → (rest answer).Ends committed seen Post) :
    ((orRaise found error).bind rest).Ends committed seen Post := by
  cases found with
  | none => exact ends_raise
  | some answer => exact next answer rfl

theorem ends_ofExcept {outcome : Except Error Answer}
    (next : ∀ answer, outcome = .ok answer → (rest answer).Ends committed seen Post) :
    ((ofExcept outcome).bind rest).Ends committed seen Post := by
  cases outcome with
  | error error => exact ends_raise
  | ok answer => exact next answer rfl

theorem ends_mono {program : Tx Db Write Key Error Result} {Weaker : Result → Db → Prop}
    (ends : program.Ends committed seen Post)
    (weaker : ∀ result final, Post result final → Weaker result final) :
    program.Ends committed seen Weaker := by
  unfold Ends at ends ⊢
  split
  · rename_i error final found
    rw [found] at ends
    exact ends
  · rename_i answer final found
    rw [found] at ends
    exact weaker answer final ends

theorem ends_rounds {Item : Type} {action : Item → Tx Db Write Key Error Unit}
    {rest : Unit → Tx Db Write Key Error Result} (Inside : List Item → Db → Prop)
    (round : ∀ item others seen (next : Unit → Tx Db Write Key Error Result),
      Inside (item :: others) seen →
      (∀ after, Inside others after → (next ()).Ends committed after Post) →
        ((action item).bind next).Ends committed seen Post)
    (last : ∀ after, Inside [] after → (rest ()).Ends committed after Post) :
    ∀ (items : List Item) (seen : Db), Inside items seen →
      ((each action items).bind rest).Ends committed seen Post := by
  intro items
  induction items with
  | nil => exact fun seen inside => last seen inside
  | cons item others ih =>
      intro seen inside
      rw [each, bind_assoc]
      exact round item others seen _ inside ih

theorem ends_each {Item : Type} {action : Item → Tx Db Write Key Error Unit}
    {rest : Unit → Tx Db Write Key Error Result} (Inside : Db → Prop)
    (last : ∀ after, Inside after → (rest ()).Ends committed after Post) (items : List Item)
    (round : ∀ item ∈ items, ∀ seen (next : Unit → Tx Db Write Key Error Result), Inside seen →
      (∀ after, Inside after → (next ()).Ends committed after Post) →
        ((action item).bind next).Ends committed seen Post)
    (seen : Db) (inside : Inside seen) : ((each action items).bind rest).Ends committed seen Post := by
  refine ends_rounds (fun todo seen => Inside seen ∧ ∀ item ∈ todo, item ∈ items)
    (fun item others seen next here onwards => ?_) (fun after here => last after here.1) items seen
    ⟨inside, fun _ member => member⟩
  refine round item (here.2 item List.mem_cons_self) seen next here.1 fun after still => ?_
  exact onwards after ⟨still, fun other member => here.2 other (List.mem_cons_of_mem _ member)⟩

theorem ends_error {program : Tx Db Write Key Error Result}
    (ends : program.Ends committed seen Post) {error : Error} {final : Db}
    (failed : program.run committed seen = (.error error, final)) : final = committed := by
  unfold Ends at ends
  rw [failed] at ends
  exact ends

theorem ends_ok {program : Tx Db Write Key Error Result}
    (ends : program.Ends committed seen Post) {result : Result} {final : Db}
    (succeeded : program.run committed seen = (.ok result, final)) : Post result final := by
  unfold Ends at ends
  rw [succeeded] at ends
  exact ends

theorem ends_answered {program : Tx Db Write Key Error Answer} {Holds : Answer → Db → Prop}
    {wrap : Answer → Result} (ends : program.Ends committed seen Holds) :
    (program.bind fun answer => .done (wrap answer)).Ends committed seen fun _ final =>
      ∃ answer, Holds answer final := by
  unfold Ends
  rw [run_answered]
  rcases outcome : program.run committed seen with ⟨error | answer, final⟩
  · exact ends_error ends outcome
  · exact ⟨answer, ends_ok ends outcome⟩

theorem ends_final {program : Tx Db Write Key Error Result} {Holds : Db → Prop}
    (ends : program.Ends committed seen fun _ final => Holds final) (unchanged : Holds committed) :
    Holds (program.run committed seen).2 := by
  rcases outcome : program.run committed seen with ⟨error | result, final⟩
  · rw [ends_error ends outcome]
    exact unchanged
  · exact ends_ok ends outcome

end Ends

/-- Every write a program can make, on whatever rows it sees, is `Allowed`. -/
def Emits (Allowed : Write → Prop) : Tx Db Write Key Error Answer → Prop
  | .done _ => True
  | .raise _ => True
  | .stmt _ writes next =>
      (∀ seen, ∀ write ∈ writes seen, Allowed write) ∧ ∀ seen, (next seen).Emits Allowed
  | .commit next => next.Emits Allowed

section Emits

variable {Allowed : Write → Prop} {rest : Answer → Tx Db Write Key Error Result}

omit [Storage Db Write] in
@[simp] theorem emits_done (result : Result) :
    (Tx.done result : Tx Db Write Key Error Result).Emits Allowed := trivial

omit [Storage Db Write] in
@[simp] theorem emits_raise (error : Error) :
    (Tx.raise error : Tx Db Write Key Error Result).Emits Allowed := trivial

omit [Storage Db Write] in
@[simp] theorem emits_commit_iff {rest : Unit → Tx Db Write Key Error Result} :
    ((commitNow : Tx Db Write Key Error Unit).bind rest).Emits Allowed ↔
      (rest ()).Emits Allowed := Iff.rfl

omit [Storage Db Write] in
@[simp] theorem emits_read_iff {query : Db → Answer} :
    ((Tx.read query).bind rest).Emits Allowed ↔ ∀ seen, (rest (query seen)).Emits Allowed := by
  simp [Tx.read, Tx.bind, Emits]

omit [Storage Db Write] in
@[simp] theorem emits_read_alone (query : Db → Result) :
    (Tx.read query : Tx Db Write Key Error Result).Emits Allowed :=
  ⟨fun _ _ member => (List.not_mem_nil member).elim, fun _ => trivial⟩

omit [Storage Db Write] in
@[simp] theorem emits_statement_iff {locks : Db → List Key} {writes : Db → List Write}
    {answer : Db → Except Error Answer} :
    ((statement locks writes answer).bind rest).Emits Allowed ↔
      (∀ seen, ∀ write ∈ writes seen, Allowed write) ∧
        ∀ seen result, answer seen = .ok result → (rest result).Emits Allowed := by
  simp only [statement, Tx.bind, Emits]
  refine and_congr Iff.rfl (forall_congr' fun seen => ?_)
  cases answer seen with
  | error error => simp [ofExcept]
  | ok result => simp [ofExcept]

omit [Storage Db Write] in
@[simp] theorem emits_statement_alone_iff {locks : Db → List Key} {writes : Db → List Write}
    {answer : Db → Except Error Result} :
    (statement locks writes answer).Emits Allowed ↔
      ∀ seen, ∀ write ∈ writes seen, Allowed write := by
  simp only [statement, Emits]
  refine and_iff_left fun seen => ?_
  cases answer seen with
  | error _ => trivial
  | ok _ => trivial

omit [Storage Db Write] in
@[simp] theorem emits_require_iff {condition : Bool} {error : Error}
    {rest : Unit → Tx Db Write Key Error Result} :
    ((require condition error).bind rest).Emits Allowed ↔
      (condition = true → (rest ()).Emits Allowed) := by
  cases condition with
  | false => simp [require]
  | true => simp [require]

omit [Storage Db Write] in
@[simp] theorem emits_require_alone (condition : Bool) (error : Error) :
    (require condition error : Tx Db Write Key Error Unit).Emits Allowed := by
  cases condition with
  | false => trivial
  | true => trivial

omit [Storage Db Write] in
@[simp] theorem emits_orRaise_iff {found : Option Answer} {error : Error} :
    ((orRaise found error).bind rest).Emits Allowed ↔
      ∀ answer, found = some answer → (rest answer).Emits Allowed := by
  cases found with
  | none => simp [orRaise]
  | some answer => simp [orRaise]

omit [Storage Db Write] in
@[simp] theorem emits_ofExcept_iff {outcome : Except Error Answer} :
    ((ofExcept outcome).bind rest).Emits Allowed ↔
      ∀ answer, outcome = .ok answer → (rest answer).Emits Allowed := by
  cases outcome with
  | error _ => simp [ofExcept]
  | ok answer => simp [ofExcept]

omit [Storage Db Write] in
@[simp] theorem emits_ite_iff {condition : Prop} [Decidable condition]
    {program other : Tx Db Write Key Error Result} :
    (if condition then program else other).Emits Allowed ↔
      (condition → program.Emits Allowed) ∧ (¬ condition → other.Emits Allowed) := by
  by_cases holds : condition <;> simp [holds]

omit [Storage Db Write] in
theorem emits_bind {program : Tx Db Write Key Error Answer} (first : program.Emits Allowed)
    (next : ∀ answer, (rest answer).Emits Allowed) : (program.bind rest).Emits Allowed := by
  induction program with
  | done answer => exact next answer
  | raise _ => trivial
  | stmt locks writes inner ih => exact ⟨first.1, fun seen => ih seen (first.2 seen)⟩
  | commit inner ih => exact ih first

omit [Storage Db Write] in
theorem emits_each_alone {Item : Type} {action : Item → Tx Db Write Key Error Unit} :
    ∀ items : List Item, (∀ item ∈ items, (action item).Emits Allowed) →
      (each action items).Emits Allowed := by
  intro items
  induction items with
  | nil => exact fun _ => trivial
  | cons item others ih =>
      intro rounds
      exact emits_bind (rounds item List.mem_cons_self)
        fun _ => ih fun other member => rounds other (List.mem_cons_of_mem _ member)

omit [Storage Db Write] in
theorem emits_each {Item : Type} {action : Item → Tx Db Write Key Error Unit}
    {rest : Unit → Tx Db Write Key Error Result} (items : List Item)
    (rounds : ∀ item ∈ items, (action item).Emits Allowed) (last : (rest ()).Emits Allowed) :
    ((each action items).bind rest).Emits Allowed :=
  emits_bind (emits_each_alone items rounds) fun _ => last

omit [Storage Db Write] in
theorem emits_mono {program : Tx Db Write Key Error Answer} {Wider : Write → Prop}
    (emits : program.Emits Allowed) (wider : ∀ write, Allowed write → Wider write) :
    program.Emits Wider := by
  induction program with
  | done _ => trivial
  | raise _ => trivial
  | stmt locks writes inner ih =>
      exact ⟨fun seen write member => wider write (emits.1 seen write member),
        fun seen => ih seen (emits.2 seen)⟩
  | commit inner ih => exact ih emits

theorem emits_run {Holds : Db → Prop} (kept : ∀ write db, Allowed write → Holds db →
    Holds (Storage.apply write db)) (program : Tx Db Write Key Error Answer) :
    ∀ committed seen, program.Emits Allowed → Holds committed → Holds seen →
      Holds (program.run committed seen).2 := by
  induction program with
  | done _ => exact fun _ _ _ holds _ => holds
  | raise _ => exact fun _ _ _ holds _ => holds
  | stmt locks writes inner ih =>
      intro committed seen emits holds seenHolds
      refine ih seen committed _ (emits.2 seen) holds ?_
      exact applyAll_preserves Holds (writes seen)
        (fun write member db => kept write db (emits.1 seen write member)) seen seenHolds
  | commit inner ih => exact fun _ seen emits _ seenHolds => ih seen seen emits seenHolds seenHolds

end Emits

end Tx

/-- What concurrent programs promise each other: an invariant of the committed rows, what the
holder of a row may rely on, how the rows may evolve from commit to commit, and the condition
under which statements are executed. -/
structure Contract (Db Write Key View : Type) where
  inv : Db → Prop
  view : Key → Db → View
  ok : Db → List Write → Prop
  evolves : Db → Db → Prop := fun _ _ => True
  evolves_refl : ∀ db, evolves db db := by intros; trivial
  evolves_trans : ∀ first second third, evolves first second → evolves second third →
    evolves first third := by intros; trivial

namespace Contract

variable {View : Type} (contract : Contract Db Write Key View)

structure Rely (held : List Key) (before after : Db) : Prop where
  inv : contract.inv after
  evolved : contract.evolves before after
  kept : ∀ key ∈ held, contract.view key after = contract.view key before

def Commits (held : List Key) (log : List Write) (db : Db) : Prop :=
  ∀ after, contract.Rely held db after →
    contract.inv (applyAll log after) ∧ contract.evolves after (applyAll log after) ∧
      ∀ key, key ∉ held → contract.view key (applyAll log after) = contract.view key after

def Safe (Post : Answer → List Key → List Write → Db → Prop) :
    Tx Db Write Key Error Answer → List Key → List Write → Db → Prop
  | .done answer, held, log, db => ∀ after, contract.Rely held db after → Post answer held log after
  | .raise _, _, _, _ => True
  | .stmt locks writes next, held, log, db => ∀ after, contract.Rely held db after →
      contract.ok (applyAll log after) (writes (applyAll log after)) →
      Safe Post (next (applyAll log after)) (held ++ locks (applyAll log after))
        (log ++ writes (applyAll log after)) after
  | .commit next, held, log, db => contract.Commits held log db ∧
      ∀ after, contract.Rely held db after → Safe Post next [] [] (applyAll log after)

def Keeps (program : Tx Db Write Key Error Answer) : Prop :=
  ∀ db, contract.inv db → contract.Safe (fun _ _ _ _ => True) program [] [] db

variable {contract}

omit [Storage Db Write] in
theorem rely_refl {held : List Key} {db : Db} (holds : contract.inv db) :
    contract.Rely held db db := ⟨holds, contract.evolves_refl db, fun _ _ => rfl⟩

omit [Storage Db Write] in
theorem rely_trans {held : List Key} {first second third : Db}
    (left : contract.Rely held first second) (right : contract.Rely held second third) :
    contract.Rely held first third :=
  ⟨right.inv, contract.evolves_trans _ _ _ left.evolved right.evolved,
    fun key member => (right.kept key member).trans (left.kept key member)⟩

omit [Storage Db Write] in
theorem rely_fewer {held more : List Key} {db after : Db}
    (rely : contract.Rely (held ++ more) db after) : contract.Rely held db after :=
  ⟨rely.inv, rely.evolved, fun key member => rely.kept key (List.mem_append_left _ member)⟩

theorem commits_stable {held : List Key} {log : List Write} {db after : Db}
    (commits : contract.Commits held log db) (rely : contract.Rely held db after) :
    contract.Commits held log after :=
  fun later relied => commits later (rely_trans rely relied)

theorem safe_stable {Post : Answer → List Key → List Write → Db → Prop}
    {program : Tx Db Write Key Error Answer} {held : List Key} {log : List Write} {db after : Db}
    (safe : contract.Safe Post program held log db) (rely : contract.Rely held db after) :
    contract.Safe Post program held log after := by
  cases program with
  | done _ => exact fun later relied => safe later (rely_trans rely relied)
  | raise _ => trivial
  | stmt _ _ _ => exact fun later relied => safe later (rely_trans rely relied)
  | commit _ =>
      exact ⟨commits_stable safe.1 rely, fun later relied => safe.2 later (rely_trans rely relied)⟩

section Rules

variable {Post : Result → List Key → List Write → Db → Prop}
  {rest : Answer → Tx Db Write Key Error Result}
  {held : List Key} {log : List Write} {db : Db}

theorem safe_raise {error : Error} :
    contract.Safe Post (.raise error : Tx Db Write Key Error Result) held log db := trivial

theorem safe_done {result : Result}
    (ended : ∀ after, contract.Rely held db after → Post result held log after) :
    contract.Safe Post (.done result : Tx Db Write Key Error Result) held log db := ended

theorem safe_read {query : Db → Answer}
    (next : ∀ after, contract.Rely held db after →
      contract.Safe Post (rest (query (applyAll log after))) held log after) :
    contract.Safe Post ((Tx.read query).bind rest) held log db := by
  intro after rely _
  simp only [List.append_nil]
  exact next after rely

theorem safe_statement {locks : Db → List Key} {writes : Db → List Write}
    {answer : Db → Except Error Answer}
    (next : ∀ after, contract.Rely held db after →
      contract.ok (applyAll log after) (writes (applyAll log after)) →
      ∀ result, answer (applyAll log after) = .ok result →
        contract.Safe Post (rest result) (held ++ locks (applyAll log after))
          (log ++ writes (applyAll log after)) after) :
    contract.Safe Post ((Tx.statement locks writes answer).bind rest) held log db := by
  intro after rely met
  dsimp only
  cases answered : answer (applyAll log after) with
  | error _ => trivial
  | ok result => exact next after rely met result answered

theorem safe_query {answer : Db → Except Error Answer}
    (next : ∀ after, contract.Rely held db after →
      ∀ result, answer (applyAll log after) = .ok result →
        contract.Safe Post (rest result) held log after) :
    contract.Safe Post
      ((Tx.statement (fun _ => []) (fun _ => []) answer).bind rest) held log db := by
  refine safe_statement fun after rely _ result answered => ?_
  simp only [List.append_nil]
  exact next after rely result answered

theorem safe_require {condition : Bool} {error : Error}
    {rest : Unit → Tx Db Write Key Error Result}
    (next : condition = true → contract.Safe Post (rest ()) held log db) :
    contract.Safe Post ((Tx.require condition error).bind rest) held log db := by
  cases condition with
  | false => trivial
  | true => exact next rfl

theorem safe_orRaise {found : Option Answer} {error : Error}
    (next : ∀ answer, found = some answer → contract.Safe Post (rest answer) held log db) :
    contract.Safe Post ((Tx.orRaise found error).bind rest) held log db := by
  cases found with
  | none => trivial
  | some answer => exact next answer rfl

theorem safe_ofExcept {outcome : Except Error Answer}
    (next : ∀ answer, outcome = .ok answer → contract.Safe Post (rest answer) held log db) :
    contract.Safe Post ((Tx.ofExcept outcome).bind rest) held log db := by
  cases outcome with
  | error _ => trivial
  | ok answer => exact next answer rfl

theorem safe_commit {rest : Unit → Tx Db Write Key Error Result}
    (commits : contract.Commits held log db)
    (next : ∀ after, contract.Rely held db after →
      contract.Safe Post (rest ()) [] [] (applyAll log after)) :
    contract.Safe Post ((Tx.commitNow : Tx Db Write Key Error Unit).bind rest) held log db :=
  ⟨commits, next⟩

theorem safe_commit_last {result : Unit → Result} (commits : contract.Commits held log db) :
    contract.Safe (fun _ _ _ _ => True)
      ((Tx.commitNow : Tx Db Write Key Error Unit).bind fun ended => .done (result ended))
      held log db :=
  safe_commit commits fun _ _ _ _ => trivial

theorem safe_bind {Mid : Answer → List Key → List Write → Db → Prop}
    {program : Tx Db Write Key Error Answer} (holds : contract.inv db)
    (safe : contract.Safe Mid program held log db)
    (next : ∀ answer held log db, contract.inv db → Mid answer held log db →
      contract.Safe Post (rest answer) held log db) :
    contract.Safe Post (program.bind rest) held log db := by
  induction program generalizing held log db with
  | done answer => exact next answer held log db holds (safe db (rely_refl holds))
  | raise _ => trivial
  | stmt locks writes inner ih => exact fun after rely met => ih _ rely.inv (safe after rely met)
  | commit inner ih =>
      refine ⟨safe.1, fun after rely => ?_⟩
      exact ih (safe.1 after rely).1 (safe.2 after rely)

theorem safe_each {Item : Type} {action : Item → Tx Db Write Key Error Unit}
    {rest : Unit → Tx Db Write Key Error Result}
    (Inside : List Item → List Key → List Write → Db → Prop)
    (round : ∀ item others held log db (next : Unit → Tx Db Write Key Error Result),
      Inside (item :: others) held log db →
      (∀ held log db, Inside others held log db → contract.Safe Post (next ()) held log db) →
      contract.Safe Post ((action item).bind next) held log db)
    (last : ∀ held log db, Inside [] held log db → contract.Safe Post (rest ()) held log db) :
    ∀ (items : List Item) (held : List Key) (log : List Write) (db : Db),
      Inside items held log db →
        contract.Safe Post ((Tx.each action items).bind rest) held log db := by
  intro items
  induction items with
  | nil => exact fun held log db inside => last held log db inside
  | cons item others ih =>
      intro held log db inside
      rw [Tx.each, Tx.bind_assoc]
      exact round item others held log db _ inside fun held log db inside => ih held log db inside

end Rules

theorem keeps_void {program : Tx Db Write Key Error Answer} (keeps : contract.Keeps program) :
    contract.Keeps program.void := by
  intro db holds
  exact safe_bind holds (keeps db holds) fun _ _ _ _ _ _ _ _ => trivial

theorem keeps_of_emits {Allowed : Write → Prop} {program : Tx Db Write Key Error Answer}
    (quiet : ∀ held log db, (∀ write ∈ log, Allowed write) → contract.Commits held log db)
    (emits : program.Emits Allowed) : contract.Keeps program := by
  suffices safe : ∀ held log db, (∀ write ∈ log, Allowed write) →
      contract.Safe (fun _ _ _ _ => True) program held log db from
    fun db _ => safe [] [] db fun _ member => nomatch member
  induction program with
  | done _ => exact fun _ _ _ _ _ _ => trivial
  | raise _ => exact fun _ _ _ _ => trivial
  | stmt locks writes next ih =>
      intro held log db allowed after rely _
      refine ih _ (emits.2 _) _ _ _ fun write member => ?_
      rcases List.mem_append.mp member with logged | written
      · exact allowed write logged
      · exact emits.1 _ write written
  | commit next ih =>
      intro held log db allowed
      refine ⟨quiet held log db allowed, fun after _ => ih emits _ _ _ fun _ member => nomatch member⟩

section Soundness

variable [DecidableEq Key]

/-- The invariant of the interleaving: row locks exclude each other and every open session is
still safe from where it stands. -/
structure Sound (contract : Contract Db Write Key View)
    (system : System Db Write Key Error) : Prop where
  inv : contract.inv system.db
  apart : ∀ (left right : Nat) first second, left ≠ right →
    system.sessions[left]? = some first → system.sessions[right]? = some second →
    ∀ key ∈ first.held, key ∉ second.held
  safe : ∀ (index : Nat) session, system.sessions[index]? = some session →
    contract.Safe (fun _ _ _ _ => True) session.rest session.held session.log system.db

omit [Storage Db Write] in
theorem free_apart {system : System Db Write Key Error} {index : Nat} {locks : List Key}
    (free : system.free index locks = true) {other : Nat} {session : Session Db Write Key Error}
    (different : other ≠ index) (found : system.sessions[other]? = some session) :
    ∀ key ∈ locks, key ∉ session.held := by
  intro key wanted taken
  have member : (session, other) ∈ system.sessions.zipIdx := by
    rw [List.mem_zipIdx_iff_getElem?]
    exact found
  have allowed := (List.all_eq_true.mp free) (session, other) member
  simp only [Bool.or_eq_true, beq_iff_eq, different, false_or] at allowed
  have unlocked := (List.all_eq_true.mp allowed) key wanted
  simp [taken] at unlocked

omit [DecidableEq Key] in
theorem sound_set {system : System Db Write Key Error} {index : Nat}
    {current : Session Db Write Key Error} {after : Db}
    (sound : contract.Sound system) (holds : contract.inv after)
    (evolved : contract.evolves system.db after)
    (kept : ∀ (other : Nat) session, other ≠ index → system.sessions[other]? = some session →
      (∀ key ∈ session.held, contract.view key after = contract.view key system.db) ∧
      ∀ key ∈ current.held, key ∉ session.held)
    (safe : contract.Safe (fun _ _ _ _ => True) current.rest current.held current.log after) :
    contract.Sound
      (⟨after, system.sessions.set index current⟩ : System Db Write Key Error) := by
  refine ⟨holds, ?_, ?_⟩
  · intro left right first second different foundLeft foundRight key member
    simp only [List.getElem?_set] at foundLeft foundRight
    by_cases leftHere : index = left
    · by_cases rightHere : index = right
      · exact absurd (leftHere.symm.trans rightHere) different
      · rw [if_neg rightHere] at foundRight
        rw [if_pos leftHere] at foundLeft
        split at foundLeft
        · cases foundLeft
          exact (kept right second (Ne.symm rightHere) foundRight).2 key member
        · cases foundLeft
    · rw [if_neg leftHere] at foundLeft
      by_cases rightHere : index = right
      · rw [if_pos rightHere] at foundRight
        split at foundRight
        · cases foundRight
          intro taken
          exact (kept left first (Ne.symm leftHere) foundLeft).2 key taken member
        · cases foundRight
      · rw [if_neg rightHere] at foundRight
        exact sound.apart left right first second different foundLeft foundRight key member
  · intro other session found
    simp only [List.getElem?_set] at found
    by_cases here : index = other
    · rw [if_pos here] at found
      split at found
      · cases found
        exact safe
      · cases found
    · rw [if_neg here] at found
      exact safe_stable (sound.safe other session found)
        ⟨holds, evolved, (kept other session (Ne.symm here) found).1⟩

omit [DecidableEq Key] in
theorem sound_start {system : System Db Write Key Error}
    {program : Tx Db Write Key Error Unit} (sound : contract.Sound system)
    (keeps : contract.Keeps program) :
    contract.Sound { system with sessions := system.sessions ++ [Session.opened program] } := by
  have cases : ∀ (index : Nat) session,
      (system.sessions ++ [Session.opened program])[index]? = some session →
        system.sessions[index]? = some session ∨ session = Session.opened program := by
    intro index session found
    rw [List.getElem?_append] at found
    split at found
    · exact .inl found
    · right
      rw [List.getElem?_singleton] at found
      split at found
      · exact (Option.some.inj found).symm
      · cases found
  refine ⟨sound.inv, ?_, ?_⟩
  · intro left right first second different foundLeft foundRight key member taken
    rcases cases left first foundLeft with leftOld | rfl
    · rcases cases right second foundRight with rightOld | rfl
      · exact sound.apart left right first second different leftOld rightOld key member taken
      · cases taken
    · cases member
  · intro index session found
    rcases cases index session found with old | rfl
    · exact sound.safe index session old
    · exact keeps system.db sound.inv

theorem sound_step {Starts : Tx Db Write Key Error Unit → Prop}
    {system next : System Db Write Key Error} {label : Label Db Write Key Error}
    (keeps : ∀ program, Starts program → contract.Keeps program)
    (sound : contract.Sound system) (admissible : label.Admissible Starts contract.ok system)
    (stepped : system.step label = some next) : contract.Sound next := by
  cases label with
  | start program =>
      simp only [System.step, Option.some.injEq] at stepped
      subst stepped
      exact sound_start sound (keeps program admissible)
  | rollback index =>
      simp only [System.step, Option.some.injEq] at stepped
      subst stepped
      refine sound_set sound sound.inv (contract.evolves_refl _) ?_ fun _ _ => trivial
      exact fun _ _ _ _ => ⟨fun _ _ => rfl, fun _ member => nomatch member⟩
  | exec index =>
      simp only [System.step] at stepped
      cases found : system.sessions[index]? with
      | none => simp [found] at stepped
      | some session =>
          simp only [found] at stepped
          have safe := sound.safe index session found
          cases program : session.rest with
          | done _ => simp [program] at stepped
          | raise _ => simp [program] at stepped
          | stmt locks writes rest =>
              simp only [program] at stepped safe
              split at stepped
              · rename_i free
                cases stepped
                have met := admissible session locks writes rest found program
                refine sound_set sound sound.inv (contract.evolves_refl _) ?_
                  (safe system.db (rely_refl sound.inv) met)
                intro other second different foundOther
                refine ⟨fun _ _ => rfl, fun key member => ?_⟩
                rcases List.mem_append.mp member with held | locked
                · exact sound.apart index other session second (Ne.symm different) found
                    foundOther key held
                · exact free_apart free different foundOther key locked
              · cases stepped
          | commit rest =>
              simp only [program] at stepped safe
              cases stepped
              obtain ⟨holds, evolved, same⟩ := safe.1 system.db (rely_refl sound.inv)
              refine sound_set sound holds evolved ?_ (safe.2 system.db (rely_refl sound.inv))
              intro other second different foundOther
              refine ⟨fun key member => same key fun taken => ?_, fun _ member => nomatch member⟩
              exact sound.apart index other session second (Ne.symm different) found foundOther
                key taken member

theorem run_inv {Starts : Tx Db Write Key Error Unit → Prop}
    {initial final : System Db Write Key Error}
    (keeps : ∀ program, Starts program → contract.Keeps program)
    (start : contract.Sound initial) (run : Run Starts contract.ok initial final) :
    contract.inv final.db := by
  suffices sound : contract.Sound final from sound.inv
  induction run with
  | refl => exact start
  | step _ admissible stepped ih => exact sound_step keeps ih admissible stepped

omit [DecidableEq Key] in
theorem sound_idle {db : Db} (holds : contract.inv db) :
    contract.Sound (System.idle db : System Db Write Key Error) := by
  refine ⟨holds, ?_, ?_⟩
  · intro left right first second _ found
    simp [System.idle] at found
  · intro index session found
    simp [System.idle] at found

end Soundness

end Contract

theorem mem_or_mem_eraseIdx {Item : Type} {items : List Item} {index : Nat} {chosen item : Item}
    (found : items[index]? = some chosen) (member : item ∈ items) :
    item = chosen ∨ item ∈ items.eraseIdx index := by
  induction items generalizing index with
  | nil => cases member
  | cons first rest ih =>
      cases index with
      | zero =>
          rw [List.getElem?_cons_zero, Option.some.injEq] at found
          rcases List.mem_cons.mp member with rfl | later
          · exact .inl found
          · exact .inr later
      | succ index =>
          rw [List.getElem?_cons_succ] at found
          rcases List.mem_cons.mp member with rfl | later
          · exact .inr List.mem_cons_self
          · exact (ih found later).imp_right (List.mem_cons_of_mem _)

theorem mem_or_mem_set {Item : Type} {items : List Item} {index : Nat} {chosen item put : Item}
    (found : items[index]? = some chosen) (member : item ∈ items) :
    item = chosen ∨ item ∈ items.set index put := by
  induction items generalizing index with
  | nil => cases member
  | cons first rest ih =>
      cases index with
      | zero =>
          rw [List.getElem?_cons_zero, Option.some.injEq] at found
          rcases List.mem_cons.mp member with rfl | later
          · exact .inl found
          · exact .inr (List.mem_cons_of_mem _ later)
      | succ index =>
          rw [List.getElem?_cons_succ] at found
          rcases List.mem_cons.mp member with rfl | later
          · exact .inr List.mem_cons_self
          · exact (ih found later).imp_right (List.mem_cons_of_mem _)

theorem run_of_steps [DecidableEq Key] {Starts : Tx Db Write Key Error Unit → Prop}
    {Ok : Db → List Write → Prop} (ok : Db → List Write → Bool)
    (sound : ∀ db writes, ok db writes = true → Ok db writes) :
    ∀ (labels : List (Label Db Write Key Error)) (initial system final : System Db Write Key Error),
      (∀ program, .start program ∈ labels → Starts program) →
      Run Starts Ok initial system → system.steps ok labels = some final →
        Run Starts Ok initial final := by
  intro labels
  induction labels with
  | nil =>
      intro initial system final _ reached stepped
      cases stepped
      exact reached
  | cons label rest ih =>
      intro initial system final allowed reached stepped
      simp only [System.steps] at stepped
      split at stepped
      · rename_i met
        cases found : system.step label with
        | none => simp [found] at stepped
        | some next =>
            simp only [found] at stepped
            refine ih initial next final
              (fun program member => allowed program (List.mem_cons_of_mem _ member)) ?_ stepped
            refine .step reached ?_ found
            cases label with
            | start program => exact allowed program List.mem_cons_self
            | rollback _ => trivial
            | exec index =>
                intro session locks writes rest sessionFound restFound
                simp only [System.meets, sessionFound, restFound] at met
                exact sound _ _ met
      · cases stepped

end Relational
