import Messanger.Library.Journal

/-!
A pact between the sessions of a journal: what a session may rely on while others commit, given
the rows it holds, and what it may commit itself.  A program obeys the pact when each of its
commits is one the pact names, whatever others did meanwhile; in every run of programs that obey
it an invariant of the rows and the history holds, once the commits of the pact keep it.
-/

namespace Relational

variable {Db Write Key Error Answer Result Tag Item : Type}

structure Pact (Db Write Key Tag : Type) where
  Rely : List Key → Db → Db → Prop
  trans : ∀ held first second third, Rely held first second → Rely held second third →
    Rely held first third
  fewer : ∀ held more before after, (∀ key ∈ held, key ∈ more) → Rely more before after →
    Rely held before after
  /-- What a run asks of the writes of a statement, in the rows it sees. -/
  Allows : Tag → List Write → Db → List Write → Prop := fun _ _ _ _ => True
  /-- What a run asks of a log that is committed, in the rows it is committed to. -/
  Admits : Tag → Db → List Write → Prop := fun _ _ _ => True
  Commits : Tag → List Key → List Write → Db → Prop

variable [Storage Db Write]

namespace Tx

def Obeys (pact : Pact Db Write Key Tag) (tag : Tag) : Tx Db Write Key Error Answer → List Key →
    List Write → Db → (Answer → List Key → List Write → Db → Prop) → Prop
  | .done answer, held, log, db, Post => ∀ after, pact.Rely held db after → Post answer held log after
  | .raise _, _, _, _, _ => True
  | .stmt locks writes next, held, log, db, Post => ∀ after, pact.Rely held db after →
      pact.Allows tag log (applyAll log after) (writes (applyAll log after)) →
      (next (applyAll log after)).Obeys pact tag (held ++ locks (applyAll log after))
        (log ++ writes (applyAll log after)) after Post
  | .commit next, held, log, db, Post => ∀ after, pact.Rely held db after →
      pact.Admits tag after log →
      pact.Commits tag held log after ∧ next.Obeys pact tag [] [] (applyAll log after) Post

variable {pact : Pact Db Write Key Tag} {tag : Tag} {held : List Key} {log : List Write} {db : Db}

theorem obeys_stable {program : Tx Db Write Key Error Answer} {after : Db}
    {Post : Answer → List Key → List Write → Db → Prop}
    (obeys : program.Obeys pact tag held log db Post) (relied : pact.Rely held db after) :
    program.Obeys pact tag held log after Post := by
  cases program with
  | done _ => exact fun later more => obeys later (pact.trans held _ _ _ relied more)
  | raise _ => trivial
  | stmt _ _ _ => exact fun later more => obeys later (pact.trans held _ _ _ relied more)
  | commit _ => exact fun later more => obeys later (pact.trans held _ _ _ relied more)

theorem obeys_answer {program : Tx Db Write Key Error Answer} (reply : Answer → Result)
    (obeys : program.Obeys pact tag held log db fun _ _ _ _ => True) :
    (program.bind fun answer => .done (reply answer)).Obeys pact tag held log db
      fun _ _ _ _ => True := by
  induction program generalizing held log db with
  | done _ => exact fun _ _ => trivial
  | raise _ => trivial
  | stmt locks writes next ih => exact fun after relied allowed => ih _ (obeys after relied allowed)
  | commit next ih =>
      exact fun after relied admitted =>
        ⟨(obeys after relied admitted).1, ih (obeys after relied admitted).2⟩

theorem obeys_void {program : Tx Db Write Key Error Answer}
    (obeys : program.Obeys pact tag held log db fun _ _ _ _ => True) :
    program.void.Obeys pact tag held log db fun _ _ _ _ => True :=
  obeys_answer (fun _ => ()) obeys

section Heads

variable {Post : Answer → List Key → List Write → Db → Prop}
  {rest : Result → Tx Db Write Key Error Answer}

theorem obeys_raise (error : Error) :
    (Tx.raise error : Tx Db Write Key Error Answer).Obeys pact tag held log db Post := trivial

theorem obeys_done {answer : Answer}
    (ended : ∀ after, pact.Rely held db after → Post answer held log after) :
    (Tx.done answer : Tx Db Write Key Error Answer).Obeys pact tag held log db Post := ended

theorem obeys_statement {locks : Db → List Key} {writes : Db → List Write}
    {answer : Db → Except Error Result}
    (next : ∀ after, pact.Rely held db after →
      pact.Allows tag log (applyAll log after) (writes (applyAll log after)) →
      ∀ result, answer (applyAll log after) = .ok result →
        (rest result).Obeys pact tag (held ++ locks (applyAll log after))
          (log ++ writes (applyAll log after)) after Post) :
    ((statement locks writes answer).bind rest).Obeys pact tag held log db Post := by
  intro after relied allowed
  show (Tx.bind (ofExcept (answer (applyAll log after))) rest).Obeys pact tag _ _ after Post
  cases answered : answer (applyAll log after) with
  | error _ => exact obeys_raise _
  | ok result => exact next after relied allowed result answered

theorem obeys_query {answer : Db → Except Error Result}
    (next : ∀ after, pact.Rely held db after → ∀ result, answer (applyAll log after) = .ok result →
      (rest result).Obeys pact tag held log after Post) :
    ((statement (fun _ => []) (fun _ => []) answer).bind rest).Obeys pact tag held log db Post := by
  refine obeys_statement fun after relied _ result answered => ?_
  rw [List.append_nil, List.append_nil]
  exact next after relied result answered

theorem obeys_read {query : Db → Result}
    (next : ∀ after, pact.Rely held db after →
      (rest (query (applyAll log after))).Obeys pact tag held log after Post) :
    ((Tx.read query).bind rest).Obeys pact tag held log db Post := by
  intro after relied _
  rw [List.append_nil, List.append_nil]
  exact next after relied

theorem obeys_require {condition : Bool} {error : Error}
    {rest : Unit → Tx Db Write Key Error Answer}
    (next : condition = true → (rest ()).Obeys pact tag held log db Post) :
    ((require condition error).bind rest).Obeys pact tag held log db Post := by
  cases condition with
  | false => exact obeys_raise _
  | true => exact next rfl

theorem obeys_orRaise {found : Option Result} {error : Error}
    (next : ∀ result, found = some result → (rest result).Obeys pact tag held log db Post) :
    ((orRaise found error).bind rest).Obeys pact tag held log db Post := by
  cases found with
  | none => exact obeys_raise _
  | some result => exact next result rfl

theorem obeys_ofExcept {outcome : Except Error Result}
    (next : ∀ result, outcome = .ok result → (rest result).Obeys pact tag held log db Post) :
    ((ofExcept outcome).bind rest).Obeys pact tag held log db Post := by
  cases outcome with
  | error _ => exact obeys_raise _
  | ok result => exact next result rfl

theorem obeys_rounds {action : Item → Tx Db Write Key Error Unit}
    {rest : Unit → Tx Db Write Key Error Answer}
    (Inside : List Item → List Key → List Write → Db → Prop)
    (round : ∀ item others held log db (next : Unit → Tx Db Write Key Error Answer),
      Inside (item :: others) held log db →
      (∀ held log db, Inside others held log db → (next ()).Obeys pact tag held log db Post) →
        ((action item).bind next).Obeys pact tag held log db Post)
    (last : ∀ held log db, Inside [] held log db → (rest ()).Obeys pact tag held log db Post) :
    ∀ (items : List Item) held log db, Inside items held log db →
      ((each action items).bind rest).Obeys pact tag held log db Post := by
  intro items
  induction items with
  | nil => exact fun held log db inside => last held log db inside
  | cons item others ih =>
      intro held log db inside
      rw [each, bind_assoc]
      exact round item others held log db _ inside ih

theorem obeys_each {action : Item → Tx Db Write Key Error Unit}
    {rest : Unit → Tx Db Write Key Error Answer} (adds : Item → Write) (items : List Item)
    (round : ∀ item ∈ items, ∀ held log db (next : Unit → Tx Db Write Key Error Answer),
      (∀ more after, pact.Rely held db after →
        (next ()).Obeys pact tag (held ++ more) (log ++ [adds item]) after Post) →
        ((action item).bind next).Obeys pact tag held log db Post)
    (last : ∀ more after, (∀ key ∈ held, key ∈ more) →
      (∀ later, pact.Rely more after later → pact.Rely held db later) →
      (rest ()).Obeys pact tag more (log ++ items.map adds) after Post) :
    ((each action items).bind rest).Obeys pact tag held log db Post := by
  refine obeys_rounds (fun todo now written current => (∀ key ∈ held, key ∈ now) ∧
      (∀ later, pact.Rely now current later → pact.Rely held db later) ∧
      (∀ item ∈ todo, item ∈ items) ∧ written ++ todo.map adds = log ++ items.map adds)
    ?_ ?_ items held log db ⟨fun _ member => member, fun _ relied => relied,
      fun _ member => member, rfl⟩
  · rintro item others now written current next ⟨kept, reached, known, whole⟩ onwards
    refine round item (known item List.mem_cons_self) now written current next fun more after moved => ?_
    refine onwards _ _ _ ⟨fun key member => List.mem_append_left _ (kept key member),
      fun later relied => ?_, fun other member => known other (List.mem_cons_of_mem _ member), ?_⟩
    · have narrow := pact.fewer now (now ++ more) _ _ (fun _ => List.mem_append_left _) relied
      exact reached later (pact.trans now _ _ _ moved narrow)
    · rw [← whole, List.append_assoc, List.singleton_append, List.map_cons]
  · rintro now written current ⟨kept, reached, _, whole⟩
    rw [List.map_nil, List.append_nil] at whole
    rw [whole]
    exact last now current kept reached

theorem obeys_emits {Allowed : Write → Prop} {part : Tx Db Write Key Error Result}
    (emits : part.Emits Allowed) (commitless : part.Commitless)
    (next : ∀ result more written after, (∀ write ∈ written, Allowed write) →
      (∀ later, pact.Rely (held ++ more) after later → pact.Rely held db later) →
      (rest result).Obeys pact tag (held ++ more) (log ++ written) after Post) :
    (part.bind rest).Obeys pact tag held log db Post := by
  induction part generalizing held log db with
  | done result =>
      have here := next result [] [] db (fun _ member => nomatch member)
      rw [List.append_nil, List.append_nil] at here
      exact here fun _ relied => relied
  | raise _ => trivial
  | stmt locks writes inner ih =>
      intro after relied _
      refine ih _ (emits.2 _) (commitless _) fun result more written last allowed reached => ?_
      rw [List.append_assoc] at reached ⊢
      rw [List.append_assoc]
      refine next result _ _ last (fun write member => ?_) fun later moved => ?_
      · rcases List.mem_append.mp member with first | further
        · exact emits.1 _ write first
        · exact allowed write further
      · have kept := reached later moved
        exact pact.trans held _ _ _ relied
          (pact.fewer held _ _ _ (fun _ => List.mem_append_left _) kept)
  | commit inner ih => exact commitless.elim

end Heads

theorem obeys_of_emits {Allowed : Write → Prop} {program : Tx Db Write Key Error Answer}
    (commits : ∀ held log db, (∀ write ∈ log, Allowed write) → pact.Commits tag held log db)
    (emits : program.Emits Allowed) (logged : ∀ write ∈ log, Allowed write) :
    program.Obeys pact tag held log db fun _ _ _ _ => True := by
  induction program generalizing held log db with
  | done _ => exact fun _ _ => trivial
  | raise _ => trivial
  | stmt locks writes next ih =>
      refine fun after _ _ => ih _ (emits.2 _) fun write member => ?_
      rcases List.mem_append.mp member with earlier | written
      · exact logged write earlier
      · exact emits.1 _ write written
  | commit next ih =>
      exact fun after _ _ => ⟨commits _ _ _ logged, ih emits fun _ member => nomatch member⟩

theorem obeys_commit {result : Unit → Answer}
    (commits : ∀ after, pact.Rely held db after → pact.Admits tag after log →
      pact.Commits tag held log after) :
    ((commitNow : Tx Db Write Key Error Unit).bind fun ended => .done (result ended)).Obeys pact tag
      held log db fun _ _ _ _ => True :=
  fun after relied admitted => ⟨commits after relied admitted, fun _ _ => trivial⟩

end Tx

section Governed

variable [DecidableEq Key]

/-- What the pact asks of the steps of a run. -/
def Journal.Asks (pact : Pact Db Write Key Tag) (journal : Journal Db Write Key Error Tag) :
    Action Tag → Prop
  | .exec index => ∀ session tag, journal.system.sessions[index]? = some session →
      journal.tags[index]? = some tag →
      match session.rest with
      | .stmt _ writes _ => pact.Allows tag session.log (session.seen journal.system.db)
          (writes (session.seen journal.system.db))
      | .commit _ => pact.Admits tag journal.system.db session.log
      | _ => True
  | _ => True

def Journal.asks (allows : Tag → List Write → Db → List Write → Bool)
    (admits : Tag → Db → List Write → Bool) (journal : Journal Db Write Key Error Tag) :
    Action Tag → Bool
  | .exec index =>
      match journal.system.sessions[index]?, journal.tags[index]? with
      | some session, some tag =>
          match session.rest with
          | .stmt _ writes _ => allows tag session.log (session.seen journal.system.db)
              (writes (session.seen journal.system.db))
          | .commit _ => admits tag journal.system.db session.log
          | _ => true
      | _, _ => true
  | _ => true

omit [DecidableEq Key] in
theorem Journal.asks_sound {pact : Pact Db Write Key Tag}
    {allows : Tag → List Write → Db → List Write → Bool} {admits : Tag → Db → List Write → Bool}
    (allowed : ∀ tag log db writes, allows tag log db writes = true → pact.Allows tag log db writes)
    (admitted : ∀ tag db log, admits tag db log = true → pact.Admits tag db log)
    (journal : Journal Db Write Key Error Tag) (action : Action Tag)
    (checked : journal.asks allows admits action = true) : journal.Asks pact action := by
  cases action with
  | start _ => trivial
  | rollback _ => trivial
  | exec index =>
      intro session tag present tagged
      simp only [Journal.asks, present, tagged] at checked
      split
      · rename_i rest
        rw [rest] at checked
        exact allowed _ _ _ _ checked
      · rename_i rest
        rw [rest] at checked
        exact admitted _ _ _ checked
      · trivial

omit [DecidableEq Key] in
theorem Journal.asks_nothing {pact : Pact Db Write Key Tag}
    (allows : ∀ tag log db writes, pact.Allows tag log db writes)
    (admits : ∀ tag db log, pact.Admits tag db log) (journal : Journal Db Write Key Error Tag)
    (action : Action Tag) : journal.Asks pact action := by
  cases action with
  | start _ => trivial
  | rollback _ => trivial
  | exec index =>
      intro session tag _ _
      split
      · exact allows _ _ _ _
      · exact admits _ _ _
      · trivial

structure Governed (program : Tag → Tx Db Write Key Error Unit) (pact : Pact Db Write Key Tag)
    (Inv : Db → List (Tag × List Write) → Prop) : Prop where
  obeys : ∀ tag db history, Inv db history →
    (program tag).Obeys pact tag [] [] db fun _ _ _ _ => True
  refl : ∀ held db history, Inv db history → pact.Rely held db db
  commit : ∀ tag db history held log, Inv db history → pact.Admits tag db log →
    pact.Commits tag held log db → Inv (applyAll log db) (history ++ [(tag, log)])
  others : ∀ tag db history held log otherHeld, Inv db history → pact.Admits tag db log →
    pact.Commits tag held log db → (∀ key ∈ held, key ∉ otherHeld) →
    pact.Rely otherHeld db (applyAll log db)

variable {program : Tag → Tx Db Write Key Error Unit} {pact : Pact Db Write Key Tag}
  {Inv : Db → List (Tag × List Write) → Prop}

omit [DecidableEq Key] in
theorem governed_upholds (governed : Governed program pact Inv) :
    Upholds program (Journal.Asks pact) Inv fun tag db session =>
      session.rest.Obeys pact tag session.held session.log db fun _ _ _ _ => True where
  opened _ tag upheld _ := governed.obeys tag _ _ upheld.inv
  ended _ _ := fun _ _ => trivial
  statement journal index session tag locks writes next upheld asks present tagged rest := by
    have obeys := upheld.stands index session tag present tagged
    have allowed := asks session tag present tagged
    rw [rest] at allowed obeys
    exact obeys _ (governed.refl _ _ _ upheld.inv) allowed
  commit journal index session tag next upheld asks present tagged rest := by
    have obeys := upheld.stands index session tag present tagged
    have admitted := asks session tag present tagged
    rw [rest] at admitted obeys
    obtain ⟨commits, onwards⟩ := obeys _ (governed.refl _ _ _ upheld.inv) admitted
    refine ⟨governed.commit tag _ _ _ _ upheld.inv admitted commits, onwards, ?_⟩
    intro otherTag other otherObeys apart
    exact Tx.obeys_stable otherObeys
      (governed.others tag _ _ _ _ other.held upheld.inv admitted commits apart)

theorem runs_governed {db : Db} {journal : Journal Db Write Key Error Tag}
    (governed : Governed program pact Inv) (start : Inv db [])
    (run : Journal.Runs program (Journal.Asks pact) (Journal.idle db) journal) :
    Inv journal.system.db journal.history :=
  (runs_upheld (governed_upholds governed) start run).inv

end Governed

end Relational
