import Messanger.Contacts.CommandsCore
import Messanger.Library.Reciprocal
import Messanger.Library.Turns

/-!
What the parts of a handler do within one transaction that no other session cuts into: what each
answers and what it adds to the log, or that it raises and leaves the rows as they were.
-/

namespace Messanger.Contacts

open Relational Processes

variable {Answer Result Final : Type} {db : Db} {log : List Write} {services : Services}

namespace Sql

/-- The part stays in its transaction; unless it raises it answers and logs as `Post` says. -/
def Ends (sql : Sql Answer) (db : Db) (log : List Write) (Post : Answer → List Write → Prop) :
    Prop :=
  ∀ world transaction, world.db = db → transaction.log = log →
    (sql transaction).Within Op.isCommit (fun after outcome =>
      after.db = db ∧ ∀ answer left, outcome = .ok (answer, left) → Post answer left.log) world

def Calm (sql : Sql Answer) : Prop :=
  ∀ transaction, (sql transaction).Every fun _ effect => ∀ world, (effect world).db = world.db

section Ends

variable {Post : Result → List Write → Prop} {Mid : Answer → List Write → Prop}

theorem ends_pure {answer : Result} (ended : Post answer log) :
    (pure answer : Sql Result).Ends db log Post := by
  intro world transaction same logged
  refine ⟨same, fun other left ended' => ?_⟩
  cases ended'
  rw [logged]
  exact ended

theorem ends_bind {sql : Sql Answer} {next : Answer → Sql Result} (first : sql.Ends db log Mid)
    (rest : ∀ answer left, Mid answer left → (next answer).Ends db left Post) :
    (sql >>= next).Ends db log Post := by
  intro world transaction same logged
  refine Process.within_bind (Process.Within.mono (first world transaction same logged) ?_)
  rintro after (error | ⟨answer, left⟩) ⟨kept, ended⟩
  · exact ⟨kept, fun _ _ ended => nomatch ended⟩
  · exact rest answer left.log (ended answer left rfl) after left kept rfl

theorem ends_after {sql : Sql Answer} {next : Answer → Sql Result}
    (first : sql.Ends db log fun _ left => left = log)
    (rest : ∀ answer, (next answer).Ends db log Post) : (sql >>= next).Ends db log Post := by
  refine ends_bind first ?_
  rintro answer left rfl
  exact rest answer

theorem ends_mono {sql : Sql Result} {Weaker : Result → List Write → Prop}
    (ends : sql.Ends db log Post) (weaker : ∀ answer left, Post answer left → Weaker answer left) :
    sql.Ends db log Weaker := by
  intro world transaction same logged
  refine Process.Within.mono (ends world transaction same logged) ?_
  rintro after outcome ⟨kept, ended⟩
  exact ⟨kept, fun answer left same => weaker _ _ (ended answer left same)⟩

theorem ends_lift {check : Except ContactError Result}
    (passed : ∀ answer, check = .ok answer → Post answer log) :
    (liftM check : Sql Result).Ends db log Post := by
  intro world transaction same logged
  cases checked : check with
  | error error => exact ⟨same, fun _ _ ended => nomatch ended⟩
  | ok answer =>
      refine ⟨same, fun other left ended => ?_⟩
      cases ended
      rw [logged]
      exact passed answer checked

theorem ends_bind_lift {check : Except ContactError Answer} {next : Answer → Sql Result}
    (rest : ∀ answer, check = .ok answer → (next answer).Ends db log Post) :
    ((liftM check : Sql Answer) >>= next).Ends db log Post := by
  have checked : (liftM check : Sql Answer).Ends db log fun answer left =>
      left = log ∧ check = .ok answer := ends_lift fun answer passed => ⟨rfl, passed⟩
  refine ends_bind checked ?_
  rintro answer left ⟨rfl, passed⟩
  exact rest answer passed

theorem ends_execute {op : Op} {statement : Nat → Db → Except ContactError (Result × List Write)}
    (stays : op.isCommit = false)
    (done : ∀ began answer writes, statement began (applyAll log db) = .ok (answer, writes) →
      Post answer (log ++ writes)) : (execute op statement).Ends db log Post := by
  rintro world transaction rfl rfl
  refine ⟨stays, ?_⟩
  cases ran : statement (transaction.began.getD world.clock)
    (applyAll transaction.log world.db) with
  | error error =>
      simp only [id_eq, ran]
      exact ⟨rfl, fun _ _ ended => nomatch ended⟩
  | ok result =>
      simp only [id_eq, ran]
      refine ⟨rfl, fun answer left ended => ?_⟩
      cases ended
      exact done _ _ _ ran

theorem ends_query {op : Op} {read : Db → Result} (stays : op.isCommit = false)
    (ended : Post (read (applyAll log db)) log) : (query op read).Ends db log Post := by
  refine ends_execute stays fun began answer writes ran => ?_
  cases ran
  rw [List.append_nil]
  exact ended

theorem ends_update {Post : Unit → List Write → Prop} {op : Op} {writes : Db → List Write}
    (stays : op.isCommit = false) (ended : Post () (log ++ writes (applyAll log db))) :
    (update op writes).Ends db log Post := by
  refine ends_execute stays fun began answer written ran => ?_
  cases ran
  exact ended

theorem ends_now {Post : Nat → List Write → Prop} (ended : ∀ time, Post time log) :
    now.Ends db log Post := by
  rintro world transaction rfl rfl
  refine ⟨rfl, rfl, fun answer left same => ?_⟩
  cases same
  exact ended _

theorem ends_publish {Post : Unit → List Write → Prop} {events : List ContactEvent}
    (ended : Post () (log ++ events.map .publish)) : (publish events).Ends db log Post := by
  rintro world transaction rfl rfl
  refine ⟨rfl, fun answer left same => ?_⟩
  cases same
  exact ended

theorem ends_redis {handler : Handler Result}
    (stays : ∀ world : World, handler.Within Op.isCommit (fun after _ => after.db = world.db) world)
    (ended : ∀ answer, Post answer log) : (liftM handler : Sql Result).Ends db log Post := by
  rintro world transaction rfl rfl
  refine Process.within_bind (Process.Within.mono (stays world) ?_)
  rintro after (error | answer) kept
  · exact ⟨kept, fun _ _ ended => nomatch ended⟩
  · refine ⟨kept, fun other left same => ?_⟩
    cases same
    exact ended answer

end Ends

section Passes

/-- With no other beside it the part answers, as `Post` says. -/
def Passes (sql : Sql Result) (world : World) (transaction : Transaction)
    (Post : Result → World → Transaction → Prop) : Prop :=
  ∃ answer after left, (sql transaction).run world = (after, .ok (answer, left)) ∧
    Post answer after left

def Results (sql : Sql Result) (world : World) (transaction : Transaction)
    (Post : Except ContactError (Result × Transaction) → World → Prop) : Prop :=
  Post ((sql transaction).run world).2 ((sql transaction).run world).1

variable {world : World} {transaction : Transaction} {Post : Result → World → Transaction → Prop}
  {Mid : Answer → World → Transaction → Prop}

theorem passes_pure {answer : Result} (ended : Post answer world transaction) :
    (pure answer : Sql Result).Passes world transaction Post := ⟨_, _, _, rfl, ended⟩

theorem passes_bind {sql : Sql Answer} {next : Answer → Sql Result}
    (first : sql.Passes world transaction Mid)
    (rest : ∀ answer after left, Mid answer after left → (next answer).Passes after left Post) :
    (sql >>= next).Passes world transaction Post := by
  obtain ⟨answer, after, left, ran, mid⟩ := first
  obtain ⟨result, last, final, ended, post⟩ := rest answer after left mid
  refine ⟨result, last, final, ?_, post⟩
  change (sql transaction >>= fun result => next result.1 result.2).run world = _
  rw [Process.run_bind, ran]
  exact ended

theorem results_bind {Ended : Except ContactError (Result × Transaction) → World → Prop}
    {sql : Sql Answer} {next : Answer → Sql Result} (first : sql.Passes world transaction Mid)
    (rest : ∀ answer after left, Mid answer after left → (next answer).Results after left Ended) :
    (sql >>= next).Results world transaction Ended := by
  obtain ⟨answer, after, left, ran, mid⟩ := first
  have ended := rest answer after left mid
  have same : ((sql >>= next) transaction).run world = ((next answer) left).run after := by
    change (sql transaction >>= fun result => next result.1 result.2).run world = _
    rw [Process.run_bind, ran]
  unfold Results
  rw [same]
  exact ended

theorem results_raised {Ended : Except ContactError (Result × Transaction) → World → Prop}
    {sql : Sql Answer} {next : Answer → Sql Result} {error : ContactError} {after : World}
    (raised : (sql transaction).run world = (after, .error error))
    (ended : Ended (.error error) after) : (sql >>= next).Results world transaction Ended := by
  have same : ((sql >>= next) transaction).run world = (after, .error error) := by
    change (sql transaction >>= fun result => next result.1 result.2).run world = _
    rw [Process.run_bind, raised]
  unfold Results
  rw [same]
  exact ended

theorem passes_lift {check : Except ContactError Result} {answer : Result}
    (passed : check = .ok answer) :
    (liftM check : Sql Result).Passes world transaction fun given after left =>
      given = answer ∧ after = world ∧ left = transaction := by
  rw [passed]
  exact ⟨_, _, _, rfl, rfl, rfl, rfl⟩

theorem passes_now : now.Passes world transaction fun time after left =>
    time = world.clock ∧ after = world ∧ left = transaction := ⟨_, _, _, rfl, rfl, rfl, rfl⟩

theorem passes_execute {op : Op}
    {statement : Nat → Db → Except ContactError (Result × List Write)} {answer : Result}
    {writes : List Write}
    (ran : statement (transaction.began.getD world.clock)
      (applyAll transaction.log world.db) = .ok (answer, writes))
    (ended : Post answer world
      ⟨transaction.log ++ writes, some (transaction.began.getD world.clock)⟩) :
    (execute op statement).Passes world transaction Post := by
  refine ⟨answer, world, _, ?_, ended⟩
  simp only [execute, Process.run_act, id_eq, ran]
  rfl

theorem passes_redis {handler : Handler Result} {after : World} {answer : Result}
    (ran : handler.run world = (after, .ok answer)) (ended : Post answer after transaction) :
    (liftM handler : Sql Result).Passes world transaction Post := by
  refine ⟨answer, after, transaction, ?_, ended⟩
  change (handler >>= fun answer => pure (answer, transaction)).run world = _
  rw [Process.run_bind, ran]
  rfl

theorem passes_of_ends {Ended : Result → List Write → Prop} {sql : Sql Result}
    (passes : sql.Passes world transaction Post) (ends : sql.Ends world.db transaction.log Ended) :
    sql.Passes world transaction fun answer after left =>
      Post answer after left ∧ after.db = world.db ∧ Ended answer left.log := by
  obtain ⟨answer, after, left, ran, post⟩ := passes
  have within := Process.run_of_within (ends world transaction rfl rfl)
  rw [ran] at within
  exact ⟨answer, after, left, ran, post, within.1, within.2 answer left rfl⟩

end Passes

section Calm

theorem calm_pure (answer : Result) : (pure answer : Sql Result).Calm := fun _ => trivial

theorem calm_lift (check : Except ContactError Result) : (liftM check : Sql Result).Calm := by
  intro transaction
  cases check with
  | error error => trivial
  | ok answer => trivial

theorem calm_bind {sql : Sql Answer} {next : Answer → Sql Result} (first : sql.Calm)
    (rest : ∀ answer, (next answer).Calm) : (sql >>= next).Calm :=
  fun transaction => Process.every_bind (first transaction) fun (answer, left) => rest answer left

theorem calm_execute (op : Op) (statement : Nat → Db → Except ContactError (Result × List Write)) :
    (execute op statement).Calm := fun _ => ⟨fun _ => rfl, fun _ => trivial⟩

theorem calm_query (op : Op) (read : Db → Result) : (query op read).Calm := calm_execute _ _

theorem calm_redis {handler : Handler Result}
    (kept : handler.Every fun _ effect => ∀ world, (effect world).db = world.db) :
    (liftM handler : Sql Result).Calm :=
  fun _ => Process.every_bind kept fun _ => trivial

end Calm

end Sql

section Books

open Reciprocal

/-- Who has whom for a contact, with the flags. -/
def Db.book (db : Db) : Book UserId := fun ownerId contactId =>
  (db.contact? ownerId contactId).map UserContact.isMutual

def Write.IsUpdate (write : Write) : Prop := ∃ key change, write = .updateContact key change

theorem isSome_book {ownerId contactId : UserId} :
    (db.book ownerId contactId).isSome = (db.contact? ownerId contactId).isSome :=
  Option.isSome_map

theorem book_insertContact (row : UserContact) :
    (Db.write (.insertContact row) db).book = fun ownerId contactId =>
      (db.book ownerId contactId).or
        (if (ownerId, contactId) = row.key then some row.isMutual else none) := by
  funext ownerId contactId
  simp only [Db.book, Db.contact?, Db.write, Table.find?_insert]
  by_cases same : row.key = (ownerId, contactId)
  · rw [if_pos same, if_pos same.symm]
    cases db.contacts.find? (ownerId, contactId) <;> rfl
  · rw [if_neg same, if_neg (Ne.symm same), Option.or_none, Option.or_none]

theorem contact?_updateContact {key : UserId × UserId} {change : ContactChange}
    {ownerId contactId : UserId} :
    (Db.write (.updateContact key change) db).contact? ownerId contactId =
      (db.contact? ownerId contactId).map fun row =>
        if (ownerId, contactId) = key then change.apply row else row := by
  simp only [Db.contact?, Db.write, Table.find?_update]
  refine Option.map_congr fun row found => ?_
  rw [Table.key_of_find? found]
  by_cases same : (ownerId, contactId) = key
  · simp [same]
  · simp [same]

theorem book_updateContact {key : UserId × UserId} {change : ContactChange}
    (unflagged : change.isMutual = none) : (Db.write (.updateContact key change) db).book = db.book := by
  funext ownerId contactId
  simp only [Db.book, contact?_updateContact, Option.map_map]
  refine congrArg (fun view => Option.map view _) (funext fun row => ?_)
  simp only [Function.comp_apply]
  split
  · simp [ContactChange.apply, unflagged]
  · rfl

theorem book_mark {key : UserId × UserId} {flag : Bool} {time : Nat} :
    (Db.write (.updateContact key { isMutual := some flag, updatedAt := time }) db).book =
      mark [key] flag db.book := by
  funext ownerId contactId
  simp only [Db.book, contact?_updateContact, Option.map_map, mark, List.mem_singleton]
  split
  · rfl
  · rfl

theorem mark_mark {first second : List (UserId × UserId)} {flag : Bool} {book : Book UserId} :
    mark second flag (mark first flag book) = mark (first ++ second) flag book := by
  funext ownerId contactId
  simp only [mark, List.mem_append]
  by_cases early : (ownerId, contactId) ∈ first
  · by_cases late : (ownerId, contactId) ∈ second
    · simp [early, late, Function.comp_def]
    · simp [early, late]
  · simp [early]

theorem mark_unmarked {keys chosen : List (UserId × UserId)} {flag : Bool} {book : Book UserId}
    (choice : ∀ ownerId contactId, (ownerId, contactId) ∈ chosen ↔
      (ownerId, contactId) ∈ keys ∧ book ownerId contactId = some (!flag)) :
    mark chosen flag book = mark keys flag book := by
  funext ownerId contactId
  simp only [mark, choice]
  by_cases wanted : (ownerId, contactId) ∈ keys
  · cases present : book ownerId contactId with
    | none => simp
    | some old => cases old <;> cases flag <;> simp [wanted]
  · simp [wanted]

theorem book_marks {flag : Bool} {time : Nat} (keys : List (UserId × UserId)) :
    (applyAll (keys.map fun key =>
      Write.updateContact key { isMutual := some flag, updatedAt := time }) db).book =
      mark keys flag db.book := by
  induction keys generalizing db with
  | nil => rfl
  | cons key rest ih =>
      rw [List.map_cons, applyAll_cons, ih]
      rw [show (Storage.apply (Write.updateContact key { isMutual := some flag, updatedAt := time })
        db : Db).book = mark [key] flag db.book from book_mark, mark_mark, List.singleton_append]

theorem enter_enter {first second : List (UserId × UserId)} {book : Book UserId} :
    enter second (enter first book) = enter (first ++ second) book := by
  funext ownerId contactId
  simp only [enter, List.mem_append, Option.or_assoc]
  by_cases early : (ownerId, contactId) ∈ first
  · simp [early]
  · simp [early]

theorem book_upsertWrite {seen : Db} {row : UserContact} (unflagged : row.isMutual = false)
    (known : (seen.contacts.find? row.key).isSome → (db.contacts.find? row.key).isSome) :
    (Db.write (upsertWrite seen row) db).book = enter [row.key] db.book := by
  unfold upsertWrite
  split
  · rw [book_insertContact]
    funext ownerId contactId
    simp only [enter, List.mem_singleton, unflagged]
  · rename_i old there
    rw [book_updateContact rfl]
    funext ownerId contactId
    unfold enter
    by_cases same : (ownerId, contactId) = row.key
    · have present := known (by rw [there]; rfl)
      rw [← same] at present
      cases found : db.contacts.find? (ownerId, contactId) with
      | none =>
          rw [found] at present
          cases present
      | some contact => simp [Db.book, Db.contact?, found]
    · rw [if_neg (by simpa using same), Option.or_none]

theorem book_upserts {seen : Db} (rows : List UserContact)
    (unflagged : ∀ row ∈ rows, row.isMutual = false)
    (known : ∀ row ∈ rows, (seen.contacts.find? row.key).isSome → (db.contacts.find? row.key).isSome) :
    (applyAll (rows.map (upsertWrite seen)) db).book =
      enter (rows.map UserContact.key) db.book := by
  induction rows generalizing db with
  | nil =>
      funext ownerId contactId
      simp [enter]
  | cons row rest ih =>
      have first : (Db.write (upsertWrite seen row) db).book = enter [row.key] db.book :=
        book_upsertWrite (unflagged row List.mem_cons_self) (known row List.mem_cons_self)
      rw [List.map_cons, applyAll_cons, ih]
      · rw [show (Storage.apply (upsertWrite seen row) db : Db).book = enter [row.key] db.book
          from first, enter_enter]
        rfl
      · exact fun other member => unflagged other (List.mem_cons_of_mem _ member)
      · intro other member present
        have before := known other (List.mem_cons_of_mem _ member) present
        have entered : (enter [row.key] db.book other.ownerId other.contactId).isSome :=
          isSome_enter.mpr (.inl (isSome_book.trans before))
        rw [← first, isSome_book] at entered
        exact entered

end Books

section Counts

theorem contactCount_updateContact {key : UserId × UserId} {change : ContactChange}
    {ownerId : UserId} :
    (Db.write (.updateContact key change) db).contactCount ownerId = db.contactCount ownerId :=
  db.contacts.count_update _ _ change.apply change.key_apply fun _ => rfl

theorem contactCount_insertContact {row : UserContact} {ownerId : UserId}
    (absent : db.contacts.find? row.key = none) :
    (Db.write (.insertContact row) db).contactCount ownerId =
      db.contactCount ownerId + if row.ownerId = ownerId then 1 else 0 := by
  simp only [Db.contactCount, Db.write, Table.count_insert db.contacts row _ absent, beq_iff_eq]

theorem contactCount_deleteContact {key : UserId × UserId} {ownerId : UserId} :
    (Db.write (.deleteContact key) db).contactCount ownerId ≤ db.contactCount ownerId := by
  simp only [Db.contactCount, Db.write, Table.count, Table.delete]
  exact List.filter_sublist.countP_le

def newOf (db : Db) (ownerId : UserId) (pairs : List (UserId × UserId)) : Nat :=
  pairs.countP fun pair => pair.1 == ownerId && (db.contacts.find? pair).isNone

theorem contactCount_upserts {seen : Db} {ownerId : UserId} (rows : List UserContact)
    (distinct : (rows.map UserContact.key).Nodup)
    (same : ∀ row ∈ rows, (seen.contacts.find? row.key).isSome = (db.contacts.find? row.key).isSome) :
    (applyAll (rows.map (upsertWrite seen)) db).contactCount ownerId =
      db.contactCount ownerId + newOf db ownerId (rows.map UserContact.key) := by
  induction rows generalizing db with
  | nil => rfl
  | cons row rest ih =>
      obtain ⟨apart, distinct⟩ := List.nodup_cons.mp distinct
      have others : ∀ other ∈ rest, row.key ≠ other.key := by
        intro other member equal
        exact apart (equal ▸ List.mem_map_of_mem member)
      have here := same row List.mem_cons_self
      -- what the first write leaves the others
      have untouched : ∀ other ∈ rest,
          ((Db.write (upsertWrite seen row) db).contacts.find? other.key).isSome =
            (db.contacts.find? other.key).isSome := by
        intro other member
        unfold upsertWrite
        split
        · rw [Db.write, Table.find?_insert_other _ _ _ (others other member)]
        · rw [Db.write, Table.find?_update, Option.isSome_map]
      have added : (Db.write (upsertWrite seen row) db).contactCount ownerId =
          db.contactCount ownerId + newOf db ownerId [row.key] := by
        unfold upsertWrite newOf
        split
        · rename_i absent
          rw [absent] at here
          have missing : db.contacts.find? row.key = none :=
            Option.isNone_iff_eq_none.mp (by simpa using here.symm)
          have owner : row.key.1 = row.ownerId := rfl
          rw [contactCount_insertContact missing]
          simp [missing, owner]
        · rename_i old there
          rw [there] at here
          rw [contactCount_updateContact]
          simp [← here, ← Option.not_isSome]
      have rest_same : newOf (Db.write (upsertWrite seen row) db) ownerId
          (rest.map UserContact.key) = newOf db ownerId (rest.map UserContact.key) := by
        unfold newOf
        refine List.countP_congr fun pair member => ?_
        obtain ⟨other, inside, rfl⟩ := List.mem_map.mp member
        simp only [← Option.not_isSome, untouched other inside]
      rw [List.map_cons, applyAll_cons]
      rw [show (Storage.apply (upsertWrite seen row) db : Db) =
        Db.write (upsertWrite seen row) db from rfl]
      rw [ih distinct fun other member =>
        (same other (List.mem_cons_of_mem _ member)).trans (untouched other member).symm]
      rw [added, rest_same]
      simp only [newOf, List.map_cons, List.countP_cons, List.countP_nil]
      omega

end Counts

section Parts

open Reciprocal

theorem ends_contactTarget (command : AddContactCommand) :
    (contactTarget services command).Ends db log fun _ left => left = log := by
  unfold contactTarget
  split
  · exact Sql.ends_query rfl rfl
  · exact Sql.ends_query rfl rfl
  · exact Sql.ends_pure rfl

theorem ends_getBlockList (ownerId : UserId) :
    (getBlockList ownerId).Ends db log fun _ left => left = log := by
  unfold getBlockList
  refine Sql.ends_after (Sql.ends_redis (fun world => ⟨rfl, rfl⟩) fun _ => rfl) fun cached => ?_
  cases cached with
  | some targets => exact Sql.ends_pure rfl
  | none =>
      refine Sql.ends_after (Sql.ends_query rfl rfl) fun targets => ?_
      refine Sql.ends_after (Sql.ends_redis (fun world => ⟨rfl, rfl⟩) fun _ => rfl) fun _ => ?_
      exact Sql.ends_pure rfl

theorem ends_consumeQuota (ownerId : UserId) (amount : Nat) :
    (consumeQuota ownerId amount).Ends db log fun _ left => left = log := by
  unfold consumeQuota
  split
  · exact Sql.ends_pure rfl
  · refine Sql.ends_after (Sql.ends_now fun _ => rfl) fun now => ?_
    refine Sql.ends_after (Sql.ends_redis (fun world => ⟨rfl, rfl⟩) fun _ => rfl) fun used => ?_
    split
    · refine Sql.ends_after (Sql.ends_redis (fun world => ⟨rfl, rfl⟩) fun _ => rfl) fun _ => ?_
      exact Sql.ends_pure rfl
    · exact Sql.ends_pure rfl

theorem ends_resolve (hashes : List IdentifierHash) :
    (resolve hashes).Ends db log fun resolved left =>
      left = log ∧ resolved = (applyAll log db).resolve hashes := by
  unfold resolve
  split
  · rename_i empty
    refine Sql.ends_pure ⟨rfl, ?_⟩
    rw [List.isEmpty_iff.mp empty]
    simp [Db.resolve, Table.select]
  · exact Sql.ends_query rfl ⟨rfl, rfl⟩

theorem key_of_row {entry : ContactUpsert} {now : Nat} {row : UserContact}
    (made : entry.row services now = .ok row) : row.key = entry.key ∧ row.isMutual = false := by
  unfold ContactUpsert.row at made
  cases first : validateContactName services entry.firstName with
  | error error =>
      rw [first] at made
      cases made
  | ok firstName =>
      cases last : validateContactName services entry.lastName with
      | error error =>
          rw [first, last] at made
          cases made
      | ok lastName =>
          rw [first, last] at made
          cases made
          exact ⟨rfl, rfl⟩

theorem keys_of_rows {entries : List ContactUpsert} {now : Nat} {rows : List UserContact}
    (made : entries.mapM (ContactUpsert.row services now) = .ok rows) :
    rows.map UserContact.key = entries.map ContactUpsert.key ∧
      ∀ row ∈ rows, row.isMutual = false := by
  induction entries generalizing rows with
  | nil =>
      rw [List.mapM_nil] at made
      cases made
      exact ⟨rfl, fun _ member => nomatch member⟩
  | cons entry rest ih =>
      rw [List.mapM_cons] at made
      cases first : entry.row services now with
      | error error =>
          rw [first] at made
          cases made
      | ok row =>
          cases others : rest.mapM (ContactUpsert.row services now) with
          | error error =>
              rw [first, others] at made
              cases made
          | ok remaining =>
              rw [first, others] at made
              cases made
              obtain ⟨keys, unflagged⟩ := ih others
              obtain ⟨key, plain⟩ := key_of_row first
              refine ⟨by rw [List.map_cons, List.map_cons, keys, key], ?_⟩
              intro other member
              rcases List.mem_cons.mp member with rfl | later
              · exact plain
              · exact unflagged other later

structure Upserted (entries : List ContactUpsert) (seen : Db) (inserted : List (UserId × UserId))
    (rows : List UserContact) : Prop where
  keys : rows.map UserContact.key = entries.map ContactUpsert.key
  unflagged : ∀ row ∈ rows, row.isMutual = false
  inserted : inserted =
    (entries.map ContactUpsert.key).filter fun key => (seen.contacts.find? key).isNone

theorem ends_upsertMany (entries : List ContactUpsert) :
    (upsertMany services entries).Ends db log fun inserted left => ∃ rows,
      Upserted entries (applyAll log db) inserted rows ∧
        left = log ++ rows.map (upsertWrite (applyAll log db)) := by
  unfold upsertMany
  split
  · rename_i empty
    rw [List.isEmpty_iff.mp empty]
    refine Sql.ends_pure ⟨[], ⟨rfl, fun _ member => (nomatch member), rfl⟩, ?_⟩
    exact (List.append_nil log).symm
  · refine Sql.ends_after (Sql.ends_now fun _ => rfl) fun now => ?_
    refine Sql.ends_bind_lift fun rows made => ?_
    obtain ⟨keys, unflagged⟩ := keys_of_rows made
    refine Sql.ends_execute rfl fun began inserted writes ran => ?_
    cases ran
    refine ⟨rows, ⟨keys, unflagged, ?_⟩, rfl⟩
    rw [← keys, List.filter_map]
    rfl

theorem mem_findReverseOwners {seen : Db} {ownerId userId : UserId} {contactIds : List UserId} :
    userId ∈ seen.findReverseOwners ownerId contactIds ↔
      userId ∈ contactIds ∧ (seen.contact? userId ownerId).isSome := by
  simp only [Db.findReverseOwners, Table.select, List.mem_map, List.mem_filter, Bool.and_eq_true,
    beq_iff_eq, List.contains_iff_mem, Option.isSome_iff_exists]
  constructor
  · rintro ⟨row, ⟨member, rfl, wanted⟩, rfl⟩
    exact ⟨wanted, row, (seen.contacts.mem_rows_iff row).mp member⟩
  · rintro ⟨wanted, row, found⟩
    obtain ⟨member, key⟩ := (seen.contacts.find?_some_iff _ row).mp found
    obtain ⟨rfl, rfl⟩ := Prod.mk.inj key
    exact ⟨row, ⟨member, rfl, wanted⟩, rfl⟩

theorem mem_findForwardContacts {seen : Db} {ownerId userId : UserId} {contactIds : List UserId} :
    userId ∈ seen.findForwardContacts ownerId contactIds ↔
      userId ∈ contactIds ∧ (seen.contact? ownerId userId).isSome := by
  simp only [Db.findForwardContacts, Table.select, List.mem_map, List.mem_filter,
    Bool.and_eq_true, beq_iff_eq, List.contains_iff_mem, Option.isSome_iff_exists]
  constructor
  · rintro ⟨row, ⟨member, rfl, wanted⟩, rfl⟩
    exact ⟨wanted, row, (seen.contacts.mem_rows_iff row).mp member⟩
  · rintro ⟨wanted, row, found⟩
    obtain ⟨member, key⟩ := (seen.contacts.find?_some_iff _ row).mp found
    obtain ⟨rfl, rfl⟩ := Prod.mk.inj key
    exact ⟨row, ⟨member, rfl, wanted⟩, rfl⟩

theorem ends_findReverseOwners (ownerId : UserId) (contactIds : List UserId) :
    (findReverseOwners ownerId contactIds).Ends db log fun owners left => left = log ∧
      ∀ userId, userId ∈ owners ↔
        userId ∈ contactIds ∧ ((applyAll log db).contact? userId ownerId).isSome := by
  unfold findReverseOwners
  split
  · rename_i empty
    refine Sql.ends_pure ⟨rfl, fun userId => ?_⟩
    simp [List.isEmpty_iff.mp empty]
  · exact Sql.ends_query rfl ⟨rfl, fun userId => mem_findReverseOwners⟩

theorem ends_findForwardContacts (ownerId : UserId) (contactIds : List UserId) :
    (findForwardContacts ownerId contactIds).Ends db log fun contacts left => left = log ∧
      ∀ userId, userId ∈ contacts ↔
        userId ∈ contactIds ∧ ((applyAll log db).contact? ownerId userId).isSome := by
  unfold findForwardContacts
  split
  · rename_i empty
    refine Sql.ends_pure ⟨rfl, fun userId => ?_⟩
    simp [List.isEmpty_iff.mp empty]
  · exact Sql.ends_query rfl ⟨rfl, fun userId => mem_findForwardContacts⟩

structure Marked (keys : List (UserId × UserId)) (flag : Bool) (seen : Db) (writes : List Write) :
    Prop where
  updates : ∀ write ∈ writes, ∃ key time,
    write = .updateContact key { isMutual := some flag, updatedAt := time }
  book : (applyAll writes seen).book = mark keys flag seen.book

theorem Marked.isUpdate {keys : List (UserId × UserId)} {flag : Bool} {seen : Db}
    {writes : List Write} (marked : Marked keys flag seen writes) :
    ∀ write ∈ writes, write.IsUpdate := by
  intro write member
  obtain ⟨key, time, same⟩ := marked.updates write member
  exact ⟨key, _, same⟩

theorem marked_nil {flag : Bool} {seen : Db} : Marked [] flag seen [] where
  updates := fun _ member => nomatch member
  book := by
    funext ownerId contactId
    simp [mark]

theorem ends_setMutualKeys (keys : List (UserId × UserId)) (flag : Bool) :
    (setMutualKeys keys flag).Ends db log fun _ left => ∃ writes,
      Marked keys flag (applyAll log db) writes ∧ left = log ++ writes := by
  unfold setMutualKeys
  refine Sql.ends_after (Sql.ends_now fun _ => rfl) fun now => ?_
  refine Sql.ends_update rfl ⟨_, ⟨?_, ?_⟩, rfl⟩
  · intro write member
    obtain ⟨row, _, rfl⟩ := List.mem_map.mp member
    exact ⟨_, _, rfl⟩
  · have chosen : (applyAll ((((applyAll log db).contacts.select fun row =>
        keys.contains row.key && row.isMutual == !flag).map UserContact.key).map fun key =>
          Write.updateContact key { isMutual := some flag, updatedAt := now })
            (applyAll log db)).book = _ := book_marks _
    rw [List.map_map] at chosen
    refine Eq.trans chosen (mark_unmarked fun ownerId contactId => ?_)
    simp only [Table.select, List.mem_map, List.mem_filter, Bool.and_eq_true, beq_iff_eq,
      List.contains_iff_mem, Db.book, Db.contact?, Option.map_eq_some_iff]
    constructor
    · rintro ⟨row, ⟨member, wanted, unmarked⟩, key⟩
      rw [key] at wanted
      refine ⟨wanted, row, ?_, unmarked⟩
      rw [← key]
      exact ((applyAll log db).contacts.mem_rows_iff row).mp member
    · rintro ⟨wanted, row, found, unmarked⟩
      obtain ⟨member, key⟩ := ((applyAll log db).contacts.find?_some_iff _ row).mp found
      exact ⟨row, ⟨member, key ▸ wanted, unmarked⟩, key⟩

theorem ends_setMutual (ownerId : UserId) (contactIds : List UserId) (flag : Bool) :
    (setMutual ownerId contactIds flag).Ends db log fun _ left => ∃ writes,
      Marked (contactIds.flatMap (bothDirections ownerId)) flag (applyAll log db) writes ∧
        left = log ++ writes := by
  unfold setMutual
  split
  · rename_i empty
    rw [List.isEmpty_iff.mp empty]
    exact Sql.ends_pure ⟨[], marked_nil, (List.append_nil log).symm⟩
  · exact ends_setMutualKeys _ flag

theorem ends_setMutualPairs (pairs : List (UserId × UserId)) :
    (setMutualPairs pairs).Ends db log fun _ left => ∃ writes,
      Marked (pairs.flatMap fun pair => bothDirections pair.1 pair.2) true (applyAll log db) writes ∧
        left = log ++ writes := by
  unfold setMutualPairs
  split
  · rename_i empty
    rw [List.isEmpty_iff.mp empty]
    exact Sql.ends_pure ⟨[], marked_nil, (List.append_nil log).symm⟩
  · exact ends_setMutualKeys _ true

end Parts

end Messanger.Contacts
