import Messanger.Contacts.Transactions

/-!
What each command commits: which pairs its transaction brings into the address books or takes out
of them, how it keeps the flags, and which events it publishes.
-/

namespace Messanger.Contacts

open Relational Processes Reciprocal

variable {Answer Result : Type} {db : Db} {log : List Write} {services : Services}

section Logs

def Write.event? : Write → Option ContactEvent
  | .publish event => some event
  | _ => none

def published (log : List Write) : List ContactEvent := log.filterMap Write.event?

def Write.Elsewhere : Write → Prop
  | .insertContact _ => False
  | .updateContact _ _ => False
  | .deleteContact _ => False
  | _ => True

theorem published_append (first second : List Write) :
    published (first ++ second) = published first ++ published second := List.filterMap_append

theorem published_publish (events : List ContactEvent) :
    published (events.map .publish) = events := by
  rw [published, List.filterMap_map]
  exact List.filterMap_some

theorem published_none {log : List Write} (quiet : ∀ write ∈ log, write.event? = none) :
    published log = [] := List.filterMap_eq_nil_iff.mpr quiet

theorem outbox_applyAll (log : List Write) :
    (applyAll log db).outbox = db.outbox ++ published log := by
  induction log generalizing db with
  | nil => exact (List.append_nil _).symm
  | cons write rest ih =>
      rw [applyAll_cons, ih]
      cases write with
      | publish event =>
          simp [Storage.apply, Db.write, published, Write.event?]
      | insertContact _ | updateContact _ _ | deleteContact _ | upsertIdentifier _
      | upsertPending _ | deletePending _ | insertBlocked _ | deleteBlocked _ => rfl

theorem contacts_applyAll {log : List Write} (away : ∀ write ∈ log, write.Elsewhere) :
    (applyAll log db).contacts = db.contacts := by
  induction log generalizing db with
  | nil => rfl
  | cons write rest ih =>
      rw [applyAll_cons, ih fun other member => away other (List.mem_cons_of_mem _ member)]
      have here := away write List.mem_cons_self
      cases write with
      | insertContact _ | updateContact _ _ | deleteContact _ => exact here.elim
      | upsertIdentifier _ | upsertPending _ | deletePending _ | insertBlocked _
      | deleteBlocked _ | publish _ => rfl

theorem book_congr {left right : Db} (same : left.contacts = right.contacts) :
    left.book = right.book := by
  unfold Db.book Db.contact?
  rw [same]

theorem contactCount_congr {left right : Db} (same : left.contacts = right.contacts)
    (ownerId : UserId) : left.contactCount ownerId = right.contactCount ownerId := by
  rw [Db.contactCount, Db.contactCount, same]

theorem contactCount_updates {writes : List Write} (updates : ∀ write ∈ writes, write.IsUpdate)
    (ownerId : UserId) : (applyAll writes db).contactCount ownerId = db.contactCount ownerId := by
  induction writes generalizing db with
  | nil => rfl
  | cons write rest ih =>
      obtain ⟨key, change, rfl⟩ := updates write List.mem_cons_self
      rw [applyAll_cons, ih fun other member => updates other (List.mem_cons_of_mem _ member)]
      exact contactCount_updateContact

theorem published_updates {writes : List Write} (updates : ∀ write ∈ writes, write.IsUpdate) :
    published writes = [] := by
  refine published_none fun write member => ?_
  obtain ⟨key, change, rfl⟩ := updates write member
  rfl

theorem published_upserts {seen : Db} (rows : List UserContact) :
    published (rows.map (upsertWrite seen)) = [] := by
  refine published_none fun write member => ?_
  obtain ⟨row, _, rfl⟩ := List.mem_map.mp member
  unfold upsertWrite
  split
  · rfl
  · rfl

end Logs

structure Grows (pairs : List (UserId × UserId)) (db after : Db) : Prop where
  faithful : Faithful db.book → Faithful after.book
  present : ∀ ownerId contactId, (after.book ownerId contactId).isSome ↔
    (db.book ownerId contactId).isSome ∨ (ownerId, contactId) ∈ pairs
  counts : ∀ ownerId, after.contactCount ownerId = db.contactCount ownerId + newOf db ownerId pairs

structure Shrinks (pair : UserId × UserId) (db after : Db) : Prop where
  faithful : Faithful db.book → Faithful after.book
  present : ∀ ownerId contactId, (after.book ownerId contactId).isSome ↔
    (db.book ownerId contactId).isSome ∧ (ownerId, contactId) ≠ pair
  counts : ∀ ownerId, after.contactCount ownerId ≤ db.contactCount ownerId

theorem grows_nil {after : Db} (book : after.book = db.book)
    (counts : ∀ ownerId, after.contactCount ownerId = db.contactCount ownerId) :
    Grows [] db after where
  faithful faithful := by rwa [book]
  present ownerId contactId := by simp [book]
  counts ownerId := by simp [counts, newOf]

theorem Grows.away {pairs : List (UserId × UserId)} {log away : List Write}
    (grows : Grows pairs db (applyAll log db)) (elsewhere : ∀ write ∈ away, write.Elsewhere) :
    Grows pairs db (applyAll (log ++ away) db) := by
  have same : (applyAll (log ++ away) db).contacts = (applyAll log db).contacts := by
    rw [applyAll_append]
    exact contacts_applyAll elsewhere
  refine ⟨fun faithful => ?_, fun ownerId contactId => ?_, fun ownerId => ?_⟩
  · rw [book_congr same]
    exact grows.faithful faithful
  · rw [book_congr same]
    exact grows.present ownerId contactId
  · rw [contactCount_congr same]
    exact grows.counts ownerId

theorem elsewhere_publish (events : List ContactEvent) :
    ∀ write ∈ events.map Write.publish, write.Elsewhere := by
  intro write member
  obtain ⟨event, _, rfl⟩ := List.mem_map.mp member
  trivial

def bothOf (pairs : List (UserId × UserId)) : List (UserId × UserId) :=
  pairs.flatMap fun pair => bothDirections pair.1 pair.2

theorem mem_bothOf {pairs : List (UserId × UserId)} {ownerId contactId : UserId} :
    (ownerId, contactId) ∈ bothOf pairs ↔
      (ownerId, contactId) ∈ pairs ∨ (contactId, ownerId) ∈ pairs := by
  simp only [bothOf, List.mem_flatMap, bothDirections, List.mem_cons, List.not_mem_nil, or_false,
    Prod.mk.injEq, Prod.exists]
  constructor
  · rintro ⟨left, right, member, ⟨rfl, rfl⟩ | ⟨rfl, rfl⟩⟩
    · exact .inl member
    · exact .inr member
  · rintro (member | member)
    · exact ⟨_, _, member, .inl ⟨rfl, rfl⟩⟩
    · exact ⟨_, _, member, .inr ⟨rfl, rfl⟩⟩

theorem grows_marked {pairs met : List (UserId × UserId)} {early marks : List Write}
    (entered : mark (bothOf met) true (applyAll early db).book =
      mark (bothOf met) true (enter pairs db.book))
    (counted : ∀ ownerId, (applyAll early db).contactCount ownerId =
      db.contactCount ownerId + newOf db ownerId pairs)
    (marked : Marked (bothOf met) true (applyAll early db) marks)
    (meets : ∀ ownerId contactId, (ownerId, contactId) ∈ pairs →
      ((enter pairs db.book contactId ownerId).isSome ↔ (ownerId, contactId) ∈ met))
    (fewer : ∀ pair ∈ met, pair ∈ pairs) : Grows pairs db (applyAll (early ++ marks) db) := by
  have final : (applyAll (early ++ marks) db).book =
      mark (bothOf met) true (enter pairs db.book) := by
    rw [applyAll_append, marked.book, entered]
  refine ⟨fun faithful => ?_, fun ownerId contactId => ?_, fun ownerId => ?_⟩
  · rw [final]
    refine faithful_enter faithful ?_ ?_
    · intro ownerId contactId chosen present
      rcases mem_bothOf.mp chosen with here | there
      · exact (meets ownerId contactId (fewer _ here)).mpr here
      · exact isSome_enter.mpr (.inr (fewer _ there))
    · intro ownerId contactId enters present
      have here := (meets ownerId contactId enters).mp present
      exact ⟨mem_bothOf.mpr (.inl here), mem_bothOf.mpr (.inr here)⟩
  · rw [final, isSome_mark, isSome_enter]
  · rw [applyAll_append, contactCount_updates marked.isUpdate, counted]

theorem grows_upserts {pairs met : List (UserId × UserId)} {rows : List UserContact}
    {others marks : List Write} (entered : rows.map UserContact.key = pairs) (distinct : pairs.Nodup)
    (unflagged : ∀ row ∈ rows, row.isMutual = false)
    (away : ∀ write ∈ others, write.Elsewhere)
    (marked : Marked (bothOf met) true (applyAll (rows.map (upsertWrite db) ++ others) db) marks)
    (meets : ∀ ownerId contactId, (ownerId, contactId) ∈ pairs →
      ((enter pairs db.book contactId ownerId).isSome ↔ (ownerId, contactId) ∈ met))
    (fewer : ∀ pair ∈ met, pair ∈ pairs) :
    Grows pairs db (applyAll (rows.map (upsertWrite db) ++ others ++ marks) db) := by
  refine grows_marked ?_ (fun ownerId => ?_) marked meets fewer
  · rw [applyAll_append, book_congr (contacts_applyAll away),
      book_upserts rows unflagged fun _ _ present => present, entered]
  · rw [applyAll_append, contactCount_congr (contacts_applyAll away),
      contactCount_upserts rows (entered ▸ distinct) fun _ _ => rfl, entered]

namespace Sql

/-- The first turn of a handler leaves the rows as they are, or it commits what `Effect` says and
the rest of the handler leaves them. -/
def Commits (sql : Sql Answer) (db : Db) (log : List Write) (Effect : List Write → Prop) : Prop :=
  ∀ world transaction (wrap : Answer → ContactAnswer), world.db = db → transaction.log = log →
    (sql transaction >>= fun result => pure (wrap result.1)).Until Op.isCommit (fun after rest =>
      (after.db = db ∧ ∃ outcome, rest = .done outcome) ∨
        ∃ left, Effect left ∧ after.db = applyAll left db ∧
          rest.Every fun _ effect => ∀ world, (effect world).db = world.db) world

section Commits

variable {Effect : List Write → Prop} {Mid : Answer → List Write → Prop}

theorem until_bind {Final : Type} {sql : Sql Answer} {next : Answer → Sql Result}
    {wrap : Result × Transaction → Handler Final} {world : World} {transaction : Transaction}
    {Post : World → Handler Final → Prop} (first : sql.Ends db log Mid) (same : world.db = db)
    (logged : transaction.log = log)
    (failed : ∀ after error, after.db = db → Post after (.done (.error error)))
    (passed : ∀ after answer left, after.db = db → Mid answer left.log →
      (next answer left >>= wrap).Until Op.isCommit Post after) :
    ((sql >>= next) transaction >>= wrap).Until Op.isCommit Post world := by
  change ((sql transaction >>= fun result => next result.1 result.2) >>= _).Until _ _ _
  rw [Process.bind_assoc]
  refine Process.until_within (Process.Within.mono (first world transaction same logged) ?_)
  rintro after (error | ⟨answer, left⟩) ⟨kept, ended⟩
  · exact failed after error kept
  · exact passed after answer left kept (ended answer left rfl)

theorem commits_bind {sql : Sql Answer} {next : Answer → Sql Result} (first : sql.Ends db log Mid)
    (rest : ∀ answer left, Mid answer left → (next answer).Commits db left Effect) :
    (sql >>= next).Commits db log Effect := by
  intro world transaction wrap same logged
  refine until_bind first same logged (fun after error kept => .inl ⟨kept, _, rfl⟩) ?_
  exact fun after answer left kept mid => rest answer left.log mid after left wrap kept rfl

theorem commits_after {sql : Sql Answer} {next : Answer → Sql Result}
    (first : sql.Ends db log fun _ left => left = log)
    (rest : ∀ answer, (next answer).Commits db log Effect) :
    (sql >>= next).Commits db log Effect := by
  refine commits_bind first ?_
  rintro answer left rfl
  exact rest answer

theorem commits_lift {check : Except ContactError Answer} {next : Answer → Sql Result}
    (rest : ∀ answer, check = .ok answer → (next answer).Commits db log Effect) :
    ((liftM check : Sql Answer) >>= next).Commits db log Effect := by
  have checked : (liftM check : Sql Answer).Ends db log fun answer left =>
      left = log ∧ check = .ok answer := ends_lift fun answer passed => ⟨rfl, passed⟩
  refine commits_bind checked ?_
  rintro answer left ⟨rfl, passed⟩
  exact rest answer passed

theorem commits_pure (answer : Result) : (pure answer : Sql Result).Commits db log Effect :=
  fun _ _ _ same _ => .inl ⟨same, _, rfl⟩

theorem commits_commit {next : Unit → Sql Result} (effect : Effect log) (calm : (next ()).Calm) :
    (commit >>= next).Commits db log Effect := by
  rintro world transaction wrap rfl rfl
  refine (Process.until_iff _).mpr (Or.inr ⟨transaction.log, effect, rfl, ?_⟩)
  exact Process.every_bind (calm {}) fun _ => trivial

theorem commits_last (effect : Effect log) : commit.Commits db log Effect := by
  rintro world transaction wrap rfl rfl
  exact (Process.until_iff _).mpr (Or.inr ⟨transaction.log, effect, rfl, trivial⟩)

end Commits

end Sql

section Adding

variable {ownerId contactId : UserId}

structure Saved (ownerId contactId : UserId) (isMutual : Bool) (seen : Db)
    (events : List ContactEvent) (writes : List Write) : Prop where
  book : (applyAll writes seen).book = fun owner contact =>
    (seen.book owner contact).or
      (if (owner, contact) = (ownerId, contactId) then some isMutual else none)
  counts : ∀ owner, (applyAll writes seen).contactCount owner =
    seen.contactCount owner + newOf seen owner [(ownerId, contactId)]
  quiet : published writes = []
  events : (seen.contact? ownerId contactId = none ∧
      (∃ source, events = [.contactAdded ownerId contactId source isMutual]) ∧
        seen.contactCount ownerId < maxContactsPerUser) ∨
    ((seen.contact? ownerId contactId).isSome ∧ events = [])

theorem require_ok {condition : Bool} {error : ContactError} {answer : Unit}
    (passed : require condition error = .ok answer) : condition = true := by
  cases condition with
  | true => rfl
  | false => cases passed

theorem ends_createContact (command : AddContactCommand) (isMutual : Bool) :
    (createContact services command contactId isMutual).Ends db log fun events left => ∃ writes,
      Saved command.ownerId contactId isMutual (applyAll log db) events writes ∧
        left = log ++ writes := by
  unfold createContact
  have counted : (Sql.query .select fun seen => seen.contactCount command.ownerId).Ends db log
      fun count left => left = log ∧ count = (applyAll log db).contactCount command.ownerId :=
    Sql.ends_query rfl ⟨rfl, rfl⟩
  refine Sql.ends_bind counted ?_
  rintro count left ⟨rfl, rfl⟩
  refine Sql.ends_bind_lift fun _ passed => ?_
  have room := of_decide_eq_true (require_ok passed)
  refine Sql.ends_bind_lift fun firstName _ => Sql.ends_bind_lift fun lastName _ => ?_
  refine Sql.ends_bind (?_ : Sql.Ends _ db left fun _ log => ∃ row : UserContact,
    row.key = (command.ownerId, contactId) ∧ row.isMutual = isMutual ∧
      (applyAll left db).contacts.find? (command.ownerId, contactId) = none ∧
        log = left ++ [.insertContact row]) ?_
  · refine Sql.ends_execute rfl fun began _ writes ran => ?_
    split at ran
    · cases ran
    · rename_i absent
      cases ran
      exact ⟨_, rfl, rfl, absent, rfl⟩
  rintro _ log ⟨row, key, flag, absent, rfl⟩
  refine Sql.ends_pure ⟨[.insertContact row], ⟨?_, fun owner => ?_, rfl, ?_⟩, rfl⟩
  · rw [← key, ← flag]
    exact book_insertContact row
  · refine (contactCount_insertContact (key ▸ absent)).trans ?_
    have owner_eq : row.ownerId = command.ownerId := congrArg Prod.fst key
    simp [newOf, absent, owner_eq]
  · exact .inl ⟨absent, ⟨_, rfl⟩, room⟩

theorem flushed_cases (old new : UserContact) (began : Nat) :
    UserContact.flushed old new began = [] ∨ ∃ change, change.isMutual = none ∧
      UserContact.flushed old new began = [.updateContact old.key change] := by
  unfold UserContact.flushed
  split
  · exact .inl rfl
  · exact .inr ⟨_, rfl, rfl⟩

theorem book_flushed (old new : UserContact) (began : Nat) :
    (applyAll (UserContact.flushed old new began) db).book = db.book := by
  rcases flushed_cases old new began with none | ⟨change, unflagged, one⟩
  · rw [none]
    rfl
  · rw [one]
    exact book_updateContact unflagged

theorem updates_flushed (old new : UserContact) (began : Nat) :
    ∀ write ∈ UserContact.flushed old new began, write.IsUpdate := by
  intro write member
  rcases flushed_cases old new began with none | ⟨change, _, one⟩
  · rw [none] at member
    cases member
  · rw [one, List.mem_singleton] at member
    exact ⟨_, _, member⟩

theorem ends_renameContact (command : AddContactCommand) (contact : UserContact) :
    (renameContact services command contact).Ends db log fun _ left => ∃ renamed began,
      left = log ++ UserContact.flushed contact renamed began := by
  unfold renameContact
  refine Sql.ends_after (Sql.ends_now fun _ => rfl) fun now => ?_
  refine Sql.ends_bind_lift fun renamed _ => Sql.ends_execute rfl fun began answer writes ran => ?_
  cases ran
  exact ⟨renamed, began, rfl⟩

theorem saved_flushed {seen : Db} {row renamed : UserContact} {began : Nat} {isMutual : Bool}
    (there : seen.contact? ownerId contactId = some row) :
    Saved ownerId contactId isMutual seen [] (UserContact.flushed row renamed began) where
  book := by
    rw [book_flushed]
    funext owner contact
    by_cases same : (owner, contact) = (ownerId, contactId)
    · cases same
      simp [Db.book, there]
    · rw [if_neg same, Option.or_none]
  counts owner := by
    have present : seen.contacts.find? (ownerId, contactId) = some row := there
    rw [contactCount_updates (updates_flushed row renamed began)]
    simp [newOf, present]
  quiet := published_updates (updates_flushed row renamed began)
  events := .inr ⟨by rw [there]; rfl, rfl⟩

theorem ends_saveContact (command : AddContactCommand) (isMutual : Bool) :
    (saveContact services command contactId isMutual
      ((applyAll log db).contact? command.ownerId contactId)).Ends db log fun events left =>
      ∃ writes, Saved command.ownerId contactId isMutual (applyAll log db) events writes ∧
        left = log ++ writes := by
  cases found : (applyAll log db).contact? command.ownerId contactId with
  | none => exact ends_createContact command isMutual
  | some row =>
      refine Sql.ends_bind (ends_renameContact command row) ?_
      rintro _ left ⟨renamed, began, rfl⟩
      exact Sql.ends_pure ⟨_, saved_flushed found, rfl⟩

structure Announces (pairs : List (UserId × UserId)) (db : Db) (events : List ContactEvent) :
    Prop where
  only : ∀ event ∈ events, ∃ ownerId contactId source isMutual,
    event = .contactAdded ownerId contactId source isMutual ∧
      (ownerId, contactId) ∈ pairs ∧ db.contact? ownerId contactId = none
  all : ∀ ownerId contactId, (ownerId, contactId) ∈ pairs → db.contact? ownerId contactId = none →
    ∃ source isMutual, .contactAdded ownerId contactId source isMutual ∈ events

structure Adds (ownerId contactId : UserId) (db : Db) (log : List Write) : Prop where
  other : contactId ≠ ownerId
  grows : Grows [(ownerId, contactId)] db (applyAll log db)
  announces : Announces [(ownerId, contactId)] db (published log)
  room : db.contact? ownerId contactId = none → db.contactCount ownerId < maxContactsPerUser

theorem announces_saved {isMutual : Bool} {seen : Db} {events : List ContactEvent}
    {writes : List Write} (saved : Saved ownerId contactId isMutual seen events writes) :
    Announces [(ownerId, contactId)] seen events := by
  rcases saved.events with ⟨absent, ⟨source, rfl⟩, _⟩ | ⟨present, rfl⟩
  · constructor
    · intro event member
      exact ⟨ownerId, contactId, source, isMutual, List.mem_singleton.mp member,
        List.mem_singleton_self _, absent⟩
    · intro owner contact chosen _
      obtain ⟨rfl, rfl⟩ := Prod.mk.inj (List.mem_singleton.mp chosen)
      exact ⟨source, isMutual, List.mem_singleton_self _⟩
  · constructor
    · exact fun _ member => nomatch member
    · intro owner contact chosen absent
      obtain ⟨rfl, rfl⟩ := Prod.mk.inj (List.mem_singleton.mp chosen)
      rw [absent] at present
      cases present

theorem grows_saved {seen : Db} {events : List ContactEvent} {writes marks : List Write}
    {isMutual : Bool} (other : contactId ≠ ownerId)
    (saved : Saved ownerId contactId isMutual seen events writes)
    (reverse : isMutual = true ↔ (seen.contact? contactId ownerId).isSome)
    (marked : Marked (bothOf (if isMutual then [(ownerId, contactId)] else [])) true
      (applyAll writes seen) marks) :
    Grows [(ownerId, contactId)] seen (applyAll (writes ++ marks) seen) := by
  refine grows_marked ?_ saved.counts marked ?_ ?_
  · rw [saved.book]
    cases isMutual with
    | false =>
        funext owner contact
        simp [mark, enter, bothOf]
    | true =>
        funext owner contact
        simp only [mark, enter, if_true, mem_bothOf, List.mem_singleton]
        by_cases here : (owner, contact) = (ownerId, contactId)
        · simp only [here, true_or, if_true]
          cases seen.book owner contact <;> rfl
        · simp [here]
  · intro owner contact chosen
    obtain ⟨rfl, rfl⟩ := Prod.mk.inj (List.mem_singleton.mp chosen)
    rw [isSome_enter, isSome_book, ← reverse]
    cases isMutual with
    | false => simp [other]
    | true => simp
  · intro pair member
    cases isMutual with
    | false => cases member
    | true => exact member

theorem commits_addContact (command : AddContactCommand) :
    (addContact services command).Commits db [] fun log =>
      ∃ contactId, Adds command.ownerId contactId db log := by
  unfold addContact
  refine Sql.commits_lift fun _ _ => Sql.commits_after (ends_contactTarget command) fun target => ?_
  refine Sql.commits_lift fun profile _ => Sql.commits_lift fun _ passed => ?_
  have other : profile.id ≠ command.ownerId := of_decide_eq_true (require_ok passed)
  refine Sql.commits_after (ends_getBlockList command.ownerId) fun blocked => ?_
  refine Sql.commits_lift fun _ _ => ?_
  have looked : (Sql.query .select fun seen => seen.contact? command.ownerId profile.id).Ends db []
      fun contact left => left = [] ∧ contact = db.contact? command.ownerId profile.id :=
    Sql.ends_query rfl ⟨rfl, rfl⟩
  refine Sql.commits_bind looked ?_
  rintro contact left ⟨rfl, rfl⟩
  refine Sql.commits_bind (ends_findReverseOwners command.ownerId [profile.id]) ?_
  rintro reverse left ⟨rfl, owners⟩
  have met := owners profile.id
  simp only [List.mem_singleton, true_and] at met
  have saves : (saveContact services command profile.id (reverse.contains profile.id)
      (db.contact? command.ownerId profile.id)).Ends db [] fun events left => ∃ writes,
        Saved command.ownerId profile.id (reverse.contains profile.id) db events writes ∧
          left = writes := ends_saveContact command _
  refine Sql.commits_bind saves ?_
  rintro events writes ⟨_, saved, rfl⟩
  refine Sql.commits_bind (ends_setMutual command.ownerId _ true) ?_
  rintro _ left ⟨marks, marked, rfl⟩
  have announces : (Sql.publish events).Ends db (writes ++ marks) fun _ left =>
      left = writes ++ marks ++ events.map .publish := Sql.ends_publish rfl
  refine Sql.commits_bind announces ?_
  rintro _ left rfl
  have opposite : reverse.contains profile.id = true ↔
      (db.contact? profile.id command.ownerId).isSome := by
    rw [List.contains_iff_mem]
    exact met
  have keys : (if reverse.contains profile.id then [profile.id] else []).flatMap
      (bothDirections command.ownerId) =
        bothOf (if reverse.contains profile.id then [(command.ownerId, profile.id)] else []) := by
    split
    · rfl
    · rfl
  rw [keys] at marked
  have grows := grows_saved other saved opposite marked
  have quiet : published (writes ++ marks ++ events.map .publish) = events := by
    rw [published_append, published_append, saved.quiet, published_updates marked.isUpdate,
      published_publish]
    rfl
  refine Sql.commits_commit ⟨profile.id, other, ?_, ?_, ?_⟩ ?_
  · exact grows.away (elsewhere_publish events)
  · rw [quiet]
    exact announces_saved saved
  · intro absent
    rcases saved.events with ⟨_, _, room⟩ | ⟨present, _⟩
    · exact room
    · rw [absent] at present
      cases present
  · exact Sql.calm_bind (Sql.calm_query _ _) fun _ => Sql.calm_lift _

end Adding

section Others

variable {ownerId contactId : UserId}

theorem book_deleteContact :
    (Db.write (.deleteContact (ownerId, contactId)) db).book = withdraw (ownerId, contactId) db.book := by
  funext owner contact
  simp only [Db.book, Db.contact?, Db.write, Table.find?_delete, withdraw]
  cases found : db.contacts.find? (owner, contact) with
  | none => simp
  | some row =>
      have key := Table.key_of_find? found
      by_cases same : (owner, contact) = (ownerId, contactId)
      · simp [key, same]
      · rw [if_neg same]
        simp [key, same]

structure Removes (ownerId contactId : UserId) (db : Db) (log : List Write) : Prop where
  shrinks : Shrinks (ownerId, contactId) db (applyAll log db)
  announced : published log = [.contactRemoved ownerId contactId]

theorem ends_deleteContact (there : ((applyAll log db).contact? ownerId contactId).isSome) :
    (deleteContact ownerId contactId).Ends db log fun _ left => ∃ marks,
      Marked (bothOf [(ownerId, contactId)]) false
        (applyAll [.deleteContact (ownerId, contactId)] (applyAll log db)) marks ∧
      left = log ++ [.deleteContact (ownerId, contactId)] ++ marks := by
  unfold deleteContact
  refine Sql.ends_bind (?_ : Sql.Ends _ db log fun deleted left =>
    deleted = true ∧ left = log ++ [.deleteContact (ownerId, contactId)]) ?_
  · refine Sql.ends_execute rfl fun began deleted writes ran => ?_
    split at ran
    · rename_i absent
      rw [absent] at there
      cases there
    · rename_i row found
      cases ran
      have key : row.key = (ownerId, contactId) := Table.key_of_find? found
      exact ⟨rfl, by rw [key]⟩
  rintro deleted left ⟨rfl, rfl⟩
  refine Sql.ends_bind (ends_setMutual ownerId [contactId] false) ?_
  rintro _ left ⟨marks, marked, rfl⟩
  refine Sql.ends_pure ⟨marks, ?_, rfl⟩
  rw [applyAll_append] at marked
  exact marked

theorem commits_removeContact (command : ContactCommand) :
    (removeContact command).Commits db [] (Removes command.ownerId command.contactId db) := by
  unfold removeContact
  refine Sql.commits_lift fun _ _ => ?_
  have looked : (Sql.query .select fun seen =>
      seen.contact? command.ownerId command.contactId).Ends db [] fun contact left =>
        left = [] ∧ contact = db.contact? command.ownerId command.contactId :=
    Sql.ends_query rfl ⟨rfl, rfl⟩
  refine Sql.commits_bind looked ?_
  rintro contact left ⟨rfl, rfl⟩
  refine Sql.commits_lift fun row there => ?_
  have present : db.contact? command.ownerId command.contactId = some row := by
    unfold found at there
    split at there
    · rename_i contact same
      cases there
      exact same
    · cases there
  refine Sql.commits_bind (ends_deleteContact (by rw [applyAll_nil, present]; rfl)) ?_
  rintro _ left ⟨marks, marked, rfl⟩
  have key : row.key = (command.ownerId, command.contactId) := Table.key_of_find? present
  have owner : row.ownerId = command.ownerId := congrArg Prod.fst key
  have contact : row.contactId = command.contactId := congrArg Prod.snd key
  rw [applyAll_nil] at marked
  have announces : (Sql.publish [.contactRemoved row.ownerId row.contactId]).Ends db
      ([] ++ [Write.deleteContact (command.ownerId, command.contactId)] ++ marks) fun _ left =>
        left = [Write.deleteContact (command.ownerId, command.contactId)] ++ marks ++
          [Write.publish (.contactRemoved command.ownerId command.contactId)] := by
    rw [owner, contact]
    exact Sql.ends_publish rfl
  refine Sql.commits_bind announces ?_
  rintro _ left rfl
  refine Sql.commits_last ⟨?_, ?_⟩
  · have after : (applyAll ([Write.deleteContact (command.ownerId, command.contactId)] ++ marks ++
        [Write.publish (.contactRemoved command.ownerId command.contactId)]) db).contacts =
          (applyAll ([Write.deleteContact (command.ownerId, command.contactId)] ++ marks) db).contacts := by
      rw [applyAll_append]
      refine contacts_applyAll fun write member => ?_
      rw [List.mem_singleton.mp member]
      trivial
    have book : (applyAll ([Write.deleteContact (command.ownerId, command.contactId)] ++ marks)
        db).book = mark (bothOf [(command.ownerId, command.contactId)]) false
          (withdraw (command.ownerId, command.contactId) db.book) := by
      rw [applyAll_append, marked.book]
      exact congrArg (mark _ false) book_deleteContact
    refine ⟨fun faithful => ?_, fun owner contact => ?_, fun owner => ?_⟩
    · rw [book_congr after, book]
      exact faithful_withdraw faithful
    · rw [book_congr after, book, isSome_mark, withdraw]
      split
      · rename_i same
        simp [same]
      · rename_i other
        simp [other]
    · rw [contactCount_congr after, applyAll_append, contactCount_updates marked.isUpdate]
      exact contactCount_deleteContact
  · rw [published_append, published_append, published_updates marked.isUpdate]
    rfl

structure Leaves (db : Db) (log : List Write) : Prop where
  grows : Grows [] db (applyAll log db)
  silent : ∀ event ∈ published log, ∀ ownerId contactId source isMutual,
    event ≠ .contactAdded ownerId contactId source isMutual ∧
      event ≠ .contactRemoved ownerId contactId

theorem commits_updateContact (command : UpdateContactCommand) :
    (updateContact services command).Commits db [] (Leaves db) := by
  unfold updateContact
  refine Sql.commits_lift fun _ _ => ?_
  refine Sql.commits_after (Sql.ends_query rfl rfl) fun contact => ?_
  refine Sql.commits_lift fun contact _ => ?_
  refine Sql.commits_after (Sql.ends_now fun _ => rfl) fun now => ?_
  refine Sql.commits_lift fun renamed _ => ?_
  have flushes (updated : UserContact) : (Sql.execute .flush fun began _ =>
      .ok ((), UserContact.flushed contact updated began)).Ends db [] fun _ left => ∃ began,
        left = UserContact.flushed contact updated began := by
    refine Sql.ends_execute rfl fun began _ writes ran => ?_
    cases ran
    exact ⟨began, rfl⟩
  refine Sql.commits_bind (flushes _) ?_
  rintro _ left ⟨began, rfl⟩
  refine Sql.commits_commit ⟨grows_nil (book_flushed _ _ _) fun ownerId =>
    contactCount_updates (updates_flushed _ _ _) ownerId, ?_⟩ (Sql.calm_pure _)
  rw [published_updates (updates_flushed _ _ _)]
  exact fun _ member => nomatch member

theorem leaves_away {log : List Write} (elsewhere : ∀ write ∈ log, write.Elsewhere)
    (silent : ∀ event ∈ published log, ∀ ownerId contactId source isMutual,
      event ≠ .contactAdded ownerId contactId source isMutual ∧
        event ≠ .contactRemoved ownerId contactId) : Leaves db log where
  grows := grows_nil (book_congr (contacts_applyAll elsewhere)) fun ownerId =>
    contactCount_congr (contacts_applyAll elsewhere) ownerId
  silent := silent

theorem leaves_pair {event : ContactEvent} {write : Write} (elsewhere : write.Elsewhere)
    (alone : published [.publish event, write] = [event])
    (silent : ∀ ownerId contactId source isMutual,
      event ≠ .contactAdded ownerId contactId source isMutual ∧
        event ≠ .contactRemoved ownerId contactId) : Leaves db [.publish event, write] := by
  refine leaves_away ?_ ?_
  · intro other member
    rcases List.mem_pair.mp member with rfl | rfl
    · trivial
    · exact elsewhere
  · intro other member
    rw [alone] at member
    rw [List.mem_singleton.mp member]
    exact silent

theorem commits_calm {sql : Sql Answer} {Effect : List Write → Prop}
    (ends : sql.Ends db log fun _ _ => True) : sql.Commits db log Effect := by
  intro world transaction wrap same logged
  refine Process.until_within (Process.Within.mono (ends world transaction same logged) ?_)
  rintro after (error | ⟨answer, left⟩) ⟨kept, _⟩
  · exact .inl ⟨kept, _, rfl⟩
  · exact .inl ⟨kept, _, rfl⟩

theorem calm_invalidateBlockList : (invalidateBlockList ownerId).Calm :=
  Sql.calm_redis ⟨fun _ => rfl, fun _ => trivial⟩

theorem commits_blockUser (command : BlockCommand) :
    (blockUser command).Commits db [] (Leaves db) := by
  unfold blockUser
  refine Sql.commits_lift fun _ _ => Sql.commits_lift fun _ _ => ?_
  refine Sql.commits_after (Sql.ends_query rfl rfl) fun existing => ?_
  split
  · exact Sql.commits_pure _
  · have announces : (Sql.publish [.userBlocked command.ownerId command.targetId]).Ends db []
        fun _ left => left = [.publish (.userBlocked command.ownerId command.targetId)] :=
      Sql.ends_publish rfl
    refine Sql.commits_bind announces ?_
    rintro _ left rfl
    refine Sql.commits_bind (?_ : Sql.Ends _ db
      [.publish (.userBlocked command.ownerId command.targetId)] fun _ left => ∃ row,
        left = [.publish (.userBlocked command.ownerId command.targetId), .insertBlocked row]) ?_
    · refine Sql.ends_execute rfl fun began _ writes ran => ?_
      split at ran
      · cases ran
      · cases ran
        exact ⟨_, rfl⟩
    rintro _ left ⟨row, rfl⟩
    exact Sql.commits_commit (leaves_pair trivial rfl (by simp)) calm_invalidateBlockList

theorem commits_unblockUser (command : BlockCommand) :
    (unblockUser command).Commits db [] (Leaves db) := by
  unfold unblockUser
  refine Sql.commits_lift fun _ _ => ?_
  refine Sql.commits_after (Sql.ends_query rfl rfl) fun blocked => ?_
  cases blocked with
  | none => exact Sql.commits_pure _
  | some blocked =>
      have announces : (Sql.publish [.userUnblocked command.ownerId command.targetId]).Ends db []
          fun _ left => left = [.publish (.userUnblocked command.ownerId command.targetId)] :=
        Sql.ends_publish rfl
      refine Sql.commits_bind announces ?_
      rintro _ left rfl
      have deletes : (Sql.update .flush fun _ => [.deleteBlocked blocked.key]).Ends db
          [.publish (.userUnblocked command.ownerId command.targetId)] fun _ left =>
            left = [.publish (.userUnblocked command.ownerId command.targetId),
              .deleteBlocked blocked.key] := Sql.ends_update rfl rfl
      refine Sql.commits_bind deletes ?_
      rintro _ left rfl
      exact Sql.commits_commit (leaves_pair trivial rfl (by simp)) calm_invalidateBlockList

end Others

section Imports

variable {ownerId userId : UserId}

theorem setDefault_keys {Key Value : Type} [DecidableEq Key] (entries : List (Key × Value))
    (key : Key) (value : Value) : (setDefault entries key value).map Prod.fst =
      if key ∈ entries.map Prod.fst then entries.map Prod.fst
      else entries.map Prod.fst ++ [key] := by
  have present : (entries.lookup key).isSome = true ↔ key ∈ entries.map Prod.fst := by
    rw [List.lookup_isSome_iff]
    simp [List.mem_map]
  unfold setDefault
  by_cases there : key ∈ entries.map Prod.fst
  · rw [if_pos (present.mpr there), if_pos there]
  · rw [if_neg (fun some => there (present.mp some)), if_neg there, List.map_append]
    rfl

structure Matches (ownerId : UserId) (matched : List (UserId × ImportContactEntry)) : Prop where
  distinct : (matched.map Prod.fst).Nodup
  other : ownerId ∉ matched.map Prod.fst

theorem matches_splitEntry {resolved : List (IdentifierHash × UserId)} {blocked : List UserId}
    {parts : List (UserId × ImportContactEntry) × List PendingUpsert}
    {item : IdentifierHash × ImportContactEntry} (held : Matches ownerId parts.1) :
    Matches ownerId (splitEntry ownerId resolved blocked parts item).1 := by
  unfold splitEntry
  split
  · exact held
  · split
    · exact held
    · rename_i userId _ passed
      have keys := setDefault_keys parts.1 userId item.2
      by_cases known : userId ∈ parts.1.map Prod.fst
      · rw [if_pos known] at keys
        exact ⟨keys ▸ held.distinct, keys ▸ held.other⟩
      · rw [if_neg known] at keys
        constructor
        · rw [keys]
          refine List.nodup_append.mpr ⟨held.distinct, List.nodup_singleton _, ?_⟩
          intro left inside right last same
          rw [same, List.mem_singleton.mp last] at inside
          exact known inside
        · rw [keys, List.mem_append, List.mem_singleton]
          rintro (inside | same)
          · exact held.other inside
          · exact passed (.inl same.symm)

theorem matches_splitByRegistration (byHash : List (IdentifierHash × ImportContactEntry))
    (resolved : List (IdentifierHash × UserId)) (blocked : List UserId) :
    Matches ownerId (splitByRegistration ownerId byHash resolved blocked).1 := by
  unfold splitByRegistration
  have held : Matches ownerId (([], []) : List (UserId × ImportContactEntry) × List PendingUpsert).1 :=
    ⟨List.nodup_nil, List.not_mem_nil⟩
  generalize (([], []) : List (UserId × ImportContactEntry) × List PendingUpsert) = parts at held ⊢
  induction byHash generalizing parts with
  | nil => exact held
  | cons item rest ih => exact ih _ (matches_splitEntry held)

theorem ends_upsertPendingMany (entries : List PendingUpsert) :
    (upsertPendingMany services ownerId entries).Ends db log fun _ left =>
      ∃ rows : List PendingContact, left = log ++ rows.map .upsertPending := by
  unfold upsertPendingMany
  split
  · exact Sql.ends_pure ⟨[], (List.append_nil log).symm⟩
  · refine Sql.ends_after (Sql.ends_now fun _ => rfl) fun now => ?_
    refine Sql.ends_bind_lift fun rows _ => Sql.ends_update rfl ⟨rows, rfl⟩

theorem ends_checkLimit (incoming : Nat) :
    (checkLimit ownerId incoming).Ends db log fun _ left => left = log ∧
      (incoming = 0 ∨ (applyAll log db).contactCount ownerId + incoming ≤ maxContactsPerUser) := by
  unfold checkLimit
  split
  · rename_i none
    exact Sql.ends_pure ⟨rfl, .inl none⟩
  · have counted : (Sql.query .select fun seen => seen.contactCount ownerId).Ends db log
        fun count left => left = log ∧ count = (applyAll log db).contactCount ownerId :=
      Sql.ends_query rfl ⟨rfl, rfl⟩
    refine Sql.ends_bind counted ?_
    rintro count left ⟨rfl, rfl⟩
    exact Sql.ends_lift fun _ passed => ⟨rfl, .inr (of_decide_eq_true (require_ok passed))⟩

structure Imports (ownerId : UserId) (matched : List UserId) (db : Db) (log : List Write) :
    Prop where
  distinct : matched.Nodup
  other : ownerId ∉ matched
  grows : Grows (matched.map fun userId => (ownerId, userId)) db (applyAll log db)
  announces : Announces (matched.map fun userId => (ownerId, userId)) db (published log)
  room : matched = [] ∨ db.contactCount ownerId + matched.length ≤ maxContactsPerUser

theorem announces_imported {matched reverse : List UserId} :
    Announces (matched.map fun userId => (ownerId, userId)) db
      (importedEvents ownerId reverse ((matched.map fun userId => (ownerId, userId)).filter
        fun key => (db.contacts.find? key).isNone)) := by
  have member (contactId : UserId) :
      contactId ∈ ((((matched.map fun userId => (ownerId, userId)).filter
        fun key => (db.contacts.find? key).isNone).map Prod.snd).insertionSort (· ≤ ·)) ↔
      contactId ∈ matched ∧ db.contact? ownerId contactId = none := by
    rw [(List.perm_insertionSort _ _).mem_iff]
    simp [Db.contact?, and_assoc]
  constructor
  · intro event inside
    obtain ⟨contactId, listed, rfl⟩ := List.mem_map.mp inside
    obtain ⟨chosen, absent⟩ := (member contactId).mp listed
    exact ⟨ownerId, contactId, _, _, rfl, List.mem_map_of_mem chosen, absent⟩
  · intro owner contactId chosen absent
    obtain ⟨_, inside, same⟩ := List.mem_map.mp chosen
    obtain ⟨rfl, rfl⟩ := Prod.mk.inj same
    exact ⟨_, _, List.mem_map_of_mem ((member _).mpr ⟨inside, absent⟩)⟩

theorem commits_importContacts (command : ImportContactsCommand) :
    (importContacts services command).Commits db [] fun log =>
      ∃ matched, Imports command.ownerId matched db log := by
  unfold importContacts
  refine Sql.commits_lift fun _ _ => Sql.commits_lift fun _ _ => Sql.commits_lift fun hashed _ => ?_
  obtain ⟨byHash, invalid⟩ := hashed
  refine Sql.commits_after (ends_consumeQuota _ _) fun granted => ?_
  refine Sql.commits_lift fun _ _ => ?_
  refine Sql.commits_after (Sql.ends_mono (ends_resolve _) fun _ _ both => both.1) fun resolved => ?_
  refine Sql.commits_after (ends_getBlockList _) fun blocked => ?_
  have sound := @matches_splitByRegistration command.ownerId byHash resolved blocked
  revert sound
  generalize splitByRegistration command.ownerId byHash resolved blocked = parts
  obtain ⟨matched, pending⟩ := parts
  intro sound
  refine Sql.commits_bind (ends_checkLimit matched.length) ?_
  rintro _ left ⟨rfl, room⟩
  refine Sql.commits_bind (ends_upsertMany _) ?_
  rintro inserted left ⟨rows, upserted, rfl⟩
  refine Sql.commits_bind (ends_upsertPendingMany pending) ?_
  rintro _ left ⟨waiting, rfl⟩
  refine Sql.commits_bind (ends_findReverseOwners command.ownerId (matched.map Prod.fst)) ?_
  rintro reverse left ⟨rfl, owners⟩
  refine Sql.commits_bind (ends_setMutual command.ownerId _ true) ?_
  rintro _ left ⟨marks, marked, rfl⟩
  simp only [applyAll_nil, List.nil_append] at owners marked upserted room ⊢
  have announces : (Sql.publish (importedEvents command.ownerId reverse inserted)).Ends db
      (rows.map (upsertWrite db) ++ waiting.map .upsertPending ++ marks) fun _ left =>
        left = rows.map (upsertWrite db) ++ waiting.map .upsertPending ++ marks ++
          (importedEvents command.ownerId reverse inserted).map .publish := Sql.ends_publish rfl
  refine Sql.commits_bind announces ?_
  rintro _ left rfl
  have elsewhere : ∀ write ∈ waiting.map Write.upsertPending, write.Elsewhere := by
    intro write member
    obtain ⟨row, _, rfl⟩ := List.mem_map.mp member
    trivial
  have keys : rows.map UserContact.key =
      (matched.map Prod.fst).map fun userId => (command.ownerId, userId) := by
    rw [upserted.keys, List.map_map, List.map_map]
    rfl
  have distinct : ((matched.map Prod.fst).map fun userId => (command.ownerId, userId)).Nodup :=
    sound.distinct.map fun _ _ same => (Prod.mk.inj same).2
  have book : (applyAll (rows.map (upsertWrite db) ++ waiting.map .upsertPending) db).book =
      enter ((matched.map Prod.fst).map fun userId => (command.ownerId, userId)) db.book := by
    rw [applyAll_append, book_congr (contacts_applyAll elsewhere), ← keys]
    exact book_upserts rows upserted.unflagged fun _ _ present => present
  have met : ∀ userId, userId ∈ reverse ↔ userId ∈ matched.map Prod.fst ∧
      (enter ((matched.map Prod.fst).map fun userId => (command.ownerId, userId)) db.book userId
        command.ownerId).isSome := by
    intro userId
    rw [owners userId, ← isSome_book, book]
  have marksAll : (reverse.insertionSort (· ≤ ·)).flatMap (bothDirections command.ownerId) =
      bothOf ((reverse.insertionSort (· ≤ ·)).map fun userId => (command.ownerId, userId)) := by
    rw [bothOf, List.flatMap_map]
  rw [marksAll] at marked
  refine Sql.commits_commit ⟨matched.map Prod.fst, sound.distinct, sound.other, ?_, ?_, ?_⟩ ?_
  · refine Grows.away (grows_upserts keys distinct upserted.unflagged elsewhere marked ?_ ?_)
      (elsewhere_publish _)
    · intro owner contact chosen
      obtain ⟨userId, inside, same⟩ := List.mem_map.mp chosen
      obtain ⟨rfl, rfl⟩ := Prod.mk.inj same
      constructor
      · intro present
        refine List.mem_map_of_mem ?_
        rw [(List.perm_insertionSort _ _).mem_iff]
        exact (met _).mpr ⟨inside, present⟩
      · intro member
        obtain ⟨_, sorted, same⟩ := List.mem_map.mp member
        obtain ⟨_, rfl⟩ := Prod.mk.inj same
        rw [(List.perm_insertionSort _ _).mem_iff] at sorted
        exact ((met _).mp sorted).2
    · intro pair member
      obtain ⟨userId, sorted, rfl⟩ := List.mem_map.mp member
      rw [(List.perm_insertionSort _ _).mem_iff] at sorted
      exact List.mem_map_of_mem ((met _).mp sorted).1
  · have quiet : published (waiting.map Write.upsertPending) = [] := by
      refine published_none fun write member => ?_
      obtain ⟨row, _, rfl⟩ := List.mem_map.mp member
      rfl
    rw [published_append, published_append, published_append, published_upserts, quiet,
      published_updates marked.isUpdate, published_publish, upserted.inserted, ← upserted.keys, keys]
    exact announces_imported
  · rcases room with none | fits
    · left
      rw [List.map_eq_nil_iff]
      exact List.length_eq_zero_iff.mp none
    · right
      rw [List.length_map]
      exact fits
  · refine Sql.calm_bind ?_ fun _ => Sql.calm_pure _
    unfold getMany
    split
    · exact Sql.calm_pure _
    · exact Sql.calm_query _ _

end Imports

end Messanger.Contacts
