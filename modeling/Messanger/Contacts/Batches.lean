import Messanger.Contacts.Effects

/-!
The owners who wait for a user to register: what each transaction of the loop commits that turns
them into contacts of the user.
-/

namespace Messanger.Contacts

open Relational Processes Reciprocal

variable {Answer Result Final : Type} {services : Services}

section Batches

variable {db : Db} {log : List Write} {userId eventsLeft : Nat} {identifierHash : IdentifierHash}
  {batch : List PendingContact}

def waitingPairs (userId : UserId) (batch : List PendingContact) : List (UserId × UserId) :=
  ((batch.filter fun pending => decide (pending.ownerId ≠ userId)).map PendingContact.ownerId).map
    fun ownerId => (ownerId, userId)

structure Resolves (batch : List PendingContact) (userId eventsLeft : Nat) (db : Db)
    (log : List Write) : Prop where
  grows : Grows (waitingPairs userId batch) db (applyAll log db)
  events : ∃ mutualOwners, published log = resolvedEvents eventsLeft mutualOwners
    ((waitingPairs userId batch).filter fun key => (db.contacts.find? key).isNone)

theorem mem_waitingPairs {ownerId contactId : UserId} :
    (ownerId, contactId) ∈ waitingPairs userId batch ↔
      contactId = userId ∧ ownerId ≠ userId ∧ ownerId ∈ batch.map PendingContact.ownerId := by
  simp only [waitingPairs, List.map_map, List.mem_map, List.mem_filter, decide_eq_true_eq,
    Function.comp_apply, Prod.mk.injEq]
  constructor
  · rintro ⟨pending, ⟨member, other⟩, rfl, rfl⟩
    exact ⟨rfl, other, pending, member, rfl⟩
  · rintro ⟨rfl, other, pending, member, rfl⟩
    exact ⟨pending, ⟨member, other⟩, rfl, rfl⟩

theorem nodup_waitingPairs (distinct : (batch.map PendingContact.ownerId).Nodup) :
    (waitingPairs userId batch).Nodup := by
  have owners : ((batch.filter fun pending => decide (pending.ownerId ≠ userId)).map
      PendingContact.ownerId).Nodup := distinct.sublist (List.filter_sublist.map _)
  exact owners.map fun _ _ same => (Prod.mk.inj same).1

theorem nodup_pendingBatch (db : Db) (limit : Nat) (afterOwnerId : Option UserId) :
    ((db.pendingBatch identifierHash limit afterOwnerId).map PendingContact.ownerId).Nodup := by
  unfold Db.pendingBatch
  have chosen : ((db.pending.select fun row => row.identifierHash == identifierHash &&
      afterOwnerId.all fun bound => decide (bound < row.ownerId)).map
        PendingContact.ownerId).Nodup := by
    refine List.Nodup.map_on ?_
      ((List.Nodup.of_map _ db.pending.unique).sublist List.filter_sublist)
    intro left leftMember right rightMember same
    obtain ⟨inLeft, leftHash⟩ := List.mem_filter.mp leftMember
    obtain ⟨inRight, rightHash⟩ := List.mem_filter.mp rightMember
    rw [Bool.and_eq_true, beq_iff_eq] at leftHash rightHash
    exact db.pending.row_unique inLeft inRight
      (Prod.ext same (leftHash.1.trans rightHash.1.symm))
  rw [List.map_take]
  refine List.Nodup.sublist (List.take_sublist _ _) ?_
  exact (((List.perm_insertionSort _ _).map _).nodup_iff).mpr chosen

theorem ends_deletePending (ownerIds : List UserId) :
    (deletePending identifierHash ownerIds).Ends db log fun _ left =>
      ∃ keys : List (UserId × IdentifierHash), left = log ++ keys.map .deletePending := by
  unfold deletePending
  split
  · exact Sql.ends_pure ⟨[], (List.append_nil log).symm⟩
  · refine Sql.ends_update rfl
      ⟨((applyAll log db).pending.select fun row =>
        row.identifierHash == identifierHash && ownerIds.contains row.ownerId).map
          PendingContact.key, ?_⟩
    rw [List.map_map]
    rfl

theorem grows_batch {rows : List UserContact} {marks : List Write} {inserted : List (UserId × UserId)}
    {mutualOwners : List UserId} (distinct : (batch.map PendingContact.ownerId).Nodup)
    (upserted : Upserted ((batch.filter fun pending => decide (pending.ownerId ≠ userId)).map
      (PendingContact.upsert userId)) db inserted rows)
    (owners : ∀ ownerId, ownerId ∈ mutualOwners ↔
      ownerId ∈ (batch.filter fun pending => decide (pending.ownerId ≠ userId)).map
        PendingContact.ownerId ∧
      ((applyAll (rows.map (upsertWrite db)) db).contact? userId ownerId).isSome)
    (marked : Marked (bothOf ((mutualOwners.insertionSort (· ≤ ·)).map
      fun ownerId => (ownerId, userId))) true (applyAll (rows.map (upsertWrite db)) db) marks) :
    Grows (waitingPairs userId batch) db (applyAll (rows.map (upsertWrite db) ++ marks) db) := by
  have keys : rows.map UserContact.key = waitingPairs userId batch := by
    rw [upserted.keys, waitingPairs, List.map_map, List.map_map]
    rfl
  have book : (applyAll (rows.map (upsertWrite db)) db).book =
      enter (waitingPairs userId batch) db.book := by
    rw [← keys]
    exact book_upserts rows upserted.unflagged fun _ _ present => present
  have sorted (pair : UserId × UserId) : pair ∈ (mutualOwners.insertionSort (· ≤ ·)).map
      (fun ownerId => (ownerId, userId)) ↔ pair.2 = userId ∧ pair.1 ∈ mutualOwners := by
    obtain ⟨ownerId, contactId⟩ := pair
    simp only [List.mem_map, (List.perm_insertionSort _ _).mem_iff, Prod.mk.injEq]
    constructor
    · rintro ⟨_, member, rfl, rfl⟩
      exact ⟨rfl, member⟩
    · rintro ⟨rfl, member⟩
      exact ⟨ownerId, member, rfl, rfl⟩
  have nowhere : ∀ write ∈ ([] : List Write), write.Elsewhere := fun _ member => nomatch member
  have listed := grows_upserts keys (nodup_waitingPairs distinct) upserted.unflagged nowhere
    (by rwa [List.append_nil])
  rw [List.append_nil] at listed
  refine listed ?_ ?_
  · intro ownerId contactId chosen
    rw [sorted, owners, ← isSome_book, book]
    obtain ⟨rfl, other, member⟩ := mem_waitingPairs.mp chosen
    have waits : ownerId ∈ (batch.filter fun pending =>
        decide (pending.ownerId ≠ contactId)).map PendingContact.ownerId := by
      obtain ⟨pending, inside, rfl⟩ := List.mem_map.mp member
      exact List.mem_map_of_mem (List.mem_filter.mpr ⟨inside, decide_eq_true other⟩)
    exact ⟨fun present => ⟨rfl, waits, present⟩, fun both => both.2.2⟩
  · rintro ⟨ownerId, contactId⟩ member
    obtain ⟨rfl, met⟩ := (sorted _).mp member
    obtain ⟨pending, inside, rfl⟩ := List.mem_map.mp ((owners _).mp met).1
    obtain ⟨inBatch, other⟩ := List.mem_filter.mp inside
    exact mem_waitingPairs.mpr ⟨rfl, of_decide_eq_true other, List.mem_map_of_mem inBatch⟩

theorem until_applyBatch {wrap : Nat × Transaction → Handler Final} {world : World}
    {transaction : Transaction} {Post : World → Handler Final → Prop}
    (distinct : (batch.map PendingContact.ownerId).Nodup)
    (same : world.db = db) (logged : transaction.log = [])
    (failed : ∀ after error, after.db = db → Post after (.done (.error error)))
    (passed : ∀ after log, Resolves batch userId eventsLeft db log → after.db = applyAll log db →
      Post after (wrap ((published log).length, {}))) :
    ((applyBatch services identifierHash batch userId eventsLeft) transaction >>= wrap).Until
      Op.isCommit Post world := by
  unfold applyBatch
  refine Sql.until_bind (ends_upsertMany _) same logged failed ?_
  rintro first inserted ⟨left, began⟩ kept ⟨rows, upserted, rfl⟩
  refine Sql.until_bind (ends_findForwardContacts _ _) kept rfl failed ?_
  rintro second mutualOwners ⟨left, began⟩ kept ⟨rfl, owners⟩
  refine Sql.until_bind (ends_setMutualPairs _) kept rfl failed ?_
  rintro third _ ⟨left, began⟩ kept ⟨marks, marked, rfl⟩
  refine Sql.until_bind (ends_deletePending _) kept rfl failed ?_
  rintro fourth _ ⟨left, began⟩ kept ⟨keys, rfl⟩
  have announces (left : List Write) (events : List ContactEvent) :
      (Sql.publish events).Ends db left fun _ after => after = left ++ events.map .publish :=
    Sql.ends_publish rfl
  refine Sql.until_bind (announces _ _) kept rfl failed ?_
  rintro fifth _ ⟨left, began⟩ kept rfl
  simp only [List.nil_append, applyAll_nil] at *
  have grows := grows_batch distinct upserted owners marked
  have elsewhere : ∀ write ∈ keys.map Write.deletePending, write.Elsewhere := by
    intro write member
    obtain ⟨key, _, rfl⟩ := List.mem_map.mp member
    trivial
  have quiet : published (keys.map Write.deletePending) = [] := by
    refine published_none fun write member => ?_
    obtain ⟨key, _, rfl⟩ := List.mem_map.mp member
    rfl
  have events : published (rows.map (upsertWrite db) ++ marks ++ keys.map Write.deletePending ++
      (resolvedEvents eventsLeft mutualOwners inserted).map Write.publish) =
        resolvedEvents eventsLeft mutualOwners inserted := by
    rw [published_append, published_append, published_append, published_upserts, quiet,
      published_updates marked.isUpdate, published_publish]
    rfl
  have resolves : Resolves batch userId eventsLeft db (rows.map (upsertWrite db) ++ marks ++
      keys.map Write.deletePending ++
        (resolvedEvents eventsLeft mutualOwners inserted).map Write.publish) := by
    refine ⟨(grows.away elsewhere).away (elsewhere_publish _), mutualOwners, ?_⟩
    rw [events, upserted.inserted, waitingPairs, List.map_map, List.map_map]
    rfl
  have ended := passed (fifth.commit _) _ resolves (congrArg (applyAll _) kept)
  rw [events] at ended
  exact (Process.until_iff _).mpr ended

end Batches

/-- How far the loop of a command has come: the events it may still publish, and the owner it has
come to. -/
structure Progress where
  eventsLeft : Nat := pendingResolveMaxEvents
  afterOwnerId : Option UserId := none
  deriving DecidableEq, Repr

namespace Progress

variable (identifierHash : IdentifierHash) (userId : UserId) (progress : Progress) (db : Db)

def batch : List PendingContact :=
  db.pendingBatch identifierHash pendingResolveBatchSize progress.afterOwnerId

def newPairs : List (UserId × UserId) :=
  (waitingPairs userId (progress.batch identifierHash db)).filter fun key =>
    (db.contacts.find? key).isNone

def next : Progress :=
  { eventsLeft := progress.eventsLeft - (progress.newPairs identifierHash userId db).length
    afterOwnerId := (progress.batch identifierHash db).getLast?.map PendingContact.ownerId }

def after (states : List Db) : Progress :=
  states.foldl (fun progress db => progress.next identifierHash userId db) {}

end Progress

theorem length_resolvedEvents (eventsLimit : Nat) (mutualOwners : List UserId)
    (insertedPairs : List (UserId × UserId)) :
    (resolvedEvents eventsLimit mutualOwners insertedPairs).length =
      min eventsLimit insertedPairs.length := by
  rw [resolvedEvents, List.length_map, List.length_take, List.length_insertionSort]

section Turns

/-- The tasks of the address books by their transactions. -/
def byTransaction (services : Services) (command : Command) : Handler ContactAnswer :=
  (command.handle services).coarse Op.isCommit

abbrev Books := Scene World Op Command ContactError ContactAnswer

abbrev BookTerms := Terms World Op Command ContactError ContactAnswer

def Books.statesOf (scene : Books) (index : Nat) : List Db :=
  ((scene.own index).tail).map fun entry => entry.before.db

theorem Books.statesOf_after {scene : Books} {index : Nat} {tag : Command} {label : Op}
    {effect : World → World} {outcome : Option (Except ContactError ContactAnswer)}
    (started : scene.own index ≠ []) :
    Books.statesOf (scene.after index tag label effect outcome) index =
      Books.statesOf scene index ++ [scene.world.db] := by
  rw [Books.statesOf, Scene.own_after, List.tail_append_of_ne_nil started, List.map_append]
  rfl

/-- What has to hold of each batch of a command when its transaction is taken. -/
def batchTerms (services : Services) (Admits : UserId → IdentifierHash → Progress → Db → Prop) :
    BookTerms where
  Acts scene index tag _ _ := ∀ rounds command identifierHash,
    tag = .registerUserIdentifier rounds command →
      services.hash command.email = .ok (some identifierHash) → scene.own index ≠ [] →
        Admits command.userId identifierHash
          (Progress.after identifierHash command.userId (Books.statesOf scene index)) scene.world.db

def batchActs (services : Services) (admits : UserId → IdentifierHash → Progress → Db → Bool)
    (scene : Books) (index : Nat) (tag : Command) (_ : Op) (_ : World → World) : Bool :=
  match tag with
  | .registerUserIdentifier _ command =>
      match services.hash command.email with
      | .ok (some identifierHash) => (scene.own index).isEmpty ||
          admits command.userId identifierHash (Progress.after identifierHash command.userId
            (Books.statesOf scene index)) scene.world.db
      | _ => true
  | _ => true

theorem batchActs_sound {services : Services}
    {Admits : UserId → IdentifierHash → Progress → Db → Prop}
    {admits : UserId → IdentifierHash → Progress → Db → Bool}
    (sound : ∀ userId identifierHash progress db, admits userId identifierHash progress db = true →
      Admits userId identifierHash progress db)
    {scene : Books} {index : Nat} {tag : Command} {label : Op} {effect : World → World}
    (passed : batchActs services admits scene index tag label effect = true) :
    (batchTerms services Admits).Acts scene index tag label effect := by
  rintro rounds command identifierHash rfl hashed started
  simp only [batchActs, hashed, Bool.or_eq_true] at passed
  rcases passed with none | admitted
  · exact absurd (List.isEmpty_iff.mp none) started
  · exact sound _ _ _ _ admitted

variable {terms : BookTerms} {Good : Db → Prop} {scene : Books} {index : Nat} {tag : Command}

theorem keeps_calm {process : Handler ContactAnswer}
    (calm : process.Every fun _ effect => ∀ world, (effect world).db = world.db)
    (found : scene.opened[index]?.map Opened.tag = some tag) :
    Keeps terms (fun scene => Good scene.world.db) index tag (process.coarse Op.isCommit) scene := by
  have idle : ∀ world : World, (id world).db = world.db := fun _ => rfl
  have comp : ∀ (first : World → World) (second : World → World → World),
      (∀ world, (first world).db = world.db) → (∀ world later, (second world later).db = later.db) →
        ∀ world, (second world (first world)).db = world.db :=
    fun first second early late world => (late world _).trans (early world)
  refine keeps_every ?_ (Process.every_coarse idle comp calm) found
  intro now label effect outcome _ _ _ good _ kept
  exact (kept now.world).symm ▸ good

theorem handler_map {wrap : Answer → Result} (sql : Sql Answer) :
    (wrap <$> sql).handler = sql {} >>= fun result => pure (wrap result.1) := by
  change ((sql {} >>= fun result => pure (wrap result.1, result.2)) >>= fun result =>
    pure result.1) = _
  rw [Process.bind_assoc]
  rfl

theorem keeps_commits {sql : Sql Answer} {wrap : Answer → ContactAnswer}
    {Effect : Db → List Write → Prop} (commits : ∀ db, sql.Commits db [] (Effect db))
    (kept : ∀ db log, Good db → Effect db log → Good (applyAll log db))
    (found : scene.opened[index]?.map Opened.tag = some tag) :
    Keeps terms (fun scene => Good scene.world.db) index tag
      ((wrap <$> sql).handler.coarse Op.isCommit) scene := by
  rw [handler_map]
  refine keeps_coarse fun now label meanwhile tagged running good acts => ?_
  refine Process.Until.mono (commits now.world.db now.world {} wrap rfl rfl) ?_
  rintro after rest (⟨same, outcome, rfl⟩ | ⟨log, effect, same, calm⟩)
  · exact ⟨(congrArg Good same).mpr good, trivial⟩
  · refine ⟨(congrArg Good same).mpr (kept _ _ good effect), keeps_calm calm ?_⟩
    obtain ⟨task, opened, same⟩ := Option.map_eq_some_iff.mp found
    exact Option.map_eq_some_iff.mpr ⟨task, meanwhile.opened opened, same⟩

variable {Admits : UserId → IdentifierHash → Progress → Db → Prop} {allRounds : Nat}
  {command : RegisterUserIdentifierCommand} {identifierHash : IdentifierHash}

theorem keeps_resolvePending (registers : tag = .registerUserIdentifier allRounds command)
    (hashed : services.hash command.email = .ok (some identifierHash))
    (kept : ∀ db log progress, Good db → Admits command.userId identifierHash progress db →
      Resolves (progress.batch identifierHash db) command.userId progress.eventsLeft db log →
        Good (applyAll log db))
    (rounds resolved : Nat) {progress : Progress} {wrap : Nat × Transaction → Handler ContactAnswer}
    (ends : ∀ result, ∃ outcome, wrap result = .done outcome) (started : scene.own index ≠ [])
    (came : Progress.after identifierHash command.userId (Books.statesOf scene index) = progress) :
    Keeps (batchTerms services Admits) (fun scene => Good scene.world.db) index tag
      ((resolvePending services identifierHash command.userId rounds resolved progress.eventsLeft
        progress.afterOwnerId {} >>= wrap).coarse Op.isCommit) scene := by
  induction rounds generalizing resolved progress scene with
  | zero => trivial
  | succ rounds ih =>
      refine keeps_coarse fun now label meanwhile tagged running good acts => ?_
      have admitted := acts allRounds command identifierHash registers hashed
        (by rw [meanwhile.own_eq]; exact started)
      rw [Books.statesOf, meanwhile.own_eq] at admitted
      rw [Books.statesOf] at came
      rw [came] at admitted
      unfold resolvePending fetchPendingBatch
      have fetches : (Sql.query (.fetchPending identifierHash) fun seen =>
          seen.pendingBatch identifierHash pendingResolveBatchSize progress.afterOwnerId).Ends
            now.world.db [] fun batch left =>
              left = [] ∧ batch = progress.batch identifierHash now.world.db :=
        Sql.ends_query rfl ⟨rfl, rfl⟩
      refine Sql.until_bind fetches rfl rfl ?_ ?_
      · intro after error same
        exact ⟨(congrArg Good same).mpr good, trivial⟩
      rintro after batch ⟨left, began⟩ same ⟨rfl, rfl⟩
      have idle : ∀ outcome, Good (now.after index tag label (fun _ => after) outcome).world.db :=
        fun outcome => (congrArg Good same).mpr good
      cases found : (progress.batch identifierHash now.world.db).getLast? with
      | none =>
          obtain ⟨outcome, ended⟩ := ends (resolved, ⟨[], began⟩)
          change (wrap (resolved, ⟨[], began⟩)).Until _ _ _
          rw [ended]
          exact ⟨idle _, trivial⟩
      | some last =>
          have distinct : ((progress.batch identifierHash now.world.db).map
              PendingContact.ownerId).Nodup := nodup_pendingBatch _ _ _
          change (((applyBatch services identifierHash (progress.batch identifierHash now.world.db)
            command.userId progress.eventsLeft) ⟨[], began⟩ >>= fun result =>
              resolvePending services identifierHash command.userId rounds
                (resolved + (progress.batch identifierHash now.world.db).length)
                (progress.eventsLeft - result.1) (some last.ownerId) result.2) >>= wrap).Until _ _ _
          rw [Process.bind_assoc]
          refine until_applyBatch distinct same rfl ?_ ?_
          · intro failed error unchanged
            exact ⟨(congrArg Good unchanged).mpr good, trivial⟩
          intro later log resolves committed
          refine ⟨(congrArg Good committed).mpr (kept _ _ _ good admitted resolves), ?_⟩
          have next : progress.next identifierHash command.userId now.world.db =
              ⟨progress.eventsLeft - (published log).length, some last.ownerId⟩ := by
            obtain ⟨mutualOwners, events⟩ := resolves.events
            have count : (published log).length = min progress.eventsLeft
                (progress.newPairs identifierHash command.userId now.world.db).length := by
              rw [events, length_resolvedEvents]
              rfl
            rw [Progress.next, found, Option.map_some, count]
            congr 1
            omega
          have begun : now.own index ≠ [] := by
            rw [meanwhile.own_eq]
            exact started
          have further (outcome : Option (Except ContactError ContactAnswer)) :=
            @ih (now.after index tag label (fun _ => later) outcome)
              (resolved + (progress.batch identifierHash now.world.db).length)
              ⟨progress.eventsLeft - (published log).length, some last.ownerId⟩
          refine further _ ?_ ?_
          · rw [Scene.own_after]
            exact List.append_ne_nil_of_left_ne_nil begun _
          · have states : Books.statesOf now index = Books.statesOf scene index := by
              rw [Books.statesOf, Books.statesOf, meanwhile.own_eq]
            rw [Books.statesOf_after begun, states, Progress.after, List.foldl_concat]
            exact (congrArg (fun progress => Progress.next identifierHash command.userId progress
              now.world.db) came).trans next

theorem keeps_register (registers : tag = .registerUserIdentifier allRounds command)
    (entered : ∀ db row, Good db → Good (applyAll [.upsertIdentifier row] db))
    (kept : ∀ identifierHash db log progress, services.hash command.email = .ok (some identifierHash) →
      Good db → Admits command.userId identifierHash progress db →
        Resolves (progress.batch identifierHash db) command.userId progress.eventsLeft db log →
          Good (applyAll log db))
    (fresh : scene.own index = []) :
    Keeps (batchTerms services Admits) (fun scene => Good scene.world.db) index tag
      ((ContactAnswer.resolved <$> registerUserIdentifier services allRounds command).handler.coarse
        Op.isCommit) scene := by
  rw [handler_map, registerUserIdentifier]
  cases hashed : services.hash command.email with
  | error error => trivial
  | ok hash =>
      cases hash with
      | none => trivial
      | some identifierHash =>
          refine keeps_coarse fun now label meanwhile tagged running good acts => ?_
          have hashes : (liftM (.ok (some identifierHash) :
              Except ContactError (Option IdentifierHash)) :
                Sql (Option IdentifierHash)).Ends now.world.db [] fun hash left =>
                  hash = some identifierHash ∧ left = [] := by
            refine Sql.ends_lift fun hash same => ?_
            cases same
            exact ⟨rfl, rfl⟩
          have failed (after : World) (error : ContactError) (same : after.db = now.world.db) :
              Good after.db ∧ True := ⟨(congrArg Good same).mpr good, trivial⟩
          refine Sql.until_bind hashes rfl rfl failed ?_
          rintro first hash ⟨left, began⟩ same ⟨rfl, rfl⟩
          have looks : Sql.now.Ends now.world.db [] fun _ left => left = [] :=
            Sql.ends_now fun _ => rfl
          refine Sql.until_bind looks same rfl failed ?_
          rintro second time ⟨left, began⟩ same rfl
          have enters : (Sql.update .flush fun _ =>
              [.upsertIdentifier ⟨identifierHash, .email, command.userId, time⟩]).Ends now.world.db []
                fun _ left => left =
                  [.upsertIdentifier ⟨identifierHash, .email, command.userId, time⟩] :=
            Sql.ends_update rfl rfl
          refine Sql.until_bind enters same rfl failed ?_
          rintro third _ ⟨left, began⟩ same rfl
          have begun : now.own index = [] := meanwhile.own_eq.trans fresh
          refine (Process.until_iff _).mpr ⟨?_, ?_⟩
          · have after : Good (applyAll [.upsertIdentifier
                ⟨identifierHash, .email, command.userId, time⟩] third.db) := by
              rw [same]
              exact entered _ _ good
            exact after
          · have loops (outcome : Option (Except ContactError ContactAnswer)) :
                Keeps (batchTerms services Admits) (fun scene => Good scene.world.db) index tag
                  ((resolvePending services identifierHash command.userId allRounds 0
                    pendingResolveMaxEvents none {} >>= fun result =>
                      pure (ContactAnswer.resolved result.1)).coarse Op.isCommit)
                  (now.after index tag label (fun _ => third.commit
                    [.upsertIdentifier ⟨identifierHash, .email, command.userId, time⟩]) outcome) := by
              have ends (result : Nat × Transaction) : ∃ outcome : Except ContactError ContactAnswer,
                  (pure (ContactAnswer.resolved result.1) : Handler ContactAnswer) =
                    .done outcome := ⟨_, rfl⟩
              refine @keeps_resolvePending services Good _ index tag Admits allRounds command
                identifierHash registers hashed
                (fun db log progress => kept _ db log progress hashed) allRounds 0 {} _ ends ?_ ?_
              · rw [Scene.own_after]
                exact List.append_ne_nil_of_right_ne_nil _ (List.cons_ne_nil _ _)
              · rw [Books.statesOf, Scene.own_after, begun]
                rfl
            exact loops _

structure Upheld (services : Services) (Good : Db → Prop)
    (Admits : UserId → IdentifierHash → Progress → Db → Prop) : Prop where
  adds : ∀ db log ownerId contactId, Good db → Adds ownerId contactId db log →
    Good (applyAll log db)
  removes : ∀ db log ownerId contactId, Good db → Removes ownerId contactId db log →
    Good (applyAll log db)
  imports : ∀ db log ownerId matched, Good db → Imports ownerId matched db log →
    Good (applyAll log db)
  leaves : ∀ db log, Good db → Leaves db log → Good (applyAll log db)
  resolves : ∀ db log userId identifierHash progress, Good db →
    Admits userId identifierHash progress db →
      Resolves (progress.batch identifierHash db) userId progress.eventsLeft db log →
        Good (applyAll log db)

theorem leaves_upsertIdentifier (db : Db) (row : UserIdentifier) :
    Leaves db [.upsertIdentifier row] := by
  refine leaves_away ?_ fun event member => nomatch member
  intro write member
  rw [List.mem_singleton.mp member]
  trivial

theorem commits_getBlockList (db : Db) (ownerId : UserId) :
    (getBlockList ownerId).Commits db [] (Leaves db) :=
  commits_calm (Sql.ends_mono (ends_getBlockList ownerId) fun _ _ _ => trivial)

theorem commits_elapse (db : Db) (time : Nat) :
    (liftM (Process.perform .clock fun world => { world with clock := world.clock + time } :
      Handler Unit) : Sql Unit).Commits db [] (Leaves db) :=
  commits_calm (Sql.ends_redis (fun _ => ⟨rfl, rfl⟩) fun _ => trivial)

theorem Upheld.keeps (upheld : Upheld services Good Admits)
    (found : scene.opened[index]?.map Opened.tag = some tag) (fresh : scene.own index = []) :
    Keeps (batchTerms services Admits) (fun scene => Good scene.world.db) index tag
      (byTransaction services tag) scene := by
  cases tag with
  | addContact command =>
      exact keeps_commits (fun db => commits_addContact command)
        (fun db log good ⟨contactId, adds⟩ => upheld.adds db log _ contactId good adds) found
  | removeContact command =>
      exact keeps_commits
        (fun db => commits_removeContact command)
        (fun db log good removes => upheld.removes db log _ _ good removes) found
  | updateContact command =>
      exact keeps_commits (fun db => commits_updateContact command)
        (fun db log good leaves => upheld.leaves db log good leaves) found
  | importContacts command =>
      exact keeps_commits
        (fun db => commits_importContacts command)
        (fun db log good ⟨matched, imports⟩ => upheld.imports db log _ matched good imports) found
  | registerUserIdentifier rounds command =>
      exact keeps_register rfl
        (fun db row good => upheld.leaves db _ good (leaves_upsertIdentifier db row))
        (fun hash db log progress _ good admits resolves =>
          upheld.resolves db log _ hash progress good admits resolves) fresh
  | blockUser command =>
      exact keeps_commits (fun db => commits_blockUser command)
        (fun db log good leaves => upheld.leaves db log good leaves) found
  | unblockUser command =>
      exact keeps_commits
        (fun db => commits_unblockUser command)
        (fun db log good leaves => upheld.leaves db log good leaves) found
  | getBlockList ownerId =>
      exact keeps_commits
        (fun db => commits_getBlockList db ownerId)
        (fun db log good leaves => upheld.leaves db log good leaves) found
  | elapse time =>
      exact keeps_commits (fun db => commits_elapse db time)
        (fun db log good leaves => upheld.leaves db log good leaves) found

theorem Upheld.runs {world : World} {final : Site World Op Command ContactError ContactAnswer}
    (upheld : Upheld services Good Admits) (good : Good world.db)
    (run : Runs (byTransaction services) (batchTerms services Admits) ⟨⟨world, [], []⟩, []⟩ final) :
    Good final.world.db := by
  have opened : ∀ (scene : Books) tag, scene.Tagged → Good scene.world.db →
      (batchTerms services Admits).Opens scene tag → Good (scene.opening tag).world.db ∧
        Keeps (batchTerms services Admits) (fun scene => Good scene.world.db) scene.opened.length
          tag (byTransaction services tag) (scene.opening tag) := by
    intro scene tag tagged inv _
    refine ⟨inv, upheld.keeps ?_ (Scene.own_opening tagged tag)⟩
    rw [Scene.opening, List.getElem?_concat_length]
    rfl
  have first : Good (⟨world, [], []⟩ : Books).world.db := good
  exact (run.keeps opened (kept_initial first)).inv

end Turns

end Messanger.Contacts
