import Messanger.Contacts.Mutual

/-!
How many contacts a user may have.  Adding and importing count the rows before they write; a batch
of waiting owners does not, so an owner whose book is full gets one more.
-/

namespace Messanger.Contacts

open Relational Processes Reciprocal

variable {services : Services}

section Bound

variable {db : Db} {ownerId : UserId} {pairs : List (UserId × UserId)}

/-- Nobody has more contacts than allowed. -/
def WithinLimit (db : Db) : Prop := ∀ ownerId, db.contactCount ownerId ≤ maxContactsPerUser

/-- Every owner of the batch who lacks the contact has room for it. -/
def roomForBatch : UserId → IdentifierHash → Progress → Db → Prop :=
  fun userId identifierHash progress db => ∀ pair ∈ progress.newPairs identifierHash userId db,
    db.contactCount pair.1 < maxContactsPerUser

theorem newOf_nil : newOf db ownerId [] = 0 := rfl

theorem newOf_other (others : ∀ pair ∈ pairs, pair.1 ≠ ownerId) : newOf db ownerId pairs = 0 := by
  refine List.countP_eq_zero.mpr fun pair member => ?_
  rw [Bool.and_eq_true, beq_iff_eq, not_and]
  exact fun same => absurd same (others pair member)

theorem newOf_le_length : newOf db ownerId pairs ≤ pairs.length := List.countP_le_length

theorem newOf_waitingPairs {userId : UserId} {batch : List PendingContact}
    (distinct : (batch.map PendingContact.ownerId).Nodup) :
    newOf db ownerId (waitingPairs userId batch) ≤
      if (ownerId, userId) ∈ (waitingPairs userId batch).filter
        (fun key => (db.contacts.find? key).isNone) then 1 else 0 := by
  have counted : newOf db ownerId (waitingPairs userId batch) =
      ((waitingPairs userId batch).filter fun key =>
        (db.contacts.find? key).isNone).countP fun pair => pair.1 == ownerId := by
    rw [newOf, List.countP_filter]
  have same : ((waitingPairs userId batch).filter fun key =>
      (db.contacts.find? key).isNone).countP (fun pair => pair.1 == ownerId) =
        ((waitingPairs userId batch).filter fun key =>
          (db.contacts.find? key).isNone).count (ownerId, userId) := by
    rw [List.count]
    refine List.countP_congr fun pair member => ?_
    obtain ⟨left, right⟩ := pair
    have key := (mem_waitingPairs.mp (List.mem_filter.mp member).1).1
    simp [key]
  rw [counted, same]
  exact ((nodup_waitingPairs distinct).filter _).count.le

theorem upheld_withinLimit : Upheld services WithinLimit roomForBatch where
  adds := by
    intro db log owner contact within adds ownerId
    rw [adds.grows.counts]
    have before := within ownerId
    by_cases owned : owner = ownerId
    · subst owned
      cases there : db.contacts.find? (owner, contact) with
      | some row =>
          have old : newOf db owner [(owner, contact)] = 0 := by simp [newOf, there]
          omega
      | none =>
          have room := adds.room there
          have one : newOf db owner [(owner, contact)] ≤ 1 := newOf_le_length
          omega
    · have none : newOf db ownerId [(owner, contact)] = 0 :=
        newOf_other fun pair member => by rwa [List.mem_singleton.mp member]
      omega
  removes := fun _ _ _ _ within removes ownerId =>
    (removes.shrinks.counts ownerId).trans (within ownerId)
  imports := by
    intro db log owner matched within imports ownerId
    rw [imports.grows.counts]
    have before := within ownerId
    by_cases owned : owner = ownerId
    · subst owned
      have most : newOf db owner (matched.map fun userId => (owner, userId)) ≤ matched.length :=
        newOf_le_length.trans_eq (List.length_map _)
      rcases imports.room with none | room
      · rw [none, List.length_nil] at most
        rw [none]
        omega
      · omega
    · have none : newOf db ownerId (matched.map fun userId => (owner, userId)) = 0 := by
        refine newOf_other fun pair member => ?_
        obtain ⟨userId, _, rfl⟩ := List.mem_map.mp member
        exact owned
      omega
  leaves := by
    intro db log within leaves ownerId
    rw [leaves.grows.counts, newOf_nil]
    exact within ownerId
  resolves := by
    intro db log userId identifierHash progress within room resolves ownerId
    rw [resolves.grows.counts]
    have before := within ownerId
    have most : newOf db ownerId (waitingPairs userId (progress.batch identifierHash db)) ≤
        if (ownerId, userId) ∈ progress.newPairs identifierHash userId db then 1 else 0 :=
      newOf_waitingPairs (nodup_pendingBatch _ _ _)
    split at most
    · rename_i lacking
      have fits : db.contactCount ownerId < maxContactsPerUser := room _ lacking
      omega
    · omega

end Bound

section Entries

variable {ownerId : UserId}

theorem mem_foldlM_entries {step : List (IdentifierHash × ImportContactEntry) × Nat →
      ImportContactEntry → Except ContactError (List (IdentifierHash × ImportContactEntry) × Nat)}
    (collects : ∀ state entry next, step state entry = .ok next →
      ∀ item ∈ next.1, item ∈ state.1 ∨ item.2 = entry)
    {entries : List ImportContactEntry}
    {start result : List (IdentifierHash × ImportContactEntry) × Nat}
    (ran : entries.foldlM step start = .ok result) :
    ∀ item ∈ result.1, item ∈ start.1 ∨ item.2 ∈ entries := by
  induction entries generalizing start with
  | nil =>
      intro item member
      cases ran
      exact .inl member
  | cons entry rest ih =>
      intro item member
      rw [List.foldlM_cons] at ran
      cases stepped : step start entry with
      | error error =>
          rw [stepped] at ran
          cases ran
      | ok next =>
          rw [stepped] at ran
          rcases ih ran item member with before | later
          · rcases collects start entry next stepped item before with old | new
            · exact .inl old
            · rw [new]
              exact .inr List.mem_cons_self
          · exact .inr (List.mem_cons_of_mem _ later)

theorem mem_setDefault {byHash : List (IdentifierHash × ImportContactEntry)}
    {identifierHash : IdentifierHash} {entry : ImportContactEntry}
    {item : IdentifierHash × ImportContactEntry}
    (member : item ∈ setDefault byHash identifierHash entry) : item ∈ byHash ∨ item.2 = entry := by
  rw [setDefault] at member
  split at member
  · exact .inl member
  · rcases List.mem_append.mp member with old | new
    · exact .inl old
    · rw [List.mem_singleton.mp new]
      exact .inr rfl

theorem mem_hashEntries {entries : List ImportContactEntry}
    {byHash : List (IdentifierHash × ImportContactEntry)} {invalid : Nat}
    (hashed : hashEntries services entries = .ok (byHash, invalid)) :
    ∀ item ∈ byHash, item.2 ∈ entries := by
  intro item member
  rw [hashEntries] at hashed
  refine (mem_foldlM_entries ?_ hashed item member).resolve_left List.not_mem_nil
  intro state entry next stepped item member
  cases made : services.hash entry.email with
  | error error =>
      rw [made] at stepped
      cases stepped
  | ok hash =>
      rw [made] at stepped
      cases hash with
      | none =>
          cases stepped
          exact .inl member
      | some identifierHash =>
          cases stepped
          exact mem_setDefault member

theorem splitByRegistration_known {Known : UserId → Prop}
    {byHash : List (IdentifierHash × ImportContactEntry)} {resolved : List (IdentifierHash × UserId)}
    {blocked : List UserId}
    (known : ∀ item ∈ byHash, ∃ userId, resolved.lookup item.1 = some userId ∧ Known userId) :
    (splitByRegistration ownerId byHash resolved blocked).2 = [] ∧
      ∀ entry ∈ (splitByRegistration ownerId byHash resolved blocked).1,
        Known entry.1 ∧ entry.2 ∈ byHash.map Prod.snd := by
  have general : ∀ (rest : List (IdentifierHash × ImportContactEntry))
      (parts : List (UserId × ImportContactEntry) × List PendingUpsert),
      (∀ item ∈ rest, item ∈ byHash) → parts.2 = [] →
        (∀ entry ∈ parts.1, Known entry.1 ∧ entry.2 ∈ byHash.map Prod.snd) →
        (rest.foldl (splitEntry ownerId resolved blocked) parts).2 = [] ∧
          ∀ entry ∈ (rest.foldl (splitEntry ownerId resolved blocked) parts).1,
            Known entry.1 ∧ entry.2 ∈ byHash.map Prod.snd := by
    intro rest
    induction rest with
    | nil => exact fun parts _ none sound => ⟨none, sound⟩
    | cons item rest ih =>
        intro parts inside none sound
        obtain ⟨userId, found, here⟩ := known item (inside item List.mem_cons_self)
        rw [List.foldl_cons]
        refine ih _ (fun other member => inside other (List.mem_cons_of_mem _ member)) ?_ ?_
        · rw [splitEntry, found]
          simp only
          split
          · exact none
          · exact none
        · intro entry member
          rw [splitEntry, found] at member
          simp only at member
          split at member
          · exact sound entry member
          · simp only [setDefault] at member
            split at member
            · exact sound entry member
            · rcases List.mem_append.mp member with old | new
              · exact sound entry old
              · rw [List.mem_singleton.mp new]
                exact ⟨here, List.mem_map_of_mem (inside item List.mem_cons_self)⟩
  exact general byHash ([], []) (fun _ member => member) rfl fun _ member => nomatch member

theorem lookup_resolve {db : Db} {hashes : List IdentifierHash} {identifierHash : IdentifierHash}
    (asked : identifierHash ∈ hashes) :
    (db.resolve hashes).lookup identifierHash =
      (db.identifiers.find? identifierHash).map UserIdentifier.userId := by
  rw [Db.resolve, Table.select, Table.find?]
  induction db.identifiers.rows with
  | nil => rfl
  | cons row rest ih =>
      by_cases same : row.identifierHash = identifierHash
      · have wanted : hashes.contains row.identifierHash = true := by
          rw [same]
          exact List.contains_iff_mem.mpr asked
        rw [List.filter_cons_of_pos (by simpa using wanted), List.map_cons, List.find?_cons_of_pos
          (by simpa using same)]
        simp [same]
      · rw [List.find?_cons_of_neg (by simpa using same), ← ih, List.filter_cons]
        split
        · have different : (identifierHash == row.identifierHash) = false :=
            beq_eq_false_iff_ne.mpr (Ne.symm same)
          rw [List.map_cons, List.lookup_cons, different]
        · rfl

end Entries

section Passing

variable {world : World} {transaction : Transaction} {ownerId : UserId}

theorem passes_consumeQuota {amount : Nat}
    (fits : amount = 0 ∨
      world.quotas (ownerId, world.clock / day) + amount ≤ contactsNewIdentifiersPerDay) :
    (consumeQuota ownerId amount).Passes world transaction fun granted after left =>
      granted = true ∧ after.db = world.db ∧
        after.cachedBlockList ownerId = world.cachedBlockList ownerId ∧ left = transaction := by
  unfold consumeQuota
  split
  · exact Sql.passes_pure ⟨rfl, rfl, rfl, rfl⟩
  · rename_i some
    have room := fits.resolve_left some
    refine Sql.passes_bind Sql.passes_now ?_
    rintro now after left ⟨rfl, rfl, rfl⟩
    have adds : (liftM (Process.transact (.incrQuota ownerId) fun world =>
        .ok (world.quotas (ownerId, after.clock / day) + amount,
          world.addQuota ownerId (after.clock / day) amount) : Handler Nat) : Sql Nat).Passes after left
            fun used later final => used = after.quotas (ownerId, after.clock / day) + amount ∧
              later = after.addQuota ownerId (after.clock / day) amount ∧ final = left :=
      Sql.passes_redis rfl ⟨rfl, rfl, rfl⟩
    refine Sql.passes_bind adds ?_
    rintro used later final ⟨rfl, rfl, rfl⟩
    rw [if_neg (by omega)]
    exact Sql.passes_pure ⟨rfl, rfl, rfl, rfl⟩

theorem passes_getBlockList :
    (getBlockList ownerId).Passes world transaction fun blocked after left =>
      blocked = (world.cachedBlockList ownerId).getD
        ((applyAll transaction.log world.db).allTargetIds ownerId) ∧
      after.db = world.db ∧ left.log = transaction.log := by
  unfold getBlockList
  have looks : (liftM (Process.observe (.getBlockList ownerId) fun world =>
      world.cachedBlockList ownerId : Handler (Option (List UserId))) :
        Sql (Option (List UserId))).Passes world transaction fun cached after left =>
          cached = world.cachedBlockList ownerId ∧ after = world ∧ left = transaction :=
    Sql.passes_redis rfl ⟨rfl, rfl, rfl⟩
  refine Sql.passes_bind looks ?_
  rintro cached after left ⟨rfl, rfl, rfl⟩
  cases after.cachedBlockList ownerId with
  | some targets => exact Sql.passes_pure ⟨rfl, rfl, rfl⟩
  | none =>
      have reads : (Sql.query (.allTargetIds ownerId) fun seen => seen.allTargetIds ownerId).Passes
          after left fun targets later final =>
            targets = (applyAll left.log after.db).allTargetIds ownerId ∧ later = after ∧
              final.log = left.log :=
        Sql.passes_execute rfl ⟨rfl, rfl, List.append_nil _⟩
      refine Sql.passes_bind reads ?_
      rintro targets later final ⟨rfl, rfl, same⟩
      have stores : (liftM (Process.perform (.setBlockList ownerId) fun world =>
          world.storeBlockList ownerId ((applyAll left.log later.db).allTargetIds ownerId) :
            Handler Unit) : Sql Unit).Passes later final fun _ last end' =>
              last.db = later.db ∧ end' = final := Sql.passes_redis rfl ⟨rfl, rfl⟩
      refine Sql.passes_bind stores ?_
      rintro _ last end' ⟨kept, rfl⟩
      exact Sql.passes_pure ⟨rfl, kept, same⟩

def AcceptedName (services : Services) (name : Option String) : Prop :=
  ∃ cleaned, validateContactName services name = .ok cleaned

theorem rows_of_names {entries : List ContactUpsert} (now : Nat)
    (names : ∀ entry ∈ entries, AcceptedName services entry.firstName ∧
      AcceptedName services entry.lastName) :
    ∃ rows, entries.mapM (ContactUpsert.row services now) = .ok rows := by
  induction entries with
  | nil => exact ⟨[], rfl⟩
  | cons entry rest ih =>
      obtain ⟨rows, others⟩ := ih fun other member => names other (List.mem_cons_of_mem _ member)
      obtain ⟨⟨first, firstOk⟩, last, lastOk⟩ := names entry List.mem_cons_self
      have made : ∃ row, entry.row services now = .ok row := by
        rw [ContactUpsert.row, firstOk, lastOk]
        exact ⟨_, rfl⟩
      obtain ⟨row, ok⟩ := made
      exact ⟨row :: rows, by rw [List.mapM_cons, ok, others]; rfl⟩

theorem passes_upsertMany {entries : List ContactUpsert}
    (names : ∀ entry ∈ entries, AcceptedName services entry.firstName ∧
      AcceptedName services entry.lastName) :
    (upsertMany services entries).Passes world transaction fun _ _ _ => True := by
  unfold upsertMany
  split
  · exact Sql.passes_pure trivial
  · refine Sql.passes_bind Sql.passes_now fun now after left _ => ?_
    obtain ⟨rows, made⟩ := rows_of_names now names
    refine Sql.passes_bind (Sql.passes_lift made) fun rows later final _ => ?_
    exact Sql.passes_execute rfl trivial

theorem passes_setMutual (contactIds : List UserId) (flag : Bool) :
    (setMutual ownerId contactIds flag).Passes world transaction fun _ _ _ => True := by
  unfold setMutual
  split
  · exact Sql.passes_pure trivial
  · exact Sql.passes_bind Sql.passes_now fun now after left _ => Sql.passes_execute rfl trivial

theorem passes_findReverseOwners (contactIds : List UserId) :
    (findReverseOwners ownerId contactIds).Passes world transaction fun _ _ _ => True := by
  unfold findReverseOwners
  split
  · exact Sql.passes_pure trivial
  · exact Sql.passes_execute rfl trivial

theorem passes_resolve (hashes : List IdentifierHash) :
    (resolve hashes).Passes world transaction fun _ after _ => after = world := by
  unfold resolve
  split
  · exact Sql.passes_pure rfl
  · exact Sql.passes_execute rfl rfl

theorem passes_checkLimit {incoming : Nat}
    (fits : incoming = 0 ∨
      (applyAll transaction.log world.db).contactCount ownerId + incoming ≤ maxContactsPerUser) :
    (checkLimit ownerId incoming).Passes world transaction fun _ after left =>
      after = world ∧ left.log = transaction.log := by
  unfold checkLimit
  split
  · exact Sql.passes_pure ⟨rfl, rfl⟩
  · rename_i some
    have counts : (Sql.query .select fun seen => seen.contactCount ownerId).Passes world transaction
        fun count after left =>
          count = (applyAll transaction.log world.db).contactCount ownerId ∧ after = world ∧
            left.log = transaction.log := Sql.passes_execute rfl ⟨rfl, rfl, List.append_nil _⟩
    refine Sql.passes_bind counts ?_
    rintro count world left ⟨rfl, rfl, same⟩
    rw [decide_eq_true (fits.resolve_left some)]
    exact ⟨(), world, left, rfl, rfl, same⟩

theorem raised_checkLimit {incoming : Nat} (asked : incoming ≠ 0)
    (full : ¬(applyAll transaction.log world.db).contactCount ownerId + incoming ≤
      maxContactsPerUser) :
    (checkLimit ownerId incoming transaction).run world =
      (world, .error (.contactLimitExceeded maxContactsPerUser)) := by
  rw [checkLimit, if_neg asked]
  change ((liftM (require (decide ((applyAll transaction.log world.db).contactCount ownerId +
    incoming ≤ maxContactsPerUser)) (.contactLimitExceeded maxContactsPerUser)) : Sql Unit) _).run
      world = _
  rw [decide_eq_false full]
  rfl

end Passing

section Refusals

variable {db : Db} {log : List Write} {ownerId contactId : UserId}

def UserContact.core (row : UserContact) : UserContact :=
  { row with firstName := none, lastName := none, updatedAt := 0 }

def OnlyNames (before after : Db) : Prop := ∀ ownerId contactId,
  (after.contact? ownerId contactId).map UserContact.core =
    (before.contact? ownerId contactId).map UserContact.core

/-- A write that changes no contact but for names, flag and `updated_at`. -/
def Write.Plain (write : Write) : Prop :=
  write.Elsewhere ∨ ∃ key change, write = .updateContact key change ∧ change.isFavorite = none

def UserContact.unflagged (row : UserContact) : UserContact := { row.core with isMutual := false }

theorem unflagged_applyAll (plain : ∀ write ∈ log, write.Plain) :
    ((applyAll log db).contact? ownerId contactId).map UserContact.unflagged =
      (db.contact? ownerId contactId).map UserContact.unflagged := by
  induction log generalizing db with
  | nil => rfl
  | cons write rest ih =>
      rw [applyAll_cons, ih fun other member => plain other (List.mem_cons_of_mem _ member)]
      rcases plain write List.mem_cons_self with away | ⟨key, change, rfl, kept⟩
      · have same : (applyAll [write] db).contacts = db.contacts := contacts_applyAll fun other member => by
          rwa [List.mem_singleton.mp member]
        change ((applyAll [write] db).contacts.find? (ownerId, contactId)).map _ = _
        rw [same]
        rfl
      · refine (congrArg (Option.map UserContact.unflagged) contact?_updateContact).trans ?_
        rw [Option.map_map]
        refine congrArg (fun view => Option.map view _) (funext fun row => ?_)
        simp only [Function.comp_apply]
        split
        · simp [UserContact.unflagged, UserContact.core, ContactChange.apply, kept]
        · rfl

theorem onlyNames_iff {before after : Db}
    (same : ∀ ownerId contactId, (after.contact? ownerId contactId).map UserContact.unflagged =
      (before.contact? ownerId contactId).map UserContact.unflagged) :
    OnlyNames before after ↔ after.book = before.book := by
  constructor
  · intro only
    funext ownerId contactId
    have flags := congrArg (Option.map UserContact.isMutual) (only ownerId contactId)
    rw [Option.map_map, Option.map_map] at flags
    exact flags
  · intro book ownerId contactId
    have flags := congrFun (congrFun book ownerId) contactId
    have rest := same ownerId contactId
    rw [Db.book, Db.book] at flags
    cases old : before.contact? ownerId contactId with
    | none =>
        rw [old, Option.map_none, Option.map_eq_none_iff] at flags
        rw [flags]
    | some row =>
        rw [old, Option.map_some, Option.map_eq_some_iff] at flags
        obtain ⟨changed, found, flag⟩ := flags
        rw [old, found, Option.map_some, Option.map_some, Option.some.injEq] at rest
        rw [found, Option.map_some, Option.map_some, Option.some.injEq]
        have both : changed.core = { changed.unflagged with isMutual := changed.isMutual } := rfl
        rw [both, rest, flag]
        rfl

theorem plain_upsertWrite {row : UserContact} (there : (db.contacts.find? row.key).isSome) :
    (upsertWrite db row).Plain := by
  obtain ⟨old, found⟩ := Option.isSome_iff_exists.mp there
  rw [upsertWrite, found]
  exact .inr ⟨_, _, rfl, rfl⟩

theorem enter_present {pairs : List (UserId × UserId)} {book : Book UserId}
    (present : ∀ ownerId contactId, (ownerId, contactId) ∈ pairs → (book ownerId contactId).isSome) :
    enter pairs book = book := by
  funext ownerId contactId
  unfold enter
  by_cases listed : (ownerId, contactId) ∈ pairs
  · obtain ⟨flag, found⟩ := Option.isSome_iff_exists.mp (present _ _ listed)
    rw [found, Option.some_or]
  · rw [if_neg listed, Option.or_none]

/-- The users an import asks for, by the block list that it reads. -/
def importedUsers (world : World) (ownerId : UserId)
    (byHash : List (IdentifierHash × ImportContactEntry)) : List UserId :=
  (splitByRegistration ownerId byHash (world.db.resolve (byHash.map Prod.fst))
    ((world.cachedBlockList ownerId).getD (world.db.allTargetIds ownerId))).1.map Prod.fst

/-- An import of contacts that the owner has, which nothing but the limit can refuse. -/
structure KnownImport (services : Services) (world : World) (command : ImportContactsCommand)
    (byHash : List (IdentifierHash × ImportContactEntry)) (invalid : Nat) : Prop where
  permitted : checkContactOwner command.ownerId command.userJwtData = .ok ()
  size : command.entries.length ≤ contactsImportMaxBatch
  hashed : hashEntries services command.entries = .ok (byHash, invalid)
  quota : byHash.length = 0 ∨ world.quotas (command.ownerId, world.clock / day) + byHash.length ≤
    contactsNewIdentifiersPerDay
  names : ∀ entry ∈ command.entries,
    AcceptedName services entry.firstName ∧ AcceptedName services entry.lastName
  known : ∀ item ∈ byHash, ∃ row, world.db.identifiers.find? item.1 = some row ∧
    (world.db.contact? command.ownerId row.userId).isSome

structure Renews (users : List UserId) (ownerId : UserId) (before after : Db) : Prop where
  known : ∀ userId ∈ users, (before.contact? ownerId userId).isSome
  rows : ∀ ownerId contactId, (after.contact? ownerId contactId).map UserContact.unflagged =
    (before.contact? ownerId contactId).map UserContact.unflagged
  flags : ∃ met, after.book = mark (bothOf met) true before.book ∧
    ∀ pair, pair ∈ met ↔
      pair.1 = ownerId ∧ pair.2 ∈ users ∧ (before.contact? pair.2 ownerId).isSome

/-- Both flags are set where an imported user has the owner as well. -/
def MutualSet (users : List UserId) (ownerId : UserId) (db : Db) : Prop :=
  ∀ userId ∈ users, ∀ own reverse, db.contact? ownerId userId = some own →
    db.contact? userId ownerId = some reverse → own.isMutual = true ∧ reverse.isMutual = true

theorem Renews.onlyNames_iff {users : List UserId} {before after : Db}
    (renews : Renews users ownerId before after) :
    OnlyNames before after ↔ MutualSet users ownerId before := by
  rw [Contacts.onlyNames_iff renews.rows]
  obtain ⟨met, book, members⟩ := renews.flags
  rw [book]
  constructor
  · intro same userId member own reverse here opposite
    have chosen : (ownerId, userId) ∈ met :=
      (members _).mpr ⟨rfl, member, by rw [opposite]; rfl⟩
    have ownFlag := congrFun (congrFun same ownerId) userId
    have reverseFlag := congrFun (congrFun same userId) ownerId
    rw [mark, if_pos (mem_bothOf.mpr (.inl chosen)), Db.book, here] at ownFlag
    rw [mark, if_pos (mem_bothOf.mpr (.inr chosen)), Db.book, opposite] at reverseFlag
    exact ⟨(Option.some.inj ownFlag).symm, (Option.some.inj reverseFlag).symm⟩
  · intro set
    funext left right
    unfold mark
    split
    · rename_i chosen
      cases found : before.book left right with
      | none => rfl
      | some flag =>
          obtain ⟨row, there, rfl⟩ := Option.map_eq_some_iff.mp found
          rw [Option.map_some, Option.some.injEq]
          rcases mem_bothOf.mp chosen with here | opposite
          · obtain ⟨rfl, member, reversed⟩ := (members _).mp here
            obtain ⟨reverse, other⟩ := Option.isSome_iff_exists.mp reversed
            exact (set right member row reverse there other).1.symm
          · obtain ⟨rfl, member, _⟩ := (members _).mp opposite
            obtain ⟨own, owned⟩ := Option.isSome_iff_exists.mp (renews.known left member)
            exact (set left member own row owned there).2.symm
    · rfl

theorem renews_log {matched : List (UserId × ImportContactEntry)} {inserted : List (UserId × UserId)}
    {rows : List UserContact} {reverse : List UserId} {marks : List Write}
    (events : List ContactEvent)
    (there : ∀ entry ∈ matched, (db.contact? ownerId entry.1).isSome)
    (upserted : Upserted (matched.map (importedContact ownerId)) db inserted rows)
    (owners : ∀ userId, userId ∈ reverse ↔ userId ∈ matched.map Prod.fst ∧
      ((applyAll (rows.map (upsertWrite db)) db).contact? userId ownerId).isSome)
    (marked : Marked ((reverse.insertionSort (· ≤ ·)).flatMap (bothDirections ownerId)) true
      (applyAll (rows.map (upsertWrite db)) db) marks) :
    Renews (matched.map Prod.fst) ownerId db
      (applyAll (rows.map (upsertWrite db) ++ marks ++ events.map .publish) db) := by
  have keys : rows.map UserContact.key = (matched.map Prod.fst).map fun userId => (ownerId, userId) := by
    rw [upserted.keys, List.map_map, List.map_map]
    rfl
  have present : ∀ owner contact,
      (owner, contact) ∈ (matched.map Prod.fst).map (fun userId => (ownerId, userId)) →
        (db.contact? owner contact).isSome := by
    intro owner contact member
    obtain ⟨userId, inside, same⟩ := List.mem_map.mp member
    obtain ⟨rfl, rfl⟩ := Prod.mk.inj same
    obtain ⟨entry, listed, rfl⟩ := List.mem_map.mp inside
    exact there entry listed
  have book : (applyAll (rows.map (upsertWrite db)) db).book = db.book := by
    rw [book_upserts rows upserted.unflagged fun _ _ present => present, keys]
    exact enter_present fun owner contact member => isSome_book.trans (present owner contact member)
  have marksAll : (reverse.insertionSort (· ≤ ·)).flatMap (bothDirections ownerId) =
      bothOf ((reverse.insertionSort (· ≤ ·)).map fun userId => (ownerId, userId)) := by
    rw [bothOf, List.flatMap_map]
  rw [marksAll] at marked
  refine ⟨?_, fun owner contact => unflagged_applyAll ?_,
    (reverse.insertionSort (· ≤ ·)).map fun userId => (ownerId, userId), ?_, ?_⟩
  · intro userId member
    obtain ⟨entry, listed, rfl⟩ := List.mem_map.mp member
    exact there entry listed
  · intro write member
    rcases List.mem_append.mp member with early | event
    · rcases List.mem_append.mp early with upsert | mark
      · obtain ⟨row, inside, rfl⟩ := List.mem_map.mp upsert
        have listed : row.key ∈ (matched.map Prod.fst).map fun userId => (ownerId, userId) := by
          rw [← keys]
          exact List.mem_map_of_mem inside
        exact plain_upsertWrite (present _ _ listed)
      · obtain ⟨key, time, rfl⟩ := marked.updates write mark
        exact .inr ⟨key, _, rfl, rfl⟩
    · exact .inl (elsewhere_publish events write event)
  · have last : (applyAll (rows.map (upsertWrite db) ++ marks ++ events.map .publish) db).contacts =
        (applyAll (rows.map (upsertWrite db) ++ marks) db).contacts := by
      rw [applyAll_append]
      exact contacts_applyAll (elsewhere_publish events)
    rw [book_congr last, applyAll_append, marked.book, book]
  · rintro ⟨owner, contact⟩
    have opposite : ((applyAll (rows.map (upsertWrite db)) db).contact? contact ownerId).isSome =
        (db.contact? contact ownerId).isSome := by
      rw [← isSome_book, book, isSome_book]
    simp only [List.mem_map, (List.perm_insertionSort _ _).mem_iff, Prod.mk.injEq]
    constructor
    · rintro ⟨userId, member, rfl, rfl⟩
      have both := (owners userId).mp member
      rw [opposite] at both
      exact ⟨rfl, List.mem_map.mp both.1, both.2⟩
    · rintro ⟨rfl, inside, reversed⟩
      refine ⟨contact, (owners contact).mpr ⟨List.mem_map.mpr inside, ?_⟩, rfl, rfl⟩
      rw [opposite]
      exact reversed

theorem results_limited {Result : Type} {world : World} {transaction : Transaction}
    {matched : List (UserId × ImportContactEntry)}
    {answer : List UserContact → Result} (fresh : transaction.log = [])
    (names : ∀ entry ∈ matched, AcceptedName services entry.2.firstName ∧
      AcceptedName services entry.2.lastName)
    (there : ∀ entry ∈ matched, (world.db.contact? ownerId entry.1).isSome) :
    (do
      checkLimit ownerId matched.length
      let inserted ← upsertMany services (matched.map (importedContact ownerId))
      upsertPendingMany services ownerId []
      let reverse ← findReverseOwners ownerId (matched.map Prod.fst)
      setMutual ownerId (reverse.insertionSort (· ≤ ·)) true
      Sql.publish (importedEvents ownerId reverse inserted)
      Sql.commit
      let contacts ← getMany ownerId (matched.map Prod.fst)
      pure (answer contacts) : Sql Result).Results world transaction fun outcome after =>
        if matched.map Prod.fst = [] ∨ world.db.contactCount ownerId + (matched.map Prod.fst).length ≤
          maxContactsPerUser then
          (∃ answer, outcome = .ok answer) ∧ Renews (matched.map Prod.fst) ownerId world.db after.db
        else ∃ error, outcome = .error error := by
  have seen : applyAll transaction.log world.db = world.db := by rw [fresh, applyAll_nil]
  by_cases fits : matched.map Prod.fst = [] ∨ world.db.contactCount ownerId +
    (matched.map Prod.fst).length ≤ maxContactsPerUser
  · have passes : matched.length = 0 ∨ (applyAll transaction.log world.db).contactCount ownerId +
        matched.length ≤ maxContactsPerUser := by
      rw [List.length_map] at fits
      rw [seen]
      exact fits.imp_left fun none => List.length_eq_zero_iff.mpr (List.map_eq_nil_iff.mp none)
    simp only [if_pos fits]
    refine Sql.results_bind (passes_checkLimit passes) ?_
    rintro _ world left ⟨rfl, logged⟩
    rw [fresh] at logged
    have given : ∀ entry ∈ matched.map (importedContact ownerId),
        AcceptedName services entry.firstName ∧ AcceptedName services entry.lastName := by
      intro entry member
      obtain ⟨item, inside, rfl⟩ := List.mem_map.mp member
      exact names item inside
    have upserts := Sql.passes_of_ends (@passes_upsertMany services world left _ given)
      (ends_upsertMany _)
    refine Sql.results_bind upserts ?_
    rintro inserted second left ⟨-, same, rows, upserted, wrote⟩
    rw [logged, applyAll_nil, List.nil_append] at wrote
    rw [logged, applyAll_nil] at upserted
    have waits : (upsertPendingMany services ownerId []).Passes second left fun _ after final =>
        after = second ∧ final = left := Sql.passes_pure ⟨rfl, rfl⟩
    refine Sql.results_bind waits ?_
    rintro _ second left ⟨rfl, rfl⟩
    have reverses := Sql.passes_of_ends (@passes_findReverseOwners second left ownerId
      (matched.map Prod.fst)) (ends_findReverseOwners _ _)
    refine Sql.results_bind reverses ?_
    rintro reverse third final ⟨-, kept, unlogged, owners⟩
    rw [wrote, same] at owners
    rw [wrote] at unlogged
    rw [same] at kept
    have marks := Sql.passes_of_ends (@passes_setMutual third final ownerId
      (reverse.insertionSort (· ≤ ·)) true) (ends_setMutual _ _ _)
    refine Sql.results_bind marks ?_
    rintro _ fourth last ⟨-, still, marks, marked, added⟩
    rw [unlogged, kept] at marked
    rw [unlogged] at added
    rw [kept] at still
    have announces : (Sql.publish (importedEvents ownerId reverse inserted)).Passes fourth last
        fun _ after final => after = fourth ∧ final.log = rows.map (upsertWrite world.db) ++ marks ++
          (importedEvents ownerId reverse inserted).map .publish :=
      ⟨_, _, _, rfl, rfl, congrArg (· ++ _) added⟩
    refine Sql.results_bind announces ?_
    rintro _ fifth log ⟨rfl, logged⟩
    have commits : Sql.commit.Passes fifth log fun _ after _ =>
        Renews (matched.map Prod.fst) ownerId world.db after.db := by
      refine ⟨_, _, _, rfl, ?_⟩
      change Renews _ _ _ (applyAll log.log fifth.db)
      rw [logged, still]
      exact renews_log _ there upserted owners marked
    refine Sql.results_bind commits ?_
    intro _ sixth done renews
    have reads : (getMany ownerId (matched.map Prod.fst)).Passes sixth done
        fun _ after _ => after = sixth := by
      unfold getMany
      split
      · exact Sql.passes_pure rfl
      · exact Sql.passes_execute rfl rfl
    refine Sql.results_bind reads ?_
    rintro contacts _ ended rfl
    exact ⟨⟨_, rfl⟩, renews⟩
  · obtain ⟨some, full⟩ := not_or.mp fits
    simp only [if_neg fits]
    refine Sql.results_raised (raised_checkLimit ?_ ?_) ⟨_, rfl⟩
    · rwa [Ne, List.length_eq_zero_iff, ← List.map_eq_nil_iff]
    · rwa [seen, ← List.length_map Prod.fst]

theorem results_importContacts {world : World} {command : ImportContactsCommand}
    {byHash : List (IdentifierHash × ImportContactEntry)} {invalid : Nat}
    (known : KnownImport services world command byHash invalid) :
    (importContacts services command).Results world {} fun outcome after =>
      if importedUsers world command.ownerId byHash = [] ∨ world.db.contactCount command.ownerId +
          (importedUsers world command.ownerId byHash).length ≤ maxContactsPerUser then
        (∃ answer, outcome = .ok answer) ∧
          Renews (importedUsers world command.ownerId byHash) command.ownerId world.db after.db
      else ∃ error, outcome = .error error := by
  unfold importContacts
  refine Sql.results_bind (Sql.passes_lift known.permitted) ?_
  rintro _ world _ ⟨_, rfl, rfl⟩
  have size : require (decide (command.entries.length ≤ contactsImportMaxBatch))
      (.importBatchTooLarge contactsImportMaxBatch command.entries.length) = .ok () := by
    rw [decide_eq_true known.size]
    rfl
  refine Sql.results_bind (Sql.passes_lift size) ?_
  rintro _ world _ ⟨_, rfl, rfl⟩
  refine Sql.results_bind (Sql.passes_lift known.hashed) ?_
  rintro _ world _ ⟨rfl, rfl, rfl⟩
  refine Sql.results_bind (passes_consumeQuota known.quota) ?_
  rintro _ second _ ⟨rfl, same, cached, rfl⟩
  refine Sql.results_bind (Sql.passes_lift rfl) ?_
  rintro _ second _ ⟨_, rfl, rfl⟩
  have resolves := Sql.passes_of_ends (@passes_resolve second {} (byHash.map Prod.fst))
    (ends_resolve _)
  refine Sql.results_bind resolves ?_
  rintro resolved second left ⟨rfl, -, fresh, rfl⟩
  refine Sql.results_bind passes_getBlockList ?_
  rintro blocked third final ⟨rfl, kept, unlogged⟩
  rw [fresh] at unlogged
  rw [fresh, applyAll_nil, same, cached]
  rw [same] at kept
  have users : ∀ item ∈ byHash, ∃ userId,
      (world.db.resolve (byHash.map Prod.fst)).lookup item.1 = some userId ∧
        (world.db.contact? command.ownerId userId).isSome := by
    intro item member
    obtain ⟨row, found, there⟩ := known.known item member
    refine ⟨row.userId, ?_, there⟩
    rw [lookup_resolve (List.mem_map_of_mem member), found]
    rfl
  obtain ⟨none, sound⟩ := @splitByRegistration_known command.ownerId _ byHash _
    ((world.cachedBlockList command.ownerId).getD (world.db.allTargetIds command.ownerId)) users
  have named : importedUsers world command.ownerId byHash = (splitByRegistration command.ownerId
    byHash (world.db.resolve (byHash.map Prod.fst)) ((world.cachedBlockList command.ownerId).getD
      (world.db.allTargetIds command.ownerId))).1.map Prod.fst := rfl
  revert none sound named
  generalize splitByRegistration command.ownerId byHash (world.db.resolve (byHash.map Prod.fst))
    ((world.cachedBlockList command.ownerId).getD (world.db.allTargetIds command.ownerId)) = parts
  obtain ⟨matched, pending⟩ := parts
  rintro rfl sound named
  have names : ∀ entry ∈ matched, AcceptedName services entry.2.firstName ∧
      AcceptedName services entry.2.lastName := by
    intro entry member
    obtain ⟨item, inside, same⟩ := List.mem_map.mp (sound entry member).2
    rw [← same]
    exact known.names item.2 (mem_hashEntries known.hashed item inside)
  have there : ∀ entry ∈ matched, (third.db.contact? command.ownerId entry.1).isSome := by
    intro entry member
    rw [kept]
    exact (sound entry member).1
  simp only [named]
  rw [← kept]
  exact results_limited unlogged names there

/-- An import of known contacts by itself: it succeeds and leaves all but names as it was. -/
def Goes (services : Services) (world : World) (command : ImportContactsCommand) : Prop :=
  (∃ result, (((Command.importContacts command).handle services).run world).2 =
    .ok (.imported result)) ∧
  OnlyNames world.db (((Command.importContacts command).handle services).run world).1.db

theorem run_handler_map {Answer Result : Type} {wrap : Answer → Result} {sql : Sql Answer}
    {world : World} : (wrap <$> sql).handler.run world =
      (((sql {}).run world).1, ((sql {}).run world).2.map fun result => wrap result.1) := by
  rw [handler_map, Process.run_bind]
  obtain ⟨after, outcome⟩ := (sql {}).run world
  cases outcome with
  | ok result => rfl
  | error error => rfl

theorem goes_iff {world : World} {command : ImportContactsCommand}
    {byHash : List (IdentifierHash × ImportContactEntry)} {invalid : Nat}
    (known : KnownImport services world command byHash invalid) :
    Goes services world command ↔
      (importedUsers world command.ownerId byHash = [] ∨ world.db.contactCount command.ownerId +
        (importedUsers world command.ownerId byHash).length ≤ maxContactsPerUser) ∧
      MutualSet (importedUsers world command.ownerId byHash) command.ownerId world.db := by
  have ran : ((Command.importContacts command).handle services).run world = _ :=
    @run_handler_map _ _ ContactAnswer.imported (importContacts services command) world
  have ended := results_importContacts known
  unfold Sql.Results at ended
  unfold Goes
  rw [ran]
  by_cases fits : importedUsers world command.ownerId byHash = [] ∨
    world.db.contactCount command.ownerId +
      (importedUsers world command.ownerId byHash).length ≤ maxContactsPerUser
  · simp only [if_pos fits] at ended
    obtain ⟨⟨answer, ok⟩, renews⟩ := ended
    rw [renews.onlyNames_iff, ok]
    exact and_congr_left fun _ => iff_of_true ⟨_, rfl⟩ fits
  · simp only [if_neg fits] at ended
    obtain ⟨error, raised⟩ := ended
    rw [raised]
    exact iff_of_false (fun ⟨⟨_, ok⟩, _⟩ => nomatch ok) fun both => fits both.1

/-- With room in each batch nobody comes to more contacts than allowed; and an import of users who
are contacts already goes through if and only if their number fits as if all were new, and leaves
the flags if they were right. -/
theorem limits_of_room (services : Services) :
    (∀ (world : World) (final : Site World Op Command ContactError ContactAnswer),
      WithinLimit world.db → Runs (byTransaction services) (batchTerms services roomForBatch)
        ⟨⟨world, [], []⟩, []⟩ final → WithinLimit final.world.db) ∧
    ∀ (world : World) (command : ImportContactsCommand)
      (byHash : List (IdentifierHash × ImportContactEntry)) (invalid : Nat),
      KnownImport services world command byHash invalid →
        (Goes services world command ↔
          (importedUsers world command.ownerId byHash = [] ∨
            world.db.contactCount command.ownerId +
              (importedUsers world command.ownerId byHash).length ≤ maxContactsPerUser) ∧
          MutualSet (importedUsers world command.ownerId byHash) command.ownerId world.db) :=
  ⟨fun _ _ within run => upheld_withinLimit.runs within run, fun _ _ _ _ known => goes_iff known⟩

end Refusals

section Example

def roomCheck (userId : UserId) (identifierHash : IdentifierHash) (progress : Progress) (db : Db) :
    Bool :=
  (progress.newPairs identifierHash userId db).all fun pair =>
    decide (db.contactCount pair.1 < maxContactsPerUser)

theorem roomCheck_sound {userId : UserId} {identifierHash : IdentifierHash} {progress : Progress}
    {db : Db} (passed : roomCheck userId identifierHash progress db = true) :
    roomForBatch userId identifierHash progress db :=
  fun pair member => of_decide_eq_true (List.all_eq_true.mp passed pair member)

def meetingRoom : Option (Site World Op Command ContactError ContactAnswer) :=
  Site.steps (byTransaction plainServices) (fun _ _ => true)
    (batchActs plainServices roomCheck) ⟨⟨twoProfiles, [], []⟩, []⟩ meetingMoves

def importsKnown : ImportContactsCommand :=
  { ownerId := 1, entries := [{ email := "a", firstName := some "name" }] }

def knownHash : IdentifierHash := [97]

def acquainted (contacts : Table UserContact (UserId × UserId) UserContact.key) : World where
  db :=
    { contacts := contacts
      identifiers := Table.insert .empty ⟨knownHash, .email, 2, 0⟩ }

theorem knownImport_acquainted {contacts : Table UserContact (UserId × UserId) UserContact.key}
    (there : (contacts.find? (1, 2)).isSome) :
    KnownImport plainServices (acquainted contacts) importsKnown
      [(knownHash, { email := "a", firstName := some "name" })] 0 where
  permitted := rfl
  size := by decide
  hashed := rfl
  quota := .inr (show 0 + 1 ≤ contactsNewIdentifiersPerDay by decide)
  names := by
    intro entry member
    rw [List.mem_singleton.mp member]
    exact ⟨⟨_, rfl⟩, ⟨_, rfl⟩⟩
  known := by
    intro item member
    rw [List.mem_singleton.mp member]
    exact ⟨⟨knownHash, .email, 2, 0⟩, rfl, there⟩

theorem importedUsers_acquainted
    (contacts : Table UserContact (UserId × UserId) UserContact.key) :
    importedUsers (acquainted contacts) 1
      [(knownHash, { email := "a", firstName := some "name" })] = [2] := rfl

def oneContact : Table UserContact (UserId × UserId) UserContact.key :=
  Table.insert .empty
    { ownerId := 1, contactId := 2, source := .manual, createdAt := 0, updatedAt := 0 }

theorem limits_with_one_contact :
    (∃ final, meetingRoom = some final ∧ final.world.db.contactCount 1 = 1 ∧
      WithinLimit final.world.db) ∧
    Goes plainServices (acquainted oneContact) importsKnown := by
  obtain ⟨runs, imports⟩ := limits_of_room plainServices
  constructor
  · have counted : meetingRoom.map (fun site => site.world.db.contactCount 1) = some 1 := by
      decide +kernel
    obtain ⟨final, reached, same⟩ := Option.map_eq_some_iff.mp counted
    have run : Runs (byTransaction plainServices) (batchTerms plainServices roomForBatch)
        ⟨⟨twoProfiles, [], []⟩, []⟩ final :=
      runs_of_steps meetingMoves (fun _ _ _ => trivial)
        (fun _ _ _ _ _ => batchActs_sound fun _ _ _ _ => roomCheck_sound) .refl reached
    exact ⟨final, reached, same, runs twoProfiles final (fun _ => Nat.zero_le _) run⟩
  · refine (imports _ _ _ _ (knownImport_acquainted (by decide))).mpr ?_
    rw [show importsKnown.ownerId = 1 from rfl, importedUsers_acquainted]
    refine ⟨.inr (by decide), fun userId member own reverse _ opposite => ?_⟩
    rw [List.mem_singleton.mp member] at opposite
    cases opposite

def fullRow (number : Nat) : UserContact :=
  { ownerId := 1, contactId := number + 2, source := .manual, createdAt := 0, updatedAt := 0 }

def fullBook : Table UserContact (UserId × UserId) UserContact.key where
  rows := (List.range maxContactsPerUser).map fullRow
  unique := by
    rw [List.map_map]
    have distinct : Function.Injective (UserContact.key ∘ fullRow) := by
      intro left right same
      exact Nat.add_right_cancel (congrArg Prod.snd same)
    exact List.nodup_range.map distinct

theorem mem_fullBook {row : UserContact} :
    row ∈ fullBook.rows ↔ ∃ number < maxContactsPerUser, fullRow number = row := by
  rw [fullBook, List.mem_map]
  simp only [List.mem_range]

theorem length_fullBook : fullBook.rows.length = maxContactsPerUser := by
  rw [fullBook, List.length_map, List.length_range]

theorem count_fullBook : (acquainted fullBook).db.contactCount 1 = maxContactsPerUser := by
  rw [← length_fullBook]
  refine List.countP_eq_length.mpr fun row member => ?_
  obtain ⟨number, _, rfl⟩ := mem_fullBook.mp member
  rfl

theorem withinLimit_fullBook {db : Db} (full : db.contacts = fullBook) : WithinLimit db := by
  intro ownerId
  rw [Db.contactCount, full, Table.count, ← length_fullBook]
  exact List.countP_le_length

def fullAndWaiting : World where
  db :=
    { contacts := fullBook
      pending := Table.insert .empty
        { ownerId := 1, identifierHash := knownHash, createdAt := 0 } }

def overflowMoves : List (Move Command) :=
  [.start (.registerUserIdentifier 2 { userId := 9000, email := "a" }), .exec 0, .exec 0]

def overflowSite : Option (Site World Op Command ContactError ContactAnswer) :=
  Site.steps (byTransaction plainServices) (fun _ _ => true) (fun _ _ _ _ _ => true)
    ⟨⟨fullAndWaiting, [], []⟩, []⟩ overflowMoves

/-- A registration gives a full book one more contact, and a full book cannot be renewed. -/
theorem limits_fail :
    (¬∀ (services : Services) (world : World)
      (final : Site World Op Command ContactError ContactAnswer), WithinLimit world.db →
        Runs (byTransaction services) {} ⟨⟨world, [], []⟩, []⟩ final → WithinLimit final.world.db) ∧
    ¬∀ (services : Services) (world : World) (command : ImportContactsCommand)
      (byHash : List (IdentifierHash × ImportContactEntry)) (invalid : Nat),
      KnownImport services world command byHash invalid → Goes services world command := by
  constructor
  · intro always
    have counted : overflowSite.map (fun site => site.world.db.contactCount 1) = some 5001 := by
      decide +kernel
    obtain ⟨final, reached, same⟩ := Option.map_eq_some_iff.mp counted
    have within := always plainServices fullAndWaiting final (withinLimit_fullBook rfl)
      (runs_of_steps overflowMoves (fun _ _ _ => trivial) (fun _ _ _ _ _ _ => trivial) .refl reached)
      1
    rw [same] at within
    exact absurd within (by decide)
  · intro always
    have there : (fullBook.find? (1, 2)).isSome := by
      rw [Option.isSome_iff_exists]
      have listed : fullRow 0 ∈ fullBook.rows := mem_fullBook.mpr ⟨0, by decide, rfl⟩
      exact ⟨_, (fullBook.find?_some_iff (1, 2) _).mpr ⟨listed, rfl⟩⟩
    have known := knownImport_acquainted there
    have goes := (goes_iff known).mp (always plainServices _ _ _ _ known)
    rw [show importsKnown.ownerId = 1 from rfl, importedUsers_acquainted, count_fullBook] at goes
    rcases goes.1 with none | fits
    · cases none
    · exact absurd fits (by decide)

end Example

end Messanger.Contacts
