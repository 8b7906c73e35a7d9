import Messanger.Contacts.Mutual
import Messanger.Library.Chronicle

/-!
The cached block lists.  Readers fill the key of an owner with the rows they have loaded, and a
change of the list deletes the key after its commit; between the two a reader can put back rows
that were loaded before.
-/

namespace Messanger.Contacts

open Relational Processes

variable {Answer Result Final : Type} {services : Services}

section Writing

def Write.Spares (ownerId : UserId) : Write → Prop
  | .insertBlocked row => row.ownerId ≠ ownerId
  | .deleteBlocked key => key.1 ≠ ownerId
  | _ => True

def Acting (ownerId : UserId) (Fine : Write → Prop) (label : Op) (effect : World → World) : Prop :=
  (label = .commit ∧ ∃ log, (∀ write ∈ log, Fine write) ∧ effect = fun world => world.commit log) ∨
    (label ≠ .commit ∧ label ≠ .setBlockList ownerId ∧ label ≠ .deleteBlockList ownerId ∧
      (∀ world, (effect world).db = world.db) ∧ ∀ world targets,
        (effect world).cachedBlockList ownerId = some targets →
          world.cachedBlockList ownerId = some targets)

theorem Acting.mono {ownerId : UserId} {Fine Wider : Write → Prop} {label : Op}
    {effect : World → World} (acting : Acting ownerId Fine label effect)
    (wider : ∀ write, Fine write → Wider write) : Acting ownerId Wider label effect := by
  rcases acting with ⟨commits, log, fine, same⟩ | other
  · exact .inl ⟨commits, log, fun write member => wider write (fine write member), same⟩
  · exact .inr other

theorem blocked_write {ownerId targetId : UserId} {write : Write} (spares : write.Spares ownerId)
    (db : Db) :
    (Db.write write db).blocked.find? (ownerId, targetId) = db.blocked.find? (ownerId, targetId) := by
  cases write with
  | insertBlocked row =>
      refine Table.find?_insert_other _ _ _ fun same => ?_
      exact spares (congrArg Prod.fst same)
  | deleteBlocked key =>
      simp only [Db.write, Table.find?_delete]
      cases found : db.blocked.find? (ownerId, targetId) with
      | none => rfl
      | some row =>
          have owned : row.key = (ownerId, targetId) := Table.key_of_find? found
          have other : (ownerId, targetId) ≠ key := fun same => spares (congrArg Prod.fst same).symm
          simp [owned, other]
  | upsertIdentifier row | upsertPending row | insertContact _ | updateContact _ _
  | deleteContact _ | deletePending _ | publish _ => rfl

theorem blocked_applyAll {ownerId targetId : UserId} {log : List Write}
    (spares : ∀ write ∈ log, write.Spares ownerId) (db : Db) :
    (applyAll log db).blocked.find? (ownerId, targetId) = db.blocked.find? (ownerId, targetId) := by
  induction log generalizing db with
  | nil => rfl
  | cons write rest ih =>
      rw [applyAll_cons, ih (fun other member => spares other (List.mem_cons_of_mem _ member))]
      exact blocked_write (spares write List.mem_cons_self) db

theorem inserted_of_created {ownerId contactId : UserId} {log : List Write} {db : Db}
    (absent : db.contact? ownerId contactId = none)
    (created : ((applyAll log db).contact? ownerId contactId).isSome) :
    ∃ row, Write.insertContact row ∈ log ∧ row.key = (ownerId, contactId) := by
  induction log generalizing db with
  | nil =>
      rw [applyAll_nil, absent] at created
      cases created
  | cons write rest ih =>
      rw [applyAll_cons] at created
      have later (still : (Db.write write db).contact? ownerId contactId = none) :
          ∃ row, Write.insertContact row ∈ write :: rest ∧ row.key = (ownerId, contactId) := by
        obtain ⟨row, member, key⟩ := ih still created
        exact ⟨row, List.mem_cons_of_mem _ member, key⟩
      cases write with
      | insertContact row =>
          by_cases same : row.key = (ownerId, contactId)
          · exact ⟨row, List.mem_cons_self, same⟩
          · exact later ((Table.find?_insert_other _ _ _ same).trans absent)
      | updateContact key change =>
          refine later ?_
          rw [contact?_updateContact, absent]
          rfl
      | deleteContact key =>
          refine later ?_
          have none : db.contacts.find? (ownerId, contactId) = none := absent
          simp only [Db.write, Db.contact?, Table.find?_delete, none]
          rfl
      | upsertIdentifier _ | upsertPending _ | insertBlocked _ | deleteBlocked _
      | deletePending _ | publish _ => exact later absent

namespace Sql

def Writes (ownerId : UserId) (Fine : Write → Prop) (sql : Sql Answer) : Prop :=
  ∀ transaction, (∀ write ∈ transaction.log, Fine write) →
    (sql transaction).Along (Acting ownerId Fine) fun result => ∀ write ∈ result.2.log, Fine write

variable {ownerId : UserId} {Fine : Write → Prop}

theorem acting_id {op : Op} (stays : op.isCommit = false) (sets : op ≠ .setBlockList ownerId)
    (deletes : op ≠ .deleteBlockList ownerId) : Acting ownerId Fine op id := by
  refine .inr ⟨?_, sets, deletes, fun _ => rfl, fun _ _ same => same⟩
  rintro rfl
  cases stays

theorem writes_pure (answer : Result) : (pure answer : Sql Result).Writes ownerId Fine :=
  fun _ fine => fine

theorem writes_lift (check : Except ContactError Result) :
    (liftM check : Sql Result).Writes ownerId Fine := by
  intro transaction fine
  cases check with
  | error error => trivial
  | ok answer => exact fine

theorem writes_bind {sql : Sql Answer} {next : Answer → Sql Result}
    (first : sql.Writes ownerId Fine) (rest : ∀ answer, (next answer).Writes ownerId Fine) :
    (sql >>= next).Writes ownerId Fine := by
  intro transaction fine
  exact Process.along_bind (first transaction fine) fun result kept => rest result.1 result.2 kept

theorem writes_bind_lift {check : Except ContactError Answer} {next : Answer → Sql Result}
    (rest : ∀ answer, check = .ok answer → (next answer).Writes ownerId Fine) :
    ((liftM check : Sql Answer) >>= next).Writes ownerId Fine := by
  intro transaction fine
  cases checked : check with
  | error error => trivial
  | ok answer => exact rest answer checked transaction fine

theorem writes_map {sql : Sql Answer} {wrap : Answer → Result} (first : sql.Writes ownerId Fine) :
    (wrap <$> sql).Writes ownerId Fine := by
  intro transaction fine
  exact Process.along_bind (first transaction fine) fun result kept => kept

theorem writes_execute {op : Op}
    {statement : Nat → Db → Except ContactError (Result × List Write)}
    (acting : Acting ownerId Fine op id)
    (writes : ∀ began seen answer written, statement began seen = .ok (answer, written) →
      ∀ write ∈ written, Fine write) : (execute op statement).Writes ownerId Fine := by
  intro transaction fine
  refine ⟨acting, fun world => ?_⟩
  cases ran : statement (transaction.began.getD world.clock)
    (applyAll transaction.log world.db) with
  | error error =>
      simp only [ran]
      trivial
  | ok result =>
      simp only [ran]
      intro write member
      rcases List.mem_append.mp member with old | new
      · exact fine write old
      · exact writes _ _ result.1 result.2 ran write new

theorem writes_query {op : Op} {read : Db → Result} (acting : Acting ownerId Fine op id) :
    (query op read).Writes ownerId Fine := by
  refine writes_execute acting fun began seen answer written ran => ?_
  cases ran
  exact fun _ member => nomatch member

theorem writes_query_bind {op : Op} {read : Db → Answer} {next : Answer → Sql Result}
    (acting : Acting ownerId Fine op id) (rest : ∀ seen, (next (read seen)).Writes ownerId Fine) :
    (query op read >>= next).Writes ownerId Fine := by
  intro transaction fine
  refine ⟨acting, fun world => ?_⟩
  refine rest (applyAll transaction.log world.db) _ ?_
  rw [List.append_nil]
  exact fine

theorem writes_update {op : Op} {writes : Db → List Write} (acting : Acting ownerId Fine op id)
    (fine : ∀ seen, ∀ write ∈ writes seen, Fine write) : (update op writes).Writes ownerId Fine := by
  refine writes_execute acting fun began seen answer written ran => ?_
  cases ran
  exact fine seen

theorem writes_now : now.Writes ownerId Fine :=
  fun _ fine => ⟨acting_id rfl nofun nofun, fun _ => fine⟩

theorem writes_publish {events : List ContactEvent} (events_fine : ∀ event, Fine (.publish event)) :
    (publish events).Writes ownerId Fine := by
  intro transaction fine write member
  rcases List.mem_append.mp member with old | new
  · exact fine write old
  · obtain ⟨event, _, rfl⟩ := List.mem_map.mp new
    exact events_fine event

theorem writes_commit : commit.Writes ownerId Fine :=
  fun transaction fine => ⟨.inl ⟨rfl, transaction.log, fine, rfl⟩, fun _ _ member => nomatch member⟩

theorem writes_redis {handler : Handler Result}
    (acting : handler.Along (Acting ownerId Fine) fun _ => True) :
    (liftM handler : Sql Result).Writes ownerId Fine := by
  intro transaction fine
  exact Process.along_bind acting fun _ _ => fine

end Sql

def Write.Sparing (ownerId : UserId) (targets : List UserId) (write : Write) : Prop :=
  write.Spares ownerId ∧
    ∀ row, write = .insertContact row → row.ownerId = ownerId → row.contactId ∉ targets

variable {ownerId : UserId} {targets : List UserId} {Fine : Write → Prop}

section Reads

theorem writes_contactTarget (command : AddContactCommand) :
    (contactTarget services command).Writes ownerId Fine := by
  unfold contactTarget
  split
  · exact Sql.writes_query (Sql.acting_id rfl nofun nofun)
  · exact Sql.writes_query (Sql.acting_id rfl nofun nofun)
  · exact Sql.writes_pure _

theorem writes_findReverseOwners (userId : UserId) (contactIds : List UserId) :
    (findReverseOwners userId contactIds).Writes ownerId Fine := by
  unfold findReverseOwners
  split
  · exact Sql.writes_pure _
  · exact Sql.writes_query (Sql.acting_id rfl nofun nofun)

theorem writes_findForwardContacts (userId : UserId) (contactIds : List UserId) :
    (findForwardContacts userId contactIds).Writes ownerId Fine := by
  unfold findForwardContacts
  split
  · exact Sql.writes_pure _
  · exact Sql.writes_query (Sql.acting_id rfl nofun nofun)

theorem writes_getMany (userId : UserId) (contactIds : List UserId) :
    (getMany userId contactIds).Writes ownerId Fine := by
  unfold getMany
  split
  · exact Sql.writes_pure _
  · exact Sql.writes_query (Sql.acting_id rfl nofun nofun)

theorem writes_resolve (hashes : List IdentifierHash) :
    (resolve hashes).Writes ownerId Fine := by
  unfold resolve
  split
  · exact Sql.writes_pure _
  · exact Sql.writes_query (Sql.acting_id rfl nofun nofun)

theorem writes_checkLimit (userId : UserId) (incoming : Nat) :
    (checkLimit userId incoming).Writes ownerId Fine := by
  unfold checkLimit
  split
  · exact Sql.writes_pure _
  · exact Sql.writes_query_bind (Sql.acting_id rfl nofun nofun) fun seen => Sql.writes_lift _

theorem writes_consumeQuota (userId : UserId) (amount : Nat) :
    (consumeQuota userId amount).Writes ownerId Fine := by
  unfold consumeQuota
  split
  · exact Sql.writes_pure _
  · refine Sql.writes_bind Sql.writes_now fun now => ?_
    refine Sql.writes_bind (Sql.writes_redis ⟨?_, fun _ => trivial⟩) fun used => ?_
    · exact .inr ⟨nofun, nofun, nofun, fun _ => rfl, fun _ _ same => same⟩
    · split
      · refine Sql.writes_bind (Sql.writes_redis ⟨?_, fun _ => trivial⟩) fun _ => Sql.writes_pure _
        exact .inr ⟨nofun, nofun, nofun, fun _ => rfl, fun _ _ same => same⟩
      · exact Sql.writes_pure _

theorem writes_getBlockList {userId : UserId} (other : userId ≠ ownerId) :
    (getBlockList userId).Writes ownerId Fine := by
  unfold getBlockList
  refine Sql.writes_bind (Sql.writes_redis ⟨Sql.acting_id rfl nofun nofun, fun _ => trivial⟩)
    fun cached => ?_
  cases cached with
  | some targets => exact Sql.writes_pure _
  | none =>
      refine Sql.writes_bind (Sql.writes_query (Sql.acting_id rfl nofun nofun)) fun targets => ?_
      refine Sql.writes_bind (Sql.writes_redis ⟨?_, fun _ => trivial⟩) fun _ => Sql.writes_pure _
      refine .inr ⟨nofun, ?_, nofun, fun _ => rfl, fun world found same => ?_⟩
      · rintro ⟨⟩
        exact other rfl
      · simp only [World.cachedBlockList, World.storeBlockList,
          Function.update_of_ne (Ne.symm other)] at same
        exact same

theorem writes_invalidateBlockList {userId : UserId} (other : userId ≠ ownerId) :
    (invalidateBlockList userId).Writes ownerId Fine := by
  refine Sql.writes_redis ⟨.inr ⟨nofun, nofun, ?_, fun _ => rfl, fun world found same => ?_⟩,
    fun _ => trivial⟩
  · rintro ⟨⟩
    exact other rfl
  · simp only [World.cachedBlockList, World.dropBlockList,
      Function.update_of_ne (Ne.symm other)] at same
    exact same

end Reads

section Sparing

theorem sparing_update (key : UserId × UserId) (change : ContactChange) :
    (Write.updateContact key change).Sparing ownerId targets := ⟨trivial, nofun⟩

theorem sparing_publish (event : ContactEvent) :
    (Write.publish event).Sparing ownerId targets := ⟨trivial, nofun⟩

theorem writes_setMutual (userId : UserId) (contactIds : List UserId) (flag : Bool) :
    (setMutual userId contactIds flag).Writes ownerId (Write.Sparing ownerId targets) := by
  unfold setMutual
  split
  · exact Sql.writes_pure _
  · refine Sql.writes_bind Sql.writes_now fun now =>
      Sql.writes_update (Sql.acting_id rfl nofun nofun) fun seen write member => ?_
    obtain ⟨row, _, rfl⟩ := List.mem_map.mp member
    exact sparing_update _ _

theorem writes_setMutualPairs (pairs : List (UserId × UserId)) :
    (setMutualPairs pairs).Writes ownerId (Write.Sparing ownerId targets) := by
  unfold setMutualPairs
  split
  · exact Sql.writes_pure _
  · refine Sql.writes_bind Sql.writes_now fun now =>
      Sql.writes_update (Sql.acting_id rfl nofun nofun) fun seen write member => ?_
    obtain ⟨row, _, rfl⟩ := List.mem_map.mp member
    exact sparing_update _ _

theorem writes_deleteContact (userId contactId : UserId) :
    (deleteContact userId contactId).Writes ownerId (Write.Sparing ownerId targets) := by
  unfold deleteContact
  refine Sql.writes_bind (Sql.writes_execute (Sql.acting_id rfl nofun nofun) ?_) fun deleted => ?_
  · intro began seen answer written ran write member
    split at ran
    · cases ran
      cases member
    · cases ran
      rw [List.mem_singleton.mp member]
      exact ⟨trivial, nofun⟩
  · split
    · exact Sql.writes_bind (writes_setMutual _ _ _) fun _ => Sql.writes_pure _
    · exact Sql.writes_pure _

theorem writes_upsertMany {entries : List ContactUpsert}
    (apart : ∀ entry ∈ entries, entry.ownerId = ownerId → entry.contactId ∉ targets) :
    (upsertMany services entries).Writes ownerId (Write.Sparing ownerId targets) := by
  unfold upsertMany
  split
  · exact Sql.writes_pure _
  · refine Sql.writes_bind Sql.writes_now fun now => Sql.writes_bind_lift fun rows made => ?_
    refine Sql.writes_execute (Sql.acting_id rfl nofun nofun) ?_
    intro began seen answer written ran write member
    cases ran
    obtain ⟨row, inside, rfl⟩ := List.mem_map.mp member
    have key : row.key ∈ entries.map ContactUpsert.key := by
      rw [← (keys_of_rows made).1]
      exact List.mem_map_of_mem inside
    obtain ⟨entry, listed, same⟩ := List.mem_map.mp key
    obtain ⟨owner, contact⟩ := Prod.mk.inj same
    unfold upsertWrite
    split
    · refine ⟨trivial, fun other equal owned => ?_⟩
      cases equal
      rw [← contact]
      exact apart entry listed (owner.trans owned)
    · exact sparing_update _ _

theorem writes_upsertPendingMany (userId : UserId) (entries : List PendingUpsert) :
    (upsertPendingMany services userId entries).Writes ownerId (Write.Sparing ownerId targets) := by
  unfold upsertPendingMany
  split
  · exact Sql.writes_pure _
  · refine Sql.writes_bind Sql.writes_now fun now => Sql.writes_bind_lift fun rows made => ?_
    refine Sql.writes_update (Sql.acting_id rfl nofun nofun) fun seen write member => ?_
    obtain ⟨row, _, rfl⟩ := List.mem_map.mp member
    exact ⟨trivial, nofun⟩

theorem writes_deletePending (identifierHash : IdentifierHash) (ownerIds : List UserId) :
    (deletePending identifierHash ownerIds).Writes ownerId (Write.Sparing ownerId targets) := by
  unfold deletePending
  split
  · exact Sql.writes_pure _
  · refine Sql.writes_update (Sql.acting_id rfl nofun nofun) fun seen write member => ?_
    obtain ⟨row, _, rfl⟩ := List.mem_map.mp member
    exact ⟨trivial, nofun⟩

theorem writes_flushed (old new : UserContact) :
    (Sql.execute .flush fun began _ => .ok ((), UserContact.flushed old new began)).Writes ownerId
      (Write.Sparing ownerId targets) := by
  refine Sql.writes_execute (Sql.acting_id rfl nofun nofun)
    fun began seen answer written ran write member => ?_
  cases ran
  obtain ⟨key, change, rfl⟩ := updates_flushed old new began write member
  exact sparing_update _ _

theorem writes_saveContact {command : AddContactCommand} {contactId : UserId}
    (apart : command.ownerId = ownerId → contactId ∉ targets) (isMutual : Bool)
    (contact : Option UserContact) :
    (saveContact services command contactId isMutual contact).Writes ownerId
      (Write.Sparing ownerId targets) := by
  cases contact with
  | some contact =>
      refine Sql.writes_bind ?_ fun _ => Sql.writes_pure _
      refine Sql.writes_bind Sql.writes_now fun now => Sql.writes_bind (Sql.writes_lift _) ?_
      exact fun renamed => writes_flushed _ _
  | none =>
      unfold saveContact createContact
      refine Sql.writes_bind (Sql.writes_query (Sql.acting_id rfl nofun nofun)) fun count => ?_
      refine Sql.writes_bind (Sql.writes_lift _) fun _ => ?_
      refine Sql.writes_bind (Sql.writes_lift _) fun first => ?_
      refine Sql.writes_bind (Sql.writes_lift _) fun last => ?_
      refine Sql.writes_bind (Sql.writes_execute (Sql.acting_id rfl nofun nofun) ?_)
        fun _ => Sql.writes_pure _
      intro began seen answer written ran write member
      split at ran
      · cases ran
      · cases ran
        rw [List.mem_singleton.mp member]
        refine ⟨trivial, fun row same owned => ?_⟩
        cases same
        exact apart owned

theorem writes_resolvePending (identifierHash : IdentifierHash) (userId : UserId)
    (rounds resolved eventsLeft : Nat) (afterOwnerId : Option UserId) :
    (resolvePending services identifierHash userId rounds resolved eventsLeft afterOwnerId).Writes
      ownerId (Write.Sparing ownerId []) := by
  induction rounds generalizing resolved eventsLeft afterOwnerId with
  | zero => exact Sql.writes_lift _
  | succ rounds ih =>
      unfold resolvePending fetchPendingBatch
      refine Sql.writes_bind (Sql.writes_query (Sql.acting_id rfl (by simp) (by simp))) fun batch => ?_
      split
      · exact Sql.writes_pure _
      · refine Sql.writes_bind ?_ fun published => ih _ _ _
        unfold applyBatch
        refine Sql.writes_bind (writes_upsertMany fun _ _ _ => List.not_mem_nil) fun inserted => ?_
        refine Sql.writes_bind (writes_findForwardContacts _ _) fun mutualOwners => ?_
        refine Sql.writes_bind (writes_setMutualPairs _) fun _ => ?_
        refine Sql.writes_bind (writes_deletePending _ _) fun _ => ?_
        refine Sql.writes_bind (Sql.writes_publish sparing_publish) fun _ => ?_
        exact Sql.writes_bind Sql.writes_commit fun _ => Sql.writes_pure _

def addFrom (services : Services) (command : AddContactCommand) (profile : Profile)
    (blocked : List UserId) : Sql UserContact := do
  require (decide (profile.id ∉ blocked)) (.contactBlocked profile.id)
  let contact ← Sql.query .select fun seen => seen.contact? command.ownerId profile.id
  let reverse ← findReverseOwners command.ownerId [profile.id]
  let isMutual := reverse.contains profile.id
  let events ← saveContact services command profile.id isMutual contact
  setMutual command.ownerId (if isMutual then [profile.id] else []) true
  Sql.publish events
  Sql.commit
  let contact ← Sql.query .select fun seen => seen.contact? command.ownerId profile.id
  found contact (.notFoundContact profile.id)

theorem writes_addFrom {command : AddContactCommand} {profile : Profile} {blocked : List UserId}
    (within : command.ownerId = ownerId → targets ⊆ blocked) :
    (addFrom services command profile blocked).Writes ownerId (Write.Sparing ownerId targets) := by
  unfold addFrom
  refine Sql.writes_bind_lift fun _ passed => ?_
  have free : profile.id ∉ blocked := of_decide_eq_true (require_ok passed)
  have apart : command.ownerId = ownerId → profile.id ∉ targets :=
    fun owned member => free (within owned member)
  refine Sql.writes_bind (Sql.writes_query (Sql.acting_id rfl nofun nofun)) fun contact => ?_
  refine Sql.writes_bind (writes_findReverseOwners _ _) fun reverse => ?_
  refine Sql.writes_bind (writes_saveContact apart _ _) fun events => ?_
  refine Sql.writes_bind (writes_setMutual _ _ _) fun _ => ?_
  refine Sql.writes_bind (Sql.writes_publish sparing_publish) fun _ => ?_
  refine Sql.writes_bind Sql.writes_commit fun _ => ?_
  exact Sql.writes_bind (Sql.writes_query (Sql.acting_id rfl nofun nofun)) fun _ =>
    Sql.writes_lift _

def importFrom (services : Services) (command : ImportContactsCommand)
    (byHash : List (IdentifierHash × ImportContactEntry)) (invalid : Nat)
    (resolved : List (IdentifierHash × UserId)) (blocked : List UserId) :
    Sql ImportContactsResult := do
  let (matched, pending) := splitByRegistration command.ownerId byHash resolved blocked
  checkLimit command.ownerId matched.length
  let inserted ← upsertMany services (matched.map (importedContact command.ownerId))
  upsertPendingMany services command.ownerId pending
  let reverse ← findReverseOwners command.ownerId (matched.map Prod.fst)
  setMutual command.ownerId (reverse.insertionSort (· ≤ ·)) true
  Sql.publish (importedEvents command.ownerId reverse inserted)
  Sql.commit
  let contacts ← getMany command.ownerId (matched.map Prod.fst)
  return ⟨command.entries.length, matched.length, pending.length, invalid, contacts⟩

theorem splitByRegistration_apart (userId : UserId)
    (byHash : List (IdentifierHash × ImportContactEntry)) (resolved : List (IdentifierHash × UserId))
    (blocked : List UserId) :
    ∀ entry ∈ (splitByRegistration userId byHash resolved blocked).1, entry.1 ∉ blocked := by
  unfold splitByRegistration
  have none : ∀ entry ∈ (([], []) : List (UserId × ImportContactEntry) × List PendingUpsert).1,
      entry.1 ∉ blocked := fun _ member => nomatch member
  generalize (([], []) : List (UserId × ImportContactEntry) × List PendingUpsert) = parts at none ⊢
  induction byHash generalizing parts with
  | nil => exact none
  | cons item rest ih =>
      refine ih _ fun entry member => ?_
      unfold splitEntry at member
      split at member
      · exact none entry member
      · split at member
        · exact none entry member
        · rename_i userId _ passed
          simp only [setDefault] at member
          split at member
          · exact none entry member
          · rcases List.mem_append.mp member with old | new
            · exact none entry old
            · rw [List.mem_singleton.mp new]
              exact fun inside => passed (.inr inside)

theorem writes_importFrom {command : ImportContactsCommand}
    {byHash : List (IdentifierHash × ImportContactEntry)} {invalid : Nat}
    {resolved : List (IdentifierHash × UserId)} {blocked : List UserId}
    (within : command.ownerId = ownerId → targets ⊆ blocked) :
    (importFrom services command byHash invalid resolved blocked).Writes ownerId
      (Write.Sparing ownerId targets) := by
  unfold importFrom
  have apart := splitByRegistration_apart command.ownerId byHash resolved blocked
  revert apart
  generalize splitByRegistration command.ownerId byHash resolved blocked = parts
  obtain ⟨matched, pending⟩ := parts
  intro apart
  refine Sql.writes_bind (writes_checkLimit _ _) fun _ => ?_
  refine Sql.writes_bind (writes_upsertMany ?_) fun inserted => ?_
  · intro entry member owned
    obtain ⟨item, inside, rfl⟩ := List.mem_map.mp member
    exact fun member => apart item inside (within owned member)
  refine Sql.writes_bind (writes_upsertPendingMany _ _) fun _ => ?_
  refine Sql.writes_bind (writes_findReverseOwners _ _) fun reverse => ?_
  refine Sql.writes_bind (writes_setMutual _ _ _) fun _ => ?_
  refine Sql.writes_bind (Sql.writes_publish sparing_publish) fun _ => ?_
  refine Sql.writes_bind Sql.writes_commit fun _ => ?_
  exact Sql.writes_bind (writes_getMany _ _) fun _ => Sql.writes_pure _

def Command.concerns (ownerId : UserId) : Command → Bool
  | .addContact command => command.ownerId == ownerId
  | .importContacts command => command.ownerId == ownerId
  | .blockUser command => command.ownerId == ownerId
  | .unblockUser command => command.ownerId == ownerId
  | .getBlockList userId => userId == ownerId
  | _ => false

theorem writes_sql {tag : Command} (other : tag.concerns ownerId = false) :
    (tag.sql services).Writes ownerId (Write.Sparing ownerId []) := by
  cases tag with
  | addContact command =>
      have apart : command.ownerId ≠ ownerId := beq_eq_false_iff_ne.mp other
      refine Sql.writes_map ?_
      unfold addContact
      refine Sql.writes_bind (Sql.writes_lift _) fun _ => ?_
      refine Sql.writes_bind (writes_contactTarget _) fun profile => ?_
      refine Sql.writes_bind (Sql.writes_lift _) fun profile => ?_
      refine Sql.writes_bind (Sql.writes_lift _) fun _ => ?_
      refine Sql.writes_bind (writes_getBlockList apart) fun blocked => ?_
      exact writes_addFrom fun same => absurd same apart
  | removeContact command =>
      refine Sql.writes_map ?_
      unfold removeContact
      refine Sql.writes_bind (Sql.writes_lift _) fun _ => ?_
      refine Sql.writes_bind (Sql.writes_query (Sql.acting_id rfl nofun nofun)) fun contact => ?_
      refine Sql.writes_bind (Sql.writes_lift _) fun contact => ?_
      refine Sql.writes_bind (writes_deleteContact _ _) fun _ => ?_
      exact Sql.writes_bind (Sql.writes_publish sparing_publish) fun _ => Sql.writes_commit
  | updateContact command =>
      refine Sql.writes_map ?_
      unfold updateContact
      refine Sql.writes_bind (Sql.writes_lift _) fun _ => ?_
      refine Sql.writes_bind (Sql.writes_query (Sql.acting_id rfl nofun nofun)) fun contact => ?_
      refine Sql.writes_bind (Sql.writes_lift _) fun contact => ?_
      refine Sql.writes_bind Sql.writes_now fun now => ?_
      refine Sql.writes_bind (Sql.writes_lift _) fun renamed => ?_
      refine Sql.writes_bind (writes_flushed _ _) fun _ => ?_
      exact Sql.writes_bind Sql.writes_commit fun _ => Sql.writes_pure _
  | importContacts command =>
      have apart : command.ownerId ≠ ownerId := beq_eq_false_iff_ne.mp other
      refine Sql.writes_map ?_
      unfold importContacts
      refine Sql.writes_bind (Sql.writes_lift _) fun _ => ?_
      refine Sql.writes_bind (Sql.writes_lift _) fun _ => ?_
      refine Sql.writes_bind (Sql.writes_lift _) fun hashed => ?_
      refine Sql.writes_bind (writes_consumeQuota _ _) fun granted => ?_
      refine Sql.writes_bind (Sql.writes_lift _) fun _ => ?_
      refine Sql.writes_bind (writes_resolve _) fun resolved => ?_
      refine Sql.writes_bind (writes_getBlockList apart) fun blocked => ?_
      exact writes_importFrom fun same => absurd same apart
  | registerUserIdentifier rounds command =>
      refine Sql.writes_map ?_
      unfold registerUserIdentifier
      refine Sql.writes_bind (Sql.writes_lift _) fun hash => ?_
      cases hash with
      | none => exact Sql.writes_pure _
      | some identifierHash =>
          refine Sql.writes_bind Sql.writes_now fun now => ?_
          refine Sql.writes_bind (Sql.writes_update (Sql.acting_id rfl nofun nofun) ?_) fun _ => ?_
          · intro seen write member
            rw [List.mem_singleton.mp member]
            exact ⟨trivial, nofun⟩
          · exact Sql.writes_bind Sql.writes_commit fun _ => writes_resolvePending _ _ _ _ _ _
  | blockUser command =>
      have apart : command.ownerId ≠ ownerId := beq_eq_false_iff_ne.mp other
      refine Sql.writes_map ?_
      unfold blockUser
      refine Sql.writes_bind (Sql.writes_lift _) fun _ => ?_
      refine Sql.writes_bind (Sql.writes_lift _) fun _ => ?_
      refine Sql.writes_bind (Sql.writes_query (Sql.acting_id rfl nofun nofun)) fun existing => ?_
      split
      · exact Sql.writes_pure _
      · refine Sql.writes_bind (Sql.writes_publish sparing_publish) fun _ => ?_
        refine Sql.writes_bind (Sql.writes_execute (Sql.acting_id rfl nofun nofun) ?_) fun _ => ?_
        · intro began seen answer written ran write member
          split at ran
          · cases ran
          · cases ran
            rw [List.mem_singleton.mp member]
            exact ⟨apart, nofun⟩
        · exact Sql.writes_bind Sql.writes_commit fun _ => writes_invalidateBlockList apart
  | unblockUser command =>
      have apart : command.ownerId ≠ ownerId := beq_eq_false_iff_ne.mp other
      refine Sql.writes_map ?_
      unfold unblockUser
      refine Sql.writes_bind (Sql.writes_lift _) fun _ => ?_
      refine Sql.writes_query_bind (Sql.acting_id rfl nofun nofun) fun seen => ?_
      cases there : seen.blocked.find? (command.ownerId, command.targetId) with
      | none => exact Sql.writes_pure _
      | some blocked =>
          have key : blocked.key = (command.ownerId, command.targetId) := Table.key_of_find? there
          refine Sql.writes_bind (Sql.writes_publish sparing_publish) fun _ => ?_
          refine Sql.writes_bind (Sql.writes_update (Sql.acting_id rfl nofun nofun) ?_) fun _ => ?_
          · intro seen write member
            rw [List.mem_singleton.mp member, key]
            exact ⟨apart, nofun⟩
          · exact Sql.writes_bind Sql.writes_commit fun _ => writes_invalidateBlockList apart
  | getBlockList userId =>
      exact Sql.writes_map (writes_getBlockList (beq_eq_false_iff_ne.mp other))
  | elapse time =>
      refine Sql.writes_map (Sql.writes_redis ⟨?_, fun _ => trivial⟩)
      refine .inr ⟨nofun, nofun, nofun, fun _ => rfl, fun world targets same => ?_⟩
      simp only [World.cachedBlockList] at same ⊢
      split at same
      · split at same
        · rename_i stored _ fresh
          rw [if_pos (by omega)]
          exact same
        · cases same
      · cases same

end Sparing

end Writing

end Messanger.Contacts
