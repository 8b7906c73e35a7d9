import Messanger.Contacts.Models

/-!
The handlers of the address books, statement by statement.
-/

namespace Messanger.Contacts

open Relational Processes

section Models

def validateContactName (services : Services) (name : Option String) :
    Except ContactError (Option String) :=
  match name with
  | none => .ok none
  | some name =>
      let cleaned := services.strip name
      if cleaned = "" then .ok none
      else if maxLenContactName < cleaned.length then .error (.tooLongContactName cleaned)
      else .ok (some cleaned)

def given (name : Option String) : Option String := name.filter fun name => name ≠ ""

namespace UserContact

variable (contact : UserContact)

def rename (services : Services) (firstName lastName : Option String) (now : Nat) :
    Except ContactError UserContact := do
  let first ← validateContactName services firstName
  let last ← validateContactName services lastName
  if (first, last) = (contact.firstName, contact.lastName) then return contact
  else return { contact with firstName := first, lastName := last, updatedAt := now }

def markFavorite (isFavorite : Bool) (now : Nat) : UserContact :=
  if contact.isFavorite = isFavorite then contact
  else { contact with isFavorite := isFavorite, updatedAt := now }

/-- What the mapper writes for a contact that was loaded as `old`: the columns that have changed.
A row that is written without a new `updated_at` gets the time of the transaction. -/
def flushed (old new : UserContact) (began : Nat) : List Write :=
  if old = new then []
  else [.updateContact old.key
    { firstName := if old.firstName = new.firstName then none else some new.firstName
      lastName := if old.lastName = new.lastName then none else some new.lastName
      isFavorite := if old.isFavorite = new.isFavorite then none else some new.isFavorite
      updatedAt := if old.updatedAt = new.updatedAt then began else new.updatedAt }]

end UserContact

def checkContactOwner (ownerId : UserId) (userJwtData : Option UserJWTData) :
    Except ContactError Unit :=
  match userJwtData with
  | none => .ok ()
  | some user =>
      if ownerId = user.id ∨ checkPermission user contactOwnerPermissions then .ok ()
      else .error (.accessDenied (contactOwnerPermissions.filter (· ∉ user.permissions)))

end Models

section Repositories

def found {Answer : Type} (answer : Option Answer) (error : ContactError) :
    Except ContactError Answer :=
  match answer with
  | some answer => .ok answer
  | none => .error error

def require (condition : Bool) (error : ContactError) : Except ContactError Unit :=
  if condition then .ok () else .error error

structure ContactUpsert where
  ownerId : UserId
  contactId : UserId
  source : ContactSource
  firstName : Option String := none
  lastName : Option String := none
  deriving DecidableEq, Repr

def ContactUpsert.key (entry : ContactUpsert) : UserId × UserId := (entry.ownerId, entry.contactId)

def ContactUpsert.row (services : Services) (now : Nat) (entry : ContactUpsert) :
    Except ContactError UserContact := do
  let firstName ← validateContactName services entry.firstName
  let lastName ← validateContactName services entry.lastName
  return {
    ownerId := entry.ownerId
    contactId := entry.contactId
    firstName := firstName
    lastName := lastName
    source := entry.source
    createdAt := now
    updatedAt := now }

/-- `INSERT … ON CONFLICT (owner_id, contact_id) DO UPDATE` of the names that are given. -/
def upsertWrite (seen : Db) (row : UserContact) : Write :=
  match seen.contacts.find? row.key with
  | none => .insertContact row
  | some _ => .updateContact row.key
      { firstName := row.firstName.map some
        lastName := row.lastName.map some
        updatedAt := row.updatedAt }

/-- `upsert_many` and `upsert_many_pairs`: the keys of the rows that were not there. -/
def upsertMany (services : Services) (entries : List ContactUpsert) :
    Sql (List (UserId × UserId)) := do
  if entries.isEmpty then return []
  else
    let now ← Sql.now
    let rows ← (entries.mapM (ContactUpsert.row services now) : Except ContactError _)
    Sql.execute .flush fun _ seen =>
      .ok ((rows.filter fun row => (seen.contacts.find? row.key).isNone).map UserContact.key,
        rows.map (upsertWrite seen))

def findReverseOwners (ownerId : UserId) (contactIds : List UserId) : Sql (List UserId) :=
  if contactIds.isEmpty then pure []
  else Sql.query .select fun seen => seen.findReverseOwners ownerId contactIds

def findForwardContacts (ownerId : UserId) (contactIds : List UserId) : Sql (List UserId) :=
  if contactIds.isEmpty then pure []
  else Sql.query .select fun seen => seen.findForwardContacts ownerId contactIds

def getMany (ownerId : UserId) (contactIds : List UserId) : Sql (List UserContact) :=
  if contactIds.isEmpty then pure []
  else Sql.query .select fun seen => seen.getMany ownerId contactIds

/-- `UPDATE … SET is_mutual WHERE` one of the keys and not yet so. -/
def setMutualKeys (keys : List (UserId × UserId)) (isMutual : Bool) : Sql Unit := do
  let now ← Sql.now
  Sql.update .flush fun seen =>
    (seen.contacts.select fun row => keys.contains row.key && row.isMutual == !isMutual).map
      fun row => .updateContact row.key { isMutual := some isMutual, updatedAt := now }

def bothDirections (ownerId contactId : UserId) : List (UserId × UserId) :=
  [(ownerId, contactId), (contactId, ownerId)]

def setMutual (ownerId : UserId) (contactIds : List UserId) (isMutual : Bool) : Sql Unit :=
  if contactIds.isEmpty then pure ()
  else setMutualKeys (contactIds.flatMap (bothDirections ownerId)) isMutual

def setMutualPairs (pairs : List (UserId × UserId)) : Sql Unit :=
  if pairs.isEmpty then pure ()
  else setMutualKeys (pairs.flatMap fun pair => bothDirections pair.1 pair.2) true

/-- `ContactRepository.delete`, and whether there was a row. -/
def deleteContact (ownerId contactId : UserId) : Sql Bool := do
  let deleted ← Sql.execute .flush fun _ seen =>
    match seen.contact? ownerId contactId with
    | none => .ok (false, [])
    | some row => .ok (true, [.deleteContact row.key])
  if deleted then
    setMutual ownerId [contactId] false
    return true
  else return false

def getBlockList (ownerId : UserId) : Sql (List UserId) := do
  let cached ← (Process.observe (.getBlockList ownerId) fun world => world.cachedBlockList ownerId :
    Handler (Option (List UserId)))
  match cached with
  | some targets => return targets
  | none =>
      let targets ← Sql.query (.allTargetIds ownerId) fun seen => seen.allTargetIds ownerId
      (Process.perform (.setBlockList ownerId) fun world => world.storeBlockList ownerId targets :
        Handler Unit)
      return targets

def invalidateBlockList (ownerId : UserId) : Sql Unit :=
  liftM (Process.perform (.deleteBlockList ownerId) fun world => world.dropBlockList ownerId :
    Handler Unit)

def consumeQuota (ownerId : UserId) (amount : Nat) : Sql Bool := do
  if amount = 0 then return true
  else
    let now ← Sql.now
    let used ← (Process.transact (.incrQuota ownerId) fun world =>
      .ok (world.quotas (ownerId, now / day) + amount, world.addQuota ownerId (now / day) amount) :
        Handler Nat)
    if contactsNewIdentifiersPerDay < used then
      (Process.perform (.decrQuota ownerId) fun world =>
        world.returnQuota ownerId (now / day) amount : Handler Unit)
      return false
    else return true

def resolve (hashes : List IdentifierHash) : Sql (List (IdentifierHash × UserId)) :=
  if hashes.isEmpty then pure []
  else Sql.query (.resolve hashes) fun seen => seen.resolve hashes

structure PendingUpsert where
  identifierHash : IdentifierHash
  firstName : Option String := none
  lastName : Option String := none
  deriving DecidableEq, Repr

def PendingUpsert.row (services : Services) (ownerId : UserId) (now : Nat)
    (entry : PendingUpsert) : Except ContactError PendingContact := do
  let firstName ← validateContactName services entry.firstName
  let lastName ← validateContactName services entry.lastName
  return {
    ownerId := ownerId
    identifierHash := entry.identifierHash
    firstName := firstName
    lastName := lastName
    createdAt := now }

def upsertPendingMany (services : Services) (ownerId : UserId) (entries : List PendingUpsert) :
    Sql Unit := do
  if entries.isEmpty then return ()
  else
    let now ← Sql.now
    let rows ← (entries.mapM (PendingUpsert.row services ownerId now) : Except ContactError _)
    Sql.update .flush fun _ => rows.map .upsertPending

def fetchPendingBatch (identifierHash : IdentifierHash) (afterOwnerId : Option UserId) :
    Sql (List PendingContact) :=
  Sql.query (.fetchPending identifierHash) fun seen =>
    seen.pendingBatch identifierHash pendingResolveBatchSize afterOwnerId

def deletePending (identifierHash : IdentifierHash) (ownerIds : List UserId) : Sql Unit :=
  if ownerIds.isEmpty then pure ()
  else Sql.update .flush fun seen =>
    (seen.pending.select fun row =>
      row.identifierHash == identifierHash && ownerIds.contains row.ownerId).map
        fun row => .deletePending row.key

end Repositories

variable (services : Services)

section Contacts

structure AddContactCommand where
  ownerId : UserId
  userId : Option UserId := none
  username : Option String := none
  firstName : Option String := none
  lastName : Option String := none
  userJwtData : Option UserJWTData := none
  deriving DecidableEq, Repr

def contactTarget (command : AddContactCommand) : Sql (Option Profile) :=
  match command.username, command.userId with
  | some username, _ => Sql.query .select fun seen => seen.profileByUsername services username
  | none, some userId => Sql.query .select fun seen => seen.profileById userId
  | none, none => pure none

/-- `UserContact.create` and the flush of the new row. -/
def createContact (command : AddContactCommand) (contactId : UserId) (isMutual : Bool) :
    Sql (List ContactEvent) := do
  let count ← Sql.query .select fun seen => seen.contactCount command.ownerId
  require (decide (count < maxContactsPerUser)) (.contactLimitExceeded maxContactsPerUser)
  let source := if (given command.username).isSome then .username else .manual
  let firstName ← validateContactName services command.firstName
  let lastName ← validateContactName services command.lastName
  Sql.execute .flush fun began seen =>
    match seen.contact? command.ownerId contactId with
    | some _ => .error .integrity
    | none => .ok ((), [.insertContact
        { ownerId := command.ownerId
          contactId := contactId
          firstName := firstName
          lastName := lastName
          source := source
          isMutual := isMutual
          createdAt := began
          updatedAt := began }])
  return [.contactAdded command.ownerId contactId source isMutual]

def renameContact (command : AddContactCommand) (contact : UserContact) : Sql Unit := do
  let now ← Sql.now
  let renamed ← contact.rename services ((given command.firstName).or contact.firstName)
    ((given command.lastName).or contact.lastName) now
  Sql.execute .flush fun began _ => .ok ((), UserContact.flushed contact renamed began)

def saveContact (command : AddContactCommand) (contactId : UserId) (isMutual : Bool) :
    Option UserContact → Sql (List ContactEvent)
  | none => createContact services command contactId isMutual
  | some contact => do
      renameContact services command contact
      return []

def addContact (command : AddContactCommand) : Sql UserContact := do
  checkContactOwner command.ownerId command.userJwtData
  let profile ← contactTarget services command
  let profile ← found profile (.notFoundContactTarget command.userId command.username)
  require (decide (profile.id ≠ command.ownerId)) .selfContact
  let blocked ← getBlockList command.ownerId
  require (decide (profile.id ∉ blocked)) (.contactBlocked profile.id)
  let contact ← Sql.query .select fun seen => seen.contact? command.ownerId profile.id
  let reverse ← findReverseOwners command.ownerId [profile.id]
  let isMutual := reverse.contains profile.id
  let events ← saveContact services command profile.id isMutual contact
  setMutual command.ownerId (if isMutual then [profile.id] else []) true
  Sql.publish events
  Sql.commit
  let contact ← Sql.query .select fun seen => seen.contact? command.ownerId profile.id
  found contact (.notFoundContact profile.id)

structure ContactCommand where
  ownerId : UserId
  contactId : UserId
  userJwtData : Option UserJWTData := none
  deriving DecidableEq, Repr

def removeContact (command : ContactCommand) : Sql Unit := do
  checkContactOwner command.ownerId command.userJwtData
  let contact ← Sql.query .select fun seen => seen.contact? command.ownerId command.contactId
  let contact ← found contact (.notFoundContact command.contactId)
  let _ ← deleteContact command.ownerId command.contactId
  Sql.publish [.contactRemoved contact.ownerId contact.contactId]
  Sql.commit

structure UpdateContactCommand extends ContactCommand where
  firstName : Option String := none
  lastName : Option String := none
  isFavorite : Option Bool := none
  deriving DecidableEq, Repr

def updateContact (command : UpdateContactCommand) : Sql UserContact := do
  checkContactOwner command.ownerId command.userJwtData
  let contact ← Sql.query .select fun seen => seen.contact? command.ownerId command.contactId
  let contact ← found contact (.notFoundContact command.contactId)
  let now ← Sql.now
  let renamed ← contact.rename services command.firstName command.lastName now
  let updated := match command.isFavorite with
    | none => renamed
    | some isFavorite => renamed.markFavorite isFavorite now
  Sql.execute .flush fun began _ => .ok ((), UserContact.flushed contact updated began)
  Sql.commit
  return updated

end Contacts

section Import

structure ImportContactEntry where
  email : String
  firstName : Option String := none
  lastName : Option String := none
  deriving DecidableEq, Repr

structure ImportContactsCommand where
  ownerId : UserId
  entries : List ImportContactEntry := []
  userJwtData : Option UserJWTData := none
  deriving DecidableEq, Repr

structure ImportContactsResult where
  accepted : Nat
  matched : Nat
  pending : Nat
  invalid : Nat
  contacts : List UserContact
  deriving DecidableEq, Repr

/-- `dict.setdefault` of a dictionary in the order of its first keys. -/
def setDefault {Key Value : Type} [DecidableEq Key] (entries : List (Key × Value)) (key : Key)
    (value : Value) : List (Key × Value) :=
  if (entries.lookup key).isSome then entries else entries ++ [(key, value)]

/-- `_hash_entries`: the entries by their hash, and how many have none. -/
def hashEntries : List ImportContactEntry →
    Except ContactError (List (IdentifierHash × ImportContactEntry) × Nat) :=
  List.foldlM (fun (byHash, invalid) entry => do
    match ← services.hash entry.email with
    | none => return (byHash, invalid + 1)
    | some identifierHash => return (setDefault byHash identifierHash entry, invalid)) ([], 0)

/-- One entry of `_split_by_registration`, with the block list that was read. -/
def splitEntry (ownerId : UserId) (resolved : List (IdentifierHash × UserId))
    (blocked : List UserId) (parts : List (UserId × ImportContactEntry) × List PendingUpsert)
    (item : IdentifierHash × ImportContactEntry) :
    List (UserId × ImportContactEntry) × List PendingUpsert :=
  match resolved.lookup item.1 with
  | none => (parts.1, parts.2 ++ [⟨item.1, item.2.firstName, item.2.lastName⟩])
  | some userId =>
      if userId = ownerId ∨ userId ∈ blocked then parts
      else (setDefault parts.1 userId item.2, parts.2)

def splitByRegistration (ownerId : UserId) (byHash : List (IdentifierHash × ImportContactEntry))
    (resolved : List (IdentifierHash × UserId)) (blocked : List UserId) :
    List (UserId × ImportContactEntry) × List PendingUpsert :=
  byHash.foldl (splitEntry ownerId resolved blocked) ([], [])

def checkLimit (ownerId : UserId) (incoming : Nat) : Sql Unit := do
  if incoming = 0 then return ()
  else
    let current ← Sql.query .select fun seen => seen.contactCount ownerId
    require (decide (current + incoming ≤ maxContactsPerUser))
      (.contactLimitExceeded maxContactsPerUser)

def importedContact (ownerId : UserId) (item : UserId × ImportContactEntry) : ContactUpsert :=
  ⟨ownerId, item.1, .fromImport, item.2.firstName, item.2.lastName⟩

def importedEvents (ownerId : UserId) (reverse : List UserId)
    (inserted : List (UserId × UserId)) : List ContactEvent :=
  ((inserted.map Prod.snd).insertionSort (· ≤ ·)).map fun contactId =>
    .contactAdded ownerId contactId .fromImport (reverse.contains contactId)

def importContacts (command : ImportContactsCommand) : Sql ImportContactsResult := do
  checkContactOwner command.ownerId command.userJwtData
  require (decide (command.entries.length ≤ contactsImportMaxBatch))
    (.importBatchTooLarge contactsImportMaxBatch command.entries.length)
  let (byHash, invalid) ← hashEntries services command.entries
  let granted ← consumeQuota command.ownerId byHash.length
  require granted (.identifierQuotaExceeded contactsNewIdentifiersPerDay)
  let resolved ← resolve (byHash.map Prod.fst)
  let blocked ← getBlockList command.ownerId
  let (matched, pending) := splitByRegistration command.ownerId byHash resolved blocked
  checkLimit command.ownerId matched.length
  let inserted ← upsertMany services (matched.map (importedContact command.ownerId))
  upsertPendingMany services command.ownerId pending
  let reverse ← findReverseOwners command.ownerId (matched.map Prod.fst)
  setMutual command.ownerId (reverse.insertionSort (· ≤ ·)) true
  Sql.publish (importedEvents command.ownerId reverse inserted)
  Sql.commit
  let contacts ← getMany command.ownerId (matched.map Prod.fst)
  return ⟨command.entries.length, matched.length, pending.length, invalid, contacts⟩

end Import

section Register

structure RegisterUserIdentifierCommand where
  userId : UserId
  email : String
  deriving DecidableEq, Repr

def PendingContact.upsert (userId : UserId) (pending : PendingContact) : ContactUpsert :=
  ⟨pending.ownerId, userId, .fromImport, pending.firstName, pending.lastName⟩

def resolvedEvents (eventsLimit : Nat) (mutualOwners : List UserId)
    (insertedPairs : List (UserId × UserId)) : List ContactEvent :=
  ((insertedPairs.insertionSort fun left right => left.1 < right.1 ∨
      left.1 = right.1 ∧ left.2 ≤ right.2).take eventsLimit).map fun (ownerId, contactId) =>
    .contactAdded ownerId contactId .fromImport (mutualOwners.contains ownerId)

def applyBatch (identifierHash : IdentifierHash) (batch : List PendingContact) (userId : UserId)
    (eventsLeft : Nat) : Sql Nat := do
  let waiting := batch.filter fun pending => pending.ownerId ≠ userId
  let insertedPairs ← upsertMany services (waiting.map (PendingContact.upsert userId))
  let mutualOwners ← findForwardContacts userId (waiting.map PendingContact.ownerId)
  setMutualPairs ((mutualOwners.insertionSort (· ≤ ·)).map fun ownerId => (ownerId, userId))
  let events := resolvedEvents eventsLeft mutualOwners insertedPairs
  deletePending identifierHash (batch.map PendingContact.ownerId)
  Sql.publish events
  Sql.commit
  return events.length

/-- `_resolve_pending`, for so many rounds of its loop at most. -/
def resolvePending (identifierHash : IdentifierHash) (userId : UserId) :
    Nat → Nat → Nat → Option UserId → Sql Nat
  | 0, _, _, _ => liftM (.error .unfinished : Except ContactError Nat)
  | rounds + 1, resolved, eventsLeft, afterOwnerId => do
      let batch ← fetchPendingBatch identifierHash afterOwnerId
      match batch.getLast? with
      | none => return resolved
      | some last =>
          let published ← applyBatch services identifierHash batch userId eventsLeft
          resolvePending identifierHash userId rounds (resolved + batch.length)
            (eventsLeft - published) (some last.ownerId)

def registerUserIdentifier (rounds : Nat) (command : RegisterUserIdentifierCommand) : Sql Nat := do
  match ← services.hash command.email with
  | none => return 0
  | some identifierHash =>
      let now ← Sql.now
      Sql.update .flush fun _ => [.upsertIdentifier ⟨identifierHash, .email, command.userId, now⟩]
      Sql.commit
      resolvePending services identifierHash command.userId rounds 0 pendingResolveMaxEvents none

end Register

section Blocks

structure BlockCommand where
  ownerId : UserId
  targetId : UserId
  userJwtData : Option UserJWTData := none
  deriving DecidableEq, Repr

def blockUser (command : BlockCommand) : Sql Unit := do
  checkContactOwner command.ownerId command.userJwtData
  require (decide (command.ownerId ≠ command.targetId)) .selfContact
  let existing ← Sql.query .select fun seen =>
    seen.blocked.find? (command.ownerId, command.targetId)
  if existing.isSome then return ()
  else
    Sql.publish [.userBlocked command.ownerId command.targetId]
    Sql.execute .flush fun began seen =>
      match seen.blocked.find? (command.ownerId, command.targetId) with
      | some _ => .error .integrity
      | none => .ok ((), [.insertBlocked ⟨command.ownerId, command.targetId, began⟩])
    Sql.commit
    invalidateBlockList command.ownerId

def unblockUser (command : BlockCommand) : Sql Unit := do
  checkContactOwner command.ownerId command.userJwtData
  let blocked ← Sql.query .select fun seen =>
    seen.blocked.find? (command.ownerId, command.targetId)
  match blocked with
  | none => return ()
  | some blocked =>
      Sql.publish [.userUnblocked command.ownerId command.targetId]
      Sql.update .flush fun _ => [.deleteBlocked blocked.key]
      Sql.commit
      invalidateBlockList command.ownerId

end Blocks

inductive ContactAnswer where
  | none
  | contact (contact : UserContact)
  | imported (result : ImportContactsResult)
  | resolved (count : Nat)
  | blockList (targetIds : List UserId)
  deriving DecidableEq, Repr

/-- What a task of the address books does; `elapse` is the clock that goes on. -/
inductive Command where
  | addContact (command : AddContactCommand)
  | removeContact (command : ContactCommand)
  | updateContact (command : UpdateContactCommand)
  | importContacts (command : ImportContactsCommand)
  | registerUserIdentifier (rounds : Nat) (command : RegisterUserIdentifierCommand)
  | blockUser (command : BlockCommand)
  | unblockUser (command : BlockCommand)
  | getBlockList (ownerId : UserId)
  | elapse (time : Nat)
  deriving DecidableEq, Repr

namespace Command

def sql : Command → Sql ContactAnswer
  | addContact command => ContactAnswer.contact <$> Contacts.addContact services command
  | removeContact command => (fun _ => .none) <$> Contacts.removeContact command
  | updateContact command => ContactAnswer.contact <$> Contacts.updateContact services command
  | importContacts command => ContactAnswer.imported <$> Contacts.importContacts services command
  | registerUserIdentifier rounds command =>
      ContactAnswer.resolved <$> Contacts.registerUserIdentifier services rounds command
  | blockUser command => (fun _ => .none) <$> Contacts.blockUser command
  | unblockUser command => (fun _ => .none) <$> Contacts.unblockUser command
  | getBlockList ownerId => ContactAnswer.blockList <$> Contacts.getBlockList ownerId
  | elapse time => (fun _ => .none) <$> (liftM (Process.perform .clock fun world =>
      { world with clock := world.clock + time } : Handler Unit) : Sql Unit)

def handle (command : Command) : Handler ContactAnswer := (command.sql services).handler

end Command

end Messanger.Contacts
