import Mathlib.Data.List.Sort
import Messanger.Chats.Models
import Messanger.Library.Processes
import Messanger.Library.Session
import Messanger.Library.Table

/-!
The address books of the profiles: the rows of contacts, identifiers, pending contacts and blocked
users, what a transaction writes to them, and how a handler runs its statements.  Other sessions
see nothing of a transaction before its commit; a Redis command shows at once.
-/

namespace Messanger.Contacts

open Relational Processes

abbrev IdentifierHash := List UInt8

inductive ContactSource where
  | fromImport
  | username
  | invite
  | manual
  deriving DecidableEq, Repr

inductive IdentifierKind where
  | email
  | phone
  deriving DecidableEq, Repr

inductive ContactEvent where
  | contactAdded (ownerId contactId : UserId) (source : ContactSource) (isMutual : Bool)
  | contactRemoved (ownerId contactId : UserId)
  | userBlocked (ownerId targetId : UserId)
  | userUnblocked (ownerId targetId : UserId)
  deriving DecidableEq, Repr

/-- The columns of a profile that the contacts read. -/
structure Profile where
  id : UserId
  username : String
  isDeleted : Bool := false
  updatedAt : Nat := 0
  deriving DecidableEq, Repr

structure UserContact where
  ownerId : UserId
  contactId : UserId
  firstName : Option String := none
  lastName : Option String := none
  source : ContactSource
  isMutual : Bool := false
  isFavorite : Bool := false
  createdAt : Nat
  updatedAt : Nat
  deriving DecidableEq, Repr

def UserContact.key (row : UserContact) : UserId × UserId := (row.ownerId, row.contactId)

structure UserIdentifier where
  identifierHash : IdentifierHash
  kind : IdentifierKind
  userId : UserId
  createdAt : Nat
  deriving DecidableEq, Repr

structure PendingContact where
  ownerId : UserId
  identifierHash : IdentifierHash
  firstName : Option String := none
  lastName : Option String := none
  createdAt : Nat
  deriving DecidableEq, Repr

def PendingContact.key (row : PendingContact) : UserId × IdentifierHash :=
  (row.ownerId, row.identifierHash)

def UserIdentifier.merge (row old : UserIdentifier) : UserIdentifier :=
  { old with userId := row.userId, kind := row.kind }

@[simp] theorem UserIdentifier.identifierHash_merge (row old : UserIdentifier) :
    (row.merge old).identifierHash = old.identifierHash := rfl

def PendingContact.merge (row old : PendingContact) : PendingContact :=
  { old with
    firstName := row.firstName.or old.firstName
    lastName := row.lastName.or old.lastName }

@[simp] theorem PendingContact.key_merge (row old : PendingContact) :
    (row.merge old).key = old.key := rfl

structure BlockedUser where
  ownerId : UserId
  targetId : UserId
  createdAt : Nat
  deriving DecidableEq, Repr

def BlockedUser.key (row : BlockedUser) : UserId × UserId := (row.ownerId, row.targetId)

inductive ContactError where
  | accessDenied (needPermissions : List String)
  | notFoundContactTarget (userId : Option UserId) (username : Option String)
  | selfContact
  | contactBlocked (userId : UserId)
  | contactLimitExceeded (limit : Nat)
  | notFoundContact (contactId : UserId)
  | tooLongContactName (name : String)
  | importBatchTooLarge (limit current : Nat)
  | identifierQuotaExceeded (limit : Nat)
  | identifierPepperNotConfigured
  /-- `IntegrityError`: an insert whose primary key is taken. -/
  | integrity
  /-- The loop has not come to its end in the rounds it was given. -/
  | unfinished
  deriving DecidableEq, Repr

section Config

def maxContactsPerUser : Nat := 5000

def maxLenContactName : Nat := 64

def contactsImportMaxBatch : Nat := 500

def contactsNewIdentifiersPerDay : Nat := 5000

def pendingResolveBatchSize : Nat := 500

def pendingResolveMaxEvents : Nat := 100

def blockListCacheTtl : Nat := 300

def contactsMaxPageSize : Nat := 500

def contactOwnerPermissions : List String := ["profile:update", "user:update"]

def second : Nat := 1000000

def day : Nat := 24 * 60 * 60 * second

end Config

/-- What the handlers call and the repository does not contain. -/
structure Services where
  /-- `IdentifierHasher.hash` of an address with the pepper of the deployment. -/
  hash : String → Except ContactError (Option IdentifierHash)
  /-- `lower` of the database. -/
  lower : String → String
  /-- `str.strip`. -/
  strip : String → String

/-- The columns an `UPDATE` of a contact sets. -/
structure ContactChange where
  firstName : Option (Option String) := none
  lastName : Option (Option String) := none
  isMutual : Option Bool := none
  isFavorite : Option Bool := none
  updatedAt : Nat
  deriving DecidableEq, Repr

def ContactChange.apply (change : ContactChange) (row : UserContact) : UserContact :=
  { row with
    firstName := change.firstName.getD row.firstName
    lastName := change.lastName.getD row.lastName
    isMutual := change.isMutual.getD row.isMutual
    isFavorite := change.isFavorite.getD row.isFavorite
    updatedAt := change.updatedAt }

@[simp] theorem ContactChange.key_apply (change : ContactChange) (row : UserContact) :
    (change.apply row).key = row.key := rfl

structure Db where
  profiles : List Profile := []
  contacts : Table UserContact (UserId × UserId) UserContact.key := .empty
  identifiers : Table UserIdentifier IdentifierHash UserIdentifier.identifierHash := .empty
  pending : Table PendingContact (UserId × IdentifierHash) PendingContact.key := .empty
  blocked : Table BlockedUser (UserId × UserId) BlockedUser.key := .empty
  outbox : List ContactEvent := []

/-- What a statement writes, row by row. -/
inductive Write where
  | insertContact (row : UserContact)
  | updateContact (key : UserId × UserId) (change : ContactChange)
  | deleteContact (key : UserId × UserId)
  | upsertIdentifier (row : UserIdentifier)
  | upsertPending (row : PendingContact)
  | deletePending (key : UserId × IdentifierHash)
  | insertBlocked (row : BlockedUser)
  | deleteBlocked (key : UserId × UserId)
  | publish (event : ContactEvent)
  deriving DecidableEq, Repr

namespace Db

variable (db : Db)

/-- `INSERT … ON CONFLICT (identifier_hash) DO UPDATE SET user_id, kind`. -/
def upsertIdentifier (row : UserIdentifier) : Db :=
  { db with
    identifiers :=
      match db.identifiers.find? row.identifierHash with
      | none => db.identifiers.insert row
      | some _ => db.identifiers.update (fun old => old.identifierHash == row.identifierHash)
          row.merge row.identifierHash_merge }

/-- `INSERT … ON CONFLICT (owner_id, identifier_hash) DO UPDATE` of the names that are given. -/
def upsertPending (row : PendingContact) : Db :=
  { db with
    pending :=
      match db.pending.find? row.key with
      | none => db.pending.insert row
      | some _ => db.pending.update (fun old => old.key == row.key) row.merge row.key_merge }

def write : Write → Db → Db
  | .insertContact row, db => { db with contacts := db.contacts.insert row }
  | .updateContact key change, db =>
      { db with
        contacts := db.contacts.update (fun row => row.key == key) change.apply change.key_apply }
  | .deleteContact key, db => { db with contacts := db.contacts.delete fun row => row.key == key }
  | .upsertIdentifier row, db => db.upsertIdentifier row
  | .upsertPending row, db => db.upsertPending row
  | .deletePending key, db => { db with pending := db.pending.delete fun row => row.key == key }
  | .insertBlocked row, db => { db with blocked := db.blocked.insert row }
  | .deleteBlocked key, db => { db with blocked := db.blocked.delete fun row => row.key == key }
  | .publish event, db => { db with outbox := db.outbox ++ [event] }

instance : Storage Db Write := ⟨write⟩

section Reads

def contact? (ownerId contactId : UserId) : Option UserContact :=
  db.contacts.find? (ownerId, contactId)

def contactCount (ownerId : UserId) : Nat := db.contacts.count fun row => row.ownerId == ownerId

def profileById (id : UserId) : Option Profile := db.profiles.find? fun profile => profile.id == id

def profileByUsername (services : Services) (username : String) : Option Profile :=
  ((db.profiles.filter fun profile => !profile.isDeleted &&
    services.lower profile.username == services.lower username).insertionSort
      fun left right => right.updatedAt ≤ left.updatedAt).head?

def findReverseOwners (ownerId : UserId) (contactIds : List UserId) : List UserId :=
  (db.contacts.select fun row => row.contactId == ownerId && contactIds.contains row.ownerId).map
    UserContact.ownerId

def findForwardContacts (ownerId : UserId) (contactIds : List UserId) : List UserId :=
  (db.contacts.select fun row => row.ownerId == ownerId && contactIds.contains row.contactId).map
    UserContact.contactId

def resolve (hashes : List IdentifierHash) : List (IdentifierHash × UserId) :=
  (db.identifiers.select fun row => hashes.contains row.identifierHash).map
    fun row => (row.identifierHash, row.userId)

/-- `fetch_pending_batch`. -/
def pendingBatch (identifierHash : IdentifierHash) (limit : Nat) (afterOwnerId : Option UserId) :
    List PendingContact :=
  ((db.pending.select fun row => row.identifierHash == identifierHash &&
    afterOwnerId.all fun bound => decide (bound < row.ownerId)).insertionSort
      fun left right => left.ownerId ≤ right.ownerId).take limit

def allTargetIds (ownerId : UserId) : List UserId :=
  (db.blocked.select fun row => row.ownerId == ownerId).map BlockedUser.targetId

def getMany (ownerId : UserId) (contactIds : List UserId) : List UserContact :=
  (db.contacts.select fun row => row.ownerId == ownerId && contactIds.contains row.contactId).insertionSort
    fun left right => left.contactId ≤ right.contactId

end Reads

end Db

structure Stored where
  targets : List UserId
  expiresAt : Nat
  deriving DecidableEq, Repr

/-- The database, Redis and the clock.  The quota of a day is kept under a key of that day. -/
structure World where
  clock : Nat := 0
  db : Db := {}
  blockLists : UserId → Option Stored := fun _ => none
  quotas : UserId × Nat → Nat := fun _ => 0

namespace World

variable (world : World)

/-- `GET` of the list an owner's key holds: a key whose time is over is not there. -/
def cachedBlockList (ownerId : UserId) : Option (List UserId) :=
  match world.blockLists ownerId with
  | some stored => if world.clock < stored.expiresAt then some stored.targets else none
  | none => none

def storeBlockList (ownerId : UserId) (targets : List UserId) : World :=
  { world with
    blockLists := Function.update world.blockLists ownerId
      (some ⟨targets, world.clock + blockListCacheTtl * second⟩) }

def dropBlockList (ownerId : UserId) : World :=
  { world with blockLists := Function.update world.blockLists ownerId none }

def addQuota (ownerId dayNumber amount : Nat) : World :=
  { world with
    quotas := Function.update world.quotas (ownerId, dayNumber)
      (world.quotas (ownerId, dayNumber) + amount) }

def returnQuota (ownerId dayNumber amount : Nat) : World :=
  { world with
    quotas := Function.update world.quotas (ownerId, dayNumber)
      (world.quotas (ownerId, dayNumber) - amount) }

def commit (log : List Write) : World := { world with db := applyAll log world.db }

end World

/-- What an action of a handler is. -/
inductive Op where
  | clock
  | select
  | resolve (hashes : List IdentifierHash)
  | fetchPending (identifierHash : IdentifierHash)
  | allTargetIds (ownerId : UserId)
  | listPage (ownerId : UserId) (limit : Nat) (afterContactId : Option UserId)
    (updatedAfter : Option Nat)
  | maxUpdatedAt (ownerId : UserId)
  | flush
  | commit
  | getBlockList (ownerId : UserId)
  | setBlockList (ownerId : UserId)
  | deleteBlockList (ownerId : UserId)
  | incrQuota (ownerId : UserId)
  | decrQuota (ownerId : UserId)
  | answer
  deriving DecidableEq, Repr

def Op.isCommit : Op → Bool
  | .commit => true
  | _ => false

abbrev Handler (Answer : Type) := Process World Op ContactError Answer

structure Transaction where
  log : List Write := []
  began : Option Nat := none
  deriving DecidableEq, Repr

abbrev Sql (Answer : Type) := StateT Transaction (Process World Op ContactError) Answer

namespace Sql

variable {Answer : Type}

/-- One statement: what it answers and writes in the rows the transaction sees.  `now()` of the
database is the time of the first statement of the transaction. -/
def execute (op : Op) (statement : Nat → Db → Except ContactError (Answer × List Write)) :
    Sql Answer := fun transaction =>
  .act op id fun world =>
    let began := transaction.began.getD world.clock
    .done ((statement began (applyAll transaction.log world.db)).map fun (answer, writes) =>
      (answer, ⟨transaction.log ++ writes, some began⟩))

def query (op : Op) (read : Db → Answer) : Sql Answer :=
  execute op fun _ seen => .ok (read seen, [])

def update (op : Op) (writes : Db → List Write) : Sql Unit :=
  execute op fun _ seen => .ok ((), writes seen)

/-- `event_bus.publish`: the events go to the outbox with the transaction. -/
def publish (events : List ContactEvent) : Sql Unit := fun transaction =>
  pure ((), { transaction with log := transaction.log ++ events.map .publish })

def commit : Sql Unit := fun transaction => do
  Process.perform .commit fun world => world.commit transaction.log
  return ((), {})

def now : Sql Nat := fun transaction => do
  let time ← Process.observe .clock World.clock
  return (time, transaction)

/-- The handler: what is still uncommitted at its end is rolled back. -/
def handler (sql : Sql Answer) : Handler Answer := do
  let (answer, _) ← sql {}
  return answer

end Sql

end Messanger.Contacts
