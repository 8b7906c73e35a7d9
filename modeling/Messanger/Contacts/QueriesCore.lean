import Messanger.Contacts.BlockLists
import Messanger.Library.Keyset

/-!
The pages of an address book, and a client that copies the book: it reads all pages, keeps the
version that comes with the last one, and reads what is not older than that version again.
-/

namespace Messanger.Contacts

open Relational Processes

variable (services : Services)

namespace Db

variable (db : Db)

/-- `list_page`: the rows of the page, and whether there are more. -/
def listPage (ownerId : UserId) (limit : Nat) (afterContactId : Option UserId)
    (updatedAfter : Option Nat) : List UserContact × Bool :=
  let contacts := ((db.contacts.select fun row => row.ownerId == ownerId &&
    afterContactId.all (fun bound => decide (bound < row.contactId)) &&
    updatedAfter.all (fun bound => decide (bound ≤ row.updatedAt))).insertionSort
      fun left right => left.contactId ≤ right.contactId).take (limit + 1)
  (contacts.take limit, decide (limit < contacts.length))

def maxUpdatedAt (ownerId : UserId) : Option Nat :=
  ((db.contacts.select fun row => row.ownerId == ownerId).map UserContact.updatedAt).max?

end Db

section Queries

structure GetContactsQuery where
  ownerId : UserId
  limit : Int := 100
  afterContactId : Option UserId := none
  updatedAfter : Option Nat := none
  userJwtData : Option UserJWTData := none
  deriving DecidableEq, Repr

structure ContactList where
  contacts : List UserContact
  hasNext : Bool
  nextContactId : Option UserId
  version : Option Nat
  deriving DecidableEq, Repr

def pageLimit (limit : Int) : Nat := (min (max limit 1) contactsMaxPageSize).toNat

def getContacts (query : GetContactsQuery) : Sql ContactList := do
  checkContactOwner query.ownerId query.userJwtData
  let limit := pageLimit query.limit
  let (contacts, hasNext) ← Sql.query
    (.listPage query.ownerId limit query.afterContactId query.updatedAfter) fun seen =>
      seen.listPage query.ownerId limit query.afterContactId query.updatedAfter
  let version ← (if hasNext then pure none
    else Sql.query (.maxUpdatedAt query.ownerId) fun seen => seen.maxUpdatedAt query.ownerId)
  return {
    contacts := contacts
    hasNext := hasNext
    nextContactId := if hasNext then contacts.getLast?.map UserContact.contactId else none
    version := version }

end Queries

section Clients

structure Copy where
  rows : List UserContact := []
  version : Option Nat := none
  deriving DecidableEq, Repr

def mergeRows (rows page : List UserContact) : List UserContact :=
  page.foldl (fun rows row => row :: rows.filter fun old => old.contactId ≠ row.contactId) rows

def rowOf (rows : List UserContact) (contactId : UserId) : Option UserContact :=
  rows.find? fun row => row.contactId == contactId

structure Client where
  ownerId : UserId
  limit : Int := 100
  userJwtData : Option UserJWTData := none
  deriving DecidableEq, Repr

namespace Client

variable (client : Client)

def readPages (updatedAfter : Option Nat) :
    Nat → List UserContact → Option UserId → Handler Copy
  | 0, _, _ => .done (.error .unfinished)
  | requests + 1, rows, afterContactId => do
      let page ← (getContacts {
        ownerId := client.ownerId
        limit := client.limit
        afterContactId := afterContactId
        updatedAfter := updatedAfter
        userJwtData := client.userJwtData }).handler
      if page.hasNext then
        readPages updatedAfter requests (mergeRows rows page.contacts) page.nextContactId
      else return ⟨mergeRows rows page.contacts, page.version⟩

def sync (requests : Nat) : Nat → Copy → Handler Copy
  | 0, copy => return copy
  | passes + 1, copy => do
      let copy ← client.readPages copy.version requests copy.rows none
      sync requests passes copy

end Client

/-- Who works with the address books. -/
inductive Party where
  | command (command : Command)
  | client (client : Client) (requests passes : Nat)
  deriving DecidableEq, Repr

inductive PartyAnswer where
  | command (answer : ContactAnswer)
  | copy (copy : Copy)
  deriving DecidableEq, Repr

def Party.handle : Party → Handler PartyAnswer
  | .command asked => do return .command (← asked.handle services)
  | .client reader requests passes => do return .copy (← reader.sync requests passes {})

end Clients

end Messanger.Contacts
