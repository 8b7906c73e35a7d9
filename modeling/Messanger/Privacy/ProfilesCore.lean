import Mathlib.Data.Finset.Basic
import Mathlib.Data.List.Dedup
import Mathlib.Data.List.Sort
import Messanger.Privacy.ProjectionCore

/-!
The privacy settings as the profiles keep them, the event that tells the chats about a change, and
the decision who may see or do what, which the two modules make over their own tables.
-/

namespace Messanger

open Relational

structure ProfilePrivacyException where
  ownerId : UserId
  rule : PrivacyRule
  targetId : UserId
  allow : Bool
  deriving DecidableEq, Repr

structure ProfilePrivacy where
  userId : UserId
  lastSeen : PrivacyVisibility := .default
  photo : PrivacyVisibility := .default
  messages : PrivacyVisibility := .default
  groupInvites : PrivacyVisibility := .default
  calls : PrivacyVisibility := .default
  exceptions : List ProfilePrivacyException := []
  deriving DecidableEq, Repr

structure PrivacyExceptionsLimitError where
  rule : String
  limit : Nat
  current : Nat
  deriving DecidableEq, Repr

def maxPrivacyExceptionsPerRule : Nat := 100

namespace ProfilePrivacy

variable (privacy : ProfilePrivacy)

def visibility : PrivacyRule → PrivacyVisibility
  | .lastSeen => privacy.lastSeen
  | .photo => privacy.photo
  | .messages => privacy.messages
  | .groupInvites => privacy.groupInvites
  | .calls => privacy.calls

def setRule (rule : PrivacyRule) (visibility : PrivacyVisibility) : ProfilePrivacy :=
  match rule with
  | .lastSeen => { privacy with lastSeen := visibility }
  | .photo => { privacy with photo := visibility }
  | .messages => { privacy with messages := visibility }
  | .groupInvites => { privacy with groupInvites := visibility }
  | .calls => { privacy with calls := visibility }

def create (userId : UserId) : ProfilePrivacy :=
  PrivacyRule.all.foldl (fun privacy rule => privacy.setRule rule .default) { userId := userId }

def others (userIds : List UserId) : List UserId := (userIds.filter (· ≠ privacy.userId)).dedup

def replaceExceptions (rule : PrivacyRule) (allow deny : List UserId) :
    Except PrivacyExceptionsLimitError ProfilePrivacy :=
  let allowed := privacy.others allow
  let denied := (privacy.others deny).filter (· ∉ allowed)
  let total := allowed.length + denied.length
  if maxPrivacyExceptionsPerRule < total then
    .error ⟨rule.value, maxPrivacyExceptionsPerRule, total⟩
  else
    .ok { privacy with
      exceptions := privacy.exceptions.filter (fun item => item.rule ≠ rule) ++
        (allowed.insertionSort (· ≤ ·)).map (fun target => ⟨privacy.userId, rule, target, true⟩) ++
        (denied.insertionSort (· ≤ ·)).map fun target => ⟨privacy.userId, rule, target, false⟩ }

def rulesSnapshot : List (String × String) :=
  PrivacyRule.all.map fun rule => (rule.value, (privacy.visibility rule).value)

def bucket (rule : PrivacyRule) (allow : Bool) : List UserId :=
  ((privacy.exceptions.filter fun item => item.rule = rule ∧ item.allow = allow).map
    ProfilePrivacyException.targetId).insertionSort (· ≤ ·)

def exceptionsSnapshot : List (String × ExceptionBuckets) :=
  PrivacyRule.all.map fun rule => (rule.value, ⟨privacy.bucket rule true, privacy.bucket rule false⟩)

def registerUpdated (createdAt : Nat) : PrivacyEvent :=
  ⟨privacy.userId, privacy.rulesSnapshot, privacy.exceptionsSnapshot, createdAt⟩

end ProfilePrivacy

/-- `profile_privacy` with its exceptions, and the contacts of the profiles. -/
structure ProfileStore where
  privacies : Table ProfilePrivacy UserId ProfilePrivacy.userId := .empty
  contacts : List (UserId × UserId) := []

section Decision

/-- `allowed_by` over the answers of a module's repositories. -/
def allowedBy (visibilityMap : Finset UserId → UserId → Option PrivacyVisibility)
    (exceptionsFor : Finset UserId → UserId → Option Bool)
    (contactsOf : Finset UserId → Finset UserId) (viewer : Option UserId)
    (owners : Finset UserId) : Finset UserId :=
  let self := owners.filter fun owner => viewer = some owner
  let rest := owners.filter fun owner => viewer ≠ some owner
  if rest = ∅ then self
  else
    let visibility := visibilityMap rest
    let exceptions := exceptionsFor rest
    let needContacts := rest.filter fun owner =>
      exceptions owner = none ∧ (visibility owner).getD .default = .contacts
    let contacts := if needContacts = ∅ then ∅ else contactsOf needContacts
    self ∪ rest.filter fun owner =>
      isAllowed ((visibility owner).getD .default) (owner ∈ contacts) (exceptions owner)

namespace ProfileStore

variable (store : ProfileStore)

abbrev privacy? (userId : UserId) : Option ProfilePrivacy := store.privacies.find? userId

def visibilityMap (rule : PrivacyRule) (ownerIds : Finset UserId) (owner : UserId) :
    Option PrivacyVisibility :=
  if owner ∈ ownerIds then (store.privacy? owner).map fun privacy => privacy.visibility rule
  else none

def exceptionsFor (rule : PrivacyRule) (targetId : UserId) (ownerIds : Finset UserId)
    (owner : UserId) : Option Bool :=
  if owner ∈ ownerIds then
    (store.privacy? owner).bind fun privacy =>
      (privacy.exceptions.find? fun item => item.rule = rule ∧ item.targetId = targetId).map
        ProfilePrivacyException.allow
  else none

def ownersHavingContact (contactId : UserId) (ownerIds : Finset UserId) : Finset UserId :=
  ownerIds.filter fun owner => (owner, contactId) ∈ store.contacts

/-- `ProfilePrivacyService.allowed_by`. -/
def allowedBy (rule : PrivacyRule) (viewer : Option UserId) (owners : Finset UserId) :
    Finset UserId :=
  Messanger.allowedBy (store.visibilityMap rule)
    (fun owners owner => viewer.bind fun viewer => store.exceptionsFor rule viewer owners owner)
    (fun owners => (viewer.map fun viewer => store.ownersHavingContact viewer owners).getD ∅)
    viewer owners

end ProfileStore

namespace Projection

variable (db : Projection)

def visibilityMap (rule : PrivacyRule) (ownerIds : Finset UserId) (owner : UserId) :
    Option PrivacyVisibility :=
  if owner ∈ ownerIds then
    (db.profile? owner).map fun row => ChatUserProfile.parseVisibility (row.privacyColumn rule)
  else none

def exceptionsFor (rule : PrivacyRule) (targetId : UserId) (ownerIds : Finset UserId)
    (owner : UserId) : Option Bool :=
  if owner ∈ ownerIds then
    (db.exceptions.find? (owner, rule.value, targetId)).map ChatUserPrivacyException.allow
  else none

def contactsOf (contactId : UserId) (ownerIds : Finset UserId) : Finset UserId :=
  ownerIds.filter fun owner => (owner, contactId) ∈ db.contacts

/-- `ChatPrivacyService.allowed_by`. -/
def allowedBy (rule : PrivacyRule) (viewer : UserId) (owners : Finset UserId) : Finset UserId :=
  Messanger.allowedBy (db.visibilityMap rule) (db.exceptionsFor rule viewer)
    (db.contactsOf viewer) (some viewer) owners

end Projection

end Decision

end Messanger
