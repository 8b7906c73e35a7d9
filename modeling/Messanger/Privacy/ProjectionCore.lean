import Messanger.Chats.ServicesCore

/-!
What the chats keep of profiles, privacy settings, contacts and blocks, the statements that bring
an event of the profiles into it, and the decision who may see or do what.
-/

namespace Messanger

open Relational

abbrev EventId := Nat

namespace PrivacyRule

def all : List PrivacyRule := [.lastSeen, .photo, .messages, .groupInvites, .calls]

def value : PrivacyRule → String
  | .lastSeen => "last_seen"
  | .photo => "photo"
  | .messages => "messages"
  | .groupInvites => "group_invites"
  | .calls => "calls"

theorem mem_all (rule : PrivacyRule) : rule ∈ all := by cases rule <;> decide

theorem value_injective {left right : PrivacyRule} (same : left.value = right.value) :
    left = right := by
  cases left <;> cases right <;> first | rfl | (revert same; decide)

end PrivacyRule

namespace PrivacyVisibility

def value : PrivacyVisibility → String
  | .everybody => "everybody"
  | .contacts => "contacts"
  | .nobody => "nobody"

/-- `DEFAULT_VISIBILITY`. -/
def default : PrivacyVisibility := .everybody

/-- `PrivacyVisibility(value)`. -/
def ofValue? (value : String) : Option PrivacyVisibility :=
  [.everybody, .contacts, .nobody].find? fun visibility => visibility.value == value

end PrivacyVisibility

structure ChatUserProfile where
  userId : UserId
  username : Option String := none
  displayName : Option String := none
  avatarS3Key : Option String := none
  lastEventId : Option EventId := none
  sourceUpdatedAt : Option Nat := none
  privacyLastSeen : String := PrivacyVisibility.default.value
  privacyPhoto : String := PrivacyVisibility.default.value
  privacyMessages : String := PrivacyVisibility.default.value
  privacyGroupInvites : String := PrivacyVisibility.default.value
  privacyCalls : String := PrivacyVisibility.default.value
  privacySourceUpdatedAt : Option Nat := none
  createdAt : Nat
  updatedAt : Nat
  deriving DecidableEq, Repr

namespace ChatUserProfile

/-- The column `privacy_column_name` names. -/
def privacyColumn (profile : ChatUserProfile) : PrivacyRule → String
  | .lastSeen => profile.privacyLastSeen
  | .photo => profile.privacyPhoto
  | .messages => profile.privacyMessages
  | .groupInvites => profile.privacyGroupInvites
  | .calls => profile.privacyCalls

def withPrivacy (profile : ChatUserProfile) (columns : PrivacyRule → String) : ChatUserProfile :=
  { profile with
    privacyLastSeen := columns .lastSeen
    privacyPhoto := columns .photo
    privacyMessages := columns .messages
    privacyGroupInvites := columns .groupInvites
    privacyCalls := columns .calls }

@[simp] theorem privacyColumn_withPrivacy (profile : ChatUserProfile)
    (columns : PrivacyRule → String) : (profile.withPrivacy columns).privacyColumn = columns := by
  funext rule
  cases rule <;> rfl

def parseVisibility (value : String) : PrivacyVisibility :=
  (PrivacyVisibility.ofValue? value).getD .nobody

end ChatUserProfile

structure ChatUserPrivacyException where
  ownerId : UserId
  rule : String
  targetId : UserId
  allow : Bool
  deriving DecidableEq, Repr

def ChatUserPrivacyException.key (row : ChatUserPrivacyException) : UserId × String × UserId :=
  (row.ownerId, row.rule, row.targetId)

structure Projection where
  profiles : Table ChatUserProfile UserId ChatUserProfile.userId := .empty
  exceptions : Table ChatUserPrivacyException (UserId × String × UserId)
    ChatUserPrivacyException.key := .empty
  contacts : List (UserId × UserId) := []
  blocks : List (UserId × UserId) := []

structure ExceptionBuckets where
  allow : List UserId := []
  deny : List UserId := []
  deriving DecidableEq, Repr

structure ProfileEvent where
  userId : UserId
  username : Option String
  displayName : Option String
  avatarS3Key : Option String
  sourceUpdatedAt : Nat
  eventId : Option EventId
  deriving DecidableEq, Repr

/-- `PrivacyUpdated`; the keys of both dictionaries are the values of rules. -/
structure PrivacyEvent where
  userId : UserId
  rules : List (String × String) := []
  exceptions : List (String × ExceptionBuckets) := []
  sourceUpdatedAt : Nat
  deriving DecidableEq, Repr

def ProfileEvent.inserted (event : ProfileEvent) (now : Nat) : ChatUserProfile where
  userId := event.userId
  username := event.username
  displayName := event.displayName
  avatarS3Key := event.avatarS3Key
  lastEventId := event.eventId
  sourceUpdatedAt := some event.sourceUpdatedAt
  createdAt := now
  updatedAt := now

def ProfileEvent.updated (event : ProfileEvent) (now : Nat) (row : ChatUserProfile) :
    ChatUserProfile :=
  { row with
    username := event.username
    displayName := event.displayName
    avatarS3Key := event.avatarS3Key
    lastEventId := event.eventId
    sourceUpdatedAt := some event.sourceUpdatedAt
    updatedAt := now }

def privacyColumns (rules : List (String × String)) (rule : PrivacyRule) : String :=
  String.ofList (((rules.lookup rule.value).getD PrivacyVisibility.default.value).toList.take 16)

def PrivacyEvent.inserted (event : PrivacyEvent) (now : Nat) : ChatUserProfile :=
  { userId := event.userId
    privacySourceUpdatedAt := some event.sourceUpdatedAt
    createdAt := now
    updatedAt := now : ChatUserProfile }.withPrivacy (privacyColumns event.rules)

def PrivacyEvent.updated (event : PrivacyEvent) (now : Nat) (row : ChatUserProfile) :
    ChatUserProfile :=
  { row with
    privacySourceUpdatedAt := some event.sourceUpdatedAt
    updatedAt := now }.withPrivacy (privacyColumns event.rules)

namespace Projection

variable (db : Projection) (now : Nat)

abbrev profile? (userId : UserId) : Option ChatUserProfile := db.profiles.find? userId

/-- `INSERT … ON CONFLICT (user_id) DO UPDATE … WHERE`, and whether it returned a row. -/
def upsertRow (fresh : ChatUserProfile) (accepts : ChatUserProfile → Bool)
    (change : ChatUserProfile → ChatUserProfile)
    (keeps : ∀ row, (change row).userId = row.userId) : Bool × Projection :=
  match db.profile? fresh.userId with
  | none => (true, { db with profiles := db.profiles.insert fresh })
  | some row =>
      if accepts row then
        (true, { db with
          profiles := db.profiles.update (fun row => decide (row.userId = fresh.userId)) change keeps })
      else (false, db)

/-- `ChatUserProfileRepository.upsert`. -/
def upsertProfile (event : ProfileEvent) : Bool × Projection :=
  db.upsertRow (event.inserted now)
    (fun row => row.sourceUpdatedAt.all fun seen => decide (seen < event.sourceUpdatedAt))
    (event.updated now) fun _ => rfl

def upsertPrivacy (event : PrivacyEvent) : Bool × Projection :=
  db.upsertRow (event.inserted now)
    (fun row => row.privacySourceUpdatedAt.all fun seen => decide (seen < event.sourceUpdatedAt))
    (event.updated now) fun _ => rfl

def exceptionRows (ownerId : UserId) (exceptions : List (String × ExceptionBuckets)) :
    List ChatUserPrivacyException :=
  exceptions.flatMap fun (rule, buckets) =>
    if PrivacyRule.all.any fun known => known.value == rule then
      ((buckets.allow.map fun target => (target, true)) ++
        buckets.deny.map fun target => (target, false)).filterMap fun (targetId, allow) =>
          if targetId ≠ ownerId then some ⟨ownerId, rule, targetId, allow⟩ else none
    else []

/-- `DELETE`, then `INSERT … ON CONFLICT DO NOTHING`. -/
def replaceExceptions (ownerId : UserId) (exceptions : List (String × ExceptionBuckets)) :
    Projection :=
  { db with
    exceptions := (exceptionRows ownerId exceptions).foldl (fun table row => table.insert row)
      (db.exceptions.delete fun row => decide (row.ownerId = ownerId)) }

def addContact (ownerId contactId : UserId) : Projection :=
  { db with contacts := db.contacts.insert (ownerId, contactId) }

def removeContact (ownerId contactId : UserId) : Projection :=
  { db with contacts := db.contacts.filter (· ≠ (ownerId, contactId)) }

def block (ownerId targetId : UserId) : Projection :=
  { db with blocks := db.blocks.insert (ownerId, targetId) }

def unblock (ownerId targetId : UserId) : Projection :=
  { db with blocks := db.blocks.filter (· ≠ (ownerId, targetId)) }

/-- `UpsertProfileProjectionCommandHandler`, for an event with a timestamp. -/
def applyProfile (event : ProfileEvent) : Projection := (db.upsertProfile now event).2

/-- `ApplyProfilePrivacyCommandHandler`: both statements in one transaction. -/
def applyPrivacy (event : PrivacyEvent) : Projection :=
  match db.upsertPrivacy now event with
  | (true, after) => after.replaceExceptions event.userId event.exceptions
  | (false, after) => after

/-- `ApplyUserBlockCommandHandler`. -/
def applyUserBlock (ownerId targetId : UserId) (blocked : Bool) : Projection :=
  if blocked then db.block ownerId targetId else db.unblock ownerId targetId

/-- `ApplyUserContactCommandHandler`. -/
def applyUserContact (ownerId contactId : UserId) (added : Bool) : Projection :=
  if added then db.addContact ownerId contactId else db.removeContact ownerId contactId

end Projection

end Messanger
