import Mathlib.Data.List.Sort
import Messanger.Chats.Models
import Messanger.Library.RowLocks
import Messanger.Library.Table
import Messanger.Library.Uuid

/-!
Profiles and their photos: the rows, what the models do to them, the messages that tell others, and
the world in which the handlers run.  A transaction writes at its commit; the row of a profile is
locked by `SELECT … FOR UPDATE` or by the statement that writes it.
-/

namespace Messanger.Profiles

open Relational Processes

abbrev PhotoId := Nat

section Config

def maxProfilePhotos : Nat := 10
def avatarMaxSize : Nat := 5 * 1024 * 1024
def avatarMaxPixels : Nat := 10000000
def avatarAllowedMimes : List String := ["image/jpeg", "image/png", "image/webp"]
def maxLenSkillName : Nat := 30
def maxLenBio : Nat := 1024
def maxLenDisplayName : Nat := 100

end Config

inductive ProfileError where
  | notFoundProfile (profileId : UserId)
  | avatarFileKey (fileKey : String)
  | avatarSize (currentSize : Nat)
  | avatarNotImageType (typeAvatar : String)
  | profilePhotosLimit (limit : Nat)
  | notFoundProfilePhoto (photoId : PhotoId)
  | tooLongDisplayName (name : String)
  | tooLongBio (bio : String)
  | tooLongSkillName (name : String)
  | duplicateSkills
  | accessDenied (needPermissions : List String)
  | storage (reason : String)
  | integrity
  | staleData
  deriving DecidableEq, Repr

abbrev AvatarMap := List (Nat × List (String × String))

namespace AvatarMap

/-- `avatars.setdefault(size, {})[fmt] = key`. -/
def put (avatars : AvatarMap) (size : Nat) (fmt key : String) : AvatarMap :=
  if (avatars.lookup size).isSome then
    avatars.map fun (other, variants) =>
      if other = size then (other, variants.filter (·.1 ≠ fmt) ++ [(fmt, key)])
      else (other, variants)
  else avatars ++ [(size, [(fmt, key)])]

end AvatarMap

structure Date where
  year : Nat
  month : Nat
  day : Nat
  deriving DecidableEq, Repr

structure Profile where
  id : UserId
  username : String
  avatars : AvatarMap := []
  photoId : Option PhotoId := none
  displayName : Option String := none
  bio : Option String := none
  specialization : Option String := none
  dateBirthday : Option Date := none
  skills : List String := []
  deriving DecidableEq, Repr

structure ProfilePhoto where
  id : PhotoId
  userId : UserId
  avatars : AvatarMap
  setMainAt : Nat
  createdAt : Nat
  deriving DecidableEq, Repr

/-- `ProfileCreated` and `ProfileUpdated`, which carry the same. -/
inductive EventName where
  | created
  | updated
  deriving DecidableEq, Repr

structure ProfilePayload where
  userId : UserId
  username : String
  avatars : AvatarMap
  displayName : Option String
  bio : Option String
  specialization : Option String
  dateBirthday : Option Date
  skills : List String
  deriving DecidableEq, Repr

/-- The payload has no time of its own: `created_at` is the default of the column, `now()`. -/
structure OutboxMessage where
  id : Nat
  eventName : EventName
  payload : ProfilePayload
  createdAt : Nat
  deriving DecidableEq, Repr

structure ProfileChange where
  username : Option String := none
  avatars : Option AvatarMap := none
  photoId : Option (Option PhotoId) := none
  displayName : Option (Option String) := none
  bio : Option (Option String) := none
  specialization : Option (Option String) := none
  dateBirthday : Option (Option Date) := none
  skills : Option (List String) := none
  deriving DecidableEq, Repr

inductive Write where
  | insertProfile (row : Profile)
  | updateProfile (id : UserId) (change : ProfileChange)
  | insertPhoto (row : ProfilePhoto)
  | updatePhoto (id : PhotoId) (setMainAt : Nat)
  | deletePhoto (id : PhotoId)
  | publish (message : OutboxMessage)
  deriving DecidableEq, Repr

namespace Profile

variable (profile : Profile)

def payload : ProfilePayload where
  userId := profile.id
  username := profile.username
  avatars := profile.avatars
  displayName := profile.displayName
  bio := profile.bio
  specialization := profile.specialization
  dateBirthday := profile.dateBirthday
  skills := profile.skills

def changeDisplayName (name : Option String) : Except ProfileError Profile :=
  match name with
  | some name =>
      if maxLenDisplayName ≤ name.length then .error (.tooLongDisplayName name)
      else .ok { profile with displayName := some name }
  | none => .ok { profile with displayName := none }

def changeBio (bio : Option String) : Except ProfileError Profile :=
  match bio with
  | some bio =>
      if maxLenBio ≤ bio.length then .error (.tooLongBio bio)
      else .ok { profile with bio := some bio }
  | none => .ok { profile with bio := none }

def changeSpecialization (specialization : Option String) : Profile :=
  { profile with specialization := specialization }

def changeBirthday (birthday : Option Date) : Profile := { profile with dateBirthday := birthday }

def longest (skills : List String) : String :=
  skills.foldl (fun best skill => if best.length < skill.length then skill else best)
    (skills.headD "")

/-- The setter of `skills` checks them once more. -/
def validateSkills (value : List String) : Except ProfileError (List String) :=
  if ¬value.Nodup then .error .duplicateSkills
  else
    match value.find? fun tag => decide (maxLenSkillName < tag.length) with
    | some tag => .error (.tooLongSkillName tag)
    | none => .ok value

def updateSkills (lower : String → String) (skills : List String) : Except ProfileError Profile :=
  if skills.any fun skill => decide (maxLenSkillName < skill.length) then
    .error (.tooLongSkillName (longest skills))
  else do
    let skills ← validateSkills (skills.map lower)
    return { profile with skills := skills }

def update (lower : String → String) (name bio specialization : Option String)
    (dateBirthday : Option Date) (skills : List String) : Except ProfileError Profile := do
  let profile ← profile.changeDisplayName name
  let profile ← profile.changeBio bio
  let profile := profile.changeSpecialization specialization
  let profile ← profile.updateSkills lower skills
  return profile.changeBirthday dateBirthday

def changeUsername (username : String) : Profile := { profile with username := username }

def setPhoto (photo : Option ProfilePhoto) : Profile :=
  { profile with
    photoId := photo.map ProfilePhoto.id
    avatars := (photo.map ProfilePhoto.avatars).getD [] }

/-- `Profile.create` without skills, links and the rest. -/
def create (userId : UserId) (username : String) : Profile where
  id := userId
  username := username

def difference (new : Profile) : ProfileChange where
  username := changed profile.username new.username
  avatars := changed profile.avatars new.avatars
  photoId := changed profile.photoId new.photoId
  displayName := changed profile.displayName new.displayName
  bio := changed profile.bio new.bio
  specialization := changed profile.specialization new.specialization
  dateBirthday := changed profile.dateBirthday new.dateBirthday
  skills := changed profile.skills new.skills

/-- What the mapper writes for a row that was loaded as `profile`. -/
def flushed (new : Profile) : List Write :=
  if profile = new then [] else [.updateProfile profile.id (profile.difference new)]

end Profile

def ProfileChange.apply (change : ProfileChange) (row : Profile) : Profile :=
  { row with
    username := change.username.getD row.username
    avatars := change.avatars.getD row.avatars
    photoId := change.photoId.getD row.photoId
    displayName := change.displayName.getD row.displayName
    bio := change.bio.getD row.bio
    specialization := change.specialization.getD row.specialization
    dateBirthday := change.dateBirthday.getD row.dateBirthday
    skills := change.skills.getD row.skills }

@[simp] theorem ProfileChange.id_apply (change : ProfileChange) (row : Profile) :
    (change.apply row).id = row.id := rfl

namespace ProfilePhoto

def create (photoId : PhotoId) (userId : UserId) (avatars : AvatarMap) (now : Nat) : ProfilePhoto :=
  ⟨photoId, userId, avatars, now, now⟩

def makeMain (photo : ProfilePhoto) (now : Nat) : ProfilePhoto := { photo with setMainAt := now }

/-- `ORDER BY set_main_at DESC, id DESC`, read from its end. -/
def earlier (left right : ProfilePhoto) : Prop :=
  left.setMainAt < right.setMainAt ∨ (left.setMainAt = right.setMainAt ∧ left.id ≤ right.id)

instance : DecidableRel earlier := fun left right => by
  unfold earlier
  infer_instance

def latest (photos : List ProfilePhoto) : Option ProfilePhoto :=
  (photos.insertionSort fun left right => right.earlier left).head?

end ProfilePhoto

structure Db where
  profiles : Table Profile UserId Profile.id := .empty
  photos : Table ProfilePhoto PhotoId ProfilePhoto.id := .empty
  outbox : List OutboxMessage := []

namespace Db

variable (db : Db)

abbrev profile? (id : UserId) : Option Profile := db.profiles.find? id

def photosOf (userId : UserId) : List ProfilePhoto :=
  db.photos.select fun photo => photo.userId == userId

def getOwn (photoId : PhotoId) (userId : UserId) : Option ProfilePhoto :=
  (db.photosOf userId).find? fun photo => photo.id == photoId

def getLatest (userId : UserId) : Option ProfilePhoto := ProfilePhoto.latest (db.photosOf userId)

def countPhotos (userId : UserId) : Nat := (db.photosOf userId).length

def write : Write → Except ProfileError Db
  | .insertProfile row =>
      if (db.profile? row.id).isSome then .error .integrity
      else .ok { db with profiles := db.profiles.insert row }
  | .updateProfile id change =>
      if (db.profile? id).isNone then .error .staleData
      else .ok { db with
        profiles := db.profiles.update (fun row => row.id == id) change.apply change.id_apply }
  | .insertPhoto row =>
      if (db.photos.find? row.id).isSome ∨ (db.profile? row.userId).isNone then .error .integrity
      else .ok { db with photos := db.photos.insert row }
  | .updatePhoto id setMainAt =>
      if (db.photos.find? id).isNone then .error .staleData
      else .ok { db with
        photos := db.photos.update (fun row => row.id == id) (fun row => row.makeMain setMainAt)
          fun _ => rfl }
  | .deletePhoto id => .ok { db with photos := db.photos.delete fun row => row.id == id }
  | .publish message =>
      if db.outbox.any fun old => old.id == message.id then .error .integrity
      else .ok { db with outbox := db.outbox ++ [message] }

def writeAll (log : List Write) : Except ProfileError Db := log.foldlM write db

end Db

structure RenderedAvatar where
  size : Nat
  fmt : String
  content : List UInt8

/-- The clocks, the ids and the storage, which answer by the turn at which they are asked. -/
structure Services where
  /-- `now_utc()`. -/
  now : Nat → Nat
  /-- `now()` of the database when a transaction begins. -/
  transactionTime : Nat → Nat
  uuid7 : Nat → Nat
  lower : String → String
  getStat : Nat → String → Except ProfileError Nat
  downloadBytes : Nat → String → Except ProfileError (List UInt8)
  uploadFile : Nat → String → List UInt8 → Except ProfileError Unit
  mime : List UInt8 → String
  dimensions : List UInt8 → Except ProfileError (Nat × Nat)
  thumbnail : List UInt8 → Nat → String → List UInt8

structure World where
  turn : Nat := 0
  listVersion : Nat := 0
  db : Db := {}

namespace World

variable (world : World)

def tick : World := { world with turn := world.turn + 1 }

def invalidateCache : World := { world with listVersion := world.listVersion + 1 }

def commit (log : List Write) : Except ProfileError World :=
  (world.db.writeAll log).map fun db => { world with db := db }

end World

inductive Op where
  | begin
  | getById (id : UserId)
  | getByIdForUpdate (id : UserId)
  | countPhotos (userId : UserId)
  | getOwn (photoId : PhotoId) (userId : UserId)
  | getLatest (userId : UserId)
  | storage
  | uuid7
  | clock
  | flush (id : UserId)
  | commit (log : List Write)
  | invalidateCache
  deriving DecidableEq, Repr

/-- The rows of `profiles` that transactions lock; a row that is not there cannot be locked. -/
def rowLocks : Locks World Op UserId where
  acquires
    | .getByIdForUpdate id, world => if (world.db.profile? id).isSome then some id else none
    | .flush id, _ => some id
    | _, _ => none
  releases
    | .commit _ => true
    | _ => false

abbrev Handler (Answer : Type) := Process World Op ProfileError Answer

end Messanger.Profiles
