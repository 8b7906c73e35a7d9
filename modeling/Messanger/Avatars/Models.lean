import Messanger.Chats.ServicesCore
import Messanger.Library.Parts
import Messanger.Profiles.Snapshots

/-!
Avatars of chats and photos of profiles: the rows that name them, the slots through which they are
uploaded, and the storage that holds their files.
-/

namespace Messanger.Avatars

open Relational Processes Profiles

abbrev Token := Nat

section Config

def chatAvatarMaxSize : Int := 5 * 1024 * 1024
def chatAvatarMaxPixels : Nat := 10000000
def chatAvatarAllowedMimes : List String := ["image/jpeg", "image/png", "image/webp"]
def chatAvatarSizes : List Nat := [32, 64, 256, 512]
def chatAvatarFormats : List String := ["jpg", "webp"]
def chatAvatarUploadTtl : Nat := 600
def magicHeaderBytes : Nat := 2048

end Config

inductive Bucket where
  | chatAvatar
  | chatAvatarPending
  | avatar
  | pendingAvatar
  deriving DecidableEq, Repr

def Bucket.name : Bucket → String
  | .chatAvatar => "chat-avatars"
  | .chatAvatarPending => "chat-pending-avatars"
  | .avatar => "profiles"
  | .pendingAvatar => "pending-avatar"

/-- A file, by its bucket and its key. -/
abbrev Object := Bucket × String

inductive StorageError where
  | unknown
  | objectNotFound
  | objectChanged
  | objectTooLarge
  deriving DecidableEq, Repr

inductive AvatarError where
  | profiles (error : ProfileError)
  | chats (error : ChatError)
  | chatAvatarValidation (reason : String)
  | storage (error : StorageError)
  | value
  | interrupted
  deriving DecidableEq, Repr

/-- A row of `chats` with the columns of its avatar. -/
structure Chat extends Messanger.Chat where
  avatarS3Key : Option String := none
  avatars : AvatarMap := []
  deriving DecidableEq, Repr

namespace Chat

def key (chat : Chat) : ChatId := chat.id

def updateAvatar (chat : Chat) (avatars : AvatarMap) : Chat :=
  { chat with avatars := avatars, avatarS3Key := pickAvatarKey avatars }

end Chat

structure ChatAvatarUploadSlot where
  uploadToken : Token
  chatId : ChatId
  uploaderId : UserId
  s3Key : String
  mimeType : String
  fileSize : Int
  deriving DecidableEq, Repr

/-- The clocks, the ids and the storage, which answer by the turn at which they are asked. -/
structure Services extends Profiles.Services where
  uuid4 : Nat → Token
  publicBaseUrl : String
  /-- What a write to the storage raises. -/
  storageError : Nat → Option StorageError
  chatStat : Nat → String → Except StorageError Int
  chatBytes : Nat → String → Except StorageError (List UInt8)
  /-- `pyvips`, which may not know what the bytes are. -/
  chatDimensions : List UInt8 → Option (Nat × Nat)
  /-- A slot whose time is not over. -/
  lives : Nat → Token → Bool
  /-- Where a task dies, or the database does. -/
  falters : Nat → Option AvatarError

structure World where
  profiles : Profiles.World := {}
  chats : Table Chat ChatId Chat.key := .empty
  members : Table ChatMember (ChatId × UserId) ChatMember.key := .empty
  outbox : List ChatEvent := []
  slots : List ChatAvatarUploadSlot := []
  storage : List Object := []

def AvatarMap.values (avatars : AvatarMap) : List String :=
  avatars.flatMap fun (_, variants) => variants.map Prod.snd

/-- `text.removeprefix(front)` of a text that starts with it. -/
def stripped (front text : String) : Option String :=
  if front.toList.isPrefixOf text.toList then
    some (String.ofList (text.toList.drop front.toList.length))
  else none

section Names

variable (services : Services)

def getPublicUrlObject (bucket : Bucket) (fileKey : String) : String :=
  services.publicBaseUrl ++ "/" ++ bucket.name ++ "/" ++ fileKey

def chatObjects (avatars : AvatarMap) : List Object :=
  ((AvatarMap.values avatars).filterMap
    (stripped (getPublicUrlObject services .chatAvatar ""))).map (Prod.mk .chatAvatar)

def profileObjects (avatars : AvatarMap) : List Object :=
  (AvatarMap.values avatars).map (Prod.mk .avatar)

/-- The files named in `chats.avatars`, `profile_photos.avatars` and `profiles.avatars`. -/
def World.named (world : World) : List Object :=
  (world.chats.rows.flatMap fun chat => chatObjects services chat.avatars) ++
    (world.profiles.db.photos.rows.flatMap fun photo => profileObjects photo.avatars) ++
      world.profiles.db.profiles.rows.flatMap fun profile => profileObjects profile.avatars

/-- `f"{chat_id}/{version}/{item.size}.{item.fmt}"`. -/
def chatKey (chatId : ChatId) (version : Token) (size : Nat) (fmt : String) : String :=
  Python.strUuid chatId ++ "/" ++ Python.strUuid version ++ "/" ++ toString size ++ "." ++ fmt

def chatVariants : List (Nat × String) :=
  chatAvatarSizes.flatMap fun size => chatAvatarFormats.map fun fmt => (size, fmt)

end Names

namespace World

variable (world : World)

def tick : World := { world with profiles := world.profiles.tick }

def turn : Nat := world.profiles.turn

def upload (object : Object) : World := { world with storage := object :: world.storage }

def deleteFile (object : Object) : World :=
  { world with storage := world.storage.filter (· ≠ object) }

def slot? (token : Token) : Option ChatAvatarUploadSlot :=
  world.slots.find? fun slot => slot.uploadToken == token

def dropSlot (token : Token) : World :=
  { world with slots := world.slots.filter fun slot => slot.uploadToken ≠ token }

/-- `SET`, which replaces what was there. -/
def saveSlot (slot : ChatAvatarUploadSlot) : World :=
  { world.dropSlot slot.uploadToken with
    slots := slot :: (world.dropSlot slot.uploadToken).slots }

/-- `select_not_deleted`. -/
def chat? (chatId : ChatId) : Option Chat :=
  (world.chats.find? chatId).filter fun chat => chat.deletedAt.isNone

def member? (chatId : ChatId) (userId : UserId) : Option ChatMember :=
  world.members.find? (chatId, userId)

def commitChat (chat new : Chat) (event : ChatEvent) : Except AvatarError World :=
  if (world.chats.find? chat.key).isNone then .error (.chats .staleDataError)
  else .ok { world with
    chats := world.chats.update (fun row => row.key == chat.key)
      (fun row => { row with
        avatars := (changed chat.avatars new.avatars).getD row.avatars
        avatarS3Key := (changed chat.avatarS3Key new.avatarS3Key).getD row.avatarS3Key })
      fun _ => rfl
    outbox := world.outbox ++ [event] }

end World

inductive Op where
  | profiles (op : Profiles.Op)
  | photoId (userId : UserId)
  | uuid4
  | clock
  | getById (chatId : ChatId)
  | getByIdForUpdate (chatId : ChatId)
  | getMemberChat (chatId : ChatId) (userId : UserId)
  | saveSlot (slot : ChatAvatarUploadSlot)
  | popSlot (token : Token)
  | getStat
  | downloadBytes
  | presign
  | upload (object : Object)
  | deleteFile (object : Object)
  | commit (chat : Chat)
  | rollback
  deriving DecidableEq, Repr

inductive Row where
  | chat (chatId : ChatId)
  | profile (userId : UserId)
  deriving DecidableEq, Repr

def rowLocks : Locks World Op Row where
  acquires
    | .profiles op, world => (Profiles.rowLocks.acquires op world.profiles).map Row.profile
    | .getByIdForUpdate chatId, world =>
        if (world.chat? chatId).isSome then some (.chat chatId) else none
    | _, _ => none
  releases
    | .profiles op => Profiles.rowLocks.releases op
    | .commit _ | .rollback => true
    | _ => false

abbrev Handler (Answer : Type) := Process World Op AvatarError Answer

end Messanger.Avatars
