import Messanger.Avatars.Models

/-!
The handlers that make, switch and throw away avatars, statement by statement.
-/

namespace Messanger.Avatars

open Relational Processes Profiles

section Statements

variable (services : Services)

def profilePart : Part World Op AvatarError Profiles.World Profiles.Op ProfileError where
  get := World.profiles
  set profiles world := { world with profiles := profiles }
  label := .profiles
  error := .profiles

def onProfiles {Answer : Type} (statement : Profiles.Handler Answer) : Handler Answer :=
  statement.embed profilePart

def ask {Answer : Type} (op : Op) (answer : Nat → Except AvatarError Answer) : Handler Answer :=
  .act op id fun world => .done (answer world.turn)

def require (condition : Bool) (error : AvatarError) : Except AvatarError Unit :=
  if condition then .ok () else .error error

def orRaise {Answer : Type} (answer : Option Answer) (error : AvatarError) :
    Except AvatarError Answer :=
  match answer with
  | some answer => .ok answer
  | none => .error error

def newPhotoId (userId : UserId) : Handler PhotoId :=
  ask (.photoId userId) fun turn => .ok (services.uuid7 turn)

def uuid4 : Handler Token := ask .uuid4 fun turn => .ok (services.uuid4 turn)

def now : Handler Nat := ask .clock fun turn => .ok (services.now turn)

def getById (chatId : ChatId) : Handler (Option Chat) :=
  Process.observe (.getById chatId) fun world => world.chat? chatId

def getByIdForUpdate (chatId : ChatId) : Handler (Option Chat) :=
  Process.observe (.getByIdForUpdate chatId) fun world => world.chat? chatId

def getMemberChat (chatId : ChatId) (userId : UserId) : Handler (Option ChatMember) :=
  Process.observe (.getMemberChat chatId userId) fun world => world.member? chatId userId

def commit (chat new : Chat) (event : ChatEvent) : Handler Unit :=
  Process.attempt (.commit chat) fun world => world.commitChat chat new event

def rollback : Handler Unit := Process.perform .rollback id

namespace ChatAvatarUploadRepository

def save (slot : ChatAvatarUploadSlot) : Handler Unit :=
  Process.perform (.saveSlot slot) fun world => world.saveSlot slot

/-- `GETDEL`. -/
def pop (uploadToken : Token) : Handler (Option ChatAvatarUploadSlot) :=
  .act (.popSlot uploadToken) (fun world => world.dropSlot uploadToken) fun world =>
    .done (.ok ((world.slot? uploadToken).filter fun _ => services.lives world.turn uploadToken))

end ChatAvatarUploadRepository

namespace StorageService

def uploadFile (object : Object) : Handler Unit :=
  Process.attempt (.upload object) fun world =>
    match services.storageError world.turn with
    | some error => .error (.storage error)
    | none => .ok (world.upload object)

/-- A deletion whose failure is only logged. -/
def deleteFile (object : Object) : Handler Unit :=
  Process.perform (.deleteFile object) fun world =>
    if (services.storageError world.turn).isSome then world else world.deleteFile object

end StorageService

end Statements

open StorageService

section Storages

variable (services : Services)

namespace ChatAvatarService

def loadValidated (slot : ChatAvatarUploadSlot) : Handler (List UInt8) := do
  let size ← ask .getStat fun turn => (services.chatStat turn slot.s3Key).mapError .storage
  require (0 < size && size ≤ min slot.fileSize chatAvatarMaxSize) (.chatAvatarValidation "size")
  let data ← ask .downloadBytes fun turn =>
    (services.chatBytes turn slot.s3Key).mapError .storage
  require (chatAvatarAllowedMimes.contains (services.mime (data.take magicHeaderBytes)))
    (.chatAvatarValidation "mime_type")
  return data

def render (data : List UInt8) : Except AvatarError (List RenderedAvatar) := do
  let (width, height) ← orRaise (services.chatDimensions data) (.chatAvatarValidation "undecodable")
  require (width ≠ 0 && height ≠ 0 && width * height ≤ chatAvatarMaxPixels)
    (.chatAvatarValidation "dimensions")
  return chatVariants.map fun (size, fmt) => ⟨size, fmt, services.thumbnail data size fmt⟩

def uploadVariants (chatId : ChatId) (version : Token) (rendered : List RenderedAvatar) :
    Handler AvatarMap := do
  rendered.forM fun item =>
    uploadFile services (.chatAvatar, chatKey chatId version item.size item.fmt)
  return rendered.foldl (fun avatars item => Profiles.AvatarMap.put avatars item.size item.fmt
    (getPublicUrlObject services .chatAvatar (chatKey chatId version item.size item.fmt))) []

def deleteVariants (avatars : AvatarMap) : Handler Unit :=
  (chatObjects services avatars).forM (deleteFile services)

def dropPending (slot : ChatAvatarUploadSlot) : Handler Unit :=
  deleteFile services (.chatAvatarPending, slot.s3Key)

end ChatAvatarService

namespace ProfilePhotoStorage

def uploadVariants (userId : UserId) (photoId : PhotoId) (rendered : List RenderedAvatar) :
    Handler AvatarMap := do
  rendered.forM fun item =>
    uploadFile services (.avatar, Profiles.ProfilePhotoStorage.key userId photoId item)
  return rendered.foldl (fun avatars item => Profiles.AvatarMap.put avatars item.size item.fmt
    (Profiles.ProfilePhotoStorage.key userId photoId item)) []

def deleteVariants (userId : UserId) (avatars : AvatarMap) : Handler Unit :=
  (((AvatarMap.values avatars).eraseDups.filter fun key =>
    (toString userId ++ "/").isPrefixOf key).map (Prod.mk .avatar)).forM (deleteFile services)

def dropPending (fileKey : String) : Handler Unit :=
  deleteFile services (.pendingAvatar, fileKey)

end ProfilePhotoStorage

end Storages

section ChatHandlers

variable (services : Services)

structure RequestChatAvatarUploadCommand where
  userJwtData : UserJWTData
  chatId : ChatId
  mimeType : String
  fileSize : Int
  deriving DecidableEq, Repr

structure ProcessChatAvatarCommand where
  chatId : String
  userId : UserId
  uploadToken : String
  deriving DecidableEq, Repr

structure RemoveChatAvatarCommand where
  userJwtData : UserJWTData
  chatId : ChatId
  deriving DecidableEq, Repr

def ensureUpdatable (user : UserJWTData) (chatId : ChatId) : Handler Unit := do
  let member ← getMemberChat chatId user.id
  let time ← now services
  require (hasPermissions user time member [.chatUpdate])
    (.chats (.accessDeniedChat chatId user.id))

def RequestChatAvatarUploadCommandHandler.handle (command : RequestChatAvatarUploadCommand) :
    Handler Token := do
  let chat ← getById command.chatId
  let chat ← orRaise chat (.chats (.notFoundChat command.chatId))
  ensureUpdatable services command.userJwtData command.chatId
  require (chat.type ≠ .direct) (.chatAvatarValidation "direct_chat")
  require (chatAvatarAllowedMimes.contains command.mimeType) (.chatAvatarValidation "mime_type")
  require (0 < command.fileSize && command.fileSize ≤ chatAvatarMaxSize)
    (.chatAvatarValidation "size")
  let uploadToken ← uuid4 services
  let s3Key := Python.strUuid chat.id ++ "/" ++ Python.strUuid uploadToken
  ask .presign fun turn => ((services.storageError turn).elim (.ok ()) fun error =>
    .error (.storage error))
  ChatAvatarUploadRepository.save
    ⟨uploadToken, chat.id, command.userJwtData.id, s3Key, command.mimeType, command.fileSize⟩
  return uploadToken

/-- The errors for which the upload is dropped without a word. -/
def AvatarError.rejects : AvatarError → Bool
  | .chatAvatarValidation _ => true
  | .storage .unknown => false
  | .storage _ => true
  | _ => false

def ProcessChatAvatarCommandHandler.load (slot : ChatAvatarUploadSlot) :
    Handler (Option (List RenderedAvatar)) :=
  Process.rescue
    (fun error => do
      if error.rejects then
        ChatAvatarService.dropPending services slot
        return none
      else Process.raise error)
    (do
      let data ← ChatAvatarService.loadValidated services slot
      let rendered ← ChatAvatarService.render services data
      return some rendered)

def ProcessChatAvatarCommandHandler.discard (slot : ChatAvatarUploadSlot) (avatars : AvatarMap) :
    Handler Unit := do
  rollback
  ChatAvatarService.deleteVariants services avatars
  ChatAvatarService.dropPending services slot

def ProcessChatAvatarCommandHandler.handle (command : ProcessChatAvatarCommand) :
    Handler Unit := do
  let chatId ← orRaise (Python.uuid? command.chatId) .value
  let uploadToken ← orRaise (Python.uuid? command.uploadToken) .value
  let slot ← ChatAvatarUploadRepository.pop services uploadToken
  match slot with
  | none => return
  | some slot =>
      if slot.chatId ≠ chatId ∨ slot.uploaderId ≠ command.userId then return
      else
        let rendered ← ProcessChatAvatarCommandHandler.load services slot
        match rendered with
        | none => return
        | some rendered =>
            let avatars ← ChatAvatarService.uploadVariants services chatId slot.uploadToken rendered
            let chat ← getByIdForUpdate chatId
            match chat with
            | none => ProcessChatAvatarCommandHandler.discard services slot avatars
            | some chat =>
                if chat.type = .direct then
                  ProcessChatAvatarCommandHandler.discard services slot avatars
                else
                  let stale := chat.avatars
                  commit chat (chat.updateAvatar avatars) (.updatedChat chat.id command.userId)
                  ChatAvatarService.dropPending services slot
                  ChatAvatarService.deleteVariants services stale

def RemoveChatAvatarCommandHandler.handle (command : RemoveChatAvatarCommand) :
    Handler Unit := do
  let chat ← getByIdForUpdate command.chatId
  let chat ← orRaise chat (.chats (.notFoundChat command.chatId))
  ensureUpdatable services command.userJwtData command.chatId
  if chat.avatars = [] ∧ chat.avatarS3Key = none then return
  else
    let stale := chat.avatars
    commit chat (chat.updateAvatar []) (.updatedChat chat.id command.userJwtData.id)
    ChatAvatarService.deleteVariants services stale

end ChatHandlers

section ProfileHandlers

variable (services : Services)

/-- The errors for which the file that was uploaded is dropped. -/
def AvatarError.dropsPending : AvatarError → Bool
  | .profiles error => error.dropsPending
  | _ => false

def ProccessAvatarCommandHandler.prepare (command : ProccessAvatarCommand) :
    Handler (Nat × PhotoId × AvatarMap) := do
  require ((toString command.userId ++ "/").isPrefixOf command.fileKey)
    (.profiles (.avatarFileKey command.fileKey))
  let transactionTime ← onProfiles (begin services.toServices)
  let profile ← onProfiles (Profiles.getById command.userId)
  let _ ← orRaise profile (.profiles (.notFoundProfile command.userId))
  let full ← onProfiles (historyIsFull command.userId)
  if full then
    ProfilePhotoStorage.dropPending services command.fileKey
    Process.raise (.profiles (.profilePhotosLimit maxProfilePhotos))
  else
    let rendered ← Process.rescue
      (fun error => do
        if error.dropsPending then ProfilePhotoStorage.dropPending services command.fileKey
        Process.raise error)
      (onProfiles do
        let data ← Profiles.ProfilePhotoStorage.loadValidated services.toServices command.fileKey
        Profiles.ProfilePhotoStorage.render services.toServices data)
    let photoId ← newPhotoId services command.userId
    let avatars ← ProfilePhotoStorage.uploadVariants services command.userId photoId rendered
    return (transactionTime, photoId, avatars)

def ProccessAvatarCommandHandler.discard (command : ProccessAvatarCommand) (avatars : AvatarMap)
    (error : ProfileError) : Handler Unit := do
  ProfilePhotoStorage.deleteVariants services command.userId avatars
  ProfilePhotoStorage.dropPending services command.fileKey
  Process.raise (.profiles error)

def ProccessAvatarCommandHandler.handle (command : ProccessAvatarCommand) : Handler Unit := do
  let (transactionTime, photoId, avatars) ← ProccessAvatarCommandHandler.prepare services command
  let profile ← onProfiles (Profiles.getByIdForUpdate command.userId)
  match profile with
  | none =>
      ProccessAvatarCommandHandler.discard services command avatars (.notFoundProfile command.userId)
  | some profile =>
      let full ← onProfiles (historyIsFull command.userId)
      if full then
        ProccessAvatarCommandHandler.discard services command avatars
          (.profilePhotosLimit maxProfilePhotos)
      else
        let time ← onProfiles (Profiles.now services.toServices)
        let photo := ProfilePhoto.create photoId command.userId avatars time
        let event ← onProfiles
          (Profiles.publish services.toServices .updated (profile.setPhoto (some photo)) transactionTime)
        onProfiles (Profiles.commit
          (.insertPhoto photo :: profile.flushed (profile.setPhoto (some photo)) ++ [event]))
        onProfiles invalidateCache
        ProfilePhotoStorage.dropPending services command.fileKey

def DeleteProfilePhotoCommandHandler.handle (command : DeleteProfilePhotoCommand) :
    Handler Unit := do
  let userId := command.userJwtData.id
  let transactionTime ← onProfiles (begin services.toServices)
  let profile ← onProfiles (Profiles.getByIdForUpdate userId)
  match profile with
  | none => Process.raise (.profiles (.notFoundProfile userId))
  | some profile =>
      match command.photoId.or profile.photoId with
      | none => return
      | some photoId =>
          let photo ← onProfiles (getOwn photoId userId)
          match photo, command.photoId with
          | none, some photoId => Process.raise (.profiles (.notFoundProfilePhoto photoId))
          | none, none => return
          | some photo, _ =>
              let stale := photo.avatars
              if profile.photoId = some photo.id then
                let latest ← onProfiles (getLatest photo userId)
                let event ← onProfiles
                  (Profiles.publish services.toServices .updated (profile.setPhoto latest) transactionTime)
                onProfiles (Profiles.commit
                  (.deletePhoto photo.id :: profile.flushed (profile.setPhoto latest) ++ [event]))
              else onProfiles (Profiles.commit [.deletePhoto photo.id])
              onProfiles invalidateCache
              ProfilePhotoStorage.deleteVariants services userId stale

def SetMainProfilePhotoCommandHandler.handle (command : SetMainProfilePhotoCommand) :
    Handler Unit := onProfiles (command.handle services.toServices)

end ProfileHandlers

inductive Command where
  | requestChatAvatarUpload (command : RequestChatAvatarUploadCommand)
  | processChatAvatar (command : ProcessChatAvatarCommand)
  | removeChatAvatar (command : RemoveChatAvatarCommand)
  | proccessAvatar (command : ProccessAvatarCommand)
  | setMainProfilePhoto (command : SetMainProfilePhotoCommand)
  | deleteProfilePhoto (command : DeleteProfilePhotoCommand)
  deriving DecidableEq, Repr

def Command.handle (services : Services) : Command → Handler Unit
  | .requestChatAvatarUpload command => do
      let _ ← RequestChatAvatarUploadCommandHandler.handle services command
      return
  | .processChatAvatar command => ProcessChatAvatarCommandHandler.handle services command
  | .removeChatAvatar command => RemoveChatAvatarCommandHandler.handle services command
  | .proccessAvatar command => ProccessAvatarCommandHandler.handle services command
  | .setMainProfilePhoto command => SetMainProfilePhotoCommandHandler.handle services command
  | .deleteProfilePhoto command => DeleteProfilePhotoCommandHandler.handle services command

/-- A handler that may end before any of its actions. -/
def Command.run (services : Services) (command : Command) : Handler Unit :=
  (command.handle services).frail (fun world => services.falters world.turn) World.tick

abbrev AvatarScene := Scene World Op Command AvatarError Unit

abbrev AvatarSite := Site World Op Command AvatarError Unit

abbrev AvatarTerms := Terms World Op Command AvatarError Unit

abbrev AvatarEntry := Entry World Op Command AvatarError Unit

def Op.savedToken : Op → Option Token
  | .saveSlot slot => some slot.uploadToken
  | _ => none

def drawnPhoto (services : Services) (entry : AvatarEntry) : Option PhotoId :=
  match entry.label with
  | .photoId _ => some (services.uuid7 entry.before.turn)
  | _ => none

def Unused (services : Services) (scene : AvatarScene) : Op → Prop
  | .saveSlot slot => ∀ entry ∈ scene.history, entry.label.savedToken ≠ some slot.uploadToken
  | .photoId _ => ∀ entry ∈ scene.history,
      drawnPhoto services entry ≠ some (services.uuid7 scene.world.turn)
  | _ => True

instance (services : Services) (scene : AvatarScene) (op : Op) :
    Decidable (Unused services scene op) :=
  match op with
  | .saveSlot slot => inferInstanceAs (Decidable (∀ entry ∈ scene.history,
      entry.label.savedToken ≠ some slot.uploadToken))
  | .photoId _ => inferInstanceAs (Decidable (∀ entry ∈ scene.history,
      drawnPhoto services entry ≠ some (services.uuid7 scene.world.turn)))
  | .profiles _ | .uuid4 | .clock | .getById _ | .getByIdForUpdate _ | .getMemberChat _ _
  | .popSlot _ | .getStat | .downloadBytes | .presign | .upload _ | .deleteFile _ | .commit _
  | .rollback => .isTrue trivial

/-- Any commands may come; a statement waits for the lock it needs. -/
def terms (services : Services) : AvatarTerms where
  Acts scene index _ op _ := rowLocks.Waits scene index op ∧ Unused services scene op

def start (world : World) : AvatarSite := ⟨⟨world, [], []⟩, []⟩

end Messanger.Avatars
