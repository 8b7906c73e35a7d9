import Messanger.Profiles.Models

/-!
The handlers that change a profile or its photos, statement by statement.
-/

namespace Messanger.Profiles

open Relational Processes

section Statements

variable (services : Services)

def require (condition : Bool) (error : ProfileError) : Except ProfileError Unit :=
  if condition then .ok () else .error error

def found {Answer : Type} (answer : Option Answer) (error : ProfileError) :
    Except ProfileError Answer :=
  match answer with
  | some answer => .ok answer
  | none => .error error

def ask {Answer : Type} (op : Op) (answer : Nat → Except ProfileError Answer) : Handler Answer :=
  .act op World.tick fun world => .done (answer world.turn)

/-- The first statement of a session opens its transaction; what `now()` is in it. -/
def begin : Handler Nat := ask .begin fun turn => .ok (services.transactionTime turn)

def now : Handler Nat := ask .clock fun turn => .ok (services.now turn)

def uuid7 : Handler Nat := ask .uuid7 fun turn => .ok (services.uuid7 turn)

def getById (id : UserId) : Handler (Option Profile) :=
  Process.observe (.getById id) fun world => world.db.profile? id

def getByIdForUpdate (id : UserId) : Handler (Option Profile) :=
  Process.observe (.getByIdForUpdate id) fun world => world.db.profile? id

def historyIsFull (userId : UserId) : Handler Bool :=
  Process.observe (.countPhotos userId) fun world =>
    decide (maxProfilePhotos ≤ world.db.countPhotos userId)

def getOwn (photoId : PhotoId) (userId : UserId) : Handler (Option ProfilePhoto) :=
  Process.observe (.getOwn photoId userId) fun world => world.db.getOwn photoId userId

def getLatest (deleted : ProfilePhoto) (userId : UserId) : Handler (Option ProfilePhoto) :=
  Process.observe (.getLatest userId) fun world =>
    ({ world.db with photos := world.db.photos.delete fun row => row.id == deleted.id }).getLatest userId

/-- The event of `register_event` as `publish` puts it into the outbox. -/
def publish (eventName : EventName) (profile : Profile) (transactionTime : Nat) : Handler Write := do
  let id ← uuid7 services
  return .publish ⟨id, eventName, profile.payload, transactionTime⟩

def commit (log : List Write) : Handler Unit :=
  Process.attempt (.commit log) fun world => world.commit log

def invalidateCache : Handler Unit := Process.perform .invalidateCache World.invalidateCache

end Statements

namespace ProfilePhotoStorage

variable (services : Services)

/-- A deletion whose failure is only logged. -/
def deleteFile : Handler Unit := ask .storage fun _ => .ok ()

def dropPending (_fileKey : String) : Handler Unit := deleteFile

def deleteVariants (userId : UserId) (avatars : AvatarMap) : Handler Unit :=
  ((avatars.flatMap fun (_, variants) => variants.map Prod.snd).filter fun key =>
    (toString userId ++ "/").isPrefixOf key).forM fun _ => deleteFile

def loadValidated (fileKey : String) : Handler (List UInt8) := do
  let size ← ask .storage fun turn => services.getStat turn fileKey
  require (size ≤ avatarMaxSize) (.avatarSize size)
  let data ← ask .storage fun turn => services.downloadBytes turn fileKey
  require (avatarAllowedMimes.contains (services.mime data)) (.avatarNotImageType (services.mime data))
  return data

/-- `SizeAvatar` and, for each size, `TypeImageAvatar`. -/
def variants : List (Nat × String) :=
  [32, 64, 256, 512].flatMap fun size => ["jpg", "webp"].map fun fmt => (size, fmt)

def render (data : List UInt8) : Except ProfileError (List RenderedAvatar) := do
  let (width, height) ← services.dimensions data
  if width = 0 ∨ height = 0 ∨ avatarMaxPixels < width * height then
    .error (.avatarSize (width * height))
  else
    return variants.map fun (size, fmt) => ⟨size, fmt, services.thumbnail data size fmt⟩

def key (userId : UserId) (photoId : PhotoId) (item : RenderedAvatar) : String :=
  toString userId ++ "/" ++ Python.strUuid photoId ++ "/" ++ toString item.size ++ "." ++ item.fmt

def uploadVariants (userId : UserId) (photoId : PhotoId) (rendered : List RenderedAvatar) :
    Handler AvatarMap := do
  rendered.forM fun item => ask .storage fun turn =>
    services.uploadFile turn (key userId photoId item) item.content
  return rendered.foldl (fun avatars item =>
    AvatarMap.put avatars item.size item.fmt (key userId photoId item)) []

end ProfilePhotoStorage

open ProfilePhotoStorage

section Handlers

variable (services : Services)

structure ProccessAvatarCommand where
  userId : UserId
  fileKey : String
  deriving DecidableEq, Repr

structure DeleteProfilePhotoCommand where
  userJwtData : UserJWTData
  photoId : Option PhotoId := none
  deriving DecidableEq, Repr

structure SetMainProfilePhotoCommand where
  photoId : PhotoId
  userJwtData : UserJWTData
  deriving DecidableEq, Repr

structure ChangeProfileUsernameCommand where
  userId : UserId
  username : String
  deriving DecidableEq, Repr

structure UpdateProfileCommand where
  profileId : UserId
  displayName : Option String := none
  bio : Option String := none
  skills : Option (List String) := none
  dateBirthday : Option Date := none
  specialization : Option String := none
  userJwtData : UserJWTData
  deriving DecidableEq, Repr

/-- The errors for which the file that was uploaded is dropped. -/
def ProfileError.dropsPending : ProfileError → Bool
  | .avatarSize _ | .avatarNotImageType _ => true
  | _ => false

def ProccessAvatarCommand.prepare (command : ProccessAvatarCommand) :
    Handler (Nat × PhotoId × AvatarMap) := do
  require ((toString command.userId ++ "/").isPrefixOf command.fileKey)
    (.avatarFileKey command.fileKey)
  let transactionTime ← begin services
  let profile ← getById command.userId
  let _ ← found profile (.notFoundProfile command.userId)
  let full ← historyIsFull command.userId
  if full then
    dropPending command.fileKey
    Process.raise (.profilePhotosLimit maxProfilePhotos)
  else
    let rendered ← Process.rescue
      (fun error => do
        if error.dropsPending then dropPending command.fileKey
        Process.raise error)
      (do
        let data ← loadValidated services command.fileKey
        render services data)
    let photoId ← uuid7 services
    let avatars ← uploadVariants services command.userId photoId rendered
    return (transactionTime, photoId, avatars)

def ProccessAvatarCommand.discard (command : ProccessAvatarCommand) (avatars : AvatarMap)
    (error : ProfileError) : Handler Unit := do
  deleteVariants command.userId avatars
  dropPending command.fileKey
  Process.raise error

def ProccessAvatarCommand.handle (command : ProccessAvatarCommand) : Handler Unit := do
  let (transactionTime, photoId, avatars) ← command.prepare services
  let profile ← getByIdForUpdate command.userId
  match profile with
  | none => command.discard avatars (.notFoundProfile command.userId)
  | some profile =>
      let full ← historyIsFull command.userId
      if full then command.discard avatars (.profilePhotosLimit maxProfilePhotos)
      else
        let time ← now services
        let photo := ProfilePhoto.create photoId command.userId avatars time
        let event ← publish services .updated (profile.setPhoto (some photo)) transactionTime
        commit (.insertPhoto photo :: profile.flushed (profile.setPhoto (some photo)) ++ [event])
        invalidateCache
        dropPending command.fileKey

def DeleteProfilePhotoCommand.handle (command : DeleteProfilePhotoCommand) : Handler Unit := do
  let userId := command.userJwtData.id
  let transactionTime ← begin services
  let profile ← getByIdForUpdate userId
  match profile with
  | none => Process.raise (.notFoundProfile userId)
  | some profile =>
      match command.photoId.or profile.photoId with
      | none => return
      | some photoId =>
          let photo ← getOwn photoId userId
          match photo, command.photoId with
          | none, some photoId => Process.raise (.notFoundProfilePhoto photoId)
          | none, none => return
          | some photo, _ =>
              if profile.photoId = some photo.id then
                let latest ← getLatest photo userId
                let event ← publish services .updated (profile.setPhoto latest) transactionTime
                commit (.deletePhoto photo.id :: profile.flushed (profile.setPhoto latest) ++ [event])
              else commit [.deletePhoto photo.id]
              invalidateCache
              deleteVariants userId photo.avatars

def SetMainProfilePhotoCommand.handle (command : SetMainProfilePhotoCommand) : Handler Unit := do
  let userId := command.userJwtData.id
  let transactionTime ← begin services
  let profile ← getByIdForUpdate userId
  match profile with
  | none => Process.raise (.notFoundProfile userId)
  | some profile =>
      let photo ← getOwn command.photoId userId
      match photo with
      | none => Process.raise (.notFoundProfilePhoto command.photoId)
      | some photo =>
          if profile.photoId = some photo.id then return
          else
            let time ← now services
            let photo := photo.makeMain time
            let event ← publish services .updated (profile.setPhoto (some photo)) transactionTime
            commit (.updatePhoto photo.id time ::
              profile.flushed (profile.setPhoto (some photo)) ++ [event])
            invalidateCache

def ChangeProfileUsernameCommand.handle (command : ChangeProfileUsernameCommand) :
    Handler Unit := do
  let transactionTime ← begin services
  let profile ← getByIdForUpdate command.userId
  match profile with
  | none =>
      let profile := Profile.create command.userId command.username
      let event ← publish services .created profile transactionTime
      Process.perform (.flush command.userId) id
      commit [.insertProfile profile, event]
      invalidateCache
  | some profile =>
      if command.username = profile.username then return
      else
        let changed := profile.changeUsername command.username
        let event ← publish services .updated changed transactionTime
        commit (profile.flushed changed ++ [event])
        invalidateCache

def profileUpdatePermissions : List String := ["profile:update", "user:update"]

/-- The one command that reads the row without locking it. -/
def UpdateProfileCommand.handle (command : UpdateProfileCommand) : Handler Unit := do
  let transactionTime ← begin services
  let profile ← getById command.profileId
  let profile ← found profile (.notFoundProfile command.profileId)
  require (profile.id = command.userJwtData.id ||
      checkPermission command.userJwtData profileUpdatePermissions)
    (.accessDenied (profileUpdatePermissions.filter (· ∉ command.userJwtData.permissions)))
  let changed ← profile.update services.lower command.displayName command.bio
    command.specialization command.dateBirthday (command.skills.getD [])
  let event ← publish services .updated changed transactionTime
  if profile ≠ changed then
    Process.perform (.flush command.profileId) id
    commit (profile.flushed changed ++ [event])
  else commit [event]
  invalidateCache

end Handlers

inductive Command where
  | proccessAvatar (command : ProccessAvatarCommand)
  | deleteProfilePhoto (command : DeleteProfilePhotoCommand)
  | setMainProfilePhoto (command : SetMainProfilePhotoCommand)
  | changeProfileUsername (command : ChangeProfileUsernameCommand)
  | updateProfile (command : UpdateProfileCommand)
  deriving DecidableEq, Repr

def Command.handle (services : Services) : Command → Handler Unit
  | .proccessAvatar command => command.handle services
  | .deleteProfilePhoto command => command.handle services
  | .setMainProfilePhoto command => command.handle services
  | .changeProfileUsername command => command.handle services
  | .updateProfile command => command.handle services

abbrev ProfileScene := Scene World Op Command ProfileError Unit

abbrev ProfileSite := Site World Op Command ProfileError Unit

abbrev ProfileTerms := Terms World Op Command ProfileError Unit

/-- Any commands may come, and a statement waits for the lock it needs. -/
def waiting : ProfileTerms where
  Acts scene index _ op _ := rowLocks.Waits scene index op

def start (db : Db) : ProfileSite := ⟨⟨{ db := db }, [], []⟩, []⟩

end Messanger.Profiles
