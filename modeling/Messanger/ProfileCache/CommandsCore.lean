import Messanger.ProfileCache.QueriesCore

/-!
The commands that change a profile, each of which counts the version of the list up when it has
committed, and those that block and unblock, which only let go of the block list.
-/

namespace Messanger.ProfileCache

open Relational Processes

variable (services : Services)

section Parts

variable {Answer : Type}

def onProfiles : Profiles.Handler Answer → Handler Answer
  | .done outcome => .done (outcome.mapError .profiles)
  | .act op effect next =>
      .act (.profiles op) (fun world => world.onProfiles op effect) fun world =>
        onProfiles (next world.profiles)

def bookPart : Part World Op ApplicationError Contacts.World Contacts.Op Contacts.ContactError where
  get := World.book
  set book world := { world with book := book }
  label := .contacts
  error := .contacts

def invalidateCache : Handler Unit := Process.perform .invalidateCache World.invalidateCache

def commitLinks (write : LinkWrite) : Handler Unit :=
  Process.attempt (.commitLinks write) fun world => world.commitLinks write

end Parts

section Handlers

structure CreateProfileCommand where
  userId : UserId
  username : String
  displayName : Option String := none
  bio : Option String := none
  dateBirthday : Option Profiles.Date := none
  specialization : Option String := none
  skills : Option (List String) := none
  deriving DecidableEq, Repr

structure AddLinkToProfileCommand where
  profileId : UserId
  provider : String
  contact : String
  userJwtData : UserJWTData
  deriving DecidableEq, Repr

structure RemoveLinkFromProfileCommand where
  profileId : UserId
  provider : String
  userJwtData : UserJWTData
  deriving DecidableEq, Repr

structure UpdateProfileAvatarCommand where
  fileKey : String
  userJwtData : UserJWTData
  deriving DecidableEq, Repr

def CreateProfileCommand.profile (command : CreateProfileCommand) :
    Except Profiles.ProfileError Profile := do
  let profile := { Profiles.Profile.create command.userId command.username with
    dateBirthday := command.dateBirthday
    specialization := command.specialization }
  let profile ← profile.changeDisplayName command.displayName
  let profile ← profile.changeBio command.bio
  profile.updateSkills services.lower (command.skills.getD [])

def CreateProfileCommandHandler.handle (command : CreateProfileCommand) : Handler Unit := do
  let transactionTime ← onProfiles (Profiles.begin services.toServices)
  let existing ← ProfileRepository.getById command.userId
  if existing.isSome then Process.raise .alreadeExistProfile
  else
    let profile ← (command.profile services).mapError ApplicationError.profiles
    let event ← onProfiles (Profiles.publish services.toServices .created profile transactionTime)
    onProfiles (Profiles.commit [.insertProfile profile, event])
    invalidateCache

def ensureUpdatable (profile : Profile) (user : UserJWTData) : Except ApplicationError Unit :=
  if profile.id = user.id ∨ checkPermission user Profiles.profileUpdatePermissions then .ok ()
  else .error (.profiles (.accessDenied
    (Profiles.profileUpdatePermissions.filter (· ∉ user.permissions))))

/-- `Profile.add_link`: the link of the provider gets the contact, if there is one.  Nothing is
written for a contact that is the same. -/
def addLink (profileId : UserId) (links : List ProfileLink) (provider contact : String) :
    LinkWrite :=
  match links.find? fun link => link.provider == provider with
  | some link => if link.contact = contact then .delete [] else .update link.id contact
  | none => .insert profileId provider contact

def removeLink (links : List ProfileLink) (provider : String) : LinkWrite :=
  .delete ((links.filter fun link => link.provider == provider).map ProfileLink.id)

def AddLinkToProfileCommandHandler.handle (command : AddLinkToProfileCommand) : Handler Unit := do
  let loaded ← ProfileRepository.getById command.profileId
  let (profile, links) ← found loaded (.profiles (.notFoundProfile command.profileId))
  ensureUpdatable profile command.userJwtData
  commitLinks (addLink profile.id links command.provider command.contact)
  invalidateCache

def RemoveLinkFromProfileCommandHandler.handle (command : RemoveLinkFromProfileCommand) :
    Handler Unit := do
  let loaded ← ProfileRepository.getById command.profileId
  let (profile, links) ← found loaded (.profiles (.notFoundProfile command.profileId))
  ensureUpdatable profile command.userJwtData
  commitLinks (removeLink links command.provider)
  invalidateCache

def UpdateProfileAvatarCommandHandler.handle (command : UpdateProfileAvatarCommand) :
    Handler Unit := do
  Process.perform (.push command.userJwtData.id command.fileKey) id
  invalidateCache

end Handlers

inductive Command where
  | createProfile (command : CreateProfileCommand)
  | addLink (command : AddLinkToProfileCommand)
  | removeLink (command : RemoveLinkFromProfileCommand)
  | updateProfileAvatar (command : UpdateProfileAvatarCommand)
  | profiles (command : Profiles.Command)
  | blockUser (command : Contacts.BlockCommand)
  | unblockUser (command : Contacts.BlockCommand)
  deriving DecidableEq

inductive Query where
  | profileById (query : GetProfileByIdQuery)
  | profileByUsername (query : GetProfileByUsernameQuery)
  | profiles (query : GetProfilesQuery)
  deriving DecidableEq

/-- Who takes turns: commands, queries, and the end of the time that an answer is kept. -/
inductive Party where
  | command (command : Command)
  | query (query : Query)
  | expire (key : CacheKey)
  deriving DecidableEq

inductive Answer where
  | nothing
  | profile (profile : ProfileDTO)
  | profiles (page : PageResult ProfileDTO)
  deriving DecidableEq

def Command.handle : Command → Handler Unit
  | .createProfile command => CreateProfileCommandHandler.handle services command
  | .addLink command => AddLinkToProfileCommandHandler.handle command
  | .removeLink command => RemoveLinkFromProfileCommandHandler.handle command
  | .updateProfileAvatar command => UpdateProfileAvatarCommandHandler.handle command
  | .profiles command => onProfiles (command.handle services.toServices)
  | .blockUser command => (Contacts.blockUser command).handler.embed bookPart
  | .unblockUser command => (Contacts.unblockUser command).handler.embed bookPart

def Query.handle (caching : Caching) : Query → Handler Answer
  | .profileById query => .profile <$> GetProfileByIdQueryHandler.handle services caching query
  | .profileByUsername query =>
      .profile <$> GetProfileByUsernameQueryHandler.handle services caching query
  | .profiles query => .profiles <$> GetProfilesQueryHandler.handle services caching query

def Party.handle : Party → Handler Answer
  | .command asked => (fun _ => .nothing) <$> asked.handle services
  | .query asked => asked.handle services CacheRepository.cache
  | .expire key => (fun _ => .nothing) <$> Process.perform (.expire key) fun world => world.drop key

abbrev ListScene := Scene World Op Party ApplicationError Answer

abbrev ListSite := Site World Op Party ApplicationError Answer

abbrev ListTerms := Terms World Op Party ApplicationError Answer

abbrev ListEntry := Entry World Op Party ApplicationError Answer

/-- Redis is empty at first. -/
def start (world : World) : ListSite := ⟨⟨{ world with cached := fun _ => none }, [], []⟩, []⟩

end Messanger.ProfileCache
