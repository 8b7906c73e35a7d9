import Messanger.Contacts.CommandsCore
import Messanger.Library.Parts
import Messanger.Privacy.ProfilesCore
import Messanger.Profiles.CommandsCore

/-!
What the queries for profiles read and answer: the rows of the profiles with their links, the block
lists, the privacy settings, and the answers that are kept in Redis.  An answer is kept under the
version of the list at which the query for it began; a command that has changed a profile counts
the version up.
-/

namespace Messanger.ProfileCache

open Relational Processes

abbrev Profile := Profiles.Profile
abbrev AvatarMap := Profiles.AvatarMap

structure ProfileLink where
  id : Nat
  provider : String
  contact : String
  profileId : UserId
  deriving DecidableEq, Repr

structure ProfileLinkDTO where
  profileId : UserId
  provider : String
  contact : String
  deriving DecidableEq, Repr

/-- The storage keys of the avatars become URLs when the answer is handed out. -/
structure ProfileDTO where
  id : UserId
  username : String
  avatars : AvatarMap
  specialization : Option String
  displayName : Option String
  bio : Option String
  dateBirthday : Option Profiles.Date
  skills : Finset String
  links : List ProfileLinkDTO
  deriving DecidableEq

def ProfileLink.dto (link : ProfileLink) : ProfileLinkDTO :=
  ⟨link.profileId, link.provider, link.contact⟩

def ProfileDTO.modelValidate (profile : Profile) (links : List ProfileLink) : ProfileDTO where
  id := profile.id
  username := profile.username
  avatars := profile.avatars
  specialization := profile.specialization
  displayName := profile.displayName
  bio := profile.bio
  dateBirthday := profile.dateBirthday
  skills := profile.skills.toFinset
  links := links.map ProfileLink.dto

structure PageResult (Item : Type) where
  items : List Item
  total : Nat
  page : Nat
  pageSize : Nat
  deriving DecidableEq

section Filters

inductive SortDirection where
  | asc
  | desc
  deriving DecidableEq, Repr

structure SortField where
  field : String
  direction : SortDirection := .asc
  deriving DecidableEq, Repr

def maxPageSize : Nat := 100

/-- The bounds without which `PaginationParamsError` is raised. -/
structure Pagination where
  page : Nat := 1
  pageSize : Nat := 20
  first : 1 ≤ page := by decide
  sized : 1 ≤ pageSize := by decide
  bounded : pageSize ≤ maxPageSize := by decide
  deriving DecidableEq

def Pagination.offset (pagination : Pagination) : Nat := (pagination.page - 1) * pagination.pageSize

structure ProfileFilter where
  username : Option String := none
  displayName : Option String := none
  skills : Option (List String) := none
  sortFields : List SortField := []
  pagination : Pagination := {}
  deriving DecidableEq

end Filters

structure GetProfileByIdQuery where
  profileId : UserId
  userJwtData : UserJWTData
  deriving DecidableEq

structure GetProfileByUsernameQuery where
  username : String
  viewerId : Option UserId := none
  deriving DecidableEq

structure GetProfilesQuery where
  profileFilter : ProfileFilter := {}
  viewerId : UserId
  query : Option String := none
  deriving DecidableEq

/-- The `_handle` that is asked, with its arguments: what the digest of a key stands for. -/
inductive Question where
  | profileById (profileId : UserId)
  | profileByUsername (username : String)
  | profiles (query : GetProfilesQuery)
  deriving DecidableEq

abbrev Question.Value : Question → Type
  | .profileById _ | .profileByUsername _ => ProfileDTO
  | .profiles _ => PageResult ProfileDTO

abbrev CacheKey := Nat × Question

/-- The columns `created_at` and `updated_at`. -/
structure Dates where
  createdAt : Nat := 0
  updatedAt : Nat := 0
  deriving DecidableEq, Repr

/-- What the database compares texts with and orders rows by, and the URLs of files. -/
structure Services extends Profiles.Services where
  /-- `ILIKE`, with the text and the pattern. -/
  ilike : String → String → Bool
  /-- `icontains` with `autoescape`. -/
  icontains : String → String → Bool
  /-- How a column of the model orders rows, if the model has it. -/
  column : String → Option (Profile × Dates → Profile × Dates → Ordering)
  presignedUrl : String → String

inductive ApplicationError where
  | profiles (error : Profiles.ProfileError)
  | contacts (error : Contacts.ContactError)
  | notFoundUsernameProfile (username : String)
  | alreadeExistProfile
  deriving DecidableEq, Repr

inductive LinkWrite where
  | insert (profileId : UserId) (provider contact : String)
  | update (id : Nat) (contact : String)
  | delete (ids : List Nat)
  deriving DecidableEq, Repr

structure World where
  profiles : Profiles.World := {}
  dates : UserId → Dates := fun _ => {}
  links : Table ProfileLink Nat ProfileLink.id := .empty
  /-- The last number of the sequence for `profile_links.id`. -/
  linkIds : Nat := 0
  privacies : Table ProfilePrivacy UserId ProfilePrivacy.userId := .empty
  book : Contacts.World := {}
  cached : (key : CacheKey) → Option key.2.Value := fun _ => none

namespace World

variable (world : World)

def version : Nat := world.profiles.listVersion

def linksOf (profileId : UserId) : List ProfileLink :=
  world.links.select fun link => link.profileId == profileId

/-- `get_block_list`, read from the table. -/
def blockList (ownerId : UserId) : List UserId := world.book.db.allTargetIds ownerId

def blockersOf (targetId : UserId) (ownerIds : List UserId) : List UserId :=
  (world.book.db.blocked.select fun row =>
    row.targetId == targetId && ownerIds.contains row.ownerId).map Contacts.BlockedUser.ownerId

def privacyStore : ProfileStore where
  privacies := world.privacies
  contacts := world.book.db.contacts.rows.map Contacts.UserContact.key

def invalidateCache : World := { world with profiles := world.profiles.invalidateCache }

def store (key : CacheKey) (value : key.2.Value) : World :=
  { world with cached := Function.update world.cached key (some value) }

def drop (key : CacheKey) : World :=
  { world with cached := Function.update world.cached key none }

section Keys

variable {world} {key other : CacheKey} {value : key.2.Value} {found : other.2.Value}

theorem cached_drop (kept : (world.drop key).cached other = some found) :
    world.cached other = some found := by
  change Function.update world.cached key none other = some found at kept
  by_cases same : other = key
  · subst same
    rw [Function.update_self] at kept
    cases kept
  · rw [Function.update_of_ne same] at kept
    exact kept

theorem cached_store_self : (world.store key value).cached key = some value := by
  change Function.update world.cached key (some value) key = some value
  exact Function.update_self ..

theorem cached_store_of_ne (different : other ≠ key) :
    (world.store key value).cached other = world.cached other := by
  change Function.update world.cached key (some value) other = world.cached other
  exact Function.update_of_ne different ..

end Keys

def commitLinks : LinkWrite → Except ApplicationError World
  | .insert profileId provider contact =>
      let id := world.linkIds + 1
      if (world.profiles.db.profile? profileId).isNone ∨ (world.links.find? id).isSome ∨
          (world.linksOf profileId).any (fun link => link.provider == provider) then
        .error (.profiles .integrity)
      else .ok { world with
        linkIds := id
        links := world.links.insert ⟨id, provider, contact, profileId⟩ }
  | .update id contact =>
      if (world.links.find? id).isNone then .error (.profiles .staleData)
      else .ok { world with
        links := world.links.update (fun link => link.id == id)
          (fun link => { link with contact := contact }) fun _ => rfl }
  | .delete ids => .ok { world with links := world.links.delete fun link => ids.contains link.id }

/-- `server_default` and `onupdate` of the dates: the time of the transaction, which its message
carries too. -/
def stamped (log : List Profiles.Write) : UserId → Dates :=
  let time := (log.findSome? fun write =>
    match write with
    | .publish message => some message.createdAt
    | _ => none).getD 0
  log.foldl (fun dates write =>
    match write with
    | .insertProfile row => Function.update dates row.id ⟨time, time⟩
    | .updateProfile id _ => Function.update dates id { dates id with updatedAt := time }
    | _ => dates) world.dates

def onProfiles (op : Profiles.Op) (effect : Profiles.World → Profiles.World) : World :=
  match op with
  | .commit log =>
      { world with
        profiles := effect world.profiles
        dates := if (world.profiles.commit log).isOk then world.stamped log else world.dates }
  | _ => { world with profiles := effect world.profiles }

end World

inductive Op where
  | profiles (op : Profiles.Op)
  | contacts (op : Contacts.Op)
  | getListVersion
  | get (key : CacheKey)
  | set (key : CacheKey)
  | expire (key : CacheKey)
  | getById (profileId : UserId)
  | getByUsername (username : String)
  | links (profileIds : List UserId)
  | count
  | search
  | allTargetIds (ownerId : UserId)
  | blockersOf (targetId : UserId)
  | visibilityMap (rule : PrivacyRule)
  | exceptionsFor (rule : PrivacyRule) (targetId : UserId)
  | ownersHavingContact (contactId : UserId)
  | push (userId : UserId) (fileKey : String)
  | commitLinks (write : LinkWrite)
  | invalidateCache
  deriving DecidableEq

abbrev Handler (Answer : Type) := Process World Op ApplicationError Answer

end Messanger.ProfileCache
