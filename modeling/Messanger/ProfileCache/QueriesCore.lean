import Messanger.ProfileCache.Models

/-!
The cache in front of a repository, and the queries for profiles, statement by statement.  A query
is written with the cache as an argument, so that it can be asked without it.
-/

namespace Messanger.ProfileCache

open Relational Processes

/-- How a query comes by what a `_handle` answers. -/
abbrev Caching := (question : Question) → Handler question.Value → Handler question.Value

namespace CacheRepository

/-- `_build_key` and `cache_with_key`, for one item as for a page of them. -/
def cache : Caching := fun question handle => do
  let version ← Process.observe .getListVersion World.version
  let data ← Process.observe (.get (version, question)) fun world => world.cached (version, question)
  match data with
  | some data => return data
  | none =>
      let dto ← handle
      Process.perform (.set (version, question)) fun world => world.store (version, question) dto
      return dto

def uncached : Caching := fun _ handle => handle

end CacheRepository

namespace ProfileRepository

variable (services : Services)

/-- The links that `selectinload` reads for the profiles that were found. -/
def loadLinks (profiles : List Profile) : Handler (List (Profile × List ProfileLink)) :=
  if profiles.isEmpty then return []
  else Process.observe (.links (profiles.map Profiles.Profile.id)) fun world =>
    profiles.map fun profile => (profile, world.linksOf profile.id)

def getById (profileId : UserId) : Handler (Option (Profile × List ProfileLink)) := do
  let profile ← Process.observe (.getById profileId) fun world =>
    world.profiles.db.profile? profileId
  let loaded ← loadLinks profile.toList
  return loaded.head?

def getByUsername (username : String) : Handler (Option (Profile × List ProfileLink)) := do
  let profile ← Process.observe (.getByUsername username) fun world =>
    ((world.profiles.db.profiles.select fun profile =>
      services.lower profile.username == services.lower username).insertionSort fun left right =>
        (world.dates right.id).updatedAt ≤ (world.dates left.id).updatedAt).head?
  let loaded ← loadLinks profile.toList
  return loaded.head?

/-- The conditions of `build_condition`; the skills are compared in lower case. -/
def matchesFilter (filters : ProfileFilter) (profile : Profile) : Bool :=
  filters.username.all (fun value => services.ilike profile.username ("%" ++ value ++ "%")) &&
    filters.displayName.all (fun value =>
      profile.displayName.any fun name => services.ilike name ("%" ++ value ++ "%")) &&
    filters.skills.all fun skills =>
      (skills.map services.lower).all fun skill => profile.skills.contains skill

def matchesQuery (query : String) (profile : Profile) : Bool :=
  services.icontains profile.username query ||
    profile.displayName.any fun name => services.icontains name query

def matching (filters : ProfileFilter) (query : Option String) (excludeIds : List UserId)
    (world : World) : List Profile :=
  world.profiles.db.profiles.select fun profile =>
    matchesFilter services filters profile &&
      query.all (fun query => query.isEmpty || matchesQuery services query profile) &&
      !excludeIds.contains profile.id

def sortAttributes (fields : List SortField) :
    List (Profile × Dates → Profile × Dates → Ordering) :=
  fields.filterMap fun field => (services.column field.field).map fun compare =>
    match field.direction with
    | .asc => compare
    | .desc => fun left right => compare right left

def inOrder (clauses : List (Profile × Dates → Profile × Dates → Ordering)) (world : World)
    (left right : Profile) : Bool :=
  (clauses.foldr (fun (clause : Profile × Dates → Profile × Dates → Ordering) (rest : Ordering) =>
    (clause (left, world.dates left.id) (right, world.dates right.id)).then rest) .eq).isLE

def sorted (fields : List SortField) (world : World) (profiles : List Profile) : List Profile :=
  let clauses := sortAttributes services fields
  if clauses.isEmpty then profiles.insertionSort fun left right => left.id ≤ right.id
  else profiles.insertionSort fun left right => inOrder clauses world left right

def search (filters : ProfileFilter) (query : Option String) (excludeIds : List UserId) :
    Handler (PageResult (Profile × List ProfileLink)) := do
  let total ← Process.observe .count fun world =>
    (matching services filters query excludeIds world).length
  let profiles ← Process.observe .search fun world =>
    ((sorted services filters.sortFields world
      (matching services filters query excludeIds world)).drop filters.pagination.offset).take
        filters.pagination.pageSize
  let items ← loadLinks profiles
  return ⟨items, total, filters.pagination.page, filters.pagination.pageSize⟩

end ProfileRepository

namespace BlockedUserRepository

def getBlockList (ownerId : UserId) : Handler (List UserId) :=
  Process.observe (.allTargetIds ownerId) fun world => world.blockList ownerId

def blockersOf (targetId : UserId) (ownerIds : List UserId) : Handler (List UserId) :=
  let candidates := ownerIds.filter (· ≠ targetId)
  if candidates.isEmpty then return []
  else Process.observe (.blockersOf targetId) fun world => world.blockersOf targetId candidates

end BlockedUserRepository

namespace ProfilePrivacyService

/-- Three statements, whose answers are what the decision is made from. -/
def allowedBy (rule : PrivacyRule) (viewer : Option UserId) (owners : Finset UserId) :
    Handler (Finset UserId) := do
  let rest := owners.filter fun owner => viewer ≠ some owner
  if rest = ∅ then return owners
  else
    let visibility ← Process.observe (.visibilityMap rule) fun world =>
      world.privacyStore.visibilityMap rule rest
    let exceptions ← (match viewer with
      | none => return fun _ => none
      | some viewer => Process.observe (.exceptionsFor rule viewer) fun world =>
          world.privacyStore.exceptionsFor rule viewer rest : Handler (UserId → Option Bool))
    let needContacts := rest.filter fun owner =>
      exceptions owner = none ∧ (visibility owner).getD .default = .contacts
    let contacts ← (match viewer with
      | none => return ∅
      | some viewer =>
          if needContacts = ∅ then return ∅
          else Process.observe (.ownersHavingContact viewer) fun world =>
            world.privacyStore.ownersHavingContact viewer needContacts : Handler (Finset UserId))
    return (owners.filter fun owner => viewer = some owner) ∪ rest.filter fun owner =>
      isAllowed ((visibility owner).getD .default) (owner ∈ contacts) (exceptions owner)

def hidePhotos (viewer : Option UserId) (holders : List ProfileDTO) : Handler (List ProfileDTO) := do
  let targets := holders.filter fun holder => !holder.avatars.isEmpty
  if targets.isEmpty then return holders
  else
    let allowed ← allowedBy .photo viewer (targets.map ProfileDTO.id).toFinset
    return holders.map fun holder =>
      if holder.id ∈ allowed then holder else { holder with avatars := [] }

end ProfilePrivacyService

namespace ProfileAvatarUrlService

def attach (services : Services) (holder : ProfileDTO) : ProfileDTO :=
  { holder with
    avatars := holder.avatars.map fun (size, variants) => (size, variants.map fun (fmt, key) =>
      (fmt, if key.isEmpty then key else services.presignedUrl key)) }

end ProfileAvatarUrlService

section Handlers

variable (services : Services)

def found {Answer : Type} (answer : Option Answer) (error : ApplicationError) :
    Except ApplicationError Answer :=
  match answer with
  | some answer => .ok answer
  | none => .error error

/-- `hide_photos` and `attach` for one profile. -/
def finish (viewer : Option UserId) (profile : ProfileDTO) : Handler ProfileDTO := do
  let shown ← ProfilePrivacyService.hidePhotos viewer [profile]
  return ProfileAvatarUrlService.attach services (shown.headD profile)

/-- The photos of those who block the viewer, `hide_photos` and `attach` for a page. -/
def finishPage (viewerId : UserId) (page : PageResult ProfileDTO) :
    Handler (PageResult ProfileDTO) := do
  let hidden ← BlockedUserRepository.blockersOf viewerId (page.items.map ProfileDTO.id)
  let items := page.items.map fun profile =>
    if hidden.contains profile.id then { profile with avatars := [] } else profile
  let shown ← ProfilePrivacyService.hidePhotos (some viewerId) items
  return { page with items := shown.map (ProfileAvatarUrlService.attach services) }

namespace GetProfileByIdQueryHandler

def handleUncached (profileId : UserId) : Handler ProfileDTO := do
  let loaded ← ProfileRepository.getById profileId
  let (profile, links) ← found loaded (.profiles (.notFoundProfile profileId))
  return ProfileDTO.modelValidate profile links

def handle (caching : Caching) (query : GetProfileByIdQuery) : Handler ProfileDTO := do
  let profile ← caching (.profileById query.profileId) (handleUncached query.profileId)
  let viewerId := query.userJwtData.id
  let blocked ← (if viewerId ≠ profile.id then do
      let blockList ← BlockedUserRepository.getBlockList profile.id
      return blockList.contains viewerId
    else return false : Handler Bool)
  finish services (some viewerId) (if blocked then { profile with avatars := [] } else profile)

end GetProfileByIdQueryHandler

namespace GetProfileByUsernameQueryHandler

def handleUncached (username : String) : Handler ProfileDTO := do
  let loaded ← ProfileRepository.getByUsername services username
  let (profile, links) ← found loaded (.notFoundUsernameProfile username)
  return ProfileDTO.modelValidate profile links

def handle (caching : Caching) (query : GetProfileByUsernameQuery) : Handler ProfileDTO := do
  let profile ← caching (.profileByUsername query.username) (handleUncached services query.username)
  finish services query.viewerId profile

end GetProfileByUsernameQueryHandler

namespace GetProfilesQueryHandler

def handleUncached (query : GetProfilesQuery) : Handler (PageResult ProfileDTO) := do
  let blocked ← BlockedUserRepository.getBlockList query.viewerId
  let profiles ← ProfileRepository.search services query.profileFilter query.query blocked
  return { profiles with
    items := profiles.items.map fun (profile, links) => ProfileDTO.modelValidate profile links }

/-- Only a page without a text to search for is kept. -/
def handle (caching : Caching) (query : GetProfilesQuery) : Handler (PageResult ProfileDTO) := do
  let page ← (match query.query with
    | some _ => handleUncached services query
    | none => caching (.profiles query) (handleUncached services query) :
      Handler (PageResult ProfileDTO))
  finishPage services query.viewerId page

end GetProfilesQueryHandler

end Handlers

end Messanger.ProfileCache
