import Messanger.ProfileCache.Announcements

/-!
What the queries look at.  What a `_handle` answers depends on the tables of the profiles, and for a
page on the block list of the viewer; the rest of a query reads the block lists and the privacy
settings besides.
-/

namespace Messanger.ProfileCache

open Relational Processes

variable {services : Services} {Answer : Type}

def World.facts (world : World) :
    (Profiles.Db × (UserId → Dates) × Table ProfileLink Nat ProfileLink.id) × Nat ×
      Contacts.World × Table ProfilePrivacy UserId ProfilePrivacy.userId :=
  (world.tables, world.version, world.book, world.privacies)

namespace Question

def viewer? : Question → Option UserId
  | .profiles query => some query.viewerId
  | .profileById _ | .profileByUsername _ => none

def seen (question : Question) (world : World) :
    (Profiles.Db × (UserId → Dates) × Table ProfileLink Nat ProfileLink.id) ×
      Option (List UserId) :=
  (world.tables, question.viewer?.map world.blockList)

variable (services : Services)

/-- The `_handle` of the question. -/
def handle : (question : Question) → Handler question.Value
  | .profileById profileId => GetProfileByIdQueryHandler.handleUncached profileId
  | .profileByUsername username => GetProfileByUsernameQueryHandler.handleUncached services username
  | .profiles query => GetProfilesQueryHandler.handleUncached services query

end Question

section Seeing

variable {left right : World}

theorem tables_eq (agree : left.tables = right.tables) :
    left.profiles.db = right.profiles.db ∧ left.dates = right.dates ∧ left.links = right.links := by
  simpa only [World.tables, Prod.mk.injEq] using agree

theorem sees_loadLinks (profiles : List Profile) :
    (ProfileRepository.loadLinks profiles).Sees World.tables := by
  refine Process.sees_ite trivial (Process.sees_observe fun left right agree => ?_)
  simp only [World.linksOf, (tables_eq agree).2.2]

theorem sees_getById (profileId : UserId) :
    (ProfileRepository.getById profileId).Sees World.tables := by
  refine Process.sees_bind (Process.sees_observe fun left right agree => ?_) fun profile =>
    Process.sees_bind (sees_loadLinks _) fun _ => trivial
  rw [(tables_eq agree).1]

theorem sees_getByUsername (username : String) :
    (ProfileRepository.getByUsername services username).Sees World.tables := by
  refine Process.sees_bind (Process.sees_observe fun left right agree => ?_) fun profile =>
    Process.sees_bind (sees_loadLinks _) fun _ => trivial
  obtain ⟨db, dates, _⟩ := tables_eq agree
  simp only [db, dates]

theorem matching_eq (agree : left.tables = right.tables) (filters : ProfileFilter)
    (query : Option String) (excludeIds : List UserId) :
    ProfileRepository.matching services filters query excludeIds left =
      ProfileRepository.matching services filters query excludeIds right := by
  simp only [ProfileRepository.matching, (tables_eq agree).1]

theorem sorted_eq (agree : left.tables = right.tables) (fields : List SortField)
    (profiles : List Profile) : ProfileRepository.sorted services fields left profiles =
      ProfileRepository.sorted services fields right profiles := by
  have order : ProfileRepository.inOrder (ProfileRepository.sortAttributes services fields) left =
      ProfileRepository.inOrder (ProfileRepository.sortAttributes services fields) right := by
    funext first second
    simp only [ProfileRepository.inOrder, (tables_eq agree).2.1]
  unfold ProfileRepository.sorted
  dsimp only
  rw [order]

theorem sees_search (filters : ProfileFilter) (query : Option String) (excludeIds : List UserId) :
    (ProfileRepository.search services filters query excludeIds).Sees World.tables := by
  refine Process.sees_bind (Process.sees_observe fun left right agree => ?_) fun total =>
    Process.sees_bind (Process.sees_observe fun left right agree => ?_) fun profiles =>
      Process.sees_bind (sees_loadLinks _) fun items => trivial
  · rw [matching_eq agree]
  · rw [matching_eq agree, sorted_eq agree]

theorem looking_search (filters : ProfileFilter) (query : Option String)
    (excludeIds : List UserId) :
    (ProfileRepository.search services filters query excludeIds).Every Looking :=
  Process.every_bind (looking_observe rfl fun _ => rfl) fun _ =>
    Process.every_bind (looking_observe rfl fun _ => rfl) fun _ =>
      Process.every_bind (looking_loadLinks _) fun _ => trivial

theorem looking_question (question : Question) : (question.handle services).Every Looking := by
  cases question with
  | profileById profileId =>
      exact Process.every_bind (looking_getById _) fun _ =>
        Process.every_bind (Process.every_lift _) fun _ => trivial
  | profileByUsername username =>
      refine Process.every_bind ?_ fun _ => Process.every_bind (Process.every_lift _) fun _ => trivial
      exact Process.every_bind (looking_observe rfl fun _ => rfl) fun _ =>
        Process.every_bind (looking_loadLinks _) fun _ => trivial
  | profiles query =>
      exact Process.every_bind (looking_observe rfl fun _ => rfl) fun _ =>
        Process.every_bind (looking_search _ _ _) fun _ => trivial

theorem leaves_looking {View : Type} {view : World → View} {process : Handler Answer}
    (looking : process.Every Looking) :
    process.Every fun _ effect => ∀ world, view (effect world) = view world :=
  looking.mono fun _ _ looks world => by rw [looks.effect]; rfl

theorem sees_question (question : Question) :
    (question.handle services).Sees question.seen := by
  have tables (left right : World) (agree : question.seen left = question.seen right) :
      left.tables = right.tables := congrArg Prod.fst agree
  cases question with
  | profileById profileId =>
      have sees : (GetProfileByIdQueryHandler.handleUncached profileId).Sees World.tables :=
        Process.sees_bind (sees_getById _) fun _ =>
          Process.sees_bind (Process.sees_lift _) fun _ => trivial
      exact sees.wider (leaves_looking (@looking_question services (.profileById profileId))) tables
  | profileByUsername username =>
      have sees : (GetProfileByUsernameQueryHandler.handleUncached services username).Sees
          World.tables :=
        Process.sees_bind (sees_getByUsername _) fun _ =>
          Process.sees_bind (Process.sees_lift _) fun _ => trivial
      exact sees.wider (leaves_looking (@looking_question services (.profileByUsername username))) tables
  | profiles query =>
      refine Process.sees_bind (Process.sees_observe fun left right agree => ?_) fun blocked =>
        Process.sees_bind ?_ fun _ => trivial
      · exact Option.some.inj (congrArg Prod.snd agree)
      · exact (sees_search _ _ _).wider (leaves_looking (looking_search _ _ _)) tables

theorem seen_eq (question : Question) (agree : left.facts = right.facts) :
    question.seen left = question.seen right := by
  obtain ⟨tables, _, book, _⟩ : left.tables = right.tables ∧ left.version = right.version ∧
      left.book = right.book ∧ left.privacies = right.privacies := by
    simpa only [World.facts, Prod.mk.injEq] using agree
  have lists : left.blockList = right.blockList := by
    funext ownerId
    rw [World.blockList, World.blockList, book]
  rw [Question.seen, Question.seen, tables, lists]

theorem facts_question (question : Question) : (question.handle services).Sees World.facts :=
  (sees_question question).wider (leaves_looking (looking_question question)) fun _ _ agree =>
    seen_eq question agree

theorem facts_book (agree : left.facts = right.facts) :
    left.book = right.book ∧ left.privacies = right.privacies := by
  simp only [World.facts, Prod.mk.injEq] at agree
  exact agree.2.2

theorem privacyStore_eq (agree : left.facts = right.facts) :
    left.privacyStore = right.privacyStore := by
  rw [World.privacyStore, World.privacyStore, (facts_book agree).1, (facts_book agree).2]

/-- What only looks, and at no more than the facts. -/
structure Asks (process : Handler Answer) : Prop where
  looking : process.Every Looking
  sees : process.Sees World.facts

theorem asks_pure (answer : Answer) : Asks (pure answer) := ⟨trivial, trivial⟩

theorem asks_observe {op : Op} {read : World → Answer} (silent : op.announces = false)
    (idle : ∀ world, op.writes world = false)
    (same : ∀ left right : World, left.facts = right.facts → read left = read right) :
    Asks (Process.observe op read) :=
  ⟨looking_observe silent idle, Process.sees_observe same⟩

theorem asks_bind {Other : Type} {process : Handler Answer} {next : Answer → Handler Other}
    (first : Asks process) (rest : ∀ answer, Asks (next answer)) : Asks (process >>= next) :=
  ⟨Process.every_bind first.looking fun answer => (rest answer).looking,
    Process.sees_bind first.sees fun answer => (rest answer).sees⟩

theorem asks_ite {condition : Prop} [Decidable condition] {first second : Handler Answer}
    (yes : Asks first) (no : Asks second) : Asks (if condition then first else second) :=
  ⟨Process.every_ite yes.looking no.looking, Process.sees_ite yes.sees no.sees⟩

theorem asks_question (question : Question) : Asks (question.handle services) :=
  ⟨looking_question question, facts_question question⟩

theorem asks_allowedBy (rule : PrivacyRule) (viewer : Option UserId) (owners : Finset UserId) :
    Asks (ProfilePrivacyService.allowedBy rule viewer owners) := by
  refine asks_ite (asks_pure _) (asks_bind ?_ fun visibility => asks_bind ?_ fun exceptions =>
    asks_bind ?_ fun contacts => asks_pure _)
  · refine asks_observe rfl (fun _ => rfl) fun left right agree => ?_
    rw [privacyStore_eq agree]
  · cases viewer with
    | none => exact asks_pure _
    | some viewer =>
        refine asks_observe rfl (fun _ => rfl) fun left right agree => ?_
        rw [privacyStore_eq agree]
  · cases viewer with
    | none => exact asks_pure _
    | some viewer =>
        refine asks_ite (asks_pure _) (asks_observe rfl (fun _ => rfl) fun left right agree => ?_)
        rw [privacyStore_eq agree]

theorem asks_hidePhotos (viewer : Option UserId) (holders : List ProfileDTO) :
    Asks (ProfilePrivacyService.hidePhotos viewer holders) :=
  asks_ite (asks_pure _) (asks_bind (asks_allowedBy _ _ _) fun _ => asks_pure _)

theorem asks_finish (viewer : Option UserId) (profile : ProfileDTO) :
    Asks (finish services viewer profile) :=
  asks_bind (asks_hidePhotos _ _) fun _ => asks_pure _

theorem asks_getBlockList (ownerId : UserId) :
    Asks (BlockedUserRepository.getBlockList ownerId) := by
  refine asks_observe rfl (fun _ => rfl) fun left right agree => ?_
  rw [World.blockList, World.blockList, (facts_book agree).1]

theorem asks_blockersOf (targetId : UserId) (ownerIds : List UserId) :
    Asks (BlockedUserRepository.blockersOf targetId ownerIds) := by
  refine asks_ite (asks_pure _) (asks_observe rfl (fun _ => rfl) fun left right agree => ?_)
  rw [World.blockersOf, World.blockersOf, (facts_book agree).1]

theorem asks_finishPage (viewerId : UserId) (page : PageResult ProfileDTO) :
    Asks (finishPage services viewerId page) :=
  asks_bind (asks_blockersOf _ _) fun _ => asks_bind (asks_hidePhotos _ _) fun _ => asks_pure _

end Seeing

section Handling

variable (services)

theorem handle_cases (query : Query) :
    (∃ (question : Question) (next : question.Value → Handler ProfileCache.Answer),
      (∀ value, Asks (next value)) ∧ ∀ caching : Caching,
        query.handle services caching = caching question (question.handle services) >>= next) ∨
      (query.handle services CacheRepository.cache = query.handle services CacheRepository.uncached ∧
        Asks (query.handle services CacheRepository.uncached)) := by
  cases query with
  | profileById query =>
      refine .inl ⟨.profileById query.profileId, _, fun value => ?_, fun caching =>
        Process.bind_assoc _ (caching (.profileById query.profileId) _) _⟩
      refine asks_bind (asks_bind (asks_ite ?_ (asks_pure _)) fun _ => asks_finish _ _) fun _ =>
        asks_pure _
      exact asks_bind (asks_getBlockList _) fun _ => asks_pure _
  | profileByUsername query =>
      refine .inl ⟨.profileByUsername query.username, _, fun value => ?_, fun caching =>
        Process.bind_assoc _ (caching (.profileByUsername query.username) _) _⟩
      exact asks_bind (asks_finish _ _) fun _ => asks_pure _
  | profiles query =>
      cases asked : query.query with
      | some text =>
          right
          simp only [Query.handle, GetProfilesQueryHandler.handle, asked, true_and]
          refine asks_bind (asks_bind ?_ fun _ => asks_finishPage _ _) fun _ => asks_pure _
          exact @asks_question services (.profiles query)
      | none =>
          refine .inl ⟨.profiles query, fun page =>
            finishPage services query.viewerId page >>= fun shown => pure (.profiles shown),
            fun page => asks_bind (asks_finishPage _ _) fun _ => asks_pure _, fun caching => ?_⟩
          simp only [Query.handle, GetProfilesQueryHandler.handle, asked]
          exact Process.bind_assoc _ (caching (.profiles query) _) _

theorem asks_uncached (query : Query) :
    Asks (query.handle services CacheRepository.uncached) := by
  rcases handle_cases services query with ⟨question, next, asks, same⟩ | ⟨_, asks⟩
  · rw [same]
    exact asks_bind (asks_question question) asks
  · exact asks

end Handling

end Messanger.ProfileCache
