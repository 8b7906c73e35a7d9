import Mathlib.Order.Monotone.Defs
import Messanger.Profiles.Commits

/-!
The main photo of a profile: the one that was made the main one last.  A photo that is deleted gives
way to the last one of those that are left.
-/

namespace Messanger.Profiles

open Relational Processes

/-- The profile shows the photo that was made the main one last, if there is any. -/
structure Shows (profile : Profile) (photos : List ProfilePhoto) : Prop where
  bare : profile.photoId = none ↔ photos = []
  main : ∀ photoId, profile.photoId = some photoId → ∃ photo ∈ photos, photo.id = photoId ∧
    profile.avatars = photo.avatars ∧ ∀ other ∈ photos, other.earlier photo
  few : photos.length ≤ maxProfilePhotos

section Latest

variable {photos : List ProfilePhoto} {photo : ProfilePhoto}

theorem earlier_refl (photo : ProfilePhoto) : photo.earlier photo := .inr ⟨rfl, Nat.le_refl _⟩

theorem earlier_of_lt {other : ProfilePhoto} (less : other.setMainAt < photo.setMainAt) :
    other.earlier photo := .inl less

theorem earlier_trans {first second third : ProfilePhoto} (below : first.earlier second)
    (above : second.earlier third) : first.earlier third := by
  rcases below with less | ⟨same, less⟩
  · rcases above with more | ⟨equal, _⟩
    · exact .inl (Nat.lt_trans less more)
    · exact .inl (equal ▸ less)
  · rcases above with more | ⟨equal, more⟩
    · exact .inl (same ▸ more)
    · exact .inr ⟨same.trans equal, Nat.le_trans less more⟩

theorem earlier_total (first second : ProfilePhoto) :
    first.earlier second ∨ second.earlier first := by
  rcases Nat.lt_trichotomy first.setMainAt second.setMainAt with less | same | more
  · exact .inl (.inl less)
  · rcases Nat.le_total first.id second.id with below | above
    · exact .inl (.inr ⟨same, below⟩)
    · exact .inr (.inr ⟨same.symm, above⟩)
  · exact .inr (.inl more)

instance : IsTrans ProfilePhoto fun left right => right.earlier left :=
  ⟨fun _ _ _ above below => earlier_trans below above⟩

instance : Std.Total fun left right : ProfilePhoto => right.earlier left :=
  ⟨fun first second => earlier_total second first⟩

theorem latest_none (absent : ProfilePhoto.latest photos = none) : photos = [] := by
  have sorted := List.head?_eq_none_iff.mp absent
  have length := congrArg List.length sorted
  rw [List.length_insertionSort] at length
  exact List.eq_nil_of_length_eq_zero length

theorem latest_some (found : ProfilePhoto.latest photos = some photo) :
    photo ∈ photos ∧ ∀ other ∈ photos, other.earlier photo := by
  obtain ⟨rest, sorted⟩ := List.head?_eq_some_iff.mp found
  have order := List.pairwise_insertionSort (fun left right : ProfilePhoto => right.earlier left) photos
  have member : ∀ other, other ∈ photos ↔ other ∈ photo :: rest := by
    intro other
    rw [← sorted, List.mem_insertionSort]
  rw [sorted] at order
  refine ⟨(member photo).mpr List.mem_cons_self, fun other inside => ?_⟩
  rcases List.mem_cons.mp ((member other).mp inside) with rfl | later
  · exact earlier_refl other
  · exact (List.pairwise_cons.mp order).1 other later

end Latest

structure Ordered (services : Services) (userId : UserId) (world : World) : Prop where
  absent : world.db.profile? userId = none → world.db.photosOf userId = []
  shows : ∀ profile, world.db.profile? userId = some profile →
    Shows profile (world.db.photosOf userId)
  past : ∀ photo ∈ world.db.photosOf userId,
    ∃ turn < world.turn, photo.setMainAt = services.now turn

section Changes

variable {services : Services} {userId : UserId} {world : World} {after : Db} {profile : Profile}
  {photo : ProfilePhoto} {photos : List ProfilePhoto}

theorem ordered_same (ordered : Ordered services userId world)
    (gallery : after.gallery userId = world.db.gallery userId) :
    Ordered services userId { world with db := after } := by
  have profiles : after.profile? userId = world.db.profile? userId :=
    congrArg Gallery.profile gallery
  have photos : after.photosOf userId = world.db.photosOf userId := congrArg Gallery.photos gallery
  refine ⟨fun absent => ?_, fun profile found => ?_, fun photo member => ?_⟩
  · rw [photos]
    exact ordered.absent (profiles ▸ absent)
  · rw [photos]
    exact ordered.shows profile (profiles ▸ found)
  · rw [photos] at member
    exact ordered.past photo member

theorem ordered_after {new : Profile} (row : after.profile? userId = some new)
    (shows : Shows new (after.photosOf userId))
    (past : ∀ photo ∈ after.photosOf userId, ∃ turn < world.turn, photo.setMainAt = services.now turn) :
    Ordered services userId { world with db := after } := by
  refine ⟨fun absent => ?_, fun profile found => ?_, past⟩
  · rw [row] at absent
    cases absent
  · rw [row] at found
    cases found
    exact shows

theorem later_of_stamped (clock : StrictMono services.now) {stamp : Nat}
    (stamped : Stamped services (Ordered services userId) world userId stamp) :
    (∃ turn < world.turn, stamp = services.now turn) ∧
      ∀ other ∈ world.db.photosOf userId, other.setMainAt < stamp := by
  obtain ⟨past, ordered, gallery, turn, rfl⟩ := stamped
  refine ⟨⟨past.turn, turn, rfl⟩, fun other member => ?_⟩
  have photos : past.db.photosOf userId = world.db.photosOf userId :=
    congrArg Gallery.photos gallery
  obtain ⟨shown, before, same⟩ := ordered.past other (photos ▸ member)
  rw [same]
  exact clock before

theorem shows_nothing (bare : profile.photoId = none) : Shows profile [] where
  bare := ⟨fun _ => rfl, fun _ => bare⟩
  main photoId same := by
    rw [bare] at same
    cases same
  few := Nat.zero_le _

theorem shows_setPhoto (member : photo ∈ photos) (last : ∀ other ∈ photos, other.earlier photo)
    (few : photos.length ≤ maxProfilePhotos) : Shows (profile.setPhoto (some photo)) photos where
  bare := ⟨(fun absent => nomatch absent), fun empty => absurd member (empty ▸ List.not_mem_nil)⟩
  main photoId same := by
    cases same
    exact ⟨photo, member, rfl, rfl, last⟩
  few := few

theorem shows_latest (few : photos.length ≤ maxProfilePhotos) :
    Shows (profile.setPhoto (ProfilePhoto.latest photos)) photos := by
  cases found : ProfilePhoto.latest photos with
  | none =>
      have empty := latest_none found
      subst empty
      exact shows_nothing rfl
  | some photo =>
      obtain ⟨member, last⟩ := latest_some found
      exact shows_setPhoto member last few

theorem shows_filter (shows : Shows profile photos) (member : photo ∈ photos)
    (spare : profile.photoId ≠ some photo.id) :
    Shows profile (photos.filter fun row => row.id ≠ photo.id) := by
  cases main : profile.photoId with
  | none =>
      rw [shows.bare.mp main] at member
      cases member
  | some photoId =>
      obtain ⟨shown, inside, same, avatars, last⟩ := shows.main photoId main
      have apart : shown.id ≠ photo.id := by
        intro equal
        rw [main, ← same, equal] at spare
        exact spare rfl
      have kept : shown ∈ photos.filter fun row => row.id ≠ photo.id :=
        List.mem_filter.mpr ⟨inside, decide_eq_true apart⟩
      refine ⟨⟨fun none => ?_, fun empty => ?_⟩, ?_, ?_⟩
      · rw [main] at none
        cases none
      · rw [empty] at kept
        cases kept
      · intro other found
        rw [main] at found
        cases found
        exact ⟨shown, kept, same, avatars, fun other left => last other (List.mem_filter.mp left).1⟩
      · exact Nat.le_trans (List.length_filter_le _ _) shows.few

theorem Shows.congr {new : Profile} (shows : Shows profile photos)
    (photoId : new.photoId = profile.photoId) (avatars : new.avatars = profile.avatars) :
    Shows new photos := by
  refine ⟨?_, ?_, shows.few⟩
  · rw [photoId]
    exact shows.bare
  · rw [photoId, avatars]
    exact shows.main

theorem ordered_change {scene : ProfileScene} {index : Nat} {command : Command}
    (clock : StrictMono services.now) (ordered : Ordered services userId scene.world)
    (change : Change services (Ordered services userId) scene index userId after command) :
    Ordered services userId { scene.world with db := after } := by
  cases change with
  | @added _ profile photo _ found room stamped fresh row photos _ _ =>
      obtain ⟨time, later⟩ := later_of_stamped clock stamped
      refine ordered_after row ?_ ?_
      · rw [photos]
        refine shows_setPhoto (List.mem_append_right _ List.mem_cons_self) ?_ ?_
        · intro other member
          rcases List.mem_append.mp member with before | last
          · exact earlier_of_lt (later other before)
          · rw [List.mem_singleton.mp last]
            exact earlier_refl photo
        · rw [List.length_append, List.length_singleton]
          exact room
      · rw [photos]
        intro other member
        rcases List.mem_append.mp member with before | last
        · exact ordered.past other before
        · rw [List.mem_singleton.mp last]
          exact time
  | @dropped _ profile photo found member spare row photos _ =>
      refine ordered_after row ?_ ?_
      · rw [photos]
        exact shows_filter (ordered.shows profile found) member spare
      · rw [photos]
        exact fun other inside => ordered.past other (List.mem_filter.mp inside).1
  | @replaced _ profile photo _ found photos row _ _ =>
      have few := (ordered.shows profile found).few
      refine ordered_after row (shows_latest ?_) ?_
      · rw [photos]
        exact Nat.le_trans (List.length_filter_le _ _) few
      · rw [photos]
        exact fun other inside => ordered.past other (List.mem_filter.mp inside).1
  | @promoted _ profile photo time _ found member stamped row photos _ _ =>
      obtain ⟨read, later⟩ := later_of_stamped clock stamped
      have inside : photo.makeMain time ∈ after.photosOf userId := by
        rw [photos]
        exact List.mem_map.mpr ⟨photo, member, if_pos rfl⟩
      have cases : ∀ other ∈ after.photosOf userId, other = photo.makeMain time ∨
          other ∈ scene.world.db.photosOf userId := by
        intro other shown
        rw [photos] at shown
        obtain ⟨row, before, rfl⟩ := List.mem_map.mp shown
        by_cases same : row.id = photo.id
        · rw [if_pos same]
          have unique := scene.world.db.photos.row_unique (mem_photosOf.mp before).1
            (mem_photosOf.mp member).1 same
          exact .inl (by rw [unique])
        · rw [if_neg same]
          exact .inr before
      refine ordered_after row (shows_setPhoto inside ?_ ?_) ?_
      · intro other shown
        rcases cases other shown with rfl | before
        · exact earlier_refl _
        · exact earlier_of_lt (later other before)
      · rw [photos, List.length_map]
        exact (ordered.shows profile found).few
      · intro other shown
        rcases cases other shown with rfl | before
        · exact read
        · exact ordered.past other before
  | @created _ profile _ absent row bare photos _ _ =>
      have empty := ordered.absent absent
      refine ordered_after row ?_ ?_
      · rw [photos, empty]
        exact shows_nothing bare
      · rw [photos]
        exact ordered.past
  | @renamed _ profile _ _ found row photos _ _ =>
      refine ordered_after row ?_ ?_
      · rw [photos]
        exact (ordered.shows profile found).congr rfl rfl
      · rw [photos]
        exact ordered.past
  | @updated update profile new _ _ _ _ _ changed _ row photos _ _ =>
      cases found : scene.world.db.profile? userId with
      | none =>
          rw [found] at row
          refine ⟨fun _ => ?_, fun profile there => ?_, ?_⟩
          · rw [photos]
            exact ordered.absent found
          · rw [row] at there
            cases there
          · rw [photos]
            exact ordered.past
      | some current =>
          rw [found] at row
          refine ordered_after row ?_ ?_
          · rw [photos]
            exact (ordered.shows current found).congr (getD_unchanged changed.photoId.symm _)
              (getD_unchanged changed.avatars.symm _)
          · rw [photos]
            exact ordered.past

end Changes

section Runs

variable {services : Services}

theorem upholds_ordered (clock : StrictMono services.now) (userId : UserId) :
    Upholds services waiting (Ordered services userId) where
  waits _ _ _ _ _ acts := acts
  calm world after ordered rows turns := by
    refine ⟨?_, ?_, ?_⟩
    · rw [rows]
      exact ordered.absent
    · rw [rows]
      exact ordered.shows
    · rw [rows]
      intro photo member
      obtain ⟨turn, before, same⟩ := ordered.past photo member
      exact ⟨turn, Nat.lt_of_lt_of_le before turns, same⟩
  commit scene index command user log _ after ordered _ written change others := by
    by_cases own : user = userId
    · subst own
      exact ordered_change clock ordered change
    · exact ordered_same ordered (others userId (Ne.symm own))

/-- Whatever commands take their turns, a profile that had no photos shows the photo that was made
the main one last, in the row as in the copy of its files, and never has too many. -/
theorem main_photo_last (clock : StrictMono services.now) {db : Db} {userId : UserId}
    {site : ProfileSite} (photoless : db.photosOf userId = [])
    (unset : ∀ profile, db.profile? userId = some profile → profile.photoId = none)
    (run : Runs (Command.handle services) waiting (start db) site) :
    ∀ profile, site.world.db.profile? userId = some profile →
      Shows profile (site.world.db.photosOf userId) := by
  have initial : Ordered services userId { db := db } := by
    refine ⟨fun _ => photoless, fun profile found => ?_, fun photo member => ?_⟩
    · have bare := unset profile found
      change Shows profile (db.photosOf userId)
      rw [photoless]
      exact shows_nothing bare
    · change photo ∈ db.photosOf userId at member
      rw [photoless] at member
      cases member
  exact (known_of_runs (upholds_ordered clock userId) initial run).shows

end Runs

section Example

def steadyServices : Services where
  now := id
  transactionTime := id
  uuid7 := id
  lower := id
  getStat _ _ := .ok 100
  downloadBytes _ _ := .ok []
  uploadFile _ _ _ := .ok ()
  mime _ := "image/png"
  dimensions _ := .ok (640, 480)
  thumbnail _ _ _ := []

def onlyProfile : Db where
  profiles := ⟨[{ id := 1, username := "neo" }], by decide⟩

def avatarMoves : List (Move Command) :=
  [Move.start (Command.proccessAvatar ⟨1, "1/a"⟩),
    Move.start (Command.proccessAvatar ⟨1, "1/b"⟩)] ++
    List.replicate 14 (Move.exec 0) ++ List.replicate 21 (Move.exec 1) ++
    List.replicate 7 (Move.exec 0) ++
    Move.start (Command.setMainProfilePhoto ⟨15, { id := 1 }⟩) :: List.replicate 7 (Move.exec 2)

def avatarSite : Option ProfileSite :=
  (start onlyProfile).steps (Command.handle steadyServices) (fun _ _ => true)
    (fun scene index _ op _ => decide (rowLocks.Waits scene index op)) avatarMoves

theorem main_photo_of_two : ∃ site profile, avatarSite = some site ∧
    site.world.db.profile? 1 = some profile ∧ profile.photoId = some 15 ∧
      (site.world.db.photosOf 1).map ProfilePhoto.id = [15, 3] ∧
        Shows profile (site.world.db.photosOf 1) := by
  have found : avatarSite.map (fun site => ((site.world.db.profile? 1).map Profile.photoId,
      (site.world.db.photosOf 1).map ProfilePhoto.id)) = some (some (some 15), [15, 3]) := by
    decide +kernel
  obtain ⟨site, reached, same⟩ := Option.map_eq_some_iff.mp found
  obtain ⟨shown, photos⟩ := Prod.mk.inj same
  obtain ⟨profile, row, main⟩ := Option.map_eq_some_iff.mp shown
  have run : Runs (Command.handle steadyServices) waiting (start onlyProfile) site :=
    runs_of_steps avatarMoves (fun _ _ _ => trivial)
      (fun scene index _ op _ checked =>
        of_decide_eq_true (p := rowLocks.Waits scene index op) checked) .refl reached
  have unset : ∀ profile, onlyProfile.profile? 1 = some profile → profile.photoId = none := by
    intro profile found
    cases found
    rfl
  exact ⟨site, profile, reached, row, main, photos,
    main_photo_last strictMono_id rfl unset run profile row⟩

end Example

end Messanger.Profiles
