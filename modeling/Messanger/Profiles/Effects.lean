import Messanger.Profiles.CommandsCore

/-!
What the writes of a transaction leave of the rows: those of its own user as the handler means
them, and those of every other user as they were.
-/

namespace Messanger.Profiles

open Relational Processes

structure Gallery where
  profile : Option Profile
  photos : List ProfilePhoto

def Db.gallery (userId : UserId) (db : Db) : Gallery := ⟨db.profile? userId, db.photosOf userId⟩

def World.gallery (userId : UserId) (world : World) : Gallery := world.db.gallery userId

variable {db after : Db} {userId other : UserId} {log : List Write} {message : OutboxMessage}
  {profile new row : Profile} {photo : ProfilePhoto}

section Columns

theorem apply_difference (same : new.id = profile.id) :
    (profile.difference new).apply profile = new := by
  simp only [ProfileChange.apply, Profile.difference, getD_changed, ← same]

theorem changeDisplayName_ok {name : Option String}
    (ok : profile.changeDisplayName name = .ok new) : new = { profile with displayName := name } := by
  cases name with
  | none =>
      cases ok
      rfl
  | some name =>
      simp only [Profile.changeDisplayName] at ok
      split at ok
      · cases ok
      · cases ok
        rfl

theorem changeBio_ok {bio : Option String} (ok : profile.changeBio bio = .ok new) :
    new = { profile with bio := bio } := by
  cases bio with
  | none =>
      cases ok
      rfl
  | some bio =>
      simp only [Profile.changeBio] at ok
      split at ok
      · cases ok
      · cases ok
        rfl

theorem updateSkills_ok {lower : String → String} {skills : List String}
    (ok : profile.updateSkills lower skills = .ok new) :
    ∃ written, new = { profile with skills := written } := by
  simp only [Profile.updateSkills] at ok
  split at ok
  · cases ok
  · cases checked : Profile.validateSkills (skills.map lower) with
    | error error =>
        rw [checked] at ok
        cases ok
    | ok written =>
        rw [checked] at ok
        cases ok
        exact ⟨written, rfl⟩

structure Updated (name : Option String) (profile new : Profile) : Prop where
  id : new.id = profile.id
  username : new.username = profile.username
  avatars : new.avatars = profile.avatars
  photoId : new.photoId = profile.photoId
  displayName : new.displayName = name

theorem update_ok {lower : String → String} {name bio specialization : Option String}
    {dateBirthday : Option Date} {skills : List String}
    (ok : profile.update lower name bio specialization dateBirthday skills = .ok new) :
    Updated name profile new := by
  unfold Profile.update at ok
  cases named : profile.changeDisplayName name with
  | error error =>
      rw [named] at ok
      cases ok
  | ok first =>
      rw [named] at ok
      change ((first.changeBio bio) >>= _) = _ at ok
      cases told : first.changeBio bio with
      | error error =>
          rw [told] at ok
          cases ok
      | ok second =>
          rw [told] at ok
          change (((second.changeSpecialization specialization).updateSkills lower skills) >>= _) = _
            at ok
          cases skilled : (second.changeSpecialization specialization).updateSkills lower skills with
          | error error =>
              rw [skilled] at ok
              cases ok
          | ok third =>
              rw [skilled] at ok
              cases ok
              obtain ⟨written, rfl⟩ := updateSkills_ok skilled
              rw [changeBio_ok told, changeDisplayName_ok named]
              exact ⟨rfl, rfl, rfl, rfl, rfl⟩

end Columns

section Writing

theorem writeAll_cons {first : Write} (written : db.writeAll (first :: log) = .ok after) :
    ∃ middle, db.write first = .ok middle ∧ middle.writeAll log = .ok after := by
  rw [Db.writeAll, List.foldlM_cons] at written
  cases done : db.write first with
  | error error =>
      rw [done] at written
      cases written
  | ok middle =>
      rw [done] at written
      exact ⟨middle, rfl, written⟩

theorem writeAll_nil (written : db.writeAll [] = .ok after) : after = db := by
  cases written
  rfl

theorem write_publish (written : db.write (.publish message) = .ok after) :
    after = { db with outbox := db.outbox ++ [message] } := by
  simp only [Db.write] at written
  split at written
  · cases written
  · cases written
    rfl

structure Told (userId : UserId) (change : ProfileChange) (message : OutboxMessage)
    (db after : Db) : Prop where
  row : after.profile? userId = (db.profile? userId).map change.apply
  others : ∀ other, other ≠ userId → after.profile? other = db.profile? other
  photos : after.photos = db.photos
  outbox : after.outbox = db.outbox ++ [message]

theorem told_flushed (written : db.writeAll (profile.flushed new ++ [.publish message]) = .ok after) :
    Told profile.id (profile.difference new) message db after := by
  unfold Profile.flushed at written
  by_cases same : profile = new
  · rw [if_pos same] at written
    obtain ⟨middle, sent, finish⟩ := writeAll_cons written
    rw [writeAll_nil finish, write_publish sent]
    refine ⟨?_, fun _ _ => rfl, rfl, rfl⟩
    subst same
    have idle : (profile.difference profile).apply = id := by
      funext row
      simp [ProfileChange.apply, Profile.difference, changed]
    rw [idle, Option.map_id, id]
  · rw [if_neg same] at written
    obtain ⟨middle, updated, rest⟩ := writeAll_cons written
    obtain ⟨last, sent, finish⟩ := writeAll_cons rest
    rw [writeAll_nil finish, write_publish sent]
    simp only [Db.write] at updated
    split at updated
    · cases updated
    · cases updated
      refine ⟨?_, ?_, rfl, rfl⟩
      · rw [Db.profile?, Table.find?_update]
        refine Option.map_congr fun row found => ?_
        have key : row.id = profile.id := Table.key_of_find? found
        rw [key, beq_self_eq_true, if_pos rfl]
      · intro other apart
        refine Table.find?_update_other _ _ _ (profile.difference new).id_apply _ fun row key => ?_
        rw [key]
        simpa using apart

theorem told_created (written : db.writeAll [.insertProfile new, .publish message] = .ok after) :
    db.profile? new.id = none ∧ after.profile? new.id = some new ∧
      (∀ other, other ≠ new.id → after.profile? other = db.profile? other) ∧
      after.photos = db.photos ∧ after.outbox = db.outbox ++ [message] := by
  obtain ⟨middle, inserted, rest⟩ := writeAll_cons written
  obtain ⟨last, sent, finish⟩ := writeAll_cons rest
  rw [writeAll_nil finish, write_publish sent]
  simp only [Db.write] at inserted
  split at inserted
  · cases inserted
  · rename_i free
    cases inserted
    have absent : db.profile? new.id = none := by simpa using free
    refine ⟨absent, Table.find?_insert_self _ _ absent, ?_, rfl, rfl⟩
    intro other apart
    exact Table.find?_insert_other _ _ _ (Ne.symm apart)

section Photos

theorem write_insertPhoto (written : db.write (.insertPhoto photo) = .ok after) :
    after.profiles = db.profiles ∧ after.outbox = db.outbox ∧
      db.photos.find? photo.id = none ∧
      after.photosOf photo.userId = db.photosOf photo.userId ++ [photo] ∧
      ∀ other, other ≠ photo.userId → after.photosOf other = db.photosOf other := by
  simp only [Db.write] at written
  split at written
  · cases written
  · rename_i free
    cases written
    have absent : db.photos.find? photo.id = none := by
      rw [not_or] at free
      simpa using free.1
    refine ⟨rfl, rfl, absent, ?_, ?_⟩
    · simp [Db.photosOf, Table.select, Table.rows_insert _ _ absent]
    · intro other apart
      simp [Db.photosOf, Table.select, Table.rows_insert _ _ absent, Ne.symm apart]

theorem photosOf_update {time : Nat}
    (written : db.write (.updatePhoto photo.id time) = .ok after) :
    after.profiles = db.profiles ∧ after.outbox = db.outbox ∧ ∀ other,
      after.photosOf other = (db.photosOf other).map fun row =>
        if row.id = photo.id then row.makeMain time else row := by
  simp only [Db.write] at written
  split at written
  · cases written
  · cases written
    refine ⟨rfl, rfl, fun other => ?_⟩
    simp only [Db.photosOf, Table.select, Table.update, List.filter_map, beq_iff_eq]
    refine congrArg (List.map _) (List.filter_congr fun row _ => ?_)
    simp only [Function.comp_apply]
    split
    · rfl
    · rfl

theorem photosOf_delete (written : db.write (.deletePhoto photo.id) = .ok after) :
    after.profiles = db.profiles ∧ after.outbox = db.outbox ∧ ∀ other,
      after.photosOf other = (db.photosOf other).filter fun row => row.id ≠ photo.id := by
  cases written
  refine ⟨rfl, rfl, fun other => ?_⟩
  simp only [Db.photosOf, Table.select, Table.delete, List.filter_filter]
  refine List.filter_congr fun row _ => ?_
  by_cases same : row.id = photo.id
  · simp [same]
  · simp [same]

theorem mem_photosOf {row : ProfilePhoto} :
    row ∈ db.photosOf userId ↔ row ∈ db.photos.rows ∧ row.userId = userId := by
  simp [Db.photosOf, Table.select]

theorem not_mem_photosOf {row : ProfilePhoto} (member : photo ∈ db.photosOf userId)
    (apart : other ≠ userId) (theirs : row ∈ db.photosOf other) : row.id ≠ photo.id := by
  obtain ⟨photoRow, owner⟩ := mem_photosOf.mp member
  obtain ⟨otherRow, otherOwner⟩ := mem_photosOf.mp theirs
  intro same
  rw [db.photos.row_unique otherRow photoRow same] at otherOwner
  exact apart (otherOwner.symm.trans owner)

theorem photosOf_congr (same : after.photos = db.photos) : after.photosOf = db.photosOf := by
  funext other
  rw [Db.photosOf, Db.photosOf, same]

end Photos

end Writing

end Messanger.Profiles
