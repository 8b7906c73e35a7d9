import Messanger.Avatars.Statements

/-!
The commits, which switch a row from one avatar to another: the new files are stored, and the old
ones come into the hand of the task.
-/

namespace Messanger.Avatars

open Relational Processes Profiles

variable {services : Services} {index : Nat} {command : Command} {scene : AvatarScene}
  {objects : List Object} {object : Object}

section Names

theorem mem_named {world : World} : object ∈ world.named services ↔
    (∃ chat ∈ world.chats.rows, object ∈ chatObjects services chat.avatars) ∨
      (∃ photo ∈ world.profiles.db.photos.rows, object ∈ profileObjects photo.avatars) ∨
        ∃ profile ∈ world.profiles.db.profiles.rows, object ∈ profileObjects profile.avatars := by
  simp only [World.named, List.mem_append, List.mem_flatMap, or_assoc]

theorem bucket_chat {avatars : AvatarMap} (member : object ∈ chatObjects services avatars) :
    object.1 = .chatAvatar := by
  obtain ⟨_, _, rfl⟩ := List.mem_map.mp member
  rfl

theorem bucket_profile {avatars : AvatarMap} (member : object ∈ profileObjects avatars) :
    object.1 = .avatar := by
  obtain ⟨_, _, rfl⟩ := List.mem_map.mp member
  rfl

theorem not_both {avatars other : AvatarMap} (chat : object ∈ chatObjects services avatars)
    (profile : object ∈ profileObjects other) : False := by
  have bucket := bucket_chat chat
  rw [bucket_profile profile] at bucket
  cases bucket

theorem Sound.photo_of_named {world : World} (sound : Sound services world)
    (named : object ∈ world.named services) :
    (∃ chat ∈ world.chats.rows, object ∈ chatObjects services chat.avatars) ∨
      ∃ photo ∈ world.profiles.db.photos.rows, object ∈ profileObjects photo.avatars := by
  rcases mem_named.mp named with chat | photo | ⟨profile, member, shown⟩
  · exact .inl chat
  · exact .inr photo
  · rcases sound.profiles profile member with bare | ⟨photo, inside, _, _, same⟩
    · rw [bare] at shown
      cases shown
    · exact .inr ⟨photo, inside, same ▸ shown⟩

end Names

section Chats

theorem switch_key (chat new row : Chat) :
    ({ row with
      avatars := (changed chat.avatars new.avatars).getD row.avatars
      avatarS3Key := (changed chat.avatarS3Key new.avatarS3Key).getD row.avatarS3Key } : Chat).key =
      row.key := rfl

def switched (chats : Table Chat ChatId Chat.key) (chat new : Chat) : Table Chat ChatId Chat.key :=
  chats.update (fun row => row.key == chat.key)
    (fun row => { row with
      avatars := (changed chat.avatars new.avatars).getD row.avatars
      avatarS3Key := (changed chat.avatarS3Key new.avatarS3Key).getD row.avatarS3Key })
    (switch_key chat new)

theorem find?_switched_other {chats : Table Chat ChatId Chat.key} {chat new : Chat}
    {chatId : ChatId} (apart : chatId ≠ chat.key) :
    (switched chats chat new).find? chatId = chats.find? chatId := by
  refine Table.find?_update_other _ _ _ _ _ fun row key => ?_
  rw [key]
  simpa using apart

theorem mem_switched {chats : Table Chat ChatId Chat.key} {chat new row : Chat}
    (found : chats.find? chat.key = some chat) (member : row ∈ (switched chats chat new).rows) :
    (row ∈ chats.rows ∧ row.key ≠ chat.key) ∨ (row.key = chat.key ∧ row.avatars = new.avatars) := by
  obtain ⟨old, inside, same⟩ := List.mem_map.mp member
  by_cases own : old.key = chat.key
  · have whole := (Table.find?_some_iff chats chat.key chat).mp found
    have exact_row : old = chat := chats.row_unique inside whole.1 own
    rw [if_pos (by simpa using own)] at same
    refine .inr ⟨?_, ?_⟩
    · rw [← same]
      exact own
    · rw [← same, exact_row]
      exact getD_changed chat.avatars new.avatars
  · rw [if_neg (by simpa using own)] at same
    exact .inl (same ▸ ⟨inside, own⟩)

def World.switch (world : World) (chat new : Chat) (event : ChatEvent) : World :=
  { world with chats := switched world.chats chat new, outbox := world.outbox ++ [event] }

variable {now : AvatarScene} {chat : Chat} {avatars : AvatarMap} {event : ChatEvent}

theorem unnamed_switch (standing : Standing services now)
    (found : now.world.chats.find? chat.key = some chat)
    (unnamed : ∀ object ∈ chatObjects services avatars, object ∉ now.world.named services)
    (stale : object ∈ chatObjects services chat.avatars) :
    object ∈ now.world.named services ∧
      object ∉ (now.world.switch chat (chat.updateAvatar avatars) event).named services := by
  have present : chat ∈ now.world.chats.rows := ((Table.find?_some_iff _ _ _).mp found).1
  have before : object ∈ now.world.named services := mem_named.mpr (.inl ⟨chat, present, stale⟩)
  refine ⟨before, fun after => ?_⟩
  rcases mem_named.mp after with ⟨row, member, shown⟩ | ⟨photo, _, shown⟩ | ⟨profile, _, shown⟩
  · rcases mem_switched found member with ⟨old, apart⟩ | ⟨_, same⟩
    · exact apart (standing.sound.chats row old chat present object shown stale)
    · rw [same] at shown
      exact unnamed object shown before
  · exact not_both stale shown
  · exact not_both stale shown

theorem deed_switch (standing : Standing services now)
    (held : rowLocks.Holding World.view index (.chat chat.key) (.inl (some chat)) now)
    (uploaded : ∀ object ∈ chatObjects services avatars,
      (custody services).Mine index object now ∧ object ∈ now.world.stored)
    (changes : ∀ entry : AvatarEntry, entry.tag = command → ∀ token, Changes token entry →
      (∃ pop ∈ now.own index, Popped token pop) ∧ ∀ other ∈ now.history, ¬Changes token other) :
    Deed services now index command (.commit chat)
      (now.world.switch chat (chat.updateAvatar avatars) event).tick := by
  have found : now.world.chats.find? chat.key = some chat := Sum.inl.inj held.view
  have unnamed : ∀ object ∈ chatObjects services avatars, object ∉ now.world.named services :=
    fun object member => (uploaded object member).1.unnamed
  refine ⟨fun row moved => ?_, ⟨fun object taken => ?_, fun object member new => ?_,
    fun object there gone => absurd there gone⟩, ⟨?_, ?_, ?_⟩, .same rfl, fun outcome token changed =>
      changes _ rfl token changed⟩
  · cases row with
    | profile userId => exact absurd rfl moved
    | chat chatId =>
        by_cases own : chatId = chat.key
        · rw [own]
          exact held.held
        · exact absurd (congrArg Sum.inl (find?_switched_other own)) moved
  · cases taken
  · rcases mem_named.mp member with ⟨row, inside, shown⟩ | ⟨photo, inside, shown⟩ |
      ⟨profile, inside, shown⟩
    · rcases mem_switched found inside with ⟨old, _⟩ | ⟨_, same⟩
      · exact absurd (mem_named.mpr (.inl ⟨row, old, shown⟩)) new
      · rw [same] at shown
        obtain ⟨mine, stored⟩ := uploaded object shown
        exact ⟨mine.hand, stored⟩
    · have old : object ∈ now.world.named services := mem_named.mpr (.inr (.inl ⟨photo, inside, shown⟩))
      exact absurd old new
    · have old : object ∈ now.world.named services :=
        mem_named.mpr (.inr (.inr ⟨profile, inside, shown⟩))
      exact absurd old new
  · intro row member other listed object shown also
    rcases mem_switched found member with ⟨old, apart⟩ | ⟨own, same⟩
    · rcases mem_switched found listed with ⟨otherOld, _⟩ | ⟨_, otherSame⟩
      · exact standing.sound.chats row old other otherOld object shown also
      · rw [otherSame] at also
        exact absurd (mem_named.mpr (.inl ⟨row, old, shown⟩)) (unnamed object also)
    · rcases mem_switched found listed with ⟨otherOld, _⟩ | ⟨otherOwn, _⟩
      · rw [same] at shown
        exact absurd (mem_named.mpr (.inl ⟨other, otherOld, also⟩)) (unnamed object shown)
      · rw [own, otherOwn]
  · exact standing.sound.photos
  · exact standing.sound.profiles

theorem safe_commitChat {next : Unit → Handler Unit}
    (inside : ∀ object ∈ chatObjects services avatars, object ∈ objects)
    (rest : (next ()).Along (Closing (chatObjects services chat.avatars)) fun _ => True)
    (holding : rowLocks.Holding World.view index (.chat chat.key) (.inl (some chat)) scene)
    (uploaded : Uploaded services index objects scene)
    (changes : ∀ now, scene.Meanwhile index now → Standing services now →
      ∀ entry : AvatarEntry, entry.tag = command → ∀ token, Changes token entry →
        (∃ pop ∈ now.own index, Popped token pop) ∧ ∀ other ∈ now.history, ¬Changes token other) :
    Safe services index command (commit chat (chat.updateAvatar avatars) event >>= next) scene := by
  rw [commit, Process.attempt_bind]
  refine safe_plain rfl fun now meanwhile standing done => ?_
  have held := holding.later standing.rows meanwhile
  have found : now.world.chats.find? chat.key = some chat := Sum.inl.inj held.view
  have lasting : Lasting services index command (Uploaded services index objects) := lasting_uploaded
  have here := lasting.later scene now uploaded meanwhile standing
  have committed : now.world.commitChat chat (chat.updateAvatar avatars) event =
      .ok (now.world.switch chat (chat.updateAvatar avatars) event) := by
    rw [World.commitChat, if_neg]
    · rfl
    · rw [found]
      exact Bool.false_ne_true
  simp only [committed] at done ⊢
  refine ⟨deed_switch standing held (fun object member => here object (inside object member))
    (changes now meanwhile standing), fun _ => safe_closing rest fun object stale => ?_⟩
  have unnamed : ∀ object ∈ chatObjects services avatars, object ∉ now.world.named services :=
    fun object member => (here object (inside object member)).1.unnamed
  obtain ⟨before, after⟩ : object ∈ now.world.named services ∧
      object ∉ (now.world.switch chat (chat.updateAvatar avatars) event).named services :=
    unnamed_switch standing found unnamed stale
  refine Custody.mine_withdrawn standing.files.connected before ?_
  rw [done]
  exact after

end Chats

section Profiles

/-- What a commit leaves of the photos and of the profiles: only those of one user are touched, only
one photo is new, and the profile shows one of its photos. -/
structure Switch (before after : Profiles.Db) (userId : UserId) (added : Option ProfilePhoto) : Prop where
  others : ∀ other, other ≠ userId → after.gallery other = before.gallery other
  photos : ∀ row ∈ after.photosOf userId, row ∈ added ∨
    ∃ old ∈ before.photosOf userId, old.id = row.id ∧ old.avatars = row.avatars
  profile : ∀ profile, after.profile? userId = some profile → profile.avatars = [] ∨
    ∃ photo ∈ after.photosOf userId, profile.photoId = some photo.id ∧ profile.avatars = photo.avatars

def World.setDb (world : World) (db : Profiles.Db) : World :=
  { world with profiles := { world.profiles with db := db } }

variable {now : AvatarScene} {before after : Profiles.Db} {userId : UserId} {added : Option ProfilePhoto}
  {profile : Profile} {photo row : ProfilePhoto} {message : OutboxMessage} {log : List Profiles.Write}

theorem Switch.fromOld (switch : Switch before after userId added) (member : row ∈ after.photos.rows) :
    row ∈ added ∨ ∃ old ∈ before.photos.rows, old.id = row.id ∧ old.avatars = row.avatars := by
  by_cases own : row.userId = userId
  · rcases switch.photos row (mem_photosOf.mpr ⟨member, own⟩) with new | ⟨old, inside, same⟩
    · exact .inl new
    · exact .inr ⟨old, (mem_photosOf.mp inside).1, same⟩
  · have photos : after.photosOf row.userId = before.photosOf row.userId :=
      congrArg Gallery.photos (switch.others _ own)
    have inside : row ∈ before.photosOf row.userId := photos ▸ mem_photosOf.mpr ⟨member, rfl⟩
    exact .inr ⟨row, (mem_photosOf.mp inside).1, rfl, rfl⟩

theorem Switch.sound (switch : Switch now.world.profiles.db after userId added)
    (standing : Standing services now)
    (unnamed : ∀ photo ∈ added, ∀ object ∈ profileObjects photo.avatars,
      object ∉ now.world.named services) : Sound services (now.world.setDb after) := by
  refine ⟨standing.sound.chats, ?_, ?_⟩
  · intro row member other listed object shown also
    rcases switch.fromOld member with new | ⟨old, inside, id, avatars⟩
    · rcases switch.fromOld listed with otherNew | ⟨otherOld, otherInside, _, otherAvatars⟩
      · rw [Option.mem_unique new otherNew]
      · rw [← otherAvatars] at also
        exact absurd (mem_named.mpr (.inr (.inl ⟨otherOld, otherInside, also⟩)))
          (unnamed row new object shown)
    · rcases switch.fromOld listed with otherNew | ⟨otherOld, otherInside, otherId, otherAvatars⟩
      · rw [← avatars] at shown
        exact absurd (mem_named.mpr (.inr (.inl ⟨old, inside, shown⟩)))
          (unnamed other otherNew object also)
      · rw [← avatars] at shown
        rw [← otherAvatars] at also
        rw [← id, ← otherId]
        exact standing.sound.photos old inside otherOld otherInside object shown also
  · intro profile member
    have found : after.profile? profile.id = some profile :=
      (Table.find?_some_iff _ _ _).mpr ⟨member, rfl⟩
    by_cases own : profile.id = userId
    · rcases switch.profile profile (own ▸ found) with bare | ⟨photo, inside, shown⟩
      · exact .inl bare
      · obtain ⟨listed, owner⟩ := mem_photosOf.mp inside
        exact .inr ⟨photo, listed, owner.trans own.symm, shown⟩
    · have gallery := switch.others profile.id own
      have old : now.world.profiles.db.profile? profile.id = some profile :=
        (congrArg Gallery.profile gallery).symm.trans found
      have photos : after.photosOf profile.id = now.world.profiles.db.photosOf profile.id :=
        congrArg Gallery.photos gallery
      rcases standing.sound.profiles profile ((Table.find?_some_iff _ _ _).mp old).1 with
        bare | ⟨photo, inside, owner, shown⟩
      · exact .inl bare
      · have kept : photo ∈ after.photosOf profile.id := by
          rw [photos]
          exact mem_photosOf.mpr ⟨inside, owner⟩
        exact .inr ⟨photo, (mem_photosOf.mp kept).1, owner, shown⟩

theorem Switch.deed (switch : Switch now.world.profiles.db after userId added)
    (standing : Standing services now) (held : .profile userId ∈ rowLocks.held now.history index)
    (uploaded : ∀ photo ∈ added, ∀ object ∈ profileObjects photo.avatars,
      (custody services).Mine index object now ∧ object ∈ now.world.stored) :
    Deed services now index command (.profiles (.commit log)) (now.world.setDb after).tick := by
  have sound : Sound services (now.world.setDb after) :=
    switch.sound standing fun photo new object member => (uploaded photo new object member).1.unnamed
  refine ⟨fun row moved => ?_, ⟨fun object taken => ?_, fun object member new => ?_,
    fun object there gone => absurd there gone⟩, sound.congr (same_tick _), .same rfl,
      fun outcome token changes => ?_⟩
  · cases row with
    | chat chatId => exact absurd rfl moved
    | profile other =>
        by_cases own : other = userId
        · rw [own]
          exact held
        · exact absurd (congrArg Sum.inr (switch.others other own)) moved
  · cases taken
  · rcases sound.photo_of_named member with ⟨chat, inside, shown⟩ | ⟨row, inside, shown⟩
    · have old : object ∈ now.world.named services := mem_named.mpr (.inl ⟨chat, inside, shown⟩)
      exact absurd old new
    · rcases switch.fromOld inside with fresh | ⟨old, listed, _, avatars⟩
      · obtain ⟨mine, stored⟩ := uploaded row fresh object shown
        exact ⟨mine.hand, stored⟩
      · rw [← avatars] at shown
        have old : object ∈ now.world.named services :=
          mem_named.mpr (.inr (.inl ⟨old, listed, shown⟩))
        exact absurd old new
  · obtain ⟨chatId, change⟩ := changes.change
    exact absurd rfl change

theorem Switch.unnamed (switch : Switch now.world.profiles.db after userId none)
    (standing : Standing services now) (member : photo ∈ now.world.profiles.db.photosOf userId)
    (gone : ∀ row ∈ after.photosOf userId, row.id ≠ photo.id)
    (stale : object ∈ profileObjects photo.avatars) :
    object ∈ now.world.named services ∧ object ∉ (now.world.setDb after).named services := by
  have listed := (mem_photosOf.mp member).1
  refine ⟨mem_named.mpr (.inr (.inl ⟨photo, listed, stale⟩)), fun named => ?_⟩
  have sound : Sound services (now.world.setDb after) :=
    switch.sound standing fun photo new => nomatch new
  rcases sound.photo_of_named named with ⟨chat, _, shown⟩ | ⟨row, inside, shown⟩
  · exact not_both shown stale
  · rcases switch.fromOld inside with new | ⟨old, there, id, avatars⟩
    · cases new
    · rw [← avatars] at shown
      have same := standing.sound.photos old there photo listed object shown stale
      rw [id] at same
      by_cases own : row.userId = userId
      · exact gone row (mem_photosOf.mpr ⟨inside, own⟩) same
      · have photos : after.photosOf row.userId = now.world.profiles.db.photosOf row.userId :=
          congrArg Gallery.photos (switch.others _ own)
        have theirs : row ∈ now.world.profiles.db.photosOf row.userId :=
          photos ▸ mem_photosOf.mpr ⟨inside, rfl⟩
        exact not_mem_photosOf member own theirs same

theorem switch_added
    (written : before.writeAll (.insertPhoto photo ::
      profile.flushed (profile.setPhoto (some photo)) ++ [.publish message]) = .ok after)
    (found : before.profile? profile.id = some profile) (owner : photo.userId = profile.id) :
    Switch before after profile.id (some photo) := by
  obtain ⟨middle, inserted, told⟩ := told_after written
  obtain ⟨profiles, _, _, photos, others⟩ := write_insertPhoto inserted
  rw [owner] at photos others
  have kept : after.photosOf profile.id = before.photosOf profile.id ++ [photo] := by
    rw [photosOf_congr told.photos, photos]
  refine ⟨fun other apart => told.gallery_other profiles (others other apart) apart, ?_, ?_⟩
  · intro row member
    rw [kept] at member
    rcases List.mem_append.mp member with old | new
    · exact .inr ⟨row, old, rfl, rfl⟩
    · rw [List.mem_singleton.mp new]
      exact .inl rfl
  · intro new there
    rw [told.row_eq profiles found rfl] at there
    cases there
    refine .inr ⟨photo, ?_, rfl, rfl⟩
    rw [kept]
    exact List.mem_append_right _ List.mem_cons_self

theorem switch_replaced {latest : Option ProfilePhoto}
    (written : before.writeAll (.deletePhoto photo.id ::
      profile.flushed (profile.setPhoto latest) ++ [.publish message]) = .ok after)
    (found : before.profile? profile.id = some profile)
    (member : photo ∈ before.photosOf profile.id)
    (left : latest = ProfilePhoto.latest
      ((before.photosOf profile.id).filter fun row => row.id ≠ photo.id)) :
    Switch before after profile.id none ∧ ∀ row ∈ after.photosOf profile.id, row.id ≠ photo.id := by
  obtain ⟨middle, deleted, told⟩ := told_after written
  obtain ⟨profiles, _, photos⟩ := photosOf_delete deleted
  have kept : after.photosOf profile.id =
      (before.photosOf profile.id).filter fun row => row.id ≠ photo.id := by
    rw [photosOf_congr told.photos, photos]
  refine ⟨⟨fun other apart => ?_, ?_, ?_⟩, ?_⟩
  · refine told.gallery_other profiles ?_ apart
    rw [photos, filter_other member apart]
  · intro row inside
    rw [kept] at inside
    exact .inr ⟨row, (List.mem_filter.mp inside).1, rfl, rfl⟩
  · intro new there
    rw [told.row_eq profiles found rfl] at there
    cases there
    rw [← kept] at left
    cases shown : latest with
    | none => exact .inl rfl
    | some shownPhoto =>
        rw [shown] at left
        exact .inr ⟨shownPhoto, (latest_some left.symm).1, rfl, rfl⟩
  · intro row inside
    rw [kept] at inside
    exact of_decide_eq_true (List.mem_filter.mp inside).2

theorem switch_dropped (standing : Standing services now)
    (written : now.world.profiles.db.writeAll [.deletePhoto photo.id] = .ok after)
    (found : now.world.profiles.db.profile? profile.id = some profile)
    (member : photo ∈ now.world.profiles.db.photosOf profile.id)
    (spare : profile.photoId ≠ some photo.id) :
    Switch now.world.profiles.db after profile.id none ∧
      ∀ row ∈ after.photosOf profile.id, row.id ≠ photo.id := by
  obtain ⟨middle, deleted, finish⟩ := writeAll_cons written
  rw [writeAll_nil finish]
  obtain ⟨profiles, _, photos⟩ := photosOf_delete deleted
  refine ⟨⟨fun other apart => ?_, ?_, ?_⟩, ?_⟩
  · rw [Profiles.Db.gallery, Profiles.Db.gallery, photos, filter_other member apart,
      Profiles.Db.profile?, profiles]
  · intro row inside
    rw [photos] at inside
    exact .inr ⟨row, (List.mem_filter.mp inside).1, rfl, rfl⟩
  · intro same there
    rw [Profiles.Db.profile?, profiles, ← Profiles.Db.profile?, found] at there
    cases there
    rcases standing.sound.profiles profile ((Table.find?_some_iff _ _ _).mp found).1 with
      bare | ⟨main, inside, owner, shown, avatars⟩
    · exact .inl bare
    · refine .inr ⟨main, ?_, shown, avatars⟩
      rw [photos]
      refine List.mem_filter.mpr ⟨mem_photosOf.mpr ⟨inside, owner⟩, decide_eq_true fun equal => ?_⟩
      rw [shown, equal] at spare
      exact spare rfl
  · intro row inside
    rw [photos] at inside
    exact of_decide_eq_true (List.mem_filter.mp inside).2

theorem switch_promoted (photo : ProfilePhoto) {time : Nat}
    (written : before.writeAll (.updatePhoto photo.id time ::
      profile.flushed (profile.setPhoto (some (photo.makeMain time))) ++ [.publish message]) =
        .ok after)
    (found : before.profile? profile.id = some profile)
    (member : photo ∈ before.photosOf profile.id) : Switch before after profile.id none := by
  obtain ⟨middle, promoted, told⟩ := told_after written
  obtain ⟨profiles, _, photos⟩ := photosOf_update promoted
  have kept : after.photosOf profile.id = (before.photosOf profile.id).map fun row =>
      if row.id = photo.id then row.makeMain time else row := by
    rw [photosOf_congr told.photos, photos]
  refine ⟨fun other apart => ?_, ?_, ?_⟩
  · refine told.gallery_other profiles ?_ apart
    have same : ∀ row ∈ before.photosOf other,
        (if row.id = photo.id then row.makeMain time else row) = row :=
      fun row theirs => if_neg (not_mem_photosOf member apart theirs)
    rw [photos, List.map_congr_left same, List.map_id']
  · intro row inside
    rw [kept] at inside
    obtain ⟨old, listed, rfl⟩ := List.mem_map.mp inside
    refine .inr ⟨old, listed, ?_⟩
    split
    · exact ⟨rfl, rfl⟩
    · exact ⟨rfl, rfl⟩
  · intro new there
    rw [told.row_eq profiles found rfl] at there
    cases there
    refine .inr ⟨photo.makeMain time, ?_, rfl, rfl⟩
    rw [kept]
    exact List.mem_map.mpr ⟨photo, member, if_pos rfl⟩

theorem safe_commitProfile {stale : List Object} {next : Unit → Handler Unit}
    (rest : (next ()).Along (Closing stale) fun _ => True)
    (step : ∀ now after, scene.Meanwhile index now → Standing services now →
      now.world.profiles.db.writeAll log = .ok after →
        Deed services now index command (.profiles (.commit log)) (now.world.setDb after).tick ∧
          ∀ object ∈ stale, object ∈ now.world.named services ∧
            object ∉ (now.world.setDb after).named services) :
    Safe services index command (onProfiles (Profiles.commit log) >>= next) scene := by
  refine safe_plain rfl fun now meanwhile standing done => ?_
  cases written : now.world.profiles.db.writeAll log with
  | error error =>
      have failed : now.world.profiles.commit log = .error error := by
        rw [Profiles.World.commit, written]
        rfl
      have same : profilePart.set ((((profilePart.get now.world).commit log).toOption).getD
          (profilePart.get now.world)) now.world = now.world := by
        change { now.world with profiles :=
          ((now.world.profiles.commit log).toOption).getD now.world.profiles } = now.world
        rw [failed]
        rfl
      refine ⟨?_, fun left => ?_⟩
      · rw [same]
        exact deed_plain standing (same_tick now.world) (.same rfl) rfl fun object there gone =>
          absurd there gone
      · change (Process.bind (Process.done (((now.world.profiles.commit log).map
          fun _ => ()).mapError profilePart.error)) next).outcome? = none at left
        rw [failed] at left
        cases left
  | ok after =>
      have committed : now.world.profiles.commit log = .ok { now.world.profiles with db := after } := by
        rw [Profiles.World.commit, written]
        rfl
      have left : profilePart.set ((((profilePart.get now.world).commit log).toOption).getD
          (profilePart.get now.world)) now.world = now.world.setDb after := by
        change { now.world with profiles :=
          ((now.world.profiles.commit log).toOption).getD now.world.profiles } = _
        rw [committed]
        rfl
      obtain ⟨deed, gone⟩ := step now after meanwhile standing written
      rw [left] at done ⊢
      refine ⟨deed, fun _ => ?_⟩
      change Safe services index command (Process.bind (Process.done (((now.world.profiles.commit
        log).map fun _ => ()).mapError profilePart.error)) next) _
      rw [committed]
      refine safe_closing rest fun object member => ?_
      obtain ⟨before, absent⟩ := gone object member
      refine Custody.mine_withdrawn standing.files.connected before ?_
      rw [done]
      exact absent

end Profiles

end Messanger.Avatars
