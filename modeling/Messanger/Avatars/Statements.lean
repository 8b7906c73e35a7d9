import Messanger.Avatars.Upkeep

/-!
The statements of the handlers, one by one: what each is as a deed, and what the task knows after it.
-/

namespace Messanger.Avatars

open Relational Processes Profiles

variable {services : Services}

section Parts

variable {Answer Other : Type} {Post : Answer → Prop} {objects : List Object}

theorem calm_id {op : Op} (plain : op.plain = true) (stays : rowLocks.releases op = false) :
    Calm op id :=
  ⟨plain, stays, Same.refl, fun _ => rfl, fun _ _ member => member⟩

theorem along_ask {op : Op} {answer : Nat → Except AvatarError Answer} (plain : op.plain = true)
    (stays : rowLocks.releases op = false) : (ask op answer).Along Calm fun _ => True := by
  refine ⟨calm_id plain stays, fun world => ?_⟩
  dsimp only
  cases answer world.turn with
  | error error => trivial
  | ok answer => trivial

theorem along_observe {op : Op} {read : World → Answer} (plain : op.plain = true)
    (stays : rowLocks.releases op = false) :
    (Process.observe op read : Handler Answer).Along Calm fun _ => True :=
  ⟨calm_id plain stays, fun _ => trivial⟩

theorem along_check (check : Except AvatarError Answer) :
    (liftM check : Handler Answer).Along Calm fun answer => check = .ok answer := by
  cases check with
  | error error => trivial
  | ok answer => exact rfl

theorem along_lift (check : Except AvatarError Answer) :
    (liftM check : Handler Answer).Along Calm fun _ => True :=
  (along_check check).mono (fun _ _ calm => calm) fun _ _ => trivial

theorem along_next {part : Handler Answer} {next : Answer → Handler Other}
    {Holds : Op → (World → World) → Prop}
    (first : part.Along Holds fun _ => True)
    (rest : ∀ answer, (next answer).Along Holds fun _ => True) :
    (part >>= next).Along Holds fun _ => True :=
  Process.along_bind first fun answer _ => rest answer

theorem along_pure {Holds : Op → (World → World) → Prop} (answer : Answer) :
    (pure answer : Handler Answer).Along Holds fun _ => True := trivial

theorem along_raise {Holds : Op → (World → World) → Prop} (error : AvatarError) :
    (Process.raise error : Handler Answer).Along Holds fun _ => True := trivial

theorem along_forM {Item : Type} {action : Item → Handler Unit} {Holds : Op → (World → World) → Prop}
    (items : List Item) (each : ∀ item ∈ items, (action item).Along Holds fun _ => True) :
    (items.forM action).Along Holds fun _ => True := by
  induction items with
  | nil => trivial
  | cons item rest ih =>
      exact along_next (each item List.mem_cons_self) fun _ =>
        ih fun item member => each item (List.mem_cons_of_mem _ member)

theorem along_onProfiles {part : Profiles.Handler Answer} (along : part.Along Profiles.Calm Post) :
    (onProfiles part).Along Calm Post := by
  refine Process.along_embed along fun op effect calm => ?_
  refine ⟨rfl, calm.1, fun world => ⟨(calm.2 world.profiles).1, rfl⟩, fun _ => rfl, ?_⟩
  exact fun _ _ member => member

theorem Along.closing {part : Handler Answer} (along : part.Along Calm fun _ => True) :
    part.Along (Closing objects) fun _ => True :=
  along.mono (fun _ _ calm => calm.closing) fun _ _ => trivial

theorem mem_stored_delete {world : World} {object other : Object}
    (member : other ∈ world.stored) (apart : other ≠ object) :
    other ∈ (world.deleteFile object).stored := by
  obtain ⟨there, shown⟩ := List.mem_filter.mp member
  exact List.mem_filter.mpr ⟨List.mem_filter.mpr ⟨there, decide_eq_true apart⟩, shown⟩

theorem along_deletePending {object : Object} (pending : object.1.shown = false) :
    (StorageService.deleteFile services object).Along Calm fun _ => True := by
  refine ⟨⟨rfl, rfl, fun world => ?_, fun world => ?_, fun world other member => ?_⟩, fun _ => trivial⟩
  · split
    · exact Same.refl world
    · exact ⟨rfl, rfl⟩
  · split
    · rfl
    · rfl
  · split
    · exact member
    · refine mem_stored_delete member fun same => ?_
      have shown := (List.mem_filter.mp member).2
      rw [same, pending] at shown
      cases shown

theorem along_deleteFile {object : Object} (member : object ∈ objects) :
    (StorageService.deleteFile services object).Along (Closing objects) fun _ => True := by
  refine ⟨⟨rfl, fun world => ?_, fun world => ?_, fun world other there gone => ?_⟩, fun _ => trivial⟩
  · split
    · exact Same.refl world
    · exact ⟨rfl, rfl⟩
  · split
    · rfl
    · rfl
  · split at gone
    · exact absurd there gone
    · by_cases same : other = object
      · exact same ▸ member
      · exact absurd (mem_stored_delete there same) gone

theorem along_deleteFiles {files : List Object} (all : ∀ object ∈ files, object ∈ objects) :
    (files.forM (StorageService.deleteFile services)).Along (Closing objects) fun _ => True :=
  along_forM files fun object member => along_deleteFile (all object member)

theorem along_rollback : rollback.Along (Closing objects) fun _ => True :=
  ⟨⟨rfl, Same.refl, fun _ => rfl, fun _ _ member gone => absurd member gone⟩, fun _ => trivial⟩

end Parts

section Rules

variable {scene : AvatarScene} {index : Nat} {command : Command} {objects : List Object}
  {Local : AvatarScene → Prop}

theorem unnamed_of_fresh {now : AvatarScene} (standing : Standing services now) {object : Object}
    (fresh : ¬Spent services now.history object) : object ∉ now.world.named services :=
  fun named => fresh (standing.spent object (.inl named))

theorem safe_pop {token : Token} {next : Option ChatAvatarUploadSlot → Handler Unit}
    (absent : ∀ scene, Safe services index command (next none) scene)
    (rest : ∀ slot pop scene, slot.uploadToken = token → pop ∈ scene.own index → Popped token pop →
      Untouched index scene → InHand services index (slotObjects slot.chatId token) scene →
        Safe services index command (next (some slot)) scene)
    (known : Untouched index scene) :
    Safe services index command (ChatAvatarUploadRepository.pop services token >>= next) scene := by
  refine safe_act fun now meanwhile standing acts => ?_
  have lasting : Lasting services index command (Untouched index) := lasting_untouched
  have untouched := lasting.later scene now known meanwhile standing
  have same : Same now.world (faltering services (fun world => world.dropSlot token) now.world) := by
    rcases faltering_cases services (fun world => world.dropSlot token) now.world with
      ended | ⟨_, done⟩
    · rw [ended]
      exact same_tick now.world
    · rw [done]
      exact ⟨rfl, rfl⟩
  refine ⟨deed_same standing same ?_ (fun object member => ?_) fun object there gone => ?_, ?_⟩
  · rcases faltering_cases services (fun world => world.dropSlot token) now.world with
      ended | ⟨_, done⟩
    · rw [ended]
      exact .same rfl
    · rw [done]
      exact .dropped rfl
  · obtain ⟨slot, found, _, inside⟩ := popped_of_takes member
    exact fresh_slot standing found inside
  · rcases faltering_cases services (fun world => world.dropSlot token) now.world with
      ended | ⟨_, done⟩
    · rw [ended] at gone
      exact absurd there gone
    · rw [done] at gone
      exact absurd there gone
  · intro went _
    change Safe services index command
      (next ((now.world.slot? token).filter fun _ => services.lives now.world.turn token)) _
    cases found : (now.world.slot? token).filter fun _ => services.lives now.world.turn token with
    | none => exact absent _
    | some slot =>
        obtain ⟨present, _⟩ := Option.filter_eq_some_iff.mp found
        have done : faltering services (fun world => world.dropSlot token) now.world =
            (now.world.dropSlot token).tick := by
          rw [faltering, falter, went]
          rfl
        have gone : (faltering services (fun world => world.dropSlot token) now.world).slot? token =
            none := by
          rw [done]
          refine slot?_none.mpr fun other member => ?_
          exact of_decide_eq_true (List.mem_filter.mp member).2
        have own : slot.uploadToken = token := by simpa using List.find?_some present
        refine rest slot ⟨index, command, .popSlot token, now.world,
          faltering services (fun world => world.dropSlot token) now.world, none⟩ _ own ?_
          ⟨rfl, Option.isSome_iff_exists.mpr ⟨slot, present⟩, gone⟩ (untouched.after same.chats) ?_
        · rw [Scene.own_after]
          exact List.mem_append_right _ List.mem_cons_self
        · intro object member
          refine Custody.mine_taken standing.files.connected ?_ ?_
          · change object ∈ takes services (.popSlot token) now.world _
            rw [takes, present]
            simp only [gone, Option.isSome_none, Bool.false_eq_true, if_false]
            exact member
          · change object ∉ World.named services _
            rw [same.named_eq]
            exact unnamed_of_fresh standing (fresh_slot standing present member)

theorem safe_newPhotoId (uuids : ∀ turn, services.uuid7 turn < 2 ^ 128) {userId : UserId}
    {next : PhotoId → Handler Unit}
    (rest : ∀ photoId scene, InHand services index (photoObjects userId photoId) scene →
      Safe services index command (next photoId) scene) :
    Safe services index command (newPhotoId services userId >>= next) scene := by
  refine safe_act fun now meanwhile standing acts => ?_
  have ticked : faltering services id now.world = now.world.tick := by
    rcases faltering_cases services id now.world with ended | ⟨_, done⟩
    · exact ended
    · exact done
  have fresh : ∀ object ∈ photoObjects userId (services.uuid7 now.world.turn),
      ¬Spent services now.history object := fun object member => fresh_photo uuids acts.2 member
  refine ⟨?_, fun _ _ => rest _ _ fun object member => ?_⟩
  · rw [ticked]
    exact deed_same standing (same_tick now.world) (.same rfl) fresh fun object there gone =>
      absurd there gone
  · refine Custody.mine_taken standing.files.connected member ?_
    rw [ticked]
    exact unnamed_of_fresh standing (fresh object member)

theorem safe_save {slot : ChatAvatarUploadSlot} {next : Unit → Handler Unit}
    (bounded : slot.uploadToken < 2 ^ 128) (rest : (next ()).Along (Closing []) fun _ => True) :
    Safe services index command (ChatAvatarUploadRepository.save slot >>= next) scene := by
  refine safe_act fun now meanwhile standing acts => ⟨?_, fun _ _ => ?_⟩
  · rcases faltering_cases services (fun world => world.saveSlot slot) now.world with
      ended | ⟨_, done⟩
    · rw [ended]
      exact deed_plain standing (same_tick now.world) (.same rfl) rfl fun object there gone =>
        absurd there gone
    · rw [done]
      exact deed_plain standing ⟨rfl, rfl⟩ (.saved bounded rfl) rfl fun object there gone =>
        absurd there gone
  · exact safe_closing rest fun _ member => nomatch member

theorem safe_lockChat (lasting : Lasting services index command Local) {chatId : ChatId}
    {next : Option Chat → Handler Unit}
    (absent : ∀ scene, Local scene → Safe services index command (next none) scene)
    (rest : ∀ chat scene, chat.key = chatId → Local scene →
      rowLocks.Holding World.view index (.chat chat.key) (.inl (some chat)) scene →
        Safe services index command (next (some chat)) scene) (known : Local scene) :
    Safe services index command (getByIdForUpdate chatId >>= next) scene := by
  refine safe_act fun now meanwhile standing acts => ?_
  have here := lasting.later scene now known meanwhile standing
  have calms : Calm (.getByIdForUpdate chatId) (faltering services id) := (calm_id rfl rfl).faltering
  have after := lasting.after now (.getByIdForUpdate chatId) _ here calms
  refine ⟨calms.deed standing, fun _ _ => ?_⟩
  change Safe services index command (next (now.world.chat? chatId)) _
  cases found : now.world.chat? chatId with
  | none => exact absent _ after
  | some chat =>
      have row : now.world.chats.find? chatId = some chat := (Option.filter_eq_some_iff.mp found).1
      have key : chat.key = chatId := Table.key_of_find? row
      subst key
      have acquires : rowLocks.acquires (.getByIdForUpdate chat.key) now.world =
          some (.chat chat.key) := by
        simp only [rowLocks, found, Option.isSome_some, if_true]
      have goes : rowLocks.Holding World.view index (.chat chat.key)
          ((faltering services id now.world).view (.chat chat.key))
          (now.after index command (.getByIdForUpdate chat.key) (faltering services id) none) :=
        Locks.holding_acquired standing.rows.connected acquires rfl
      rw [(calms.same now.world).view_eq, World.view, row] at goes
      exact rest chat _ rfl after goes

theorem safe_lockProfile (lasting : Lasting services index command Local) {userId : UserId}
    {next : Option Profile → Handler Unit}
    (absent : ∀ scene, Local scene → Safe services index command (next none) scene)
    (rest : ∀ profile photos scene, userId = profile.id → Local scene →
      rowLocks.Holding World.view index (.profile profile.id) (.inr ⟨some profile, photos⟩) scene →
        Safe services index command (next (some profile)) scene) (known : Local scene) :
    Safe services index command (onProfiles (Profiles.getByIdForUpdate userId) >>= next) scene := by
  refine safe_act fun now meanwhile standing acts => ?_
  have here := lasting.later scene now known meanwhile standing
  have calms : Calm (.profiles (.getByIdForUpdate userId)) (faltering services id) :=
    (calm_id rfl rfl).faltering
  have after := lasting.after now (.profiles (.getByIdForUpdate userId)) _ here calms
  refine ⟨calms.deed standing, fun _ _ => ?_⟩
  change Safe services index command (next (now.world.profiles.db.profile? userId)) _
  cases found : now.world.profiles.db.profile? userId with
  | none => exact absent _ after
  | some profile =>
      have key : userId = profile.id := (Table.key_of_find? found).symm
      subst key
      have acquires : rowLocks.acquires (.profiles (.getByIdForUpdate profile.id)) now.world =
          some (.profile profile.id) := by
        simp only [rowLocks, Profiles.rowLocks, found, Option.isSome_some, if_true, Option.map_some]
      have goes : rowLocks.Holding World.view index (.profile profile.id)
          ((faltering services id now.world).view (.profile profile.id))
          (now.after index command (.profiles (.getByIdForUpdate profile.id))
            (faltering services id) none) :=
        Locks.holding_acquired standing.rows.connected acquires rfl
      have seen : now.world.profiles.db.gallery profile.id =
          ⟨some profile, now.world.profiles.db.photosOf profile.id⟩ := by rw [Db.gallery, found]
      rw [(calms.same now.world).view_eq, World.view, seen] at goes
      exact rest profile _ _ rfl after goes

theorem safe_look {Answer : Type} (lasting : Lasting services index command Local)
    {op : Profiles.Op} {read : Profiles.World → Answer} {next : Answer → Handler Unit}
    (stays : Profiles.rowLocks.releases op = false)
    (rest : ∀ now, Local now → ∀ scene, Local scene →
      Safe services index command (next (read now.world.profiles)) scene) (known : Local scene) :
    Safe services index command (onProfiles (Process.observe op read) >>= next) scene := by
  have calm : Calm (.profiles op) fun world => { world with profiles := world.profiles } :=
    ⟨rfl, stays, fun _ => ⟨rfl, rfl⟩, fun _ => rfl, fun _ _ member => member⟩
  exact safe_step lasting calm (fun now here _ scene known => rest now here scene known) known

theorem held_profile {profile : Option Profile} {photos : List ProfilePhoto} {userId : UserId}
    (holding : rowLocks.Holding World.view index (.profile userId) (.inr ⟨profile, photos⟩) scene) :
    scene.world.profiles.db.profile? userId = profile :=
  congrArg Gallery.profile (Sum.inr.inj holding.view)

theorem held_photos {profile : Option Profile} {photos : List ProfilePhoto} {userId : UserId}
    (holding : rowLocks.Holding World.view index (.profile userId) (.inr ⟨profile, photos⟩) scene) :
    scene.world.profiles.db.photosOf userId = photos :=
  congrArg Gallery.photos (Sum.inr.inj holding.view)

theorem safe_upload (lasting : Lasting services index command Local) {object : Object}
    (shown : object.1.shown = true) {done : List Object} {next : Unit → Handler Unit}
    (rest : ∀ scene, Local scene → InHand services index objects scene →
      Uploaded services index (object :: done) scene → Safe services index command (next ()) scene)
    (member : object ∈ objects) (known : Local scene) (inHand : InHand services index objects scene)
    (uploaded : Uploaded services index done scene) :
    Safe services index command (StorageService.uploadFile services object >>= next) scene := by
  rw [StorageService.uploadFile]
  refine safe_attempt (lasting.and (lasting_inHand.and lasting_uploaded)) ?_ ?_
    ⟨known, inHand, uploaded⟩
  · refine ⟨rfl, rfl, fun world => ?_, fun world => ?_, fun world other there => ?_⟩
    · cases services.storageError world.turn with
      | some error => exact Same.refl world
      | none => exact ⟨rfl, rfl⟩
    · cases services.storageError world.turn with
      | some error => rfl
      | none => rfl
    · cases services.storageError world.turn with
      | some error => exact there
      | none =>
          obtain ⟨inside, visible⟩ := List.mem_filter.mp there
          exact List.mem_filter.mpr ⟨List.mem_cons_of_mem _ inside, visible⟩
  · rintro now stored ran went ⟨here, held, before⟩
    refine rest _ here held fun other listed => ?_
    rcases List.mem_cons.mp listed with rfl | earlier
    · refine ⟨held other member, ?_⟩
      cases raised : services.storageError now.world.turn with
      | some error =>
          rw [raised] at ran
          cases ran
      | none =>
          simp only [Scene.after, faltering, falter, went, raised]
          exact List.mem_filter.mpr ⟨List.mem_cons_self, shown⟩
    · exact before other earlier

theorem safe_uploads (lasting : Lasting services index command Local)
    {fileOf : RenderedAvatar → Object} {rendered : List RenderedAvatar} {next : Unit → Handler Unit}
    (inside : ∀ item ∈ rendered, fileOf item ∈ objects)
    (shown : ∀ item, (fileOf item).1.shown = true)
    (rest : ∀ scene, Local scene → InHand services index objects scene →
      Uploaded services index (rendered.map fileOf) scene →
        Safe services index command (next ()) scene)
    (known : Local scene) (inHand : InHand services index objects scene) :
    Safe services index command
      (rendered.forM (fun item => StorageService.uploadFile services (fileOf item)) >>= next)
      scene := by
  have all : ∀ items done scene, (∀ item ∈ items, fileOf item ∈ objects) →
      (∀ object ∈ rendered.map fileOf, object ∈ done ∨ object ∈ items.map fileOf) →
        Local scene → InHand services index objects scene → Uploaded services index done scene →
          Safe services index command
            ((items : List RenderedAvatar).forM
              (fun item => StorageService.uploadFile services (fileOf item)) >>= next) scene := by
    intro items
    induction items with
    | nil =>
        intro done scene _ covered known inHand uploaded
        refine rest scene known inHand fun object member => ?_
        rcases covered object member with here | nothing
        · exact uploaded object here
        · exact absurd nothing List.not_mem_nil
    | cons item others ih =>
        intro done scene within covered known inHand uploaded
        change Safe services index command ((StorageService.uploadFile services (fileOf item) >>=
          fun _ => others.forM fun item => StorageService.uploadFile services (fileOf item)) >>= next)
          scene
        rw [Process.bind_assoc]
        refine safe_upload lasting (shown item) (fun scene known inHand uploaded => ?_)
          (within item List.mem_cons_self) known inHand uploaded
        refine ih (fileOf item :: done) scene
          (fun other member => within other (List.mem_cons_of_mem _ member)) (fun object member => ?_)
          known inHand uploaded
        rcases covered object member with here | later
        · exact .inl (List.mem_cons_of_mem _ here)
        · rcases List.mem_cons.mp later with rfl | rests
          · exact .inl List.mem_cons_self
          · exact .inr rests
  exact all rendered [] scene inside (fun object member => .inr member) known inHand
    fun object member => nomatch member

end Rules

end Messanger.Avatars
