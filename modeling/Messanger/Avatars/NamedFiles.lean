import Messanger.Avatars.Switching

/-!
Every file that a row names is there.  The files of a new avatar are made before the row is locked,
the row is switched in the transaction, and the old files are thrown away after it, so that wherever
a task ends no row names a file that is gone.
-/

namespace Messanger.Avatars

open Relational Processes Profiles

variable {services : Services} {index : Nat} {scene : AvatarScene}

/-- The ids that the program draws are those of UUIDs. -/
structure Uuids (services : Services) : Prop where
  uuid4 : ∀ turn, services.uuid4 turn < 2 ^ 128
  uuid7 : ∀ turn, services.uuid7 turn < 2 ^ 128

section ChatParts

theorem along_ensureUpdatable (user : UserJWTData) (chatId : ChatId) :
    (ensureUpdatable services user chatId).Along Calm fun _ => True :=
  along_next (along_observe rfl rfl) fun _ => along_next (along_ask rfl rfl) fun _ => along_lift _

theorem along_chatPending (slot : ChatAvatarUploadSlot) :
    (ChatAvatarService.dropPending services slot).Along Calm fun _ => True :=
  along_deletePending rfl

theorem render_variants {data : List UInt8} {rendered : List RenderedAvatar}
    (ok : ChatAvatarService.render services data = .ok rendered) :
    ∀ item ∈ rendered, (item.size, item.fmt) ∈ chatVariants := by
  unfold ChatAvatarService.render at ok
  cases read : orRaise (services.chatDimensions data) (.chatAvatarValidation "undecodable") with
  | error error =>
      rw [read] at ok
      cases ok
  | ok size =>
      rw [read] at ok
      change (require (size.1 ≠ 0 && size.2 ≠ 0 && size.1 * size.2 ≤ chatAvatarMaxPixels)
        (.chatAvatarValidation "dimensions") >>= _) = _ at ok
      cases checked : require (size.1 ≠ 0 && size.2 ≠ 0 && size.1 * size.2 ≤ chatAvatarMaxPixels)
          (.chatAvatarValidation "dimensions") with
      | error error =>
          rw [checked] at ok
          cases ok
      | ok _ =>
          rw [checked] at ok
          cases ok
          intro item member
          obtain ⟨variant, listed, rfl⟩ := List.mem_map.mp member
          exact listed

def InVariants (variants : List (Nat × String)) (rendered : List RenderedAvatar) : Prop :=
  ∀ item ∈ rendered, (item.size, item.fmt) ∈ variants

theorem along_load (slot : ChatAvatarUploadSlot) :
    (ProcessChatAvatarCommandHandler.load services slot).Along Calm fun rendered =>
      ∀ items ∈ rendered, InVariants chatVariants items := by
  refine Process.along_rescue ?_ fun error => ?_
  · have loaded : (ChatAvatarService.loadValidated services slot).Along Calm fun _ => True := by
      refine along_next (along_ask rfl rfl) fun size => along_next (along_lift _) fun _ => ?_
      exact along_next (along_ask rfl rfl) fun data => along_next (along_lift _) fun _ => along_pure _
    refine Process.along_bind loaded fun data _ => ?_
    refine Process.along_bind (along_check _) fun rendered ok => ?_
    intro items member
    cases member
    exact render_variants ok
  · split
    · refine Process.along_bind (along_chatPending slot) fun _ _ => ?_
      exact fun _ member => nomatch member
    · trivial

end ChatParts

section ChatHandlers

theorem changes_once {token : Token} {pop : AvatarEntry} {now : AvatarScene}
    (standing : Standing services now) (recorded : pop ∈ now.own index) (popped : Popped token pop)
    (untouched : Untouched index now) : ∀ other ∈ now.history, ¬Changes token other := by
  intro other member changes
  obtain ⟨otherPop, own, otherPopped⟩ := standing.changed other member token changes
  have once : Scene.Earlier (fun before entry => Popped token entry →
      ∀ other ∈ before, ¬Popped token other) now.history :=
    Scene.earlier_mono standing.poppedOnce fun _ _ unique => unique token
  obtain ⟨listed, mine⟩ := Scene.mem_own.mp recorded
  obtain ⟨otherListed, theirs⟩ := Scene.mem_own.mp own
  have same := Scene.earlier_unique once otherListed listed otherPopped popped
  obtain ⟨chatId, change⟩ := changes.change
  refine change ?_
  have acting : other ∈ now.own index := by
    refine Scene.mem_own.mpr ⟨member, ?_⟩
    rw [← theirs, same, mine]
  rw [untouched other acting]

theorem safe_requestChatAvatarUpload (uuids : Uuids services)
    (request : RequestChatAvatarUploadCommand) :
    Safe services index (.requestChatAvatarUpload request)
      ((Command.requestChatAvatarUpload request).handle services) scene := by
  simp only [Command.handle, RequestChatAvatarUploadCommandHandler.handle, Process.bind_assoc]
  refine safe_part lasting_nothing (along_observe rfl rfl) (fun chat scene _ _ => ?_) trivial
  refine safe_part lasting_nothing (along_lift _) (fun chat scene _ _ => ?_) trivial
  refine safe_part lasting_nothing (along_ensureUpdatable _ _) (fun _ scene _ _ => ?_) trivial
  refine safe_part lasting_nothing (along_lift _) (fun _ scene _ _ => ?_) trivial
  refine safe_part lasting_nothing (along_lift _) (fun _ scene _ _ => ?_) trivial
  refine safe_part lasting_nothing (along_lift _) (fun _ scene _ _ => ?_) trivial
  have drawn : (uuid4 services).Along Calm fun token => token < 2 ^ 128 :=
    ⟨calm_id rfl rfl, fun world => uuids.uuid4 world.turn⟩
  refine safe_part lasting_nothing drawn (fun uploadToken scene bounded _ => ?_) trivial
  refine safe_part lasting_nothing (along_ask rfl rfl) (fun _ scene _ _ => ?_) trivial
  exact safe_save bounded (along_pure _)

theorem safe_processChatAvatar (process : ProcessChatAvatarCommand)
    (known : Untouched index scene) :
    Safe services index (.processChatAvatar process)
      ((Command.processChatAvatar process).handle services) scene := by
  refine safe_part lasting_untouched (along_lift _) (fun chatId scene _ known => ?_) known
  refine safe_part lasting_untouched (along_check _) (fun uploadToken scene read known => ?_) known
  have spelled : Python.uuid? process.uploadToken = some uploadToken := by
    cases parsed : Python.uuid? process.uploadToken with
    | none =>
        rw [parsed] at read
        cases read
    | some token =>
        rw [parsed] at read
        cases read
        rfl
  refine safe_pop (fun scene => safe_done _) ?_ known
  intro slot pop scene token recorded popped untouched inHand
  dsimp only
  split
  · exact safe_done _
  rename_i accepted
  have own : slot.chatId = chatId := not_not.mp fun other => accepted (.inl other)
  rw [own] at inHand
  refine safe_part (lasting_inHand.and ((lasting_recorded pop).and lasting_untouched))
    (along_load slot) ?_ ⟨inHand, recorded, untouched⟩
  intro loaded scene variants ⟨inHand, recorded, untouched⟩
  cases loaded with
  | none => exact safe_done _
  | some rendered =>
      have listed : ∀ item ∈ rendered,
          ((.chatAvatar, chatKey chatId slot.uploadToken item.size item.fmt) : Object) ∈
            slotObjects chatId uploadToken := by
        intro item member
        rw [token]
        exact List.mem_map.mpr ⟨_, variants rendered rfl item member, rfl⟩
      simp only [ChatAvatarService.uploadVariants, Process.bind_assoc]
      refine safe_uploads ((lasting_recorded pop).and lasting_untouched) listed (fun _ => rfl) ?_
        ⟨recorded, untouched⟩ inHand
      intro scene ⟨recorded, untouched⟩ inHand uploaded
      simp only [Process.pure_bind_process]
      have named : ∀ object ∈ chatObjects services (rendered.foldl (fun avatars item =>
          Profiles.AvatarMap.put avatars item.size item.fmt (getPublicUrlObject services .chatAvatar
            (chatKey chatId slot.uploadToken item.size item.fmt))) []),
          object ∈ rendered.map fun item =>
            ((.chatAvatar, chatKey chatId slot.uploadToken item.size item.fmt) : Object) :=
        fun object member => mem_chatObjects_rendered member
      have discarded : (ProcessChatAvatarCommandHandler.discard services slot
          (rendered.foldl (fun avatars item => Profiles.AvatarMap.put avatars item.size item.fmt
            (getPublicUrlObject services .chatAvatar
              (chatKey chatId slot.uploadToken item.size item.fmt))) [])).Along
          (Closing (slotObjects chatId uploadToken)) fun _ => True := by
        refine along_next along_rollback fun _ => along_next (along_deleteFiles ?_) fun _ =>
          Along.closing (along_chatPending slot)
        intro object member
        obtain ⟨item, among, rfl⟩ := List.mem_map.mp (named object member)
        exact listed item among
      refine safe_lockChat (lasting_inHand.and (lasting_uploaded.and
        ((lasting_recorded pop).and lasting_untouched)))
        (fun scene known => safe_closing discarded known.1) ?_
          ⟨inHand, uploaded, recorded, untouched⟩
      intro chat scene _ ⟨inHand, uploaded, recorded, untouched⟩ holding
      dsimp only
      split
      · exact safe_closing discarded inHand
      refine safe_commitChat named ?_ holding uploaded ?_
      · exact along_next (Along.closing (along_chatPending slot)) fun _ =>
          along_deleteFiles fun object member => member
      · intro now meanwhile standing entry tag other changes
        obtain ⟨command, tagged, reads⟩ := changes.tag
        rw [tag] at tagged
        cases tagged
        rw [spelled] at reads
        cases reads
        have recordedNow : pop ∈ now.own index := by
          rw [meanwhile.own_eq]
          exact recorded
        have untouchedNow : Untouched index now := by
          rw [Untouched, meanwhile.own_eq]
          exact untouched
        exact ⟨⟨pop, recordedNow, popped⟩, changes_once standing recordedNow popped untouchedNow⟩

theorem safe_removeChatAvatar (remove : RemoveChatAvatarCommand) :
    Safe services index (.removeChatAvatar remove)
      ((Command.removeChatAvatar remove).handle services) scene := by
  refine safe_lockChat lasting_nothing (fun scene _ => safe_done _) ?_ trivial
  intro chat scene _ _ holding
  refine safe_part lasting_holding (along_check _) (fun found scene same holding => ?_) holding
  cases same
  refine safe_part lasting_holding (along_ensureUpdatable _ _) (fun _ scene _ holding => ?_) holding
  dsimp only
  split
  · exact safe_done _
  have nothing : ∀ object ∈ chatObjects services [], object ∈ ([] : List Object) := by
    intro object member
    obtain ⟨_, listed, _⟩ := List.mem_map.mp member
    exact absurd listed List.not_mem_nil
  refine safe_commitChat nothing ?_ holding (fun object member => nomatch member) ?_
  · exact along_deleteFiles fun object member => member
  · intro now meanwhile standing entry tag token changes
    obtain ⟨command, tagged, _⟩ := changes.tag
    rw [tag] at tagged
    cases tagged

end ChatHandlers

section ProfileHandlers

theorem along_profilePending (fileKey : String) :
    (ProfilePhotoStorage.dropPending services fileKey).Along Calm fun _ => True :=
  along_deletePending rfl

theorem along_deleteVariants {userId : UserId} {avatars : AvatarMap} {objects : List Object}
    (all : ∀ object ∈ profileObjects avatars, object ∈ objects) :
    (ProfilePhotoStorage.deleteVariants services userId avatars).Along (Closing objects)
      fun _ => True := by
  refine along_deleteFiles fun object member => all object ?_
  obtain ⟨key, kept, rfl⟩ := List.mem_map.mp member
  exact List.mem_map.mpr ⟨key, List.mem_eraseDups.mp (List.mem_filter.mp kept).1, rfl⟩

theorem render_photo_variants {services : Profiles.Services} {data : List UInt8}
    {rendered : List RenderedAvatar}
    (ok : Profiles.ProfilePhotoStorage.render services data = .ok rendered) :
    InVariants Profiles.ProfilePhotoStorage.variants rendered := by
  unfold Profiles.ProfilePhotoStorage.render at ok
  cases read : services.dimensions data with
  | error error =>
      rw [read] at ok
      cases ok
  | ok size =>
      rw [read] at ok
      simp only [bind, Except.bind] at ok
      split at ok
      · cases ok
      · cases ok
        intro item member
        obtain ⟨variant, listed, rfl⟩ := List.mem_map.mp member
        exact listed

theorem along_loadPhoto (services : Services) (fileKey : String) :
    (onProfiles do
      let data ← Profiles.ProfilePhotoStorage.loadValidated services.toServices fileKey
      Profiles.ProfilePhotoStorage.render services.toServices data).Along Calm
        (InVariants Profiles.ProfilePhotoStorage.variants) := by
  refine along_onProfiles (Process.along_bind (along_loadValidated fileKey) fun data _ => ?_)
  exact (Profiles.along_check _).mono (fun _ _ calm => calm) fun _ ok => render_photo_variants ok

variable {command : Command}

theorem safe_discardPhoto {process : ProccessAvatarCommand} {avatars : AvatarMap}
    {objects : List Object} (all : ∀ object ∈ profileObjects avatars, object ∈ objects)
    (error : ProfileError) (inHand : InHand services index objects scene) :
    Safe services index command
      (ProccessAvatarCommandHandler.discard services process avatars error) scene :=
  safe_closing (along_next (along_deleteVariants all) fun _ =>
    along_next (Along.closing (along_profilePending _)) fun _ => along_raise _) inHand

theorem safe_addPhoto (process : ProccessAvatarCommand) {transactionTime : Nat}
    {photoId : PhotoId} {avatars : AvatarMap} {objects done : List Object}
    (named : ∀ object ∈ profileObjects avatars, object ∈ done)
    (inside : ∀ object ∈ done, object ∈ objects) (inHand : InHand services index objects scene)
    (uploaded : Uploaded services index done scene) :
    Safe services index command (onProfiles (Profiles.getByIdForUpdate process.userId) >>=
      fun profile =>
        match profile with
        | none =>
            ProccessAvatarCommandHandler.discard services process avatars
              (.notFoundProfile process.userId)
        | some profile => do
            let full ← onProfiles (historyIsFull process.userId)
            if full then
              ProccessAvatarCommandHandler.discard services process avatars
                (.profilePhotosLimit maxProfilePhotos)
            else
              let time ← onProfiles (Profiles.now services.toServices)
              let photo := ProfilePhoto.create photoId process.userId avatars time
              let event ← onProfiles (Profiles.publish services.toServices .updated
                (profile.setPhoto (some photo)) transactionTime)
              onProfiles (Profiles.commit
                (.insertPhoto photo :: profile.flushed (profile.setPhoto (some photo)) ++ [event]))
              onProfiles invalidateCache
              ProfilePhotoStorage.dropPending services process.fileKey) scene := by
  have all : ∀ object ∈ profileObjects avatars, object ∈ objects :=
    fun object member => inside object (named object member)
  refine safe_lockProfile (lasting_inHand.and lasting_uploaded)
    (fun scene known => safe_discardPhoto all _ known.1) ?_ ⟨inHand, uploaded⟩
  intro profile photos scene own ⟨inHand, uploaded⟩ holding
  refine safe_part (lasting_inHand.and (lasting_uploaded.and lasting_holding))
    (along_onProfiles (Profiles.along_observe rfl)) ?_ ⟨inHand, uploaded, holding⟩
  intro full scene _ ⟨inHand, uploaded, holding⟩
  split
  · exact safe_discardPhoto all _ inHand
  refine safe_part (lasting_uploaded.and lasting_holding)
    (along_onProfiles (Profiles.along_ask rfl)) ?_ ⟨uploaded, holding⟩
  intro time scene _ ⟨uploaded, holding⟩
  refine safe_part (lasting_uploaded.and lasting_holding) (along_onProfiles (along_publish _ _ _)) ?_
    ⟨uploaded, holding⟩
  rintro _ scene ⟨message, rfl, _⟩ ⟨uploaded, holding⟩
  have rest : (do
      onProfiles invalidateCache
      ProfilePhotoStorage.dropPending services process.fileKey).Along (Closing [])
        fun _ => True :=
    along_next (Along.closing (along_onProfiles along_invalidateCache)) fun _ =>
      Along.closing (along_profilePending _)
  refine safe_commitProfile rest ?_
  · intro now after meanwhile standing written
    have held := holding.later standing.rows meanwhile
    have gallery := Sum.inr.inj held.view
    have lasting : Lasting services index command (Uploaded services index done) := lasting_uploaded
    have here := lasting.later scene now uploaded meanwhile standing
    have switch := switch_added written (congrArg Gallery.profile gallery) own
    refine ⟨switch.deed standing held.held fun photo new object member => ?_,
      fun object member => nomatch member⟩
    cases new
    exact here object (named object member)

theorem safe_proccessAvatar (uuids : Uuids services) (process : ProccessAvatarCommand) :
    Safe services index command ((Command.proccessAvatar process).handle services) scene := by
  simp only [Command.handle, ProccessAvatarCommandHandler.handle,
    ProccessAvatarCommandHandler.prepare, Process.bind_assoc]
  refine safe_part lasting_nothing (along_lift _) (fun _ scene _ _ => ?_) trivial
  refine safe_part lasting_nothing (along_onProfiles along_begin) (fun time scene _ _ => ?_) trivial
  refine safe_part lasting_nothing (along_onProfiles (Profiles.along_observe rfl))
    (fun profile scene _ _ => ?_) trivial
  refine safe_part lasting_nothing (along_lift _) (fun _ scene _ _ => ?_) trivial
  refine safe_part lasting_nothing (along_onProfiles (Profiles.along_observe rfl))
    (fun full scene _ _ => ?_) trivial
  split
  · rw [Process.bind_assoc]
    refine safe_part lasting_nothing (along_profilePending _) (fun _ scene _ _ => ?_) trivial
    exact safe_done _
  simp only [Process.bind_assoc]
  have loads : (Process.rescue (fun error => do
      if error.dropsPending then ProfilePhotoStorage.dropPending services process.fileKey
      Process.raise error) (onProfiles do
        let data ← Profiles.ProfilePhotoStorage.loadValidated services.toServices process.fileKey
        Profiles.ProfilePhotoStorage.render services.toServices data)).Along Calm
          (InVariants Profiles.ProfilePhotoStorage.variants) := by
    refine Process.along_rescue (along_loadPhoto services process.fileKey) fun error => ?_
    split
    · exact Process.along_bind (along_profilePending _) fun _ _ => trivial
    · trivial
  refine safe_part lasting_nothing loads (fun rendered scene variants _ => ?_) trivial
  refine safe_newPhotoId uuids.uuid7 fun photoId scene inHand => ?_
  simp only [ProfilePhotoStorage.uploadVariants, Process.bind_assoc]
  have listed : ∀ item ∈ rendered,
      ((.avatar, Profiles.ProfilePhotoStorage.key process.userId photoId item) : Object) ∈
        photoObjects process.userId photoId :=
    fun item member => List.mem_map.mpr ⟨_, variants item member, rfl⟩
  refine safe_uploads lasting_nothing listed (fun _ => rfl) (fun scene _ inHand uploaded => ?_)
    trivial inHand
  simp only [Process.pure_bind_process]
  refine safe_addPhoto process (fun object member => mem_profileObjects_rendered member) ?_ inHand
    uploaded
  intro object member
  obtain ⟨item, among, rfl⟩ := List.mem_map.mp member
  exact listed item among

theorem along_thrown {userId : UserId} {photo : ProfilePhoto} :
    (do
      onProfiles invalidateCache
      ProfilePhotoStorage.deleteVariants services userId photo.avatars).Along
        (Closing (profileObjects photo.avatars)) fun _ => True :=
  along_next (Along.closing (along_onProfiles along_invalidateCache)) fun _ =>
    along_deleteVariants fun _ member => member

theorem safe_deleteProfilePhoto (delete : DeleteProfilePhotoCommand) :
    Safe services index command ((Command.deleteProfilePhoto delete).handle services) scene := by
  refine safe_part lasting_nothing (along_onProfiles along_begin) (fun time scene _ _ => ?_) trivial
  refine safe_lockProfile lasting_nothing (fun scene _ => safe_done _) ?_ trivial
  intro profile photos scene own _ holding
  dsimp only
  split
  · exact safe_done _
  refine safe_look lasting_holding rfl (fun looked here scene holding => ?_) holding
  split
  · exact safe_done _
  · exact safe_done _
  rename_i photo found
  have known : photo ∈ photos := by
    rw [← held_photos here, ← own]
    exact List.mem_of_find?_eq_some found
  split
  · refine safe_look lasting_holding rfl (fun left there scene holding => ?_) holding
    refine safe_part lasting_holding (along_onProfiles (along_publish _ _ _)) ?_ holding
    rintro _ scene ⟨message, rfl, _⟩ holding
    refine safe_commitProfile along_thrown fun now after meanwhile standing written => ?_
    have held := holding.later standing.rows meanwhile
    have member : photo ∈ now.world.profiles.db.photosOf profile.id := by
      rw [held_photos held]
      exact known
    have deleted : left.world.profiles.db.write (.deletePhoto photo.id) =
        .ok { left.world.profiles.db with
          photos := left.world.profiles.db.photos.delete fun row => row.id == photo.id } := rfl
    obtain ⟨switch, gone⟩ := switch_replaced written (held_profile held) member (by
      rw [own, Profiles.Db.getLatest, (photosOf_delete deleted).2.2, held_photos there,
        held_photos held])
    exact ⟨switch.deed standing held.held (by rintro _ ⟨⟩), fun object stale =>
      switch.unnamed standing member gone stale⟩
  · rename_i spare
    refine safe_commitProfile along_thrown fun now after meanwhile standing written => ?_
    have held := holding.later standing.rows meanwhile
    have member : photo ∈ now.world.profiles.db.photosOf profile.id := by
      rw [held_photos held]
      exact known
    obtain ⟨switch, gone⟩ := switch_dropped standing written (held_profile held) member spare
    exact ⟨switch.deed standing held.held (by rintro _ ⟨⟩), fun object stale =>
      switch.unnamed standing member gone stale⟩

theorem safe_setMainProfilePhoto (main : SetMainProfilePhotoCommand) :
    Safe services index command ((Command.setMainProfilePhoto main).handle services) scene := by
  simp only [Command.handle, SetMainProfilePhotoCommandHandler.handle,
    SetMainProfilePhotoCommand.handle, onProfiles, Process.embed_bind]
  refine safe_part lasting_nothing (along_onProfiles along_begin) (fun time scene _ _ => ?_) trivial
  refine safe_lockProfile lasting_nothing (fun scene _ => safe_done _) ?_ trivial
  intro profile photos scene own _ holding
  simp only [Process.embed_bind]
  refine safe_look lasting_holding rfl (fun looked here scene holding => ?_) holding
  split
  · exact safe_done _
  rename_i photo found
  have known : photo ∈ photos := by
    rw [← held_photos here, ← own]
    exact List.mem_of_find?_eq_some found
  split
  · exact safe_done _
  simp only [Process.embed_bind]
  refine safe_part lasting_holding (along_onProfiles (Profiles.along_ask rfl)) ?_ holding
  intro time scene _ holding
  refine safe_part lasting_holding (along_onProfiles (along_publish _ _ _)) ?_ holding
  rintro _ scene ⟨message, rfl, _⟩ holding
  have rest : (invalidateCache.embed profilePart).Along (Closing []) fun _ => True :=
    Along.closing (along_onProfiles along_invalidateCache)
  refine safe_commitProfile rest fun now after meanwhile standing written => ?_
  have held := holding.later standing.rows meanwhile
  have member : photo ∈ now.world.profiles.db.photosOf profile.id := by
    rw [held_photos held]
    exact known
  have switch := switch_promoted photo written (held_profile held) member
  exact ⟨switch.deed standing held.held (fun photo new => nomatch new), fun object stale =>
    nomatch stale⟩

end ProfileHandlers

section Runs

theorem safe_handle (uuids : Uuids services) (command : Command) (known : Untouched index scene) :
    Safe services index command (command.handle services) scene := by
  cases command with
  | requestChatAvatarUpload request => exact safe_requestChatAvatarUpload uuids request
  | processChatAvatar process => exact safe_processChatAvatar process known
  | removeChatAvatar remove => exact safe_removeChatAvatar remove
  | proccessAvatar process => exact safe_proccessAvatar uuids process
  | setMainProfilePhoto main => exact safe_setMainProfilePhoto main
  | deleteProfilePhoto delete => exact safe_deleteProfilePhoto delete

/-- Chats and profiles as they are created: without avatars, photos or slots. -/
structure Bare (world : World) : Prop where
  chats : ∀ chat ∈ world.chats.rows, chat.avatars = []
  photos : world.profiles.db.photos.rows = []
  profiles : ∀ profile ∈ world.profiles.db.profiles.rows, profile.avatars = []
  slots : world.slots = []

theorem Bare.unnamed {world : World} (bare : Bare world) {object : Object} :
    object ∉ world.named services := by
  intro named
  rcases mem_named.mp named with ⟨chat, member, shown⟩ | ⟨photo, member, _⟩ |
    ⟨profile, member, shown⟩
  · rw [bare.chats chat member] at shown
    cases shown
  · rw [bare.photos] at member
    cases member
  · rw [bare.profiles profile member] at shown
    cases shown

theorem Bare.standing {world : World} (bare : Bare world) :
    Standing services ⟨world, [], []⟩ where
  rows := Locks.lawful_nil
  files := Custody.lawful_nil fun object named => absurd named bare.unnamed
  sound := by
    refine ⟨fun chat member other _ object shown => ?_, fun photo member => ?_,
      fun profile member => .inl (bare.profiles profile member)⟩
    · have unnamed : object ∉ world.named services := bare.unnamed
      exact absurd (mem_named.mpr (.inl ⟨chat, member, shown⟩)) unnamed
    · rw [bare.photos] at member
      cases member
  spent object known := by
    rcases known with named | held
    · exact absurd named bare.unnamed
    · exact absurd rfl held
  slots slot member := by
    change slot ∈ world.slots at member
    rw [bare.slots] at member
    cases member
  popped _ member := nomatch member
  poppedOnce := Scene.earlier_nil
  changed _ member := nomatch member
  changedOnce := Scene.earlier_nil

/-- Whatever commands take their turns, and wherever they end: every file that a row names is
stored, and a slot changes the avatar of a chat at most once. -/
theorem named_files_stored (uuids : Uuids services) {world : World} (bare : Bare world)
    {site : AvatarSite} (run : Runs (Command.run services) (terms services) (start world) site) :
    (∀ object ∈ site.world.named services, object ∈ site.world.storage) ∧
      ∀ token (first second : Nat), ∀ earlier later : AvatarEntry,
        site.history[first]? = some earlier → site.history[second]? = some later →
          Changes token earlier → Changes token later → first = second := by
  have opened : ∀ scene command, scene.Tagged → Standing services scene →
      (terms services).Opens scene command →
        Standing services (scene.opening command) ∧ Keeps (terms services) (Standing services)
          scene.opened.length command (command.run services) (scene.opening command) := by
    intro scene command tagged standing _
    have untouched : Untouched scene.opened.length (scene.opening command) := by
      intro entry member
      rw [Scene.own_opening tagged] at member
      cases member
    exact ⟨standing.opening, (safe_handle uuids command untouched).keeps⟩
  have standing := (run.keeps opened (kept_initial bare.standing)).inv
  refine ⟨fun object named => (List.mem_filter.mp (standing.files.safe object named)).1, ?_⟩
  have once : ∀ token (first second : Nat), ∀ earlier later : AvatarEntry, first < second →
      site.history[first]? = some earlier → site.history[second]? = some later →
        Changes token earlier → ¬Changes token later := by
    intro token first second earlier later before atFirst atSecond changes again
    obtain ⟨bound, here⟩ := List.getElem?_eq_some_iff.mp atSecond
    have split : site.history = site.history.take second ++ later :: site.history.drop (second + 1) := by
      rw [← here, List.getElem_cons_drop, List.take_append_drop]
    refine standing.changedOnce _ _ _ split token again earlier ?_ changes
    exact List.mem_of_getElem? (by rw [List.getElem?_take_of_lt before, atFirst])
  intro token first second earlier later atFirst atSecond changes again
  rcases Nat.lt_trichotomy first second with before | same | after
  · exact absurd again (once token first second earlier later before atFirst atSecond changes)
  · exact same
  · exact absurd changes (once token second first later earlier after atSecond atFirst again)

end Runs

section Example

def countingServices : Services where
  toServices := { steadyServices with uuid7 := fun turn => turn % 2 ^ 128 }
  uuid4 turn := turn % 2 ^ 128
  publicBaseUrl := "https://s3"
  storageError _ := none
  chatStat _ _ := .ok 100
  chatBytes _ _ := .ok []
  chatDimensions _ := some (640, 480)
  lives _ _ := true
  falters _ := none

def groupWorld : World where
  chats := ⟨[{ id := 1, type := .group, createdBy := 7 }], by decide⟩
  members := ⟨[{ id := 1, chatId := 1, userId := 7, roleId := .owner }], by decide⟩

def avatarMoves : List (Move Command) :=
  Move.start (Command.requestChatAvatarUpload ⟨{ id := 7 }, 1, "image/png", 100⟩) ::
    List.replicate 6 (Move.exec 0) ++
    Move.start (Command.processChatAvatar ⟨Python.strUuid 1, 7, Python.strUuid 3⟩) ::
      Move.start (Command.processChatAvatar ⟨Python.strUuid 1, 7, Python.strUuid 3⟩) ::
    Move.exec 1 :: Move.exec 2 :: List.replicate 13 (Move.exec 1)

def avatarSite : Option AvatarSite :=
  (start groupWorld).steps (Command.run countingServices) (fun _ _ => true)
    (fun scene index _ op _ =>
      decide (rowLocks.Waits scene index op ∧ Unused countingServices scene op)) avatarMoves

/-- The slot is spent once, and the row of the chat names files that are there. -/
theorem named_files_after_upload : ∃ site, avatarSite = some site ∧
    site.world.storage.length = 8 ∧ (site.world.named countingServices).isEmpty = false ∧
    site.rests.map (fun rest => rest.outcome?.isSome) = [true, true, true] ∧
    (∀ object ∈ site.world.named countingServices, object ∈ site.world.storage) ∧
      ∀ token (first second : Nat), ∀ earlier later : AvatarEntry,
        site.history[first]? = some earlier → site.history[second]? = some later →
          Changes token earlier → Changes token later → first = second := by
  have found : avatarSite.map (fun site => (site.world.storage.length,
      (site.world.named countingServices).isEmpty,
      site.rests.map fun rest => rest.outcome?.isSome)) = some (8, false, [true, true, true]) := by
    decide +kernel
  obtain ⟨site, reached, same⟩ := Option.map_eq_some_iff.mp found
  obtain ⟨stored, rest⟩ := Prod.mk.inj same
  obtain ⟨named, ended⟩ := Prod.mk.inj rest
  have run : Runs (Command.run countingServices) (terms countingServices) (start groupWorld) site :=
    runs_of_steps avatarMoves (fun _ _ _ => trivial)
      (fun scene index _ op _ checked => of_decide_eq_true
        (p := rowLocks.Waits scene index op ∧ Unused countingServices scene op) checked)
      .refl reached
  have uuids : Uuids countingServices :=
    ⟨fun _ => Nat.mod_lt _ (Nat.two_pow_pos 128), fun _ => Nat.mod_lt _ (Nat.two_pow_pos 128)⟩
  have bare : Bare groupWorld := by
    refine ⟨fun chat member => ?_, rfl, fun profile member => ?_, rfl⟩
    · obtain rfl := List.mem_singleton.mp member
      rfl
    · cases member
  exact ⟨site, reached, stored, named, ended, named_files_stored uuids bare run⟩

end Example

end Messanger.Avatars
