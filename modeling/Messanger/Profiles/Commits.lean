import Messanger.Profiles.Effects

/-!
What the handlers commit: whatever has happened since they began, each commit of a handler is one of
seven changes to the rows of its user, made to the rows as they are then.
-/

namespace Messanger.Profiles

open Relational Processes

variable {services : Services} {Known : World → Prop} {terms : ProfileTerms}

def Stamped (services : Services) (Known : World → Prop) (world : World) (userId : UserId)
    (stamp : Nat) : Prop :=
  ∃ past : World, Known past ∧ past.gallery userId = world.gallery userId ∧ past.turn < world.turn ∧
    stamp = services.now past.turn

inductive Change (services : Services) (Known : World → Prop) (scene : ProfileScene) (index : Nat)
    (userId : UserId) (after : Db) : Command → Prop
  | added {command : Command} {profile : Profile} {photo : ProfilePhoto} {message : OutboxMessage}
      (found : scene.world.db.profile? userId = some profile)
      (room : (scene.world.db.photosOf userId).length < maxProfilePhotos)
      (stamped : Stamped services Known scene.world userId photo.setMainAt)
      (fresh : ∀ other ∈ scene.world.db.photosOf userId, other.id ≠ photo.id)
      (row : after.profile? userId = some (profile.setPhoto (some photo)))
      (photos : after.photosOf userId = scene.world.db.photosOf userId ++ [photo])
      (outbox : after.outbox = scene.world.db.outbox ++ [message])
      (payload : message.payload = (profile.setPhoto (some photo)).payload) :
      Change services Known scene index userId after command
  | dropped {command : Command} {profile : Profile} {photo : ProfilePhoto}
      (found : scene.world.db.profile? userId = some profile)
      (member : photo ∈ scene.world.db.photosOf userId) (spare : profile.photoId ≠ some photo.id)
      (row : after.profile? userId = some profile)
      (photos : after.photosOf userId =
        (scene.world.db.photosOf userId).filter fun row => row.id ≠ photo.id)
      (outbox : after.outbox = scene.world.db.outbox) :
      Change services Known scene index userId after command
  | replaced {command : Command} {profile : Profile} {photo : ProfilePhoto}
      {message : OutboxMessage}
      (found : scene.world.db.profile? userId = some profile)
      (photos : after.photosOf userId =
        (scene.world.db.photosOf userId).filter fun row => row.id ≠ photo.id)
      (row : after.profile? userId =
        some (profile.setPhoto (ProfilePhoto.latest (after.photosOf userId))))
      (outbox : after.outbox = scene.world.db.outbox ++ [message])
      (payload : message.payload =
        (profile.setPhoto (ProfilePhoto.latest (after.photosOf userId))).payload) :
      Change services Known scene index userId after command
  | promoted {command : Command} {profile : Profile} {photo : ProfilePhoto} {time : Nat}
      {message : OutboxMessage}
      (found : scene.world.db.profile? userId = some profile)
      (member : photo ∈ scene.world.db.photosOf userId)
      (stamped : Stamped services Known scene.world userId time)
      (row : after.profile? userId = some (profile.setPhoto (some (photo.makeMain time))))
      (photos : after.photosOf userId = (scene.world.db.photosOf userId).map fun row =>
        if row.id = photo.id then row.makeMain time else row)
      (outbox : after.outbox = scene.world.db.outbox ++ [message])
      (payload : message.payload = (profile.setPhoto (some (photo.makeMain time))).payload) :
      Change services Known scene index userId after command
  | created {command : Command} {profile : Profile} {message : OutboxMessage}
      (absent : scene.world.db.profile? userId = none)
      (row : after.profile? userId = some profile) (bare : profile.photoId = none)
      (photos : after.photosOf userId = scene.world.db.photosOf userId)
      (outbox : after.outbox = scene.world.db.outbox ++ [message])
      (payload : message.payload = profile.payload) :
      Change services Known scene index userId after command
  | renamed {command : Command} {profile : Profile} {username : String} {message : OutboxMessage}
      (found : scene.world.db.profile? userId = some profile)
      (row : after.profile? userId = some (profile.changeUsername username))
      (photos : after.photosOf userId = scene.world.db.photosOf userId)
      (outbox : after.outbox = scene.world.db.outbox ++ [message])
      (payload : message.payload = (profile.changeUsername username).payload) :
      Change services Known scene index userId after command
  | updated {command : UpdateProfileCommand} {profile new : Profile} {message : OutboxMessage}
      {entry : Entry World Op Command ProfileError Unit}
      (read : entry ∈ scene.own index) (label : entry.label = .getById command.profileId)
      (found : entry.before.db.profile? command.profileId = some profile)
      (changed : Updated command.displayName profile new) (own : userId = command.profileId)
      (row : after.profile? userId =
        (scene.world.db.profile? userId).map (profile.difference new).apply)
      (photos : after.photosOf userId = scene.world.db.photosOf userId)
      (outbox : after.outbox = scene.world.db.outbox ++ [message])
      (payload : message.payload = new.payload) :
      Change services Known scene index userId after (.updateProfile command)

theorem Change.outbox_cases {scene : ProfileScene} {index : Nat} {userId : UserId} {after : Db}
    {command : Command} (change : Change services Known scene index userId after command) :
    after.outbox = scene.world.db.outbox ∨ ∃ message,
      after.outbox = scene.world.db.outbox ++ [message] ∧ message.payload.userId = userId := by
  have about {profile : Profile} {message : OutboxMessage}
      (row : after.profile? userId = some profile) (payload : message.payload = profile.payload) :
      message.payload.userId = userId := by
    have key : profile.id = userId := Table.key_of_find? row
    rw [payload]
    exact key
  cases change with
  | added _ _ _ _ row _ outbox payload => exact .inr ⟨_, outbox, about row payload⟩
  | dropped _ _ _ _ _ outbox => exact .inl outbox
  | replaced _ _ row outbox payload => exact .inr ⟨_, outbox, about row payload⟩
  | promoted _ _ _ row _ outbox payload => exact .inr ⟨_, outbox, about row payload⟩
  | created _ row _ _ outbox payload => exact .inr ⟨_, outbox, about row payload⟩
  | renamed _ row _ outbox payload => exact .inr ⟨_, outbox, about row payload⟩
  | updated _ _ found changed own _ _ outbox payload =>
      refine .inr ⟨_, outbox, ?_⟩
      rw [payload, own, ← Table.key_of_find? found]
      exact changed.id

structure Upholds (services : Services) (terms : ProfileTerms) (Known : World → Prop) : Prop where
  waits : ∀ scene index command op effect, terms.Acts scene index command op effect →
    rowLocks.Waits scene index op
  calm : ∀ world after : World, Known world → after.db = world.db → world.turn ≤ after.turn →
    Known after
  commit : ∀ (scene : ProfileScene) index command userId log effect after, Known scene.world →
    terms.Acts scene index command (.commit log) effect →
    scene.world.db.writeAll log = .ok after →
    Change services Known scene index userId after command →
    (∀ other, other ≠ userId → after.gallery other = scene.world.db.gallery other) →
    Known { scene.world with db := after }

/-- The rows were changed by the holders of their locks only, and `Known` holds of them. -/
structure Standing (Known : World → Prop) (scene : ProfileScene) : Prop where
  lawful : rowLocks.Lawful World.gallery scene
  known : Known scene.world
  turns : ∀ entry ∈ scene.history, entry.after.turn ≤ scene.world.turn

def Calm (op : Op) (effect : World → World) : Prop :=
  rowLocks.releases op = false ∧
    ∀ world, (effect world).db = world.db ∧ world.turn ≤ (effect world).turn

section Parts

variable {Answer Other : Type} {Post : Answer → Prop}

theorem along_ask {op : Op} {answer : Nat → Except ProfileError Answer}
    (stays : rowLocks.releases op = false) :
    (ask op answer).Along Calm fun _ => True := by
  refine ⟨⟨stays, fun world => ⟨rfl, Nat.le_succ _⟩⟩, fun world => ?_⟩
  change (Process.done (answer world.turn) : Handler Answer).Along Calm fun _ => True
  cases answer world.turn with
  | error error => trivial
  | ok answer => trivial

theorem along_observe {op : Op} {read : World → Answer} (stays : rowLocks.releases op = false) :
    (Process.observe op read : Handler Answer).Along Calm fun _ => True :=
  ⟨⟨stays, fun _ => ⟨rfl, Nat.le_refl _⟩⟩, fun _ => trivial⟩

theorem along_check (check : Except ProfileError Answer) :
    (liftM check : Handler Answer).Along Calm fun answer => check = .ok answer := by
  cases check with
  | error error => trivial
  | ok answer => exact rfl

theorem along_lift (check : Except ProfileError Answer) :
    (liftM check : Handler Answer).Along Calm fun _ => True :=
  (along_check check).mono (fun _ _ calm => calm) fun _ _ => trivial

theorem along_pure (answer : Answer) : (pure answer : Handler Answer).Along Calm fun _ => True :=
  trivial

theorem along_raise (error : ProfileError) :
    (Process.raise error : Handler Answer).Along Calm fun _ => True := trivial

theorem along_next {part : Handler Answer} {next : Answer → Handler Other}
    (first : part.Along Calm fun _ => True) (rest : ∀ answer, (next answer).Along Calm fun _ => True) :
    (part >>= next).Along Calm fun _ => True :=
  Process.along_bind first fun answer _ => rest answer

theorem along_ite {condition : Prop} [Decidable condition] {first second : Handler Answer}
    (yes : first.Along Calm fun _ => True) (no : second.Along Calm fun _ => True) :
    (if condition then first else second).Along Calm fun _ => True := by
  split
  · exact yes
  · exact no

theorem along_forM {Item : Type} {action : Item → Handler Unit} (items : List Item)
    (each : ∀ item, (action item).Along Calm fun _ => True) :
    (items.forM action).Along Calm fun _ => True := by
  induction items with
  | nil => trivial
  | cons item rest ih => exact along_next (each item) fun _ => ih

theorem along_uuid7 : (uuid7 services).Along Calm fun _ => True := along_ask rfl

theorem along_begin : (begin services).Along Calm fun _ => True := along_ask rfl

theorem along_invalidateCache : invalidateCache.Along Calm fun _ => True :=
  ⟨⟨rfl, fun _ => ⟨rfl, Nat.le_refl _⟩⟩, fun _ => trivial⟩

theorem along_deleteFile : ProfilePhotoStorage.deleteFile.Along Calm fun _ => True := by
  unfold ProfilePhotoStorage.deleteFile
  exact along_ask rfl

theorem along_deleteVariants (userId : UserId) (avatars : AvatarMap) :
    (ProfilePhotoStorage.deleteVariants userId avatars).Along Calm fun _ => True :=
  along_forM _ fun _ => along_deleteFile

theorem along_dropPending (fileKey : String) :
    (ProfilePhotoStorage.dropPending fileKey).Along Calm fun _ => True := along_deleteFile

theorem along_discard (command : ProccessAvatarCommand) (avatars : AvatarMap)
    (error : ProfileError) : (command.discard avatars error).Along Calm fun _ => True :=
  along_next (along_deleteVariants _ _) fun _ => along_next (along_dropPending _) fun _ =>
    along_raise error

theorem along_loadValidated (fileKey : String) :
    (ProfilePhotoStorage.loadValidated services fileKey).Along Calm fun _ => True :=
  along_next (along_ask rfl) fun _ => along_next (along_lift _) fun _ =>
    along_next (along_ask rfl) fun _ => along_next (along_lift _) fun _ => along_pure _

theorem along_prepare (command : ProccessAvatarCommand) :
    (command.prepare services).Along Calm fun _ => True := by
  refine along_next (along_lift _) fun _ => along_next along_begin fun transactionTime => ?_
  refine along_next (along_observe rfl) fun _ => along_next (along_lift _) fun _ => ?_
  refine along_next (along_observe rfl) fun full => along_ite ?_ ?_
  · exact along_next (along_dropPending _) fun _ => along_raise _
  · refine along_next (Process.along_rescue ?_ fun error => ?_) fun rendered => ?_
    · exact along_next (along_loadValidated _) fun _ => along_lift _
    · exact along_ite (along_next (along_dropPending _) fun _ => along_raise error) (along_raise error)
    · refine along_next along_uuid7 fun photoId => ?_
      refine along_next (along_next (along_forM _ fun _ => along_ask rfl) fun _ => along_pure _) ?_
      exact fun avatars => along_pure _

end Parts

section Keeping

structure Lasting (Known : World → Prop) (index : Nat) (command : Command)
    (Local : ProfileScene → Prop) : Prop where
  later : ∀ scene now, Local scene → scene.Meanwhile index now → Standing Known now → Local now
  after : ∀ now op effect, Local now → Calm op effect →
    Local (now.after index command op effect none)

variable {scene : ProfileScene} {index : Nat} {command : Command} {op : Op}
  {effect : World → World} {userId : UserId} {seen : Gallery} {Local : ProfileScene → Prop}

theorem lasting_nothing : Lasting Known index command fun _ => True :=
  ⟨fun _ _ _ _ _ => trivial, fun _ _ _ _ _ => trivial⟩

theorem lasting_holding : Lasting Known index command
    (rowLocks.Holding World.gallery index userId seen) where
  later _ _ holding meanwhile kept := holding.later kept.lawful meanwhile
  after now op effect holding calm := by
    have goes : rowLocks.Holding World.gallery index userId ((effect now.world).gallery userId)
      (now.after index command op effect none) := holding.after calm.1
    rw [World.gallery, (calm.2 now.world).1, ← World.gallery, holding.view] at goes
    exact goes

theorem lasting_recorded (entry : Entry World Op Command ProfileError Unit) :
    Lasting Known index command fun scene => entry ∈ scene.own index where
  later _ _ recorded meanwhile _ := by
    rw [meanwhile.own_eq]
    exact recorded
  after _ _ _ recorded _ := by
    rw [Scene.own_after]
    exact List.mem_append_left _ recorded

theorem Lasting.and {Other : ProfileScene → Prop} (first : Lasting Known index command Local)
    (second : Lasting Known index command Other) :
    Lasting Known index command fun scene => Local scene ∧ Other scene where
  later scene now both meanwhile kept :=
    ⟨first.later scene now both.1 meanwhile kept, second.later scene now both.2 meanwhile kept⟩
  after now op effect both calm :=
    ⟨first.after now op effect both.1 calm, second.after now op effect both.2 calm⟩

variable (upholds : Upholds services terms Known)

include upholds

theorem Standing.calm {now : ProfileScene} {outcome : Option (Except ProfileError Unit)}
    (kept : Standing Known now) (acts : terms.Acts now index command op effect)
    (calm : Calm op effect) : Standing Known (now.after index command op effect outcome) := by
  have rows := calm.2 now.world
  refine ⟨kept.lawful.after (upholds.waits _ _ _ _ _ acts) fun key moved => ?_,
    upholds.calm _ _ kept.known rows.1 rows.2, fun entry member => ?_⟩
  · rw [World.gallery, rows.1] at moved
    exact absurd rfl moved
  · rcases List.mem_append.mp member with before | last
    · exact Nat.le_trans (kept.turns entry before) rows.2
    · rw [List.mem_singleton.mp last]
      exact Nat.le_refl _

theorem keeps_calm {process : Handler Unit} {Post : Unit → Prop} (along : process.Along Calm Post) :
    Keeps terms (Standing Known) index command process scene := by
  induction process generalizing scene with
  | done outcome => trivial
  | act op effect next ih =>
      intro now meanwhile tagged running kept acts
      exact ⟨kept.calm upholds acts along.1, ih now.world (along.2 now.world)⟩

theorem keeps_part {Answer : Type} {Post : Answer → Prop} {part : Handler Answer}
    {next : Answer → Handler Unit} (lasting : Lasting Known index command Local)
    (along : part.Along Calm Post)
    (rest : ∀ answer scene, Post answer → Local scene →
      Keeps terms (Standing Known) index command (next answer) scene) (known : Local scene) :
    Keeps terms (Standing Known) index command (part >>= next) scene := by
  refine keeps_while lasting.later ?_ along rest known
  intro now op effect outcome here tagged running kept acts calm
  refine ⟨kept.calm upholds acts calm, ?_⟩
  rintro rfl
  exact lasting.after now op effect here calm

theorem keeps_step {next : World → Handler Unit} (lasting : Lasting Known index command Local)
    (calm : Calm op effect)
    (rest : ∀ now, Local now → Standing Known now → ∀ scene entry, Local scene → entry ∈ scene.own index →
      entry.label = op → entry.before = now.world → entry.after = effect now.world →
        Keeps terms (Standing Known) index command (next now.world) scene) (known : Local scene) :
    Keeps terms (Standing Known) index command (.act op effect next) scene := by
  intro now meanwhile tagged running kept acts
  have here := lasting.later scene now known meanwhile kept
  refine ⟨kept.calm upholds acts calm, ?_⟩
  have rests := rest now here kept
  have after := lasting.after now op effect here calm
  generalize next now.world = left at rests ⊢
  cases left with
  | done outcome => trivial
  | act _ _ _ =>
      refine rests _ ⟨index, command, op, now.world, effect now.world, none⟩ after ?_ rfl rfl rfl
      rw [Scene.own_after]
      exact List.mem_append_right _ List.mem_cons_self

theorem keeps_look {Answer : Type} {read : World → Answer} {next : Answer → Handler Unit}
    (lasting : Lasting Known index command Local) (stays : rowLocks.releases op = false)
    (rest : ∀ now, Local now → ∀ scene entry, Local scene → entry ∈ scene.own index →
      entry.label = op → entry.before = now.world →
        Keeps terms (Standing Known) index command (next (read now.world)) scene) (known : Local scene) :
    Keeps terms (Standing Known) index command (Process.observe op read >>= next) scene :=
  keeps_step upholds lasting ⟨stays, fun _ => ⟨rfl, Nat.le_refl _⟩⟩
    (fun now here _ scene entry known recorded label before _ =>
      rest now here scene entry known recorded label before) known

theorem keeps_now {next : Nat → Handler Unit} (lasting : Lasting Known index command Local)
    (rest : ∀ now, Local now → Standing Known now → ∀ scene entry, Local scene →
      entry ∈ scene.own index → entry.after = now.world.tick →
        Keeps terms (Standing Known) index command (next (services.now now.world.turn)) scene)
    (known : Local scene) :
    Keeps terms (Standing Known) index command (now services >>= next) scene :=
  keeps_step upholds lasting ⟨rfl, fun _ => ⟨rfl, Nat.le_succ _⟩⟩
    (fun now here kept scene entry known recorded _ _ after =>
      rest now here kept scene entry known recorded after) known

theorem keeps_lock {next : Option Profile → Handler Unit}
    (absent : ∀ scene, Keeps terms (Standing Known) index command (next none) scene)
    (rest : ∀ profile photos scene, userId = profile.id →
      rowLocks.Holding World.gallery index profile.id ⟨some profile, photos⟩ scene →
        Keeps terms (Standing Known) index command (next (some profile)) scene) :
    Keeps terms (Standing Known) index command (getByIdForUpdate userId >>= next) scene := by
  intro now meanwhile tagged running kept acts
  refine ⟨kept.calm upholds acts ⟨rfl, fun _ => ⟨rfl, Nat.le_refl _⟩⟩, ?_⟩
  change Keeps terms (Standing Known) index command (next (now.world.db.profile? userId)) (now.after
    index command (.getByIdForUpdate userId) id (next (now.world.db.profile? userId)).outcome?)
  cases found : now.world.db.profile? userId with
  | none => exact absent _
  | some profile =>
      have acquires : rowLocks.acquires (.getByIdForUpdate userId) now.world = some userId := by
        simp only [rowLocks, found, Option.isSome_some, if_true]
      have goes : rowLocks.Holding World.gallery index userId ((id now.world).gallery userId)
          (now.after index command (.getByIdForUpdate userId) id none) :=
        Locks.holding_acquired kept.lawful.connected acquires rfl
      have seen : now.world.gallery userId = ⟨some profile, now.world.db.photosOf userId⟩ := by
        rw [World.gallery, Db.gallery, found]
      have own : userId = profile.id := (Table.key_of_find? found).symm
      rw [id, seen] at goes
      have rests := rest profile (now.world.db.photosOf userId)
      generalize next (some profile) = left at rests ⊢
      cases left with
      | done outcome => trivial
      | act op effect next => exact rests _ own (own ▸ goes)

theorem keeps_flush {next : Unit → Handler Unit} (lasting : Lasting Known index command Local)
    (rest : ∀ seen scene, Local scene → rowLocks.Holding World.gallery index userId seen scene →
      Keeps terms (Standing Known) index command (next ()) scene) (known : Local scene) :
    Keeps terms (Standing Known) index command (Process.perform (.flush userId) id >>= next) scene := by
  intro now meanwhile tagged running kept acts
  refine ⟨kept.calm upholds acts ⟨rfl, fun _ => ⟨rfl, Nat.le_refl _⟩⟩, ?_⟩
  have goes : rowLocks.Holding World.gallery index userId ((id now.world).gallery userId)
      (now.after index command (.flush userId) id none) :=
    Locks.holding_acquired kept.lawful.connected rfl rfl
  have calm : Calm (.flush userId) id := ⟨rfl, fun _ => ⟨rfl, Nat.le_refl _⟩⟩
  have after := lasting.after now (.flush userId) id
    (lasting.later scene now known meanwhile kept) calm
  change Keeps terms (Standing Known) index command (next ()) (now.after index command (.flush userId) id
    (next ()).outcome?)
  generalize next () = left at rest ⊢
  cases left with
  | done outcome => trivial
  | act op effect next => exact rest _ _ after goes

theorem keeps_commit (userId : UserId) {log : List Write} {next : Unit → Handler Unit}
    (rest : (next ()).Along Calm fun _ => True)
    (step : ∀ now after, scene.Meanwhile index now → Standing Known now →
      now.world.db.writeAll log = .ok after →
        (Change services Known now index userId after command ∧
          ∀ other, other ≠ userId → after.gallery other = now.world.db.gallery other) ∧
        (after.gallery userId ≠ now.world.db.gallery userId →
          userId ∈ rowLocks.held now.history index)) :
    Keeps terms (Standing Known) index command (commit log >>= next) scene := by
  rw [commit, Process.attempt_bind]
  intro now meanwhile tagged running kept acts
  cases written : now.world.db.writeAll log with
  | error error =>
      have failed : now.world.commit log = .error error := by rw [World.commit, written]; rfl
      simp only [failed]
      have same : (now.world.commit log).toOption.getD now.world = now.world := by
        rw [failed]
        rfl
      refine ⟨⟨kept.lawful.after (upholds.waits _ _ _ _ _ acts) fun key moved => ?_, ?_, ?_⟩, trivial⟩
      · rw [same] at moved
        exact absurd rfl moved
      · rw [Scene.after, same]
        exact kept.known
      · rw [Scene.after, same]
        intro entry member
        rcases List.mem_append.mp member with before | last
        · exact kept.turns entry before
        · rw [List.mem_singleton.mp last]
  | ok after =>
      have done : now.world.commit log = .ok { now.world with db := after } := by
        rw [World.commit, written]
        rfl
      obtain ⟨⟨change, others⟩, held⟩ := step now after meanwhile kept written
      simp only [done]
      have left : (now.world.commit log).toOption.getD now.world = { now.world with db := after } := by
        rw [done]
        rfl
      refine ⟨⟨kept.lawful.after (upholds.waits _ _ _ _ _ acts) fun key moved => ?_, ?_, ?_⟩,
        keeps_calm upholds rest⟩
      · rw [left] at moved
        by_cases own : key = userId
        · rw [own] at moved ⊢
          exact held moved
        · exact absurd (others key own) moved
      · rw [Scene.after, left]
        exact upholds.commit now index command userId log _ after kept.known acts written change others
      · rw [Scene.after, left]
        intro entry member
        rcases List.mem_append.mp member with before | last
        · exact kept.turns entry before
        · rw [List.mem_singleton.mp last]

end Keeping

section Changing

variable {now : ProfileScene} {index : Nat} {command : Command} {after : Db}
  {profile new : Profile} {photo : ProfilePhoto} {message : OutboxMessage} {log : List Write}

theorem told_after {db : Db} {first : Write}
    (written : db.writeAll (first :: profile.flushed new ++ [.publish message]) = .ok after) :
    ∃ middle, db.write first = .ok middle ∧
      Told profile.id (profile.difference new) message middle after := by
  rw [List.cons_append] at written
  obtain ⟨middle, done, rest⟩ := writeAll_cons written
  exact ⟨middle, done, told_flushed rest⟩

theorem Told.row_eq {db middle : Db} (told : Told profile.id (profile.difference new) message middle after)
    (profiles : middle.profiles = db.profiles) (found : db.profile? profile.id = some profile)
    (same : new.id = profile.id) : after.profile? profile.id = some new := by
  have before : middle.profile? profile.id = some profile := by rw [Db.profile?, profiles, ← found]
  rw [told.row, before, Option.map_some, apply_difference same]

theorem Told.gallery_other {db middle : Db} {change : ProfileChange} {userId other : UserId}
    (told : Told userId change message middle after) (profiles : middle.profiles = db.profiles)
    (photos : middle.photosOf other = db.photosOf other) (apart : other ≠ userId) :
    after.gallery other = db.gallery other := by
  rw [Db.gallery, Db.gallery, told.others other apart, photosOf_congr told.photos, photos,
    Db.profile?, profiles]

theorem change_added
    (written : now.world.db.writeAll (.insertPhoto photo ::
      profile.flushed (profile.setPhoto (some photo)) ++ [.publish message]) = .ok after)
    (found : now.world.db.profile? profile.id = some profile) (owner : photo.userId = profile.id)
    (room : (now.world.db.photosOf profile.id).length < maxProfilePhotos)
    (stamped : Stamped services Known now.world profile.id photo.setMainAt)
    (payload : message.payload = (profile.setPhoto (some photo)).payload) :
    Change services Known now index profile.id after command ∧
      ∀ other, other ≠ profile.id → after.gallery other = now.world.db.gallery other := by
  obtain ⟨middle, inserted, told⟩ := told_after written
  obtain ⟨profiles, outbox, absent, photos, others⟩ := write_insertPhoto inserted
  rw [owner] at photos others
  have fresh : ∀ other ∈ now.world.db.photosOf profile.id, other.id ≠ photo.id := by
    intro other member
    exact (Table.find?_none_iff _ _).mp absent other (mem_photosOf.mp member).1
  refine ⟨.added found room stamped fresh (told.row_eq profiles found rfl) ?_ ?_ payload, ?_⟩
  · rw [photosOf_congr told.photos, photos]
  · rw [told.outbox, outbox]
  · exact fun other apart => told.gallery_other profiles (others other apart) apart

theorem filter_other {db : Db} {userId other : UserId} (member : photo ∈ db.photosOf userId)
    (apart : other ≠ userId) :
    (db.photosOf other).filter (fun row => row.id ≠ photo.id) = db.photosOf other := by
  rw [List.filter_eq_self]
  intro row theirs
  exact decide_eq_true (not_mem_photosOf member apart theirs)

theorem change_dropped (written : now.world.db.writeAll [.deletePhoto photo.id] = .ok after)
    (found : now.world.db.profile? profile.id = some profile)
    (member : photo ∈ now.world.db.photosOf profile.id) (spare : profile.photoId ≠ some photo.id) :
    Change services Known now index profile.id after command ∧
      ∀ other, other ≠ profile.id → after.gallery other = now.world.db.gallery other := by
  obtain ⟨middle, deleted, finish⟩ := writeAll_cons written
  rw [writeAll_nil finish]
  obtain ⟨profiles, outbox, photos⟩ := photosOf_delete deleted
  refine ⟨.dropped found member spare ?_ (photos _) outbox, fun other apart => ?_⟩
  · rw [Db.profile?, profiles, ← found]
  · rw [Db.gallery, Db.gallery, photos, filter_other member apart, Db.profile?, profiles]

theorem change_replaced {latest : Option ProfilePhoto}
    (written : now.world.db.writeAll (.deletePhoto photo.id ::
      profile.flushed (profile.setPhoto latest) ++ [.publish message]) = .ok after)
    (found : now.world.db.profile? profile.id = some profile)
    (member : photo ∈ now.world.db.photosOf profile.id)
    (left : latest = ProfilePhoto.latest
      ((now.world.db.photosOf profile.id).filter fun row => row.id ≠ photo.id))
    (payload : message.payload = (profile.setPhoto latest).payload) :
    Change services Known now index profile.id after command ∧
      ∀ other, other ≠ profile.id → after.gallery other = now.world.db.gallery other := by
  obtain ⟨middle, deleted, told⟩ := told_after written
  obtain ⟨profiles, outbox, photos⟩ := photosOf_delete deleted
  have kept : after.photosOf profile.id =
      (now.world.db.photosOf profile.id).filter fun row => row.id ≠ photo.id := by
    rw [photosOf_congr told.photos, photos]
  rw [← kept] at left
  subst left
  refine ⟨.replaced found kept (told.row_eq profiles found rfl) ?_ payload, fun other apart => ?_⟩
  · rw [told.outbox, outbox]
  · refine told.gallery_other profiles ?_ apart
    rw [photos, filter_other member apart]

theorem change_promoted (photo : ProfilePhoto) {time : Nat}
    (written : now.world.db.writeAll (.updatePhoto photo.id time ::
      profile.flushed (profile.setPhoto (some (photo.makeMain time))) ++ [.publish message]) =
        .ok after)
    (found : now.world.db.profile? profile.id = some profile)
    (member : photo ∈ now.world.db.photosOf profile.id)
    (stamped : Stamped services Known now.world profile.id time)
    (payload : message.payload = (profile.setPhoto (some (photo.makeMain time))).payload) :
    Change services Known now index profile.id after command ∧
      ∀ other, other ≠ profile.id → after.gallery other = now.world.db.gallery other := by
  obtain ⟨middle, promoted, told⟩ := told_after written
  obtain ⟨profiles, outbox, photos⟩ := photosOf_update promoted
  refine ⟨.promoted found member stamped (told.row_eq profiles found rfl) ?_ ?_ payload, ?_⟩
  · rw [photosOf_congr told.photos, photos]
  · rw [told.outbox, outbox]
  · intro other apart
    refine told.gallery_other profiles ?_ apart
    have same : ∀ row ∈ now.world.db.photosOf other,
        (if row.id = photo.id then row.makeMain time else row) = row :=
      fun row theirs => if_neg (not_mem_photosOf member apart theirs)
    rw [photos, List.map_congr_left same, List.map_id']

theorem change_created
    (written : now.world.db.writeAll [.insertProfile profile, .publish message] = .ok after)
    (bare : profile.photoId = none) (payload : message.payload = profile.payload) :
    Change services Known now index profile.id after command ∧
      ∀ other, other ≠ profile.id → after.gallery other = now.world.db.gallery other := by
  obtain ⟨absent, row, others, photos, outbox⟩ := told_created written
  refine ⟨.created absent row bare ?_ outbox payload, fun other apart => ?_⟩
  · rw [photosOf_congr photos]
  · rw [Db.gallery, Db.gallery, others other apart, photosOf_congr photos]

theorem change_renamed {username : String}
    (written : now.world.db.writeAll (profile.flushed (profile.changeUsername username) ++
      [.publish message]) = .ok after)
    (found : now.world.db.profile? profile.id = some profile)
    (payload : message.payload = (profile.changeUsername username).payload) :
    Change services Known now index profile.id after command ∧
      ∀ other, other ≠ profile.id → after.gallery other = now.world.db.gallery other := by
  have told := told_flushed written
  refine ⟨.renamed found (told.row_eq rfl found rfl) ?_ told.outbox payload, fun other apart => ?_⟩
  · rw [photosOf_congr told.photos]
  · exact told.gallery_other rfl rfl apart

theorem change_updated {update : UpdateProfileCommand}
    {entry : Entry World Op Command ProfileError Unit}
    (written : now.world.db.writeAll (profile.flushed new ++ [.publish message]) = .ok after)
    (read : entry ∈ now.own index) (label : entry.label = .getById update.profileId)
    (found : entry.before.db.profile? update.profileId = some profile)
    (changed : Updated update.displayName profile new) (payload : message.payload = new.payload) :
    Change services Known now index profile.id after (.updateProfile update) ∧
      ∀ other, other ≠ profile.id → after.gallery other = now.world.db.gallery other := by
  have told := told_flushed written
  have key : profile.id = update.profileId := Table.key_of_find? found
  refine ⟨.updated read label found changed key told.row ?_ told.outbox payload, ?_⟩
  · rw [photosOf_congr told.photos]
  · exact fun other apart => told.gallery_other rfl rfl apart

end Changing

section Handlers

variable {scene : ProfileScene} {index : Nat} {command : Command}

theorem along_publish (eventName : EventName) (profile : Profile) (transactionTime : Nat) :
    (publish services eventName profile transactionTime).Along Calm fun event =>
      ∃ message, event = .publish message ∧ message.payload = profile.payload :=
  Process.along_bind along_uuid7 fun _ _ => ⟨_, rfl, rfl⟩

theorem stamped_of_recorded {userId : UserId} {seen : Gallery} {now : ProfileScene} {past : World}
    {entry : Entry World Op Command ProfileError Unit} (known : Known past)
    (gallery : past.gallery userId = seen) (kept : Standing Known now)
    (holding : rowLocks.Holding World.gallery index userId seen now)
    (recorded : entry ∈ now.own index) (after : entry.after = past.tick) :
    Stamped services Known now.world userId (services.now past.turn) := by
  refine ⟨past, known, gallery.trans holding.view.symm, ?_, rfl⟩
  have turns := kept.turns entry (Scene.mem_own.mp recorded).1
  rw [after] at turns
  exact turns

theorem found_ok {Answer : Type} {answer : Option Answer} {error : ProfileError} {value : Answer}
    (ok : found answer error = .ok value) : answer = some value := by
  cases answer with
  | none => cases ok
  | some answer =>
      cases ok
      rfl

theorem held_profile {profile : Profile} {photos : List ProfilePhoto}
    (held : rowLocks.Holding World.gallery index profile.id ⟨some profile, photos⟩ scene) :
    scene.world.db.profile? profile.id = some profile := congrArg Gallery.profile held.view

theorem held_photos {userId : UserId} {profile : Option Profile} {photos : List ProfilePhoto}
    (held : rowLocks.Holding World.gallery index userId ⟨profile, photos⟩ scene) :
    scene.world.db.photosOf userId = photos := congrArg Gallery.photos held.view

variable (upholds : Upholds services terms Known)

include upholds

theorem keeps_proccessAvatar (process : ProccessAvatarCommand) :
    Keeps terms (Standing Known) index command (process.handle services) scene := by
  refine keeps_part upholds lasting_nothing (along_prepare process) ?_ trivial
  rintro ⟨transactionTime, photoId, avatars⟩ scene - -
  refine keeps_lock upholds (fun _ => keeps_calm upholds (along_discard _ _ _)) ?_
  intro profile photos scene own holding
  refine keeps_look upholds lasting_holding rfl ?_ holding
  intro counted here scene _ holding _ _ _
  split
  · exact keeps_calm upholds (along_discard _ _ _)
  rename_i free
  refine keeps_now upholds lasting_holding ?_ holding
  intro past read kept scene entry holding recorded ticked
  refine keeps_part upholds (lasting_holding.and (lasting_recorded entry)) (along_publish _ _ _) ?_
    ⟨holding, recorded⟩
  rintro _ scene ⟨message, rfl, payload⟩ ⟨holding, recorded⟩
  refine keeps_commit upholds profile.id
    (along_next along_invalidateCache fun _ => along_dropPending _) ?_
  intro now after meanwhile keptNow written
  have held := holding.later keptNow.lawful meanwhile
  have recordedNow : entry ∈ now.own index := by
    rw [meanwhile.own_eq]
    exact recorded
  have room : (now.world.db.photosOf profile.id).length < maxProfilePhotos := by
    rw [(held_photos held).trans (held_photos here).symm, ← own]
    exact Nat.lt_of_not_le fun full => free (decide_eq_true full)
  exact ⟨change_added written (held_profile held) own room
    (stamped_of_recorded kept.known read.view keptNow held recordedNow ticked) payload,
    fun _ => held.held⟩

theorem keeps_deleteProfilePhoto (delete : DeleteProfilePhotoCommand) :
    Keeps terms (Standing Known) index command (delete.handle services) scene := by
  refine keeps_part upholds lasting_nothing along_begin ?_ trivial
  intro transactionTime scene _ _
  refine keeps_lock upholds (fun _ => trivial) ?_
  intro profile photos scene own holding
  dsimp only
  split
  · trivial
  refine keeps_look upholds lasting_holding rfl ?_ holding
  intro looked here scene _ holding _ _ _
  split
  · trivial
  · trivial
  rename_i photo found
  have known : photo ∈ photos := by
    rw [← held_photos here, ← own]
    exact List.mem_of_find?_eq_some found
  split
  · refine keeps_look upholds lasting_holding rfl ?_ holding
    intro left there scene _ holding _ _ _
    refine keeps_part upholds lasting_holding (along_publish _ _ _) ?_ holding
    rintro _ scene ⟨message, rfl, payload⟩ holding
    refine keeps_commit upholds profile.id
      (along_next along_invalidateCache fun _ => along_deleteVariants _ _) ?_
    intro now after meanwhile kept written
    have held := holding.later kept.lawful meanwhile
    have member : photo ∈ now.world.db.photosOf profile.id := by
      rw [held_photos held]
      exact known
    refine ⟨change_replaced written (held_profile held) member ?_ payload, fun _ => held.held⟩
    have deleted : left.world.db.write (.deletePhoto photo.id) = .ok { left.world.db with
      photos := left.world.db.photos.delete fun row => row.id == photo.id } := rfl
    rw [own, Db.getLatest, (photosOf_delete deleted).2.2, held_photos there, held_photos held]
  · rename_i spare
    refine keeps_commit upholds profile.id
      (along_next along_invalidateCache fun _ => along_deleteVariants _ _) ?_
    intro now after meanwhile kept written
    have held := holding.later kept.lawful meanwhile
    have member : photo ∈ now.world.db.photosOf profile.id := by
      rw [held_photos held]
      exact known
    exact ⟨change_dropped written (held_profile held) member spare, fun _ => held.held⟩

theorem keeps_setMainProfilePhoto (main : SetMainProfilePhotoCommand) :
    Keeps terms (Standing Known) index command (main.handle services) scene := by
  refine keeps_part upholds lasting_nothing along_begin ?_ trivial
  intro transactionTime scene _ _
  refine keeps_lock upholds (fun _ => trivial) ?_
  intro profile photos scene own holding
  refine keeps_look upholds lasting_holding rfl ?_ holding
  intro looked here scene _ holding _ _ _
  split
  · trivial
  rename_i photo found
  have known : photo ∈ photos := by
    rw [← held_photos here, ← own]
    exact List.mem_of_find?_eq_some found
  split
  · trivial
  refine keeps_now upholds lasting_holding ?_ holding
  intro past read kept scene entry holding recorded ticked
  refine keeps_part upholds (lasting_holding.and (lasting_recorded entry)) (along_publish _ _ _) ?_
    ⟨holding, recorded⟩
  rintro _ scene ⟨message, rfl, payload⟩ ⟨holding, recorded⟩
  refine keeps_commit upholds profile.id along_invalidateCache ?_
  intro now after meanwhile keptNow written
  have held := holding.later keptNow.lawful meanwhile
  have recordedNow : entry ∈ now.own index := by
    rw [meanwhile.own_eq]
    exact recorded
  have member : photo ∈ now.world.db.photosOf profile.id := by
    rw [held_photos held]
    exact known
  exact ⟨change_promoted photo written (held_profile held) member
    (stamped_of_recorded kept.known read.view keptNow held recordedNow ticked) payload,
    fun _ => held.held⟩

theorem keeps_changeProfileUsername (change : ChangeProfileUsernameCommand) :
    Keeps terms (Standing Known) index command (change.handle services) scene := by
  refine keeps_part upholds lasting_nothing along_begin ?_ trivial
  intro transactionTime scene _ _
  refine keeps_lock upholds (fun scene => ?_) ?_
  · refine keeps_part upholds lasting_nothing (along_publish _ _ _) ?_ trivial
    rintro _ scene ⟨message, rfl, payload⟩ -
    refine keeps_flush upholds lasting_nothing ?_ trivial
    intro seen scene _ holding
    refine keeps_commit upholds change.userId along_invalidateCache ?_
    intro now after meanwhile kept written
    have held := holding.later kept.lawful meanwhile
    exact ⟨change_created written rfl payload, fun _ => held.held⟩
  · intro profile photos scene own holding
    dsimp only
    split
    · trivial
    refine keeps_part upholds lasting_holding (along_publish _ _ _) ?_ holding
    rintro _ scene ⟨message, rfl, payload⟩ holding
    refine keeps_commit upholds profile.id along_invalidateCache ?_
    intro now after meanwhile kept written
    have held := holding.later kept.lawful meanwhile
    exact ⟨change_renamed written (held_profile held) payload, fun _ => held.held⟩

theorem keeps_updateProfile (update : UpdateProfileCommand) :
    Keeps terms (Standing Known) index (.updateProfile update) (update.handle services) scene := by
  refine keeps_part upholds lasting_nothing along_begin ?_ trivial
  intro transactionTime scene _ _
  refine keeps_look upholds lasting_nothing rfl ?_ trivial
  intro looked _ scene entry _ recorded label before
  refine keeps_part upholds (lasting_recorded entry) (along_check _) ?_ recorded
  intro profile scene passed recorded
  have found : entry.before.db.profile? update.profileId = some profile := by
    rw [before]
    exact found_ok passed
  refine keeps_part upholds (lasting_recorded entry) (along_lift _) ?_ recorded
  intro _ scene _ recorded
  refine keeps_part upholds (lasting_recorded entry) (along_check _) ?_ recorded
  intro new scene updated recorded
  have changed := update_ok updated
  have own : profile.id = update.profileId := Table.key_of_find? found
  refine keeps_part upholds (lasting_recorded entry) (along_publish _ _ _) ?_ recorded
  rintro _ scene ⟨message, rfl, payload⟩ recorded
  split
  · refine keeps_flush upholds (lasting_recorded entry) ?_ recorded
    intro seen scene recorded holding
    refine keeps_commit upholds profile.id along_invalidateCache ?_
    intro now after meanwhile kept written
    have held := holding.later kept.lawful meanwhile
    have recordedNow : entry ∈ now.own index := by
      rw [meanwhile.own_eq]
      exact recorded
    refine ⟨change_updated written recordedNow label found changed payload, fun _ => ?_⟩
    rw [own]
    exact held.held
  · rename_i differ
    refine keeps_commit upholds profile.id along_invalidateCache ?_
    intro now after meanwhile kept written
    have recordedNow : entry ∈ now.own index := by
      rw [meanwhile.own_eq]
      exact recorded
    have same : profile = new := not_not.mp differ
    have whole : now.world.db.writeAll (profile.flushed new ++ [.publish message]) = .ok after := by
      rw [Profile.flushed, if_pos same]
      exact written
    refine ⟨change_updated whole recordedNow label found changed payload, fun moved => ?_⟩
    obtain ⟨middle, sent, finish⟩ := writeAll_cons written
    rw [writeAll_nil finish, write_publish sent] at moved
    exact absurd rfl moved

theorem keeps_handle (command : Command) :
    Keeps terms (Standing Known) index command (command.handle services) scene := by
  cases command with
  | proccessAvatar command => exact keeps_proccessAvatar upholds command
  | deleteProfilePhoto command => exact keeps_deleteProfilePhoto upholds command
  | setMainProfilePhoto command => exact keeps_setMainProfilePhoto upholds command
  | changeProfileUsername command => exact keeps_changeProfileUsername upholds command
  | updateProfile command => exact keeps_updateProfile upholds command

theorem known_of_runs {db : Db} {site : ProfileSite} (initial : Known { db := db })
    (run : Runs (Command.handle services) terms (start db) site) : Known site.world := by
  have opened : ∀ scene command, scene.Tagged → Standing Known scene → terms.Opens scene command →
      Standing Known (scene.opening command) ∧ Keeps terms (Standing Known) scene.opened.length
        command (command.handle services) (scene.opening command) := by
    intro scene command _ kept _
    exact ⟨⟨kept.lawful.opening, kept.known, kept.turns⟩, keeps_handle upholds command⟩
  have first : Standing Known ⟨{ db := db }, [], []⟩ :=
    ⟨Locks.lawful_nil, initial, fun _ member => nomatch member⟩
  exact (run.keeps opened (kept_initial first)).inv.known

end Handlers

end Messanger.Profiles
