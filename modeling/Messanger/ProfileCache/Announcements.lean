import Messanger.Library.Announcing
import Messanger.ProfileCache.CommandsCore

/-!
Each command that changes the tables of the profiles counts the version of the list up between its
commit and its end.
-/

namespace Messanger.ProfileCache

open Relational Processes

variable {services : Services}

def World.tables (world : World) :
    Profiles.Db × (UserId → Dates) × Table ProfileLink Nat ProfileLink.id :=
  (world.profiles.db, world.dates, world.links)

def Op.announces : Op → Bool
  | .invalidateCache | .profiles .invalidateCache => true
  | _ => false

def Op.writes : Op → World → Bool
  | .profiles (.commit log), world => (world.profiles.commit log).isOk
  | .commitLinks write, world => (world.commitLinks write).isOk
  | _, _ => false

/-- The version goes up by the announcements, the tables change by the writes, and what is kept in
Redis by neither. -/
structure Lawful (op : Op) (effect : World → World) : Prop where
  version : ∀ world, (effect world).version = world.version + if op.announces then 1 else 0
  tables : ∀ world, op.writes world = false → (effect world).tables = world.tables
  cached : ∀ world, (effect world).cached = world.cached

abbrev Quietly := Process.Still Lawful Op.writes

abbrev Announcing {Answer : Type} (process : Handler Answer) : Prop :=
  process.Announces Lawful Op.announces Op.writes false

section Profiles

open Messanger.Profiles

def opAnnounces : Profiles.Op → Bool
  | .invalidateCache => true
  | _ => false

def opWrites : Profiles.Op → Profiles.World → Bool
  | .commit log, world => (world.commit log).isOk
  | _, _ => false

structure ProfilesLawful (op : Profiles.Op) (effect : Profiles.World → Profiles.World) : Prop where
  version : ∀ world, (effect world).listVersion =
    world.listVersion + if opAnnounces op then 1 else 0
  db : ∀ world, opWrites op world = false → (effect world).db = world.db

abbrev ProfilesStill := Process.Still ProfilesLawful opWrites

abbrev ProfilesAnnouncing {Answer : Type} (process : Profiles.Handler Answer) : Prop :=
  process.Announces ProfilesLawful opAnnounces opWrites false

variable {Answer Other : Type} {profilesServices : Profiles.Services}

def Harmless (op : Profiles.Op) : Prop :=
  opAnnounces op = false ∧ ∀ world, opWrites op world = false

theorem harmless_still {op : Profiles.Op} {effect : Profiles.World → Profiles.World}
    (harmless : Harmless op) (same : effect = id ∨ effect = Profiles.World.tick) :
    ProfilesStill op effect := by
  refine ⟨⟨fun world => ?_, fun world _ => ?_⟩, harmless.2⟩
  · rw [harmless.1]
    rcases same with rfl | rfl <;> rfl
  · rcases same with rfl | rfl <;> rfl

theorem still_ask {op : Profiles.Op} {answer : Nat → Except ProfileError Answer}
    (harmless : Harmless op) : (ask op answer).Every ProfilesStill :=
  ⟨harmless_still harmless (.inr rfl), fun _ => trivial⟩

theorem still_observe {op : Profiles.Op} {read : Profiles.World → Answer}
    (harmless : Harmless op) : (Process.observe op read : Profiles.Handler Answer).Every ProfilesStill :=
  Process.every_observe (harmless_still harmless (.inl rfl))

theorem still_begin : (begin profilesServices).Every ProfilesStill :=
  still_ask ⟨rfl, fun _ => rfl⟩

theorem still_publish (eventName : EventName) (profile : Profiles.Profile) (time : Nat) :
    (Profiles.publish profilesServices eventName profile time).Every ProfilesStill :=
  Process.every_bind (still_ask ⟨rfl, fun _ => rfl⟩) fun _ => trivial

theorem still_deleteFile : ProfilePhotoStorage.deleteFile.Every ProfilesStill := by
  unfold ProfilePhotoStorage.deleteFile
  exact still_ask ⟨rfl, fun _ => rfl⟩

theorem still_deleteVariants (userId : UserId) (avatars : AvatarMap) :
    (ProfilePhotoStorage.deleteVariants userId avatars).Every ProfilesStill :=
  Process.every_forM _ fun _ => still_deleteFile

theorem still_dropPending (fileKey : String) :
    (ProfilePhotoStorage.dropPending fileKey).Every ProfilesStill := still_deleteFile

theorem still_discard (command : ProccessAvatarCommand) (avatars : AvatarMap)
    (error : ProfileError) : (command.discard avatars error).Every ProfilesStill :=
  Process.every_bind (still_deleteVariants _ _) fun _ =>
    Process.every_bind (still_dropPending _) fun _ => trivial

theorem still_loadValidated (fileKey : String) :
    (ProfilePhotoStorage.loadValidated profilesServices fileKey).Every ProfilesStill :=
  Process.every_bind (still_ask ⟨rfl, fun _ => rfl⟩) fun _ =>
    Process.every_bind (Process.every_lift _) fun _ =>
      Process.every_bind (still_ask ⟨rfl, fun _ => rfl⟩) fun _ =>
        Process.every_bind (Process.every_lift _) fun _ => trivial

theorem still_prepare (command : ProccessAvatarCommand) :
    (command.prepare profilesServices).Every ProfilesStill := by
  refine Process.every_bind (Process.every_lift _) fun _ => Process.every_bind still_begin fun _ => ?_
  refine Process.every_bind (still_observe ⟨rfl, fun _ => rfl⟩) fun _ =>
    Process.every_bind (Process.every_lift _) fun _ =>
      Process.every_bind (still_observe ⟨rfl, fun _ => rfl⟩) fun full => Process.every_ite ?_ ?_
  · exact Process.every_bind (still_dropPending _) fun _ => trivial
  · refine Process.every_bind (Process.every_rescue ?_ fun error => ?_) fun rendered => ?_
    · exact Process.every_bind (still_loadValidated _) fun _ => Process.every_lift _
    · exact Process.every_ite (Process.every_bind (still_dropPending _) fun _ => trivial) trivial
    · refine Process.every_bind (still_ask ⟨rfl, fun _ => rfl⟩) fun photoId => ?_
      refine Process.every_bind ?_ fun _ => trivial
      refine Process.every_bind (Process.every_forM _ fun _ => still_ask ⟨rfl, fun _ => rfl⟩) ?_
      exact fun _ => trivial

theorem still_flush {userId : UserId} :
    (Process.perform (.flush userId) id : Profiles.Handler Unit).Every ProfilesStill :=
  ⟨harmless_still ⟨rfl, fun _ => rfl⟩ (.inl rfl), fun _ => trivial⟩

theorem lawful_commit (log : List Profiles.Write) :
    ProfilesLawful (.commit log) fun world => (world.commit log).toOption.getD world where
  version world := by
    rw [Profiles.World.commit]
    cases world.db.writeAll log with
    | error error => rfl
    | ok db => rfl
  db world none := by
    change (world.commit log).isOk = false at none
    cases written : world.commit log with
    | error error => rfl
    | ok after =>
        rw [written] at none
        cases none

theorem announces_profilesCommit (log : List Profiles.Write) {next : Unit → Profiles.Handler Unit}
    (rest : (next ()).Every ProfilesStill) :
    ProfilesAnnouncing (Profiles.commit log >>= fun _ => Profiles.invalidateCache >>= next) :=
  Process.announces_commit (lawful_commit log) ⟨fun _ => rfl, fun _ _ => rfl⟩ (fun _ => rfl) rfl rfl
    (Process.announces_still rest)

theorem announces_profilesCommit_last (log : List Profiles.Write) :
    ProfilesAnnouncing (Profiles.commit log >>= fun _ => Profiles.invalidateCache) :=
  Process.announces_commit_last (lawful_commit log) ⟨fun _ => rfl, fun _ _ => rfl⟩ (fun _ => rfl) rfl
    rfl

theorem announces_profiles (command : Profiles.Command) :
    ProfilesAnnouncing (command.handle profilesServices) := by
  cases command with
  | proccessAvatar command =>
      refine Process.announces_next (still_prepare command) fun _ =>
        Process.announces_next (still_observe ⟨rfl, fun _ => rfl⟩) fun profile => ?_
      cases profile with
      | none => exact Process.announces_still (still_discard _ _ _)
      | some profile =>
          refine Process.announces_next (still_observe ⟨rfl, fun _ => rfl⟩) fun full =>
            Process.announces_ite (Process.announces_still (still_discard _ _ _)) ?_
          refine Process.announces_next (still_ask ⟨rfl, fun _ => rfl⟩) fun time =>
            Process.announces_next (still_publish _ _ _) fun event => ?_
          exact announces_profilesCommit _ (still_dropPending _)
  | deleteProfilePhoto command =>
      refine Process.announces_next still_begin fun time =>
        Process.announces_next (still_observe ⟨rfl, fun _ => rfl⟩) fun profile => ?_
      cases profile with
      | none => exact Process.announces_still trivial
      | some profile =>
          dsimp only
          split
          · exact Process.announces_still trivial
          refine Process.announces_next (still_observe ⟨rfl, fun _ => rfl⟩) fun photo => ?_
          split
          · exact Process.announces_still trivial
          · exact Process.announces_still trivial
          refine Process.announces_ite ?_ ?_
          · refine Process.announces_next (still_observe ⟨rfl, fun _ => rfl⟩) fun latest =>
              Process.announces_next (still_publish _ _ _) fun event => ?_
            exact announces_profilesCommit _ (still_deleteVariants _ _)
          · exact announces_profilesCommit _ (still_deleteVariants _ _)
  | setMainProfilePhoto command =>
      refine Process.announces_next still_begin fun time =>
        Process.announces_next (still_observe ⟨rfl, fun _ => rfl⟩) fun profile => ?_
      cases profile with
      | none => exact Process.announces_still trivial
      | some profile =>
          refine Process.announces_next (still_observe ⟨rfl, fun _ => rfl⟩) fun photo => ?_
          cases photo with
          | none => exact Process.announces_still trivial
          | some photo =>
              refine Process.announces_ite (Process.announces_still trivial) ?_
              refine Process.announces_next (still_ask ⟨rfl, fun _ => rfl⟩) fun time =>
                Process.announces_next (still_publish _ _ _) fun event => ?_
              exact announces_profilesCommit_last _
  | changeProfileUsername command =>
      refine Process.announces_next still_begin fun time =>
        Process.announces_next (still_observe ⟨rfl, fun _ => rfl⟩) fun profile => ?_
      cases profile with
      | none =>
          refine Process.announces_next (still_publish _ _ _) fun event =>
            Process.announces_next still_flush fun _ => ?_
          exact announces_profilesCommit_last _
      | some profile =>
          refine Process.announces_ite (Process.announces_still trivial) ?_
          refine Process.announces_next (still_publish _ _ _) fun event => ?_
          exact announces_profilesCommit_last _
  | updateProfile command =>
      refine Process.announces_next still_begin fun time =>
        Process.announces_next (still_observe ⟨rfl, fun _ => rfl⟩) fun looked =>
          Process.announces_next (Process.every_lift _) fun profile =>
            Process.announces_next (Process.every_lift _) fun _ =>
              Process.announces_next (Process.every_lift _) fun changed =>
                Process.announces_next (still_publish _ _ _) fun event => ?_
      refine Process.announces_ite ?_ (announces_profilesCommit_last _)
      exact Process.announces_next still_flush fun _ => announces_profilesCommit_last _

end Profiles

section Whole

variable {Answer : Type}

theorem profiles_onProfiles (world : World) (op : Profiles.Op)
    (effect : Profiles.World → Profiles.World) :
    (world.onProfiles op effect).profiles = effect world.profiles := by
  unfold World.onProfiles
  split
  · rfl
  · rfl

theorem lawful_onProfiles {op : Profiles.Op} {effect : Profiles.World → Profiles.World}
    (lawful : ProfilesLawful op effect) :
    Lawful (.profiles op) fun world => world.onProfiles op effect where
  version world := by
    have same : Op.announces (.profiles op) = opAnnounces op := by
      cases op with
      | invalidateCache => rfl
      | _ => rfl
    rw [World.version, profiles_onProfiles, lawful.version, same]
    rfl
  tables world none := by
    have db : (world.onProfiles op effect).profiles.db = world.profiles.db := by
      rw [profiles_onProfiles]
      refine lawful.db world.profiles ?_
      cases op with
      | commit log => exact none
      | _ => rfl
    have rest : (world.onProfiles op effect).dates = world.dates ∧
        (world.onProfiles op effect).links = world.links := by
      cases op with
      | commit log =>
          have failed : (world.profiles.commit log).isOk = false := none
          refine ⟨?_, rfl⟩
          simp only [World.onProfiles, failed, Bool.false_eq_true, if_false]
      | _ => exact ⟨rfl, rfl⟩
    rw [World.tables, db, rest.1, rest.2]
    rfl
  cached world := by
    cases op with
    | commit log => rfl
    | _ => rfl

theorem announces_onProfiles {owes : Bool} {process : Profiles.Handler Answer}
    (announcing : process.Announces ProfilesLawful opAnnounces opWrites owes) :
    (onProfiles process).Announces Lawful Op.announces Op.writes owes := by
  induction process generalizing owes with
  | done outcome => exact announcing
  | act op effect next ih =>
      refine ⟨lawful_onProfiles announcing.1, fun world => ?_⟩
      have rest := ih world.profiles (announcing.2 world.profiles)
      have loud : Op.announces (.profiles op) = opAnnounces op := by
        cases op with
        | invalidateCache => rfl
        | _ => rfl
      have wrote : Op.writes (.profiles op) world = opWrites op world.profiles := by
        cases op with
        | commit log => rfl
        | _ => rfl
      rw [loud, wrote]
      exact rest

theorem quietly_onProfiles {process : Profiles.Handler Answer}
    (still : process.Every ProfilesStill) : (onProfiles process).Every Quietly := by
  induction process with
  | done outcome => trivial
  | act op effect next ih =>
      refine ⟨⟨lawful_onProfiles still.1.1, fun world => ?_⟩, fun world => ih _ (still.2 _)⟩
      rw [← still.1.2 world.profiles]
      cases op with
      | commit log => rfl
      | _ => rfl

theorem quietly_book (process : Contacts.Handler Answer) :
    (process.embed bookPart).Every Quietly := by
  induction process with
  | done outcome => trivial
  | act op effect next ih =>
      exact ⟨⟨⟨fun _ => rfl, fun _ _ => rfl, fun _ => rfl⟩, fun _ => rfl⟩, fun world => ih _⟩

structure Looking (op : Op) (effect : World → World) : Prop where
  effect : effect = id
  silent : op.announces = false
  idle : ∀ world, op.writes world = false

theorem Looking.quietly {op : Op} {effect : World → World} (looking : Looking op effect) :
    Quietly op effect := by
  obtain ⟨rfl, silent, idle⟩ := looking
  refine ⟨⟨fun world => ?_, fun _ _ => rfl, fun _ => rfl⟩, idle⟩
  rw [silent]
  rfl

theorem looking_observe {op : Op} {read : World → Answer} (silent : op.announces = false)
    (idle : ∀ world, op.writes world = false) :
    (Process.observe op read : Handler Answer).Every Looking :=
  Process.every_observe ⟨rfl, silent, idle⟩

theorem looking_loadLinks (profiles : List Profile) :
    (ProfileRepository.loadLinks profiles).Every Looking :=
  Process.every_ite trivial (looking_observe rfl fun _ => rfl)

theorem looking_getById (profileId : UserId) :
    (ProfileRepository.getById profileId).Every Looking :=
  Process.every_bind (looking_observe rfl fun _ => rfl) fun _ =>
    Process.every_bind (looking_loadLinks _) fun _ => trivial

theorem quietly_getById (profileId : UserId) :
    (ProfileRepository.getById profileId).Every Quietly :=
  (looking_getById profileId).mono fun _ _ looking => looking.quietly

theorem lawful_invalidateCache : Lawful .invalidateCache World.invalidateCache :=
  ⟨fun _ => rfl, fun _ _ => rfl, fun _ => rfl⟩

theorem announces_invalidateCache (owes : Bool) :
    invalidateCache.Announces Lawful Op.announces Op.writes owes :=
  ⟨lawful_invalidateCache, fun _ => rfl⟩

theorem announces_commit (log : List Profiles.Write) :
    Announcing (onProfiles (Profiles.commit log) >>= fun _ => invalidateCache) := by
  refine ⟨lawful_onProfiles (lawful_commit log), fun world => ?_⟩
  change Process.Announces _ _ _ (!false && (false || (world.profiles.commit log).isOk))
    (onProfiles (.done ((world.profiles.commit log).map fun _ => ())) >>= fun _ => invalidateCache)
  cases world.profiles.commit log with
  | error error => rfl
  | ok after => exact announces_invalidateCache true

theorem commitLinks_frame {world after : World} {write : LinkWrite}
    (done : world.commitLinks write = .ok after) :
    after.version = world.version ∧ after.cached = world.cached := by
  cases write with
  | insert profileId provider contact =>
      simp only [World.commitLinks] at done
      split at done
      · cases done
      · cases done
        exact ⟨rfl, rfl⟩
  | update id contact =>
      simp only [World.commitLinks] at done
      split at done
      · cases done
      · cases done
        exact ⟨rfl, rfl⟩
  | delete ids =>
      cases done
      exact ⟨rfl, rfl⟩

theorem announces_links (write : LinkWrite) :
    Announcing (commitLinks write >>= fun _ => invalidateCache) := by
  have lawful : Lawful (.commitLinks write) fun world =>
      (world.commitLinks write).toOption.getD world := by
    refine ⟨fun world => ?_, fun world none => ?_, fun world => ?_⟩
    · cases done : world.commitLinks write with
      | error error => rfl
      | ok after => exact (commitLinks_frame done).1
    · have failed : (world.commitLinks write).isOk = false := none
      cases done : world.commitLinks write with
      | error error => rfl
      | ok after =>
          rw [done] at failed
          cases failed
    · cases done : world.commitLinks write with
      | error error => rfl
      | ok after => exact (commitLinks_frame done).2
  exact Process.announces_commit_last lawful lawful_invalidateCache (fun _ => rfl) rfl rfl

theorem announces_handle (command : Command) : Announcing (command.handle services) := by
  cases command with
  | createProfile command =>
      refine Process.announces_next (quietly_onProfiles still_begin) fun time =>
        Process.announces_next (quietly_getById _) fun existing =>
          Process.announces_ite (Process.announces_still trivial) ?_
      refine Process.announces_next (Process.every_lift _) fun profile =>
        Process.announces_next (quietly_onProfiles (still_publish _ _ _)) fun event =>
          announces_commit _
  | addLink command =>
      refine Process.announces_next (quietly_getById _) fun loaded =>
        Process.announces_next (Process.every_lift _) fun found =>
          Process.announces_next (Process.every_lift _) fun _ => announces_links _
  | removeLink command =>
      refine Process.announces_next (quietly_getById _) fun loaded =>
        Process.announces_next (Process.every_lift _) fun found =>
          Process.announces_next (Process.every_lift _) fun _ => announces_links _
  | updateProfileAvatar command =>
      refine Process.announces_next ?_ fun _ => announces_invalidateCache false
      exact ⟨⟨⟨fun _ => rfl, fun _ _ => rfl, fun _ => rfl⟩, fun _ => rfl⟩, fun _ => trivial⟩
  | profiles command => exact announces_onProfiles (announces_profiles command)
  | blockUser command => exact Process.announces_still (quietly_book _)
  | unblockUser command => exact Process.announces_still (quietly_book _)

end Whole

end Messanger.ProfileCache
