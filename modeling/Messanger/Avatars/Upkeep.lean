import Messanger.Avatars.Objects

/-!
What every action of the handlers keeps: the rows were changed by the holders of their locks, the
files are in one hand each, no two avatars share a file, and a slot is popped once.
-/

namespace Messanger.Avatars

open Relational Processes Profiles

variable {services : Services}

def Bucket.shown : Bucket → Bool
  | .chatAvatar | .avatar => true
  | .chatAvatarPending | .pendingAvatar => false

namespace World

def stored (world : World) : List Object := world.storage.filter fun object => object.1.shown

def view : Row → World → Option Chat ⊕ Gallery
  | .chat chatId, world => .inl (world.chats.find? chatId)
  | .profile userId, world => .inr (world.profiles.db.gallery userId)

end World

def takes (services : Services) : Op → World → World → List Object
  | .photoId userId, before, _ => photoObjects userId (services.uuid7 before.turn)
  | .popSlot token, before, after =>
      match before.slot? token with
      | some slot => if (after.slot? token).isSome then [] else slotObjects slot.chatId token
      | none => []
  | _, _, _ => []

def custody (services : Services) : Custody World Op Object where
  takes := takes services
  named := World.named services
  stored := World.stored

structure Sound (services : Services) (world : World) : Prop where
  chats : ∀ chat ∈ world.chats.rows, ∀ other ∈ world.chats.rows,
    ∀ object ∈ chatObjects services chat.avatars, object ∈ chatObjects services other.avatars →
      chat.key = other.key
  photos : ∀ photo ∈ world.profiles.db.photos.rows, ∀ other ∈ world.profiles.db.photos.rows,
    ∀ object ∈ profileObjects photo.avatars, object ∈ profileObjects other.avatars →
      photo.id = other.id
  profiles : ∀ profile ∈ world.profiles.db.profiles.rows, profile.avatars = [] ∨
    ∃ photo ∈ world.profiles.db.photos.rows, photo.userId = profile.id ∧
      profile.photoId = some photo.id ∧ profile.avatars = photo.avatars

structure Popped (token : Token) (entry : AvatarEntry) : Prop where
  label : entry.label = .popSlot token
  present : (entry.before.slot? token).isSome
  gone : entry.after.slot? token = none

/-- A task for the slot of the token changes the avatar of a chat. -/
structure Changes (token : Token) (entry : AvatarEntry) : Prop where
  tag : ∃ command, entry.tag = .processChatAvatar command ∧
    Python.uuid? command.uploadToken = some token
  change : ∃ chatId, (entry.after.chats.find? chatId).map Chat.avatars ≠
    (entry.before.chats.find? chatId).map Chat.avatars

def Spent (services : Services) (history : List AvatarEntry) (object : Object) : Prop :=
  (∃ entry ∈ history, ∃ userId, entry.label = .photoId userId ∧
    object ∈ photoObjects userId (services.uuid7 entry.before.turn)) ∨
  ∃ entry ∈ history, ∃ chatId token, Popped token entry ∧ token < 2 ^ 128 ∧
    object ∈ slotObjects chatId token

structure Standing (services : Services) (scene : AvatarScene) : Prop where
  rows : rowLocks.Lawful World.view scene
  files : (custody services).Lawful scene
  sound : Sound services scene.world
  spent : ∀ object, (object ∈ scene.world.named services ∨
    (custody services).hand scene.history object ≠ none) → Spent services scene.history object
  slots : ∀ slot ∈ scene.world.slots, slot.uploadToken < 2 ^ 128 ∧
    ∃ entry ∈ scene.history, entry.label.savedToken = some slot.uploadToken
  popped : ∀ entry ∈ scene.history, ∀ token, Popped token entry →
    scene.world.slot? token = none ∧
      ∃ saved ∈ scene.history, saved.label.savedToken = some token
  poppedOnce : Scene.Earlier (fun before entry => ∀ token, Popped token entry →
    ∀ other ∈ before, ¬Popped token other) scene.history
  changed : ∀ entry ∈ scene.history, ∀ token, Changes token entry →
    ∃ pop ∈ scene.own entry.index, Popped token pop
  changedOnce : Scene.Earlier (fun before entry => ∀ token, Changes token entry →
    ∀ other ∈ before, ¬Changes token other) scene.history

inductive SlotStep : Op → World → World → Prop
  | same {op : Op} {before after : World} (slots : after.slots = before.slots) :
      SlotStep op before after
  | saved {slot : ChatAvatarUploadSlot} {before after : World}
      (bounded : slot.uploadToken < 2 ^ 128)
      (slots : after.slots = (before.saveSlot slot).slots) : SlotStep (.saveSlot slot) before after
  | dropped {token : Token} {before after : World}
      (slots : after.slots = (before.dropSlot token).slots) : SlotStep (.popSlot token) before after

structure Deed (services : Services) (now : AvatarScene) (index : Nat) (command : Command) (op : Op)
    (after : World) : Prop where
  guarded : ∀ row, after.view row ≠ now.world.view row → row ∈ rowLocks.held now.history index
  permits : (custody services).Permits now.history index op now.world after
  sound : Sound services after
  slots : SlotStep op now.world after
  changes : ∀ outcome token, Changes token ⟨index, command, op, now.world, after, outcome⟩ →
    (∃ pop ∈ now.own index, Popped token pop) ∧ ∀ other ∈ now.history, ¬Changes token other

section Slots

variable {op : Op} {before after : World} {token : Token}

theorem slot?_none : before.slot? token = none ↔
    ∀ slot ∈ before.slots, slot.uploadToken ≠ token := by
  simp [World.slot?]

theorem mem_saveSlot {slot other : ChatAvatarUploadSlot}
    (member : other ∈ (before.saveSlot slot).slots) : other = slot ∨ other ∈ before.slots := by
  rcases List.mem_cons.mp member with same | kept
  · exact .inl same
  · exact .inr (List.mem_filter.mp kept).1

theorem SlotStep.gone (step : SlotStep op before after) (absent : before.slot? token = none)
    (unsaved : ∀ slot, op = .saveSlot slot → slot.uploadToken ≠ token) :
    after.slot? token = none := by
  rw [slot?_none] at absent ⊢
  intro slot member
  cases step with
  | same slots =>
      rw [slots] at member
      exact absent slot member
  | saved _ slots =>
      rw [slots] at member
      rcases mem_saveSlot member with rfl | kept
      · exact unsaved _ rfl
      · exact absent slot kept
  | dropped slots =>
      rw [slots] at member
      exact absent slot (List.mem_filter.mp member).1

end Slots

section After

variable {now : AvatarScene} {index : Nat} {command : Command} {op : Op} {effect : World → World}
  {outcome : Option (Except AvatarError Unit)} {object : Object}

theorem Spent.append {history more : List AvatarEntry} (spent : Spent services history object) :
    Spent services (history ++ more) object := by
  rcases spent with ⟨entry, member, found⟩ | ⟨entry, member, found⟩
  · exact .inl ⟨entry, List.mem_append_left _ member, found⟩
  · exact .inr ⟨entry, List.mem_append_left _ member, found⟩

theorem popped_of_takes {token : Token} {before after : World}
    (taken : object ∈ takes services (.popSlot token) before after) :
    ∃ slot, before.slot? token = some slot ∧ after.slot? token = none ∧
      object ∈ slotObjects slot.chatId token := by
  simp only [takes] at taken
  split at taken
  · rename_i slot found
    split at taken
    · cases taken
    · rename_i gone
      exact ⟨slot, found, by simpa using gone, taken⟩
  · cases taken

theorem spent_of_takes {history : List AvatarEntry} {entry : AvatarEntry}
    (member : entry ∈ history)
    (bounded : ∀ slot ∈ entry.before.slots, slot.uploadToken < 2 ^ 128)
    (taken : object ∈ takes services entry.label entry.before entry.after) :
    Spent services history object := by
  cases label : entry.label with
  | photoId userId =>
      rw [label] at taken
      exact .inl ⟨entry, member, userId, label, taken⟩
  | popSlot token =>
      rw [label] at taken
      obtain ⟨slot, found, gone, inside⟩ := popped_of_takes taken
      have listed := List.mem_of_find?_eq_some found
      have same : slot.uploadToken = token := by simpa using List.find?_some found
      refine .inr ⟨entry, member, slot.chatId, token, ⟨label, ?_, gone⟩, ?_, inside⟩
      · rw [found]
        rfl
      · exact same ▸ bounded slot listed
  | _ =>
      rw [label] at taken
      cases taken

theorem fresh_photo (uuids : ∀ turn, services.uuid7 turn < 2 ^ 128)
    {userId : UserId} (unused : Unused services now (.photoId userId))
    (mine : object ∈ photoObjects userId (services.uuid7 now.world.turn)) :
    ¬Spent services now.history object := by
  rintro (⟨entry, member, other, label, theirs⟩ | ⟨entry, _, chatId, token, _, _, theirs⟩)
  · refine unused entry member ?_
    rw [photoObjects_apart (uuids _) (uuids _) mine theirs, drawnPhoto, label]
  · obtain ⟨_, _, rfl⟩ := List.mem_map.mp mine
    obtain ⟨_, _, same⟩ := List.mem_map.mp theirs
    cases congrArg Prod.fst same

theorem fresh_slot (standing : Standing services now) {slot : ChatAvatarUploadSlot} {token : Token}
    (found : now.world.slot? token = some slot) (mine : object ∈ slotObjects slot.chatId token) :
    ¬Spent services now.history object := by
  have listed := List.mem_of_find?_eq_some found
  have same : slot.uploadToken = token := by simpa using List.find?_some found
  have bounded : token < 2 ^ 128 := same ▸ (standing.slots slot listed).1
  rintro (⟨entry, _, userId, _, theirs⟩ | ⟨entry, member, chatId, other, popped, range, theirs⟩)
  · obtain ⟨_, _, rfl⟩ := List.mem_map.mp mine
    obtain ⟨_, _, same⟩ := List.mem_map.mp theirs
    cases congrArg Prod.fst same
  · rw [← slotObjects_apart bounded range mine theirs] at popped
    rw [(standing.popped entry member token popped).1] at found
    cases found

theorem Standing.opening (standing : Standing services now) :
    Standing services (now.opening command) where
  rows := standing.rows.opening
  files := standing.files.opening
  sound := standing.sound
  spent := standing.spent
  slots := standing.slots
  popped := standing.popped
  poppedOnce := standing.poppedOnce
  changed entry member token changes := by
    obtain ⟨pop, own, popped⟩ := standing.changed entry member token changes
    exact ⟨pop, own, popped⟩
  changedOnce := standing.changedOnce

theorem Standing.after (standing : Standing services now)
    (acts : (terms services).Acts now index command op effect)
    (deed : Deed services now index command op (effect now.world)) :
    Standing services (now.after index command op effect outcome) := by
  have grown : ∀ entry ∈ now.history, entry ∈ (now.after index command op effect outcome).history :=
    fun entry member => List.mem_append_left _ member
  have bounded : ∀ slot ∈ now.world.slots, slot.uploadToken < 2 ^ 128 :=
    fun slot member => (standing.slots slot member).1
  have last : ∀ {Holds : AvatarEntry → Prop},
      (∀ entry ∈ now.history, Holds entry) →
        Holds ⟨index, command, op, now.world, effect now.world, outcome⟩ →
          ∀ entry ∈ (now.after index command op effect outcome).history, Holds entry := by
    intro Holds before here entry member
    rcases List.mem_append.mp member with old | new
    · exact before entry old
    · rw [List.mem_singleton.mp new]
      exact here
  refine ⟨standing.rows.after acts.1 deed.guarded, standing.files.after deed.permits, deed.sound,
    ?_, ?_, ?_, ?_, ?_, ?_⟩
  · have handed : ∀ object, (custody services).hand now.history object ≠ none →
        Spent services now.history object := fun object held => standing.spent object (.inr held)
    have named : ∀ object, object ∈ (effect now.world).named services →
        Spent services now.history object := by
      intro object member
      by_cases old : object ∈ now.world.named services
      · exact standing.spent object (.inl old)
      · refine handed object ?_
        rw [(deed.permits.names object member old).1]
        exact Option.some_ne_none index
    rintro object (member | held)
    · exact (named object member).append
    · rw [Scene.after, Custody.hand_concat, Custody.hold] at held
      split at held
      · rename_i taken
        rcases taken with taken | ⟨before, _⟩
        · exact spent_of_takes (List.mem_append_right _ List.mem_cons_self) bounded taken
        · exact (standing.spent object (.inl before)).append
      · exact (handed object held).append
  · intro slot member
    have old : slot ∈ now.world.slots → slot.uploadToken < 2 ^ 128 ∧
        ∃ entry ∈ (now.after index command op effect outcome).history,
          entry.label.savedToken = some slot.uploadToken := by
      intro listed
      obtain ⟨range, entry, inside, saved⟩ := standing.slots slot listed
      exact ⟨range, entry, grown entry inside, saved⟩
    change slot ∈ (effect now.world).slots at member
    have steps := deed.slots
    generalize effectWorld : effect now.world = after at steps member
    cases steps with
    | same slots => exact old (slots ▸ member)
    | @saved saved _ _ range slots =>
        rw [slots] at member
        rcases mem_saveSlot member with rfl | kept
        · exact ⟨range, _, List.mem_append_right _ List.mem_cons_self, rfl⟩
        · exact old kept
    | dropped slots =>
        rw [slots] at member
        exact old (List.mem_filter.mp member).1
  · have gone : ∀ entry ∈ now.history, ∀ token, Popped token entry →
        (effect now.world).slot? token = none := by
      intro entry member token popped
      obtain ⟨absent, saved, inside, savedSlot⟩ := standing.popped entry member token popped
      refine deed.slots.gone absent fun slot same again => ?_
      have unused := acts.2
      rw [same] at unused
      exact unused saved inside (again ▸ savedSlot)
    refine last (fun entry member token popped => ?_) fun token popped => ?_
    · obtain ⟨_, saved, inside, savedSlot⟩ := standing.popped entry member token popped
      exact ⟨gone entry member token popped, saved, grown saved inside, savedSlot⟩
    · refine ⟨popped.gone, ?_⟩
      obtain ⟨slot, found⟩ := Option.isSome_iff_exists.mp popped.present
      have same : slot.uploadToken = token := by simpa using List.find?_some found
      obtain ⟨_, saved, inside, savedSlot⟩ :=
        standing.slots slot (List.mem_of_find?_eq_some found)
      exact ⟨saved, grown saved inside, same ▸ savedSlot⟩
  · refine Scene.earlier_concat standing.poppedOnce fun token popped other member again => ?_
    have present := popped.present
    rw [(standing.popped other member token again).1] at present
    cases present
  · refine last (fun entry member token changes => ?_) fun token changes => ?_
    · obtain ⟨pop, own, popped⟩ := standing.changed entry member token changes
      refine ⟨pop, ?_, popped⟩
      rw [Scene.mem_own] at own ⊢
      exact ⟨grown pop own.1, own.2⟩
    · obtain ⟨⟨pop, own, popped⟩, _⟩ := deed.changes outcome token changes
      refine ⟨pop, ?_, popped⟩
      rw [Scene.mem_own] at own ⊢
      exact ⟨grown pop own.1, own.2⟩
  · exact Scene.earlier_concat standing.changedOnce fun token changes =>
      (deed.changes outcome token changes).2

end After

section Deeds

structure Same (before after : World) : Prop where
  db : after.profiles.db = before.profiles.db
  chats : after.chats = before.chats

variable {now : AvatarScene} {index : Nat} {command : Command} {op : Op}
  {before middle after world : World}

theorem Same.refl (world : World) : Same world world := ⟨rfl, rfl⟩

theorem same_tick (world : World) : Same world world.tick := ⟨rfl, rfl⟩

theorem Same.tick (same : Same before after) : Same before after.tick :=
  ⟨same.db, same.chats⟩

theorem Same.named_eq (same : Same before after) : after.named services = before.named services := by
  rw [World.named, World.named, same.db, same.chats]

theorem Same.view_eq (same : Same before after) (row : Row) : after.view row = before.view row := by
  cases row with
  | chat chatId => rw [World.view, World.view, same.chats]
  | profile userId => rw [World.view, World.view, same.db]

theorem Sound.congr (sound : Sound services before) (same : Same before after) :
    Sound services after := by
  refine ⟨?_, ?_, ?_⟩
  · rw [same.chats]
    exact sound.chats
  · rw [same.db]
    exact sound.photos
  · rw [same.db]
    exact sound.profiles

theorem deed_same (standing : Standing services now) (same : Same now.world after)
    (slots : SlotStep op now.world after)
    (taken : ∀ object ∈ takes services op now.world after, ¬Spent services now.history object)
    (drops : ∀ object ∈ now.world.stored, object ∉ after.stored →
      (custody services).Mine index object now) :
    Deed services now index command op after where
  guarded row moved := absurd (same.view_eq row) moved
  permits := by
    refine ⟨fun object member => ?_, fun object member new => ?_, fun object member gone => ?_⟩
    · have fresh := taken object member
      refine ⟨?_, fun named => fresh (standing.spent object (.inl named))⟩
      by_contra held
      exact fresh (standing.spent object (.inr held))
    · change object ∈ after.named services at member
      rw [same.named_eq] at member
      exact absurd member new
    · have mine := drops object member gone
      exact ⟨mine.hand, mine.unnamed⟩
  sound := standing.sound.congr same
  slots := slots
  changes outcome token changes := by
    obtain ⟨chatId, change⟩ := changes.change
    rw [same.chats] at change
    exact absurd rfl change

def Op.plain : Op → Bool
  | .photoId _ | .popSlot _ => false
  | _ => true

theorem takes_plain (plain : op.plain = true) : takes services op before after = [] := by
  cases op with
  | photoId userId => cases plain
  | popSlot token => cases plain
  | _ => rfl

theorem deed_plain (standing : Standing services now) (same : Same now.world after)
    (slots : SlotStep op now.world after) (plain : op.plain = true)
    (drops : ∀ object ∈ now.world.stored, object ∉ after.stored →
      (custody services).Mine index object now) :
    Deed services now index command op after := by
  refine deed_same standing same slots (fun object member => ?_) drops
  rw [takes_plain plain] at member
  cases member

end Deeds

section Rules

abbrev frail (services : Services) {Answer : Type} (process : Handler Answer) : Handler Answer :=
  process.frail (fun world => services.falters world.turn) World.tick

abbrev faltering (services : Services) (effect : World → World) : World → World :=
  falter (fun world => services.falters world.turn) World.tick effect

theorem faltering_cases (services : Services) (effect : World → World) (world : World) :
    faltering services effect world = world.tick ∨
      (services.falters world.turn = none ∧
        faltering services effect world = (effect world).tick) :=
  falter_cases _ _ effect world

structure Safe (services : Services) (index : Nat) (command : Command) (process : Handler Unit)
    (scene : AvatarScene) : Prop where
  keeps : Keeps (terms services) (Standing services) index command (frail services process) scene

structure Calm (op : Op) (effect : World → World) : Prop where
  plain : op.plain = true
  stays : rowLocks.releases op = false
  same : ∀ world, Same world (effect world)
  slots : ∀ world, (effect world).slots = world.slots
  stored : ∀ world, ∀ object ∈ world.stored, object ∈ (effect world).stored

structure Closing (objects : List Object) (op : Op) (effect : World → World) : Prop where
  plain : op.plain = true
  same : ∀ world, Same world (effect world)
  slots : ∀ world, (effect world).slots = world.slots
  drops : ∀ world, ∀ object ∈ world.stored, object ∉ (effect world).stored → object ∈ objects

variable {scene : AvatarScene} {index : Nat} {command : Command} {op : Op} {effect : World → World}
  {objects : List Object} {Local : AvatarScene → Prop}

theorem Calm.faltering (calm : Calm op effect) : Calm op (faltering services effect) := by
  refine ⟨calm.plain, calm.stays, fun world => ?_, fun world => ?_, fun world object member => ?_⟩
  · rcases faltering_cases services effect world with ended | ⟨_, done⟩
    · rw [ended]
      exact same_tick world
    · rw [done]
      exact (calm.same world).tick
  · rcases faltering_cases services effect world with ended | ⟨_, done⟩
    · rw [ended]
      rfl
    · rw [done]
      exact calm.slots world
  · rcases faltering_cases services effect world with ended | ⟨_, done⟩
    · rw [ended]
      exact member
    · rw [done]
      exact calm.stored world object member

theorem Closing.faltering (closing : Closing objects op effect) :
    Closing objects op (faltering services effect) := by
  refine ⟨closing.plain, fun world => ?_, fun world => ?_, fun world object member gone => ?_⟩
  · rcases faltering_cases services effect world with ended | ⟨_, done⟩
    · rw [ended]
      exact same_tick world
    · rw [done]
      exact (closing.same world).tick
  · rcases faltering_cases services effect world with ended | ⟨_, done⟩
    · rw [ended]
      rfl
    · rw [done]
      exact closing.slots world
  · rcases faltering_cases services effect world with ended | ⟨_, done⟩
    · rw [ended] at gone
      exact absurd member gone
    · rw [done] at gone
      exact closing.drops world object member gone

theorem Calm.closing (calm : Calm op effect) : Closing objects op effect :=
  ⟨calm.plain, calm.same, calm.slots, fun world object member gone =>
    absurd (calm.stored world object member) gone⟩

theorem Calm.deed {now : AvatarScene} (calm : Calm op effect) (standing : Standing services now) :
    Deed services now index command op (effect now.world) :=
  deed_plain standing (calm.same now.world) (.same (calm.slots now.world)) calm.plain
    fun object member gone => absurd (calm.stored now.world object member) gone

theorem safe_done (outcome : Except AvatarError Unit) :
    Safe services index command (.done outcome) scene := ⟨trivial⟩

theorem safe_act {next : World → Handler Unit}
    (step : ∀ now, scene.Meanwhile index now → Standing services now →
      (terms services).Acts now index command op (faltering services effect) →
        Deed services now index command op (faltering services effect now.world) ∧
          (services.falters now.world.turn = none → (next now.world).outcome? = none →
            Safe services index command (next now.world)
              (now.after index command op (faltering services effect) none))) :
    Safe services index command (.act op effect next) scene := by
  refine ⟨keeps_frail fun now meanwhile tagged running standing acts => ?_⟩
  obtain ⟨deed, rest⟩ := step now meanwhile standing acts
  refine ⟨fun outcome => standing.after acts deed, fun went left => (rest went ?_).keeps⟩
  cases shape : next now.world with
  | done outcome =>
      rw [shape] at left
      cases left
  | act op effect next => rfl

theorem faltering_none {world : World} (went : services.falters world.turn = none) :
    faltering services effect world = (effect world).tick := by
  rw [faltering, falter, went]
  rfl

theorem safe_plain {next : World → Handler Unit} (plain : op.plain = true)
    (step : ∀ now, scene.Meanwhile index now → Standing services now →
      faltering services effect now.world = (effect now.world).tick →
        Deed services now index command op (effect now.world).tick ∧
          ((next now.world).outcome? = none → Safe services index command (next now.world)
            (now.after index command op (faltering services effect) none))) :
    Safe services index command (.act op effect next) scene := by
  refine safe_act fun now meanwhile standing acts => ?_
  cases went : services.falters now.world.turn with
  | some error =>
      have ended : faltering services effect now.world = now.world.tick := by
        rw [faltering, falter, went]
        rfl
      refine ⟨?_, by rintro ⟨⟩⟩
      rw [ended]
      exact deed_plain standing (same_tick now.world) (.same rfl) plain fun object there gone =>
        absurd there gone
  | none =>
      have done : faltering services effect now.world = (effect now.world).tick :=
        faltering_none went
      obtain ⟨deed, rest⟩ := step now meanwhile standing done
      refine ⟨?_, fun _ => rest⟩
      rw [done]
      exact deed

theorem safe_closing {process : Handler Unit}
    (along : process.Along (Closing objects) fun _ => True)
    (mine : ∀ object ∈ objects, (custody services).Mine index object scene) :
    Safe services index command process scene := by
  induction process generalizing scene with
  | done outcome => exact safe_done outcome
  | act op effect next ih =>
      refine safe_act fun now meanwhile standing acts => ?_
      have closing : Closing objects op (faltering services effect) := along.1.faltering
      have here : ∀ object ∈ objects, (custody services).Mine index object now :=
        fun object member => ((mine object member).later standing.files meanwhile).1
      refine ⟨deed_plain standing (closing.same now.world) (.same (closing.slots now.world))
        closing.plain fun object member gone => here object (closing.drops now.world object member gone), ?_⟩
      intro _ _
      refine ih now.world (along.2 now.world) fun object member => ?_
      refine (here object member).after ?_
      change object ∉ World.named services _
      rw [(closing.same now.world).named_eq]
      exact (here object member).unnamed

structure Lasting (services : Services) (index : Nat) (command : Command)
    (Local : AvatarScene → Prop) : Prop where
  later : ∀ scene now, Local scene → scene.Meanwhile index now → Standing services now → Local now
  after : ∀ now op effect, Local now → Calm op effect →
    Local (now.after index command op effect none)

theorem safe_part {Answer : Type} {Post : Answer → Prop} {part : Handler Answer}
    {next : Answer → Handler Unit} (lasting : Lasting services index command Local)
    (along : part.Along Calm Post)
    (rest : ∀ answer scene, Post answer → Local scene →
      Safe services index command (next answer) scene) (known : Local scene) :
    Safe services index command (part >>= next) scene := by
  refine ⟨?_⟩
  rw [frail, Process.frail_bind]
  refine keeps_while lasting.later ?_ (Process.along_frail along)
    (fun answer scene post here => (rest answer scene post here).keeps) known
  rintro now op _ outcome here tagged running standing acts ⟨effect, calm, rfl⟩
  have calms : Calm op (faltering services effect) := calm.faltering
  refine ⟨standing.after acts (calms.deed standing), ?_⟩
  rintro rfl
  exact lasting.after now op _ here calms

theorem safe_step {next : World → Handler Unit} (lasting : Lasting services index command Local)
    (calm : Calm op effect)
    (rest : ∀ now, Local now → Standing services now → ∀ scene, Local scene →
      Safe services index command (next now.world) scene) (known : Local scene) :
    Safe services index command (.act op effect next) scene := by
  refine safe_act fun now meanwhile standing acts => ?_
  have here := lasting.later scene now known meanwhile standing
  have calms : Calm op (faltering services effect) := calm.faltering
  exact ⟨calms.deed standing, fun _ _ => rest now here standing _ (lasting.after now op _ here calms)⟩

theorem safe_attempt {attempted : World → Except AvatarError World} {next : Unit → Handler Unit}
    (lasting : Lasting services index command Local)
    (calm : Calm op fun world => (attempted world).toOption.getD world)
    (rest : ∀ (now : AvatarScene) stored, attempted now.world = .ok stored →
      services.falters now.world.turn = none →
      Local (now.after index command op
        (faltering services fun world => (attempted world).toOption.getD world) none) →
      Safe services index command (next ()) (now.after index command op
        (faltering services fun world => (attempted world).toOption.getD world) none))
    (known : Local scene) :
    Safe services index command (Process.attempt op attempted >>= next) scene := by
  rw [Process.attempt_bind]
  refine safe_act fun now meanwhile standing acts => ?_
  have here := lasting.later scene now known meanwhile standing
  refine ⟨calm.faltering.deed standing, fun went left => ?_⟩
  cases ran : attempted now.world with
  | error error =>
      rw [ran] at left
      cases left
  | ok stored => exact rest now stored ran went (lasting.after now op _ here calm.faltering)

end Rules

section Knowledge

variable {now : AvatarScene} {index : Nat} {command : Command} {Local : AvatarScene → Prop}

theorem Lasting.and {Other : AvatarScene → Prop} (first : Lasting services index command Local)
    (second : Lasting services index command Other) :
    Lasting services index command fun scene => Local scene ∧ Other scene where
  later scene now both meanwhile standing :=
    ⟨first.later scene now both.1 meanwhile standing, second.later scene now both.2 meanwhile standing⟩
  after now op effect both calm :=
    ⟨first.after now op effect both.1 calm, second.after now op effect both.2 calm⟩

theorem lasting_nothing : Lasting services index command fun _ => True :=
  ⟨fun _ _ _ _ _ => trivial, fun _ _ _ _ _ => trivial⟩

theorem lasting_holding {row : Row} {seen : Option Chat ⊕ Gallery} :
    Lasting services index command (rowLocks.Holding World.view index row seen) where
  later _ _ holding meanwhile standing := holding.later standing.rows meanwhile
  after now op effect holding calm := by
    have goes : rowLocks.Holding World.view index row ((effect now.world).view row)
      (now.after index command op effect none) := holding.after calm.stays
    rw [(calm.same now.world).view_eq, holding.view] at goes
    exact goes

theorem lasting_recorded (entry : AvatarEntry) :
    Lasting services index command fun scene => entry ∈ scene.own index where
  later _ _ recorded meanwhile _ := by
    rw [meanwhile.own_eq]
    exact recorded
  after _ _ _ recorded _ := by
    rw [Scene.own_after]
    exact List.mem_append_left _ recorded

/-- The task has changed no chat yet. -/
def Untouched (index : Nat) (scene : AvatarScene) : Prop :=
  ∀ entry ∈ scene.own index, entry.after.chats = entry.before.chats

theorem Untouched.after (untouched : Untouched index now) {op : Op} {effect : World → World}
    (same : (effect now.world).chats = now.world.chats) :
    Untouched index (now.after index command op effect none) := by
  intro entry member
  rw [Scene.own_after] at member
  rcases List.mem_append.mp member with old | new
  · exact untouched entry old
  · rw [List.mem_singleton.mp new]
    exact same

theorem lasting_untouched : Lasting services index command (Untouched index) where
  later _ _ untouched meanwhile _ := by
    rw [Untouched, meanwhile.own_eq]
    exact untouched
  after now op effect untouched calm := untouched.after (calm.same now.world).chats

def InHand (services : Services) (index : Nat) (objects : List Object) (scene : AvatarScene) : Prop :=
  ∀ object ∈ objects, (custody services).Mine index object scene

theorem lasting_inHand {objects : List Object} :
    Lasting services index command (InHand services index objects) where
  later _ _ inHand meanwhile standing object member :=
    ((inHand object member).later standing.files meanwhile).1
  after now op effect inHand calm object member := by
    refine (inHand object member).after ?_
    change object ∉ World.named services _
    rw [(calm.same now.world).named_eq]
    exact (inHand object member).unnamed

def Uploaded (services : Services) (index : Nat) (objects : List Object) (scene : AvatarScene) :
    Prop :=
  ∀ object ∈ objects, (custody services).Mine index object scene ∧ object ∈ scene.world.stored

theorem lasting_uploaded {objects : List Object} :
    Lasting services index command (Uploaded services index objects) where
  later _ _ uploaded meanwhile standing object member := by
    obtain ⟨mine, stored⟩ := uploaded object member
    obtain ⟨still, there⟩ := mine.later standing.files meanwhile
    exact ⟨still, there stored⟩
  after now op effect uploaded calm object member := by
    obtain ⟨mine, stored⟩ := uploaded object member
    refine ⟨mine.after ?_, calm.stored now.world object stored⟩
    change object ∉ World.named services _
    rw [(calm.same now.world).named_eq]
    exact mine.unnamed

end Knowledge

end Messanger.Avatars
