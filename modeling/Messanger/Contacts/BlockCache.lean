import Mathlib.Data.List.Infix
import Messanger.Contacts.BlockLists

/-!
The block list that a reader gets.  As long as no reader stores rows that were loaded before a
change whose deletion of the key is already done, whoever calls after the changes have returned
gets the rows, and nobody adds a contact that is blocked.
-/

namespace Messanger.Contacts

open Relational Processes

variable {services : Services} {ownerId : UserId}

abbrev BookEntry := Entry World Op Command ContactError ContactAnswer

def Command.changesBlocks (ownerId : UserId) : Command → Bool
  | .blockUser command => command.ownerId == ownerId
  | .unblockUser command => command.ownerId == ownerId
  | _ => false

def Command.addsFor (ownerId : UserId) : Command → Bool
  | .addContact command => command.ownerId == ownerId
  | .importContacts command => command.ownerId == ownerId
  | _ => false

def Db.Blocks (db : Db) (ownerId targetId : UserId) : Prop :=
  (db.blocked.find? (ownerId, targetId)).isSome

def IsChange (ownerId : UserId) (entry : BookEntry) : Prop :=
  entry.label = .commit ∧ entry.tag.changesBlocks ownerId = true

def Command.Blocks (ownerId targetId : UserId) (tag : Command) : Prop :=
  ∃ command : BlockCommand, tag = .blockUser command ∧ command.ownerId = ownerId ∧
    command.targetId = targetId

def Command.Unblocks (ownerId targetId : UserId) (tag : Command) : Prop :=
  ∃ command : BlockCommand, tag = .unblockUser command ∧ command.ownerId = ownerId ∧
    command.targetId = targetId

theorem changes_of_blocks {targetId : UserId} {tag : Command}
    (blocks : tag.Blocks ownerId targetId) : tag.changesBlocks ownerId = true := by
  obtain ⟨command, rfl, owned, _⟩ := blocks
  exact beq_iff_eq.mpr owned

theorem changes_of_unblocks {targetId : UserId} {tag : Command}
    (unblocks : tag.Unblocks ownerId targetId) : tag.changesBlocks ownerId = true := by
  obtain ⟨command, rfl, owned, _⟩ := unblocks
  exact beq_iff_eq.mpr owned

def IsUnblock (ownerId targetId : UserId) (entry : BookEntry) : Prop :=
  entry.label = .commit ∧ entry.tag.Unblocks ownerId targetId

def Undeleted (ownerId : UserId) (entries : List BookEntry) : Prop :=
  entries.Pairwise fun change later => IsChange ownerId change →
    later.label = .deleteBlockList ownerId → later.index ≠ change.index

def Quiet (ownerId : UserId) (since : Nat) (history : List BookEntry) : Prop :=
  ∀ entry ∈ history, entry.tag.changesBlocks ownerId = true →
    ∃ ending ∈ history.take since, ending.index = entry.index ∧ ending.outcome.isSome

/-- So had every command that blocks the target. -/
def Settled (ownerId targetId : UserId) (since : Nat) (history : List BookEntry) : Prop :=
  ∀ entry ∈ history, entry.tag.Blocks ownerId targetId →
    ∃ ending ∈ history.take since, ending.index = entry.index ∧ ending.outcome.isSome

/-- Who stores rows has loaded them before no change that has already deleted the key. -/
def storesFresh (ownerId : UserId) : BookTerms where
  Acts scene index _ label _ := label = .setBlockList ownerId →
    ∀ before read after, scene.history = before ++ read :: after → read.index = index →
      read.label = .allTargetIds ownerId → Undeleted ownerId after

/-- What the callers rely on. -/
structure ListsSound (ownerId : UserId) (scene : Books) : Prop where
  /-- A call that starts when every change has returned gets the rows. -/
  returns : Scene.Earlier (fun before entry => ∀ since targets,
    scene.opened[entry.index]? = some ⟨.getBlockList ownerId, since⟩ →
      entry.outcome = some (.ok (.blockList targets)) → Quiet ownerId since before →
        ∀ targetId, targetId ∈ targets ↔ entry.after.db.Blocks ownerId targetId) scene.history
  /-- Who starts after a target was blocked does not add it, unless it was unblocked meanwhile. -/
  creates : Scene.Earlier (fun before entry => ∀ tag since contactId,
    scene.opened[entry.index]? = some ⟨tag, since⟩ → tag.addsFor ownerId = true →
      entry.before.db.contact? ownerId contactId = none →
        (entry.after.db.contact? ownerId contactId).isSome →
          Settled ownerId contactId since before → ∀ blocking ∈ before.take since,
            ∀ tag start answer, scene.opened[blocking.index]? = some ⟨tag, start⟩ →
              tag.Blocks ownerId contactId → blocking.outcome = some (.ok answer) →
                ∃ unblocking ∈ before.drop start, IsUnblock ownerId contactId unblocking)
    scene.history

section Keeping

def Loaded (ownerId : UserId) (targets : List UserId) (scene : Books) : Prop :=
  ∃ number ≤ scene.history.length,
    (∀ targetId, targetId ∈ targets ↔ (scene.worldAt number).db.Blocks ownerId targetId) ∧
      Undeleted ownerId (scene.history.drop number)

def Knows (ownerId : UserId) (targets : List UserId) (since : Nat) (scene : Books) : Prop :=
  ∃ number ≤ scene.history.length,
    (∀ targetId, targetId ∈ targets ↔ (scene.worldAt number).db.Blocks ownerId targetId) ∧
      ∀ change ∈ scene.history.drop number, IsChange ownerId change →
        ∀ entry ∈ scene.history.take since, entry.index = change.index → entry.outcome = none

structure Listed (ownerId : UserId) (scene : Books) : Prop where
  orderly : scene.Orderly
  connected : scene.Connected
  lasting : ∀ entry ∈ scene.history, ∀ targetId, entry.before.db.Blocks ownerId targetId →
    entry.after.db.Blocks ownerId targetId ∨ IsUnblock ownerId targetId entry
  rising : ∀ entry ∈ scene.history, ∀ targetId, entry.after.db.Blocks ownerId targetId →
    entry.before.db.Blocks ownerId targetId ∨
      (entry.label = .commit ∧ entry.tag.Blocks ownerId targetId)
  cache : ∀ targets, scene.world.cachedBlockList ownerId = some targets →
    Loaded ownerId targets scene
  deletes : ∀ before change after, scene.history = before ++ change :: after →
    IsChange ownerId change →
      (∃ entry ∈ after, entry.index = change.index ∧ entry.label = .deleteBlockList ownerId) ∨
        ∀ entry ∈ scene.history, entry.index = change.index → entry.outcome = none
  blocked : Scene.Earlier (fun before entry => ∀ tag start targetId answer,
    scene.opened[entry.index]? = some ⟨tag, start⟩ → tag.Blocks ownerId targetId →
      entry.outcome = some (.ok answer) → ∃ number, start ≤ number ∧ number ≤ before.length ∧
        (scene.worldAt number).db.Blocks ownerId targetId) scene.history
  sound : ListsSound ownerId scene

structure Fitting (ownerId : UserId) (now : Books) (index : Nat) (tag : Command) (since : Nat)
    (label : Op) (effect : World → World)
    (outcome : Option (Except ContactError ContactAnswer)) : Prop where
  lasting : ∀ targetId, now.world.db.Blocks ownerId targetId →
    (effect now.world).db.Blocks ownerId targetId ∨
      (label = .commit ∧ tag.Unblocks ownerId targetId)
  rising : ∀ targetId, (effect now.world).db.Blocks ownerId targetId →
    now.world.db.Blocks ownerId targetId ∨ (label = .commit ∧ tag.Blocks ownerId targetId)
  cache : ∀ targets, (effect now.world).cachedBlockList ownerId = some targets →
    label ≠ .deleteBlockList ownerId ∧
      (now.world.cachedBlockList ownerId = some targets ∨ Loaded ownerId targets now)
  change : label = .commit → tag.changesBlocks ownerId = true → outcome = none
  ending : (∃ entry ∈ now.history, entry.index = index ∧ IsChange ownerId entry) →
    outcome.isSome → label = .deleteBlockList ownerId
  blocked : ∀ targetId answer, tag.Blocks ownerId targetId → outcome = some (.ok answer) →
    ∃ number, since ≤ number ∧ number ≤ now.history.length ∧
      (now.worldAt number).db.Blocks ownerId targetId
  returns : ∀ targets, tag = .getBlockList ownerId → outcome = some (.ok (.blockList targets)) →
    Quiet ownerId since now.history → ∀ targetId,
      (targetId ∈ targets ↔ (effect now.world).db.Blocks ownerId targetId)
  creates : tag.addsFor ownerId = true → ∀ contactId,
    now.world.db.contact? ownerId contactId = none →
      ((effect now.world).db.contact? ownerId contactId).isSome →
        ∃ targets, Knows ownerId targets since now ∧ contactId ∉ targets

variable {now : Books} {index since : Nat} {tag : Command} {label : Op} {effect : World → World}
  {outcome : Option (Except ContactError ContactAnswer)}

theorem loaded_after {targets : List UserId} (loaded : Loaded ownerId targets now)
    (stays : label ≠ .deleteBlockList ownerId) :
    Loaded ownerId targets (now.after index tag label effect outcome) := by
  obtain ⟨number, past, agrees, undeleted⟩ := loaded
  refine ⟨number, by rw [Scene.length_after]; omega, ?_, ?_⟩
  · rw [Scene.worldAt_after past]
    exact agrees
  · rw [Scene.drop_after past]
    refine List.pairwise_append.mpr ⟨undeleted, List.pairwise_singleton _ _, ?_⟩
    intro change _ later last _ deletes
    rw [List.mem_singleton.mp last] at deletes
    exact absurd deletes stays

theorem Listed.rises {targetId : UserId} {entry : BookEntry} (listed : Listed ownerId now)
    (member : entry ∈ now.history) (free : ¬entry.before.db.Blocks ownerId targetId) :
    ¬entry.after.db.Blocks ownerId targetId ∨
      (entry.label = .commit ∧ entry.tag.Blocks ownerId targetId) := by
  by_cases rose : entry.after.db.Blocks ownerId targetId
  · exact .inr ((listed.rising entry member targetId rose).resolve_left free)
  · exact .inl rose

theorem Listed.unblocked {targets : List UserId} {blocking : BookEntry} {begun contactId : Nat}
    {blocked : Command} {answer : ContactAnswer} (listed : Listed ownerId now)
    (knows : Knows ownerId targets since now) (free : contactId ∉ targets)
    (settled : Settled ownerId contactId since now.history)
    (member : blocking ∈ now.history.take since)
    (opened : now.opened[blocking.index]? = some ⟨blocked, begun⟩)
    (blocks : blocked.Blocks ownerId contactId) (answered : blocking.outcome = some (.ok answer)) :
    ∃ unblocking ∈ now.history.drop begun, IsUnblock ownerId contactId unblocking := by
  obtain ⟨early, late, split⟩ := List.append_of_mem (List.mem_of_mem_take member)
  obtain ⟨held, lower, upper, there⟩ :=
    listed.blocked early blocking late split blocked begun contactId answer opened blocks answered
  obtain ⟨number, past, agrees, going⟩ := knows
  rw [agrees contactId] at free
  have within : held ≤ now.history.length := by
    rw [split, List.length_append]
    omega
  rcases Nat.le_total held number with ordered | ordered
  · rcases listed.connected.lasts (fun world => world.db.Blocks ownerId contactId)
      (fun entry member => listed.lasting entry member contactId) ordered past there with
      still | ⟨between, entry, first, _, found, unblocks⟩
    · exact absurd still free
    · exact ⟨entry, Scene.mem_drop found (Nat.le_trans lower first), unblocks⟩
  · rcases listed.connected.lasts (fun world => ¬world.db.Blocks ownerId contactId)
      (fun _ member => listed.rises member) ordered within free
      with still | ⟨between, entry, first, _, found, commits, blocks⟩
    · exact absurd there still
    · obtain ⟨ending, inside, same, ended⟩ :=
        settled entry (List.mem_of_getElem? found) blocks
      have going' := going entry (Scene.mem_drop found first) ⟨commits, changes_of_blocks blocks⟩
        ending inside same
      rw [going'] at ended
      cases ended

theorem listed_after (listed : Listed ownerId now) (running : now.Running index)
    (found : now.opened[index]? = some ⟨tag, since⟩)
    (fitting : Fitting ownerId now index tag since label effect outcome) :
    Listed ownerId (now.after index tag label effect outcome) where
  orderly := Scene.orderly_after listed.orderly running
  connected := Scene.connected_after listed.connected
  lasting := by
    intro entry member targetId there
    rcases List.mem_append.mp member with old | last
    · exact listed.lasting entry old targetId there
    · rw [List.mem_singleton.mp last] at there ⊢
      exact fitting.lasting targetId there
  rising := by
    intro entry member targetId there
    rcases List.mem_append.mp member with old | last
    · exact listed.rising entry old targetId there
    · rw [List.mem_singleton.mp last] at there ⊢
      exact fitting.rising targetId there
  cache := by
    intro targets cached
    obtain ⟨stays, old | loaded⟩ := fitting.cache targets cached
    · exact loaded_after (listed.cache targets old) stays
    · exact loaded_after loaded stays
  deletes := by
    intro before change after same changed
    rcases Latest.split_concat same with ⟨rfl, _, _⟩ | ⟨rest, rfl, older⟩
    · right
      intro entry member mine
      rcases List.mem_append.mp member with old | last
      · exact running entry old mine
      · rw [List.mem_singleton.mp last]
        exact fitting.change changed.1 changed.2
    · rcases listed.deletes before change rest older changed with ⟨entry, member, deleted⟩ | goes
      · exact .inl ⟨entry, List.mem_append_left _ member, deleted⟩
      · by_cases mine : change.index = index
        · have known : ∃ entry ∈ now.history, entry.index = index ∧ IsChange ownerId entry := by
            refine ⟨change, ?_, mine, changed⟩
            rw [older]
            exact List.mem_append_right _ List.mem_cons_self
          cases ended : outcome with
          | none =>
              right
              intro entry member same
              rcases List.mem_append.mp member with old | last
              · exact goes entry old same
              · rw [List.mem_singleton.mp last]
          | some result =>
              left
              refine ⟨_, List.mem_append_right _ (List.mem_singleton_self _), mine.symm, ?_⟩
              exact fitting.ending known (by rw [ended]; rfl)
        · right
          intro entry member same
          rcases List.mem_append.mp member with old | last
          · exact goes entry old same
          · rw [List.mem_singleton.mp last] at same
            exact absurd same.symm mine
  blocked := by
    refine Scene.earlier_concat ?_ ?_
    · intro before entry after same other start targetId answer opened blocks answered
      obtain ⟨number, lower, upper, there⟩ :=
        listed.blocked before entry after same other start targetId answer opened blocks answered
      refine ⟨number, lower, upper, ?_⟩
      have past : number ≤ now.history.length := by
        rw [same, List.length_append]
        omega
      rw [Scene.worldAt_after past]
      exact there
    · intro other start targetId answer opened blocks answered
      cases found.symm.trans opened
      obtain ⟨number, lower, upper, there⟩ := fitting.blocked targetId answer blocks answered
      exact ⟨number, lower, upper, by rw [Scene.worldAt_after upper]; exact there⟩
  sound := by
    constructor
    · refine Scene.earlier_concat listed.sound.returns ?_
      intro start targets opened answered quiet
      cases found.symm.trans opened
      exact fitting.returns targets rfl answered quiet
    · refine Scene.earlier_concat listed.sound.creates ?_
      intro other start contactId opened adds absent created settled blocking member blocked begun
        answer opening blocks answered
      cases found.symm.trans opened
      obtain ⟨targets, knows, free⟩ := fitting.creates adds contactId absent created
      exact listed.unblocked knows free settled member opening blocks answered

end Keeping

section Reading

variable {now scene : Books} {index since : Nat} {tag : Command} {label : Op}
  {effect : World → World} {outcome : Option (Except ContactError ContactAnswer)}
  {targets : List UserId}

theorem knows_of_loaded (listed : Listed ownerId now) (loaded : Loaded ownerId targets now) :
    Knows ownerId targets since now := by
  obtain ⟨number, past, agrees, undeleted⟩ := loaded
  refine ⟨number, past, agrees, fun change member changed entry early same => ?_⟩
  obtain ⟨before, after, split⟩ := List.append_of_mem member
  have whole : now.history = (now.history.take number ++ before) ++ change :: after := by
    rw [List.append_assoc, ← split, List.take_append_drop]
  rcases listed.deletes _ change after whole changed with ⟨deleting, inside, mine, deleted⟩ | goes
  · rw [split] at undeleted
    have later := (List.pairwise_cons.mp (List.pairwise_append.mp undeleted).2.1).1
    exact absurd mine (later deleting inside changed deleted)
  · exact goes entry (List.mem_of_mem_take early) same

theorem knows_quiet (listed : Listed ownerId now) (knows : Knows ownerId targets since now)
    (quiet : Quiet ownerId since now.history) (targetId : UserId) :
    targetId ∈ targets ↔ now.world.db.Blocks ownerId targetId := by
  obtain ⟨number, past, agrees, going⟩ := knows
  -- no command that has changed the list since was still to return
  have none {between : Nat} {entry : BookEntry} (first : number ≤ between)
      (found : now.history[between]? = some entry) : ¬IsChange ownerId entry := by
    intro changed
    obtain ⟨ending, inside, same, ended⟩ :=
      quiet entry (List.mem_of_getElem? found) changed.2
    rw [going entry (Scene.mem_drop found first) changed ending inside same] at ended
    cases ended
  have present : now.world = now.worldAt now.history.length := Scene.worldAt_length.symm
  rw [agrees targetId, present]
  constructor
  · intro there
    rcases listed.connected.lasts (fun world => world.db.Blocks ownerId targetId)
      (fun entry member => listed.lasting entry member targetId) past (Nat.le_refl _) there
      with still | ⟨between, entry, first, _, found, commits, unblocks⟩
    · exact still
    · exact absurd ⟨commits, changes_of_unblocks unblocks⟩ (none first found)
  · intro there
    by_contra free
    rcases listed.connected.lasts (fun world => ¬world.db.Blocks ownerId targetId)
      (fun _ member => listed.rises member) past (Nat.le_refl _) free with
      still | ⟨between, entry, first, _, found, commits, blocks⟩
    · exact still there
    · exact none first found ⟨commits, changes_of_blocks blocks⟩

structure Reader (ownerId : UserId) (targets : List UserId) (index : Nat) (tag : Command)
    (since : Nat) (scene : Books) : Prop where
  opened : scene.opened[index]? = some ⟨tag, since⟩
  started : since ≤ scene.history.length
  knows : ∃ number < scene.history.length,
    (∀ targetId, targetId ∈ targets ↔ (scene.worldAt number).db.Blocks ownerId targetId) ∧
      ∀ change ∈ scene.history.drop number, IsChange ownerId change →
        ∀ entry ∈ scene.history.take since, entry.index = change.index → entry.outcome = none

theorem Reader.knowing (reader : Reader ownerId targets index tag since now) :
    Knows ownerId targets since now := by
  obtain ⟨number, past, rest⟩ := reader.knows
  exact ⟨number, Nat.le_of_lt past, rest⟩

theorem reader_after (knows : Knows ownerId targets since now)
    (found : now.opened[index]? = some ⟨tag, since⟩) (started : since ≤ now.history.length)
    (running : now.Running index) :
    Reader ownerId targets index tag since (now.after index tag label effect outcome) := by
  obtain ⟨number, past, agrees, going⟩ := knows
  refine ⟨found, by rw [Scene.length_after]; omega, number, by rw [Scene.length_after]; omega, ?_, ?_⟩
  · rw [Scene.worldAt_after past]
    exact agrees
  · have early : (now.after index tag label effect outcome).history.take since =
        now.history.take since := List.take_append_of_le_length started
    rw [Scene.drop_after past, early]
    intro change member changed entry inside same
    rcases List.mem_append.mp member with old | last
    · exact going change old changed entry inside same
    · rw [List.mem_singleton.mp last] at same
      exact running entry (List.mem_of_mem_take inside) same

theorem reader_later (reader : Reader ownerId targets index tag since scene)
    (meanwhile : scene.Meanwhile index now) (orderly : now.Orderly) :
    Reader ownerId targets index tag since now := by
  obtain ⟨number, past, agrees, going⟩ := reader.knows
  have longer := meanwhile.length_le
  have started := reader.started
  refine ⟨meanwhile.opened reader.opened, by omega, number, by omega, ?_, ?_⟩
  · rw [meanwhile.worldAt_eq past]
    exact agrees
  · obtain ⟨_, more, history, _⟩ := meanwhile
    have early : now.history.take since = scene.history.take since := by
      rw [history, List.take_append_of_le_length started]
    rw [early, history, List.drop_append_of_le_length (Nat.le_of_lt past)]
    intro change member changed entry inside same
    rcases List.mem_append.mp member with old | new
    · exact going change old changed entry inside same
    · obtain ⟨before, after, split⟩ := List.append_of_mem new
      have whole : now.history = (scene.history ++ before) ++ change :: after := by
        rw [history, split, List.append_assoc]
      exact orderly _ change after whole entry
        (List.mem_append_left _ (List.mem_of_mem_take inside)) same

theorem cachedBlockList_store {world : World} {read : List UserId}
    (stored : (world.storeBlockList ownerId read).cachedBlockList ownerId = some targets) :
    targets = read := by
  have found : (world.storeBlockList ownerId read).blockLists ownerId =
      some ⟨read, world.clock + blockListCacheTtl * second⟩ := Function.update_self _ _ _
  rw [World.cachedBlockList, found] at stored
  exact (Option.some.inj (Option.ite_none_right_eq_some.mp stored).2).symm

structure Bystander (ownerId : UserId) (index : Nat) (tag : Command) (since : Nat) (scene : Books) :
    Prop where
  opened : scene.opened[index]? = some ⟨tag, since⟩
  started : since ≤ scene.history.length
  spares : tag.changesBlocks ownerId = false
  reads : tag ≠ .getBlockList ownerId

theorem not_changed (tagged : now.Tagged) (bystander : Bystander ownerId index tag since now) :
    ¬∃ entry ∈ now.history, entry.index = index ∧ IsChange ownerId entry := by
  rintro ⟨entry, member, mine, changed⟩
  obtain ⟨start, _, found⟩ := tagged entry member
  rw [mine, bystander.opened] at found
  cases found
  have spares := bystander.spares
  rw [changed.2] at spares
  cases spares

theorem fitting_acting (tagged : now.Tagged)
    (bystander : Bystander ownerId index tag since now)
    (acting : Acting ownerId (Write.Sparing ownerId targets) label effect)
    (knows : tag.addsFor ownerId = true → Knows ownerId targets since now) :
    Fitting ownerId now index tag since label effect outcome := by
  have blocks : ∀ targetId, ((effect now.world).db.Blocks ownerId targetId ↔
      now.world.db.Blocks ownerId targetId) := by
    intro targetId
    rcases acting with ⟨_, log, fine, rfl⟩ | ⟨_, _, _, same, _⟩
    · have spared : (applyAll log now.world.db).blocked.find? (ownerId, targetId) =
          now.world.db.blocked.find? (ownerId, targetId) :=
        blocked_applyAll (fun write member => (fine write member).1) now.world.db
      exact iff_of_eq (congrArg (fun found => Option.isSome found = true) spared)
    · rw [same]
  constructor
  · exact fun targetId there => .inl ((blocks targetId).mpr there)
  · exact fun targetId there => .inl ((blocks targetId).mp there)
  · intro found cached
    rcases acting with ⟨rfl, log, _, rfl⟩ | ⟨_, _, stays, _, kept⟩
    · exact ⟨nofun, .inl cached⟩
    · exact ⟨stays, .inl (kept _ _ cached)⟩
  · intro _ changes
    rw [bystander.spares] at changes
    cases changes
  · exact fun changed => absurd changed (not_changed tagged bystander)
  · intro targetId answer changes
    have spares := bystander.spares
    rw [changes_of_blocks changes] at spares
    cases spares
  · exact fun found same => absurd same bystander.reads
  · intro adds contactId absent created
    rcases acting with ⟨_, log, fine, rfl⟩ | ⟨_, _, _, same, _⟩
    · obtain ⟨row, member, key⟩ := inserted_of_created absent created
      have apart := (fine _ member).2 row rfl (congrArg Prod.fst key)
      rw [show row.contactId = contactId from congrArg Prod.snd key] at apart
      exact ⟨targets, knows adds, apart⟩
    · rw [same, absent] at created
      cases created

theorem keeps_writes {Answer Result : Type} {sql : Sql Answer} {next : Answer → Sql Result}
    {wrap : Result × Transaction → Handler ContactAnswer} {transaction : Transaction}
    {Fine : Write → Prop} {Local : Books → Prop} (writes : sql.Writes ownerId Fine)
    (fine : ∀ write ∈ transaction.log, Fine write)
    (lasts : ∀ scene now : Books, Local scene → scene.Meanwhile index now → Listed ownerId now →
      Local now)
    (kept : ∀ now label effect outcome, Local now → now.Tagged → now.Running index →
      Listed ownerId now → Acting ownerId Fine label effect →
        Listed ownerId (now.after index tag label effect outcome) ∧
          Local (now.after index tag label effect outcome))
    (rest : ∀ answer left now, (∀ write ∈ left.log, Fine write) → Local now →
      Keeps (storesFresh ownerId) (Listed ownerId) index tag (next answer left >>= wrap) now)
    (known : Local scene) :
    Keeps (storesFresh ownerId) (Listed ownerId) index tag
      ((sql >>= next) transaction >>= wrap) scene := by
  change Keeps _ _ _ _ ((sql transaction >>= fun result => next result.1 result.2) >>= wrap) _
  rw [Process.bind_assoc]
  refine keeps_along lasts ?_ (writes transaction fine) (fun result now => rest result.1 result.2 now)
    known
  exact fun now label effect outcome here tagged running inv _ => kept now label effect outcome here
    tagged running inv

theorem bystander_later (bystander : Bystander ownerId index tag since scene)
    (meanwhile : scene.Meanwhile index now) : Bystander ownerId index tag since now :=
  ⟨meanwhile.opened bystander.opened, Nat.le_trans bystander.started meanwhile.length_le,
    bystander.spares, bystander.reads⟩

theorem bystander_after (bystander : Bystander ownerId index tag since now) :
    Bystander ownerId index tag since (now.after index tag label effect outcome) := by
  refine ⟨bystander.opened, ?_, bystander.spares, bystander.reads⟩
  rw [Scene.length_after]
  exact Nat.le_succ_of_le bystander.started

theorem keeps_unconcerned (other : tag.concerns ownerId = false)
    (found : scene.opened[index]? = some ⟨tag, since⟩) (started : since ≤ scene.history.length) :
    Keeps (storesFresh ownerId) (Listed ownerId) index tag (tag.handle services) scene := by
  have bystander : Bystander ownerId index tag since scene := by
    refine ⟨found, started, ?_, ?_⟩
    · cases tag with
      | blockUser command | unblockUser command => exact other
      | addContact _ | removeContact _ | updateContact _ | importContacts _
      | registerUserIdentifier _ _ | getBlockList _ | elapse _ => rfl
    · rintro rfl
      simp [Command.concerns] at other
  have adds : tag.addsFor ownerId = false := by
    cases tag with
    | addContact command | importContacts command => exact other
    | removeContact _ | updateContact _ | registerUserIdentifier _ _ | blockUser _ | unblockUser _
    | getBlockList _ | elapse _ => rfl
  change Keeps _ _ _ _ ((tag.sql services) {} >>= fun result => pure result.1) _
  refine keeps_along (fun scene now here meanwhile _ => bystander_later here meanwhile) ?_
    (writes_sql other {} fun _ member => nomatch member) (fun _ _ _ _ => trivial) bystander
  intro now label effect outcome here tagged running listed _ acting
  refine ⟨listed_after listed running here.opened ?_, bystander_after here⟩
  refine fitting_acting tagged here acting fun yes => ?_
  rw [adds] at yes
  cases yes

end Reading

section Calling

variable {now scene : Books} {index since : Nat} {tag : Command} {label : Op}
  {effect : World → World} {outcome : Option (Except ContactError ContactAnswer)}
  {targets : List UserId}

theorem mem_allTargetIds {db : Db} {targetId : UserId} :
    targetId ∈ db.allTargetIds ownerId ↔ db.Blocks ownerId targetId := by
  simp only [Db.allTargetIds, Table.select, List.mem_map, List.mem_filter, beq_iff_eq, Db.Blocks,
    Option.isSome_iff_exists]
  constructor
  · rintro ⟨row, ⟨member, rfl⟩, rfl⟩
    exact ⟨row, (db.blocked.mem_rows_iff row).mp member⟩
  · rintro ⟨row, found⟩
    obtain ⟨member, key⟩ := (db.blocked.find?_some_iff _ row).mp found
    obtain ⟨rfl, rfl⟩ := Prod.mk.inj key
    exact ⟨row, ⟨member, rfl⟩, rfl⟩

theorem knows_rows : Knows ownerId (now.world.db.allTargetIds ownerId) since now := by
  refine ⟨now.history.length, Nat.le_refl _, fun targetId => ?_, fun change member => ?_⟩
  · rw [Scene.worldAt_length]
    exact mem_allTargetIds
  · rw [List.drop_length] at member
    cases member

theorem fitting_steady (unchanged : ¬∃ entry ∈ now.history, entry.index = index ∧
      IsChange ownerId entry)
    (spares : tag.changesBlocks ownerId = false) (same : (effect now.world).db = now.world.db)
    (cache : ∀ targets, (effect now.world).cachedBlockList ownerId = some targets →
      label ≠ .deleteBlockList ownerId ∧
        (now.world.cachedBlockList ownerId = some targets ∨ Loaded ownerId targets now))
    (returns : ∀ targets, tag = .getBlockList ownerId →
      outcome = some (.ok (.blockList targets)) → Quiet ownerId since now.history →
        ∀ targetId, targetId ∈ targets ↔ now.world.db.Blocks ownerId targetId) :
    Fitting ownerId now index tag since label effect outcome where
  lasting := fun _ there => .inl (same ▸ there)
  rising := fun _ there => .inl (same ▸ there)
  cache := cache
  change := fun _ changes => by
    rw [spares] at changes
    cases changes
  ending := fun changed => absurd changed unchanged
  blocked := fun _ _ blocks => by
    rw [changes_of_blocks blocks] at spares
    cases spares
  returns := fun found call answered quiet targetId => by
    rw [same]
    exact returns found call answered quiet targetId
  creates := fun _ contactId absent created => by
    rw [same, absent] at created
    cases created

theorem keeps_getBlockList {Result : Type} (next : List UserId → Sql Result)
    (wrap : Result × Transaction → Handler ContactAnswer) {transaction : Transaction}
    (empty : transaction.log = []) (found : scene.opened[index]? = some ⟨tag, since⟩)
    (started : since ≤ scene.history.length) (spares : tag.changesBlocks ownerId = false)
    (answers : tag = .getBlockList ownerId → ∀ read left targets,
      (next read left >>= wrap).outcome? = some (.ok (.blockList targets)) → targets = read)
    (rest : ∀ read left now, left.log = [] → Reader ownerId read index tag since now →
      Keeps (storesFresh ownerId) (Listed ownerId) index tag (next read left >>= wrap) now) :
    Keeps (storesFresh ownerId) (Listed ownerId) index tag
      ((getBlockList ownerId >>= next) transaction >>= wrap) scene := by
  have unchanged (now : Books) (opened : now.opened[index]? = some ⟨tag, since⟩)
      (tagged : now.Tagged) :
      ¬∃ entry ∈ now.history, entry.index = index ∧ IsChange ownerId entry := by
    rintro ⟨entry, member, mine, changed⟩
    obtain ⟨start, _, same⟩ := tagged entry member
    rw [mine, opened] at same
    cases same
    rw [changed.2] at spares
    cases spares
  refine keeps_act fun now meanwhile tagged running listed acts => ?_
  have opened := meanwhile.opened found
  have longer := meanwhile.length_le
  simp only
  cases cached : now.world.cachedBlockList ownerId with
  | some read =>
      have knows : Knows ownerId read since now := knows_of_loaded listed (listed.cache read cached)
      refine ⟨listed_after listed running opened (fitting_steady (unchanged now opened tagged) spares
        rfl (fun _ same => ⟨nofun, .inl same⟩) ?_), ?_⟩
      · intro targets call answered quiet targetId
        have same : targets = read := answers call read transaction targets answered
        rw [same]
        exact knows_quiet listed knows quiet targetId
      · exact rest read transaction _ empty
          (reader_after knows opened (by omega) running)
  | none =>
      refine ⟨listed_after listed running opened (fitting_steady (unchanged now opened tagged) spares
        rfl (fun _ same => ⟨nofun, .inl same⟩) fun _ _ ended => nomatch ended), ?_⟩
      -- the question for the rows
      refine keeps_act fun asked between taggedA runningA listedA _ => ?_
      have openedA : asked.opened[index]? = some ⟨tag, since⟩ := between.opened opened
      have longerA := between.length_le
      rw [Scene.length_after] at longerA
      refine ⟨listed_after listedA runningA openedA (fitting_steady (unchanged asked openedA taggedA)
        spares rfl (fun _ same => ⟨nofun, .inl same⟩) fun _ _ ended => nomatch ended), ?_⟩
      -- the answer is stored
      refine keeps_act fun last later taggedL runningL listedL fresh => ?_
      have openedL : last.opened[index]? = some ⟨tag, since⟩ := later.opened openedA
      have longerL := later.length_le
      rw [Scene.length_after] at longerL
      have rows : applyAll transaction.log asked.world.db = asked.world.db := by
        rw [empty, applyAll_nil]
      have loaded : Loaded ownerId (asked.world.db.allTargetIds ownerId) last := by
        refine ⟨asked.history.length, by omega, fun targetId => ?_, ?_⟩
        · rw [later.worldAt_eq (by rw [Scene.length_after]; omega),
            Scene.worldAt_after (Nat.le_refl _), Scene.worldAt_length]
          exact mem_allTargetIds
        · obtain ⟨_, more, history, _⟩ := later
          obtain ⟨reading, split, mine, reads⟩ : ∃ reading : BookEntry,
              last.history = asked.history ++ reading :: more ∧ reading.index = index ∧
                reading.label = .allTargetIds ownerId :=
            ⟨_, history.trans (List.append_assoc _ [_] _), rfl, rfl⟩
          rw [split, List.drop_left]
          refine List.pairwise_cons.mpr ⟨?_, fresh rfl _ _ _ split mine reads⟩
          rintro entry _ ⟨commits, _⟩
          rw [reads] at commits
          cases commits
      have knows : Knows ownerId (asked.world.db.allTargetIds ownerId) since last :=
        knows_of_loaded listedL loaded
      refine ⟨listed_after listedL runningL openedL (fitting_steady (unchanged last openedL taggedL)
        spares rfl ?_ ?_), ?_⟩
      · intro targets stored
        refine ⟨nofun, .inr ?_⟩
        have written : targets = (applyAll transaction.log asked.world.db).allTargetIds ownerId :=
          cachedBlockList_store stored
        rw [written, rows]
        exact loaded
      · intro targets call answered quiet targetId
        have same : targets = (applyAll transaction.log asked.world.db).allTargetIds ownerId :=
          answers call _ _ targets answered
        rw [same, rows]
        exact knows_quiet listedL knows quiet targetId
      · refine rest ((applyAll transaction.log asked.world.db).allTargetIds ownerId) _ _
          (List.append_eq_nil_iff.mpr ⟨empty, rfl⟩) (reader_after ?_ openedL (by omega) runningL)
        rw [rows]
        exact knows

end Calling

section Changing

variable {now scene : Books} {index since : Nat} {tag : Command} {label : Op}
  {effect : World → World} {outcome : Option (Except ContactError ContactAnswer)}
  {targets : List UserId}

structure Unchanging (ownerId : UserId) (index : Nat) (tag : Command) (since : Nat)
    (scene : Books) : Prop where
  opened : scene.opened[index]? = some ⟨tag, since⟩
  started : since ≤ scene.history.length
  not : ¬∃ entry ∈ scene.history, entry.index = index ∧ IsChange ownerId entry

theorem unchanging_after (unchanging : Unchanging ownerId index tag since now)
    (other : label ≠ .commit) :
    Unchanging ownerId index tag since (now.after index tag label effect outcome) := by
  refine ⟨unchanging.opened, ?_, ?_⟩
  · rw [Scene.length_after]
    exact Nat.le_succ_of_le unchanging.started
  · rintro ⟨entry, member, mine, changed⟩
    rcases List.mem_append.mp member with old | last
    · exact unchanging.not ⟨entry, old, mine, changed⟩
    · rw [List.mem_singleton.mp last] at changed
      exact other changed.1

theorem unchanging_later (unchanging : Unchanging ownerId index tag since scene)
    (meanwhile : scene.Meanwhile index now) : Unchanging ownerId index tag since now := by
  refine ⟨meanwhile.opened unchanging.opened,
    Nat.le_trans unchanging.started meanwhile.length_le, ?_⟩
  rintro ⟨entry, member, mine, changed⟩
  obtain ⟨old, _⟩ := Scene.mem_own.mp (meanwhile.own_eq ▸ Scene.mem_own.mpr ⟨member, mine⟩)
  exact unchanging.not ⟨entry, old, mine, changed⟩

theorem not_adds (changes : tag.changesBlocks ownerId = true) : tag.addsFor ownerId = false := by
  cases tag with
  | blockUser _ | unblockUser _ => rfl
  | addContact _ | removeContact _ | updateContact _ | importContacts _
  | registerUserIdentifier _ _ | getBlockList _ | elapse _ => cases changes

theorem not_reads (changes : tag.changesBlocks ownerId = true) : tag ≠ .getBlockList ownerId := by
  rintro rfl
  cases changes

theorem fitting_idle (changes : tag.changesBlocks ownerId = true)
    (unchanging : Unchanging ownerId index tag since now)
    (commits : label ≠ .commit) (deletes : label ≠ .deleteBlockList ownerId)
    (blocked : ∀ targetId answer, tag.Blocks ownerId targetId → outcome = some (.ok answer) →
      now.world.db.Blocks ownerId targetId) :
    Fitting ownerId now index tag since label id outcome where
  lasting := fun _ there => .inl there
  rising := fun _ there => .inl there
  cache := fun _ cached => ⟨deletes, .inl cached⟩
  change := fun commit => absurd commit commits
  ending := fun changed => absurd changed unchanging.not
  blocked := fun targetId answer blocks answered =>
    ⟨now.history.length, unchanging.started, Nat.le_refl _, by
      rw [Scene.worldAt_length]
      exact blocked targetId answer blocks answered⟩
  returns := fun _ same => absurd same (not_reads changes)
  creates := fun adds => by
    rw [not_adds changes] at adds
    cases adds

theorem keeps_change {log : List Write} (changes : tag.changesBlocks ownerId = true)
    (lasting : ∀ db targetId, Db.Blocks db ownerId targetId →
      Db.Blocks (applyAll log db) ownerId targetId ∨ tag.Unblocks ownerId targetId)
    (rising : ∀ db targetId, Db.Blocks (applyAll log db) ownerId targetId →
      Db.Blocks db ownerId targetId ∨ tag.Blocks ownerId targetId)
    (blocked : ∀ targetId, tag.Blocks ownerId targetId →
      ∀ db : Db, Db.Blocks (applyAll log db) ownerId targetId)
    (unchanging : Unchanging ownerId index tag since scene) :
    Keeps (storesFresh ownerId) (Listed ownerId) index tag
      (.act .commit (fun world => world.commit log) fun _ =>
        .act (.deleteBlockList ownerId) (fun world => world.dropBlockList ownerId) fun _ =>
          .done (.ok .none)) scene := by
  refine keeps_act fun now meanwhile tagged running listed _ => ?_
  have here := unchanging_later unchanging meanwhile
  constructor
  · refine listed_after listed running here.opened ?_
    constructor
    · exact fun targetId there => (lasting now.world.db targetId there).imp id (⟨rfl, ·⟩)
    · exact fun targetId there => (rising now.world.db targetId there).imp id (⟨rfl, ·⟩)
    · exact fun _ cached => ⟨by simp, .inl cached⟩
    · exact fun _ _ => rfl
    · exact fun changed => absurd changed here.not
    · rintro _ _ _ ⟨⟩
    · exact fun _ same => absurd same (not_reads changes)
    · intro adds
      rw [not_adds changes] at adds
      cases adds
  refine keeps_act fun last later taggedL runningL listedL _ => ?_
  refine ⟨listed_after listedL runningL (later.opened here.opened) ?_, trivial⟩
  have longer := later.length_le
  rw [Scene.length_after] at longer
  constructor
  · exact fun _ there => .inl there
  · exact fun _ there => .inl there
  · intro found cached
    have gone : (last.world.dropBlockList ownerId).blockLists ownerId = none :=
      Function.update_self _ _ _
    rw [World.cachedBlockList, gone] at cached
    cases cached
  · rintro ⟨⟩
  · exact fun _ _ => rfl
  · intro targetId answer blocks _
    refine ⟨now.history.length + 1, Nat.le_succ_of_le here.started, longer, ?_⟩
    rw [listedL.connected.worldAt_meanwhile later]
    exact blocked targetId blocks now.world.db
  · exact fun _ same => absurd same (not_reads changes)
  · intro adds
    rw [not_adds changes] at adds
    cases adds

theorem blocks_insert {db : Db} {row : BlockedUser} {targetId : UserId} :
    (Db.write (.insertBlocked row) db).Blocks ownerId targetId ↔
      db.Blocks ownerId targetId ∨ row.key = (ownerId, targetId) := by
  simp only [Db.Blocks, Db.write, Table.find?_insert]
  split
  · rename_i same
    simp [same]
  · rename_i other
    simp [other]

theorem blocks_delete {db : Db} {key : UserId × UserId} {targetId : UserId} :
    (Db.write (.deleteBlocked key) db).Blocks ownerId targetId ↔
      db.Blocks ownerId targetId ∧ key ≠ (ownerId, targetId) := by
  simp only [Db.Blocks, Db.write, Table.find?_delete]
  cases found : db.blocked.find? (ownerId, targetId) with
  | none => simp
  | some row =>
      have owned : row.key = (ownerId, targetId) := Table.key_of_find? found
      have other : (ownerId, targetId) ≠ key ↔ key ≠ (ownerId, targetId) := ne_comm
      simp [owned, other]

theorem keeps_check {Answer Result : Type} {check : Except ContactError Answer}
    {next : Answer → Sql Result} {wrap : Result × Transaction → Handler ContactAnswer}
    {transaction : Transaction}
    (rest : ∀ answer, check = .ok answer → Keeps (storesFresh ownerId) (Listed ownerId) index tag
      (next answer transaction >>= wrap) scene) :
    Keeps (storesFresh ownerId) (Listed ownerId) index tag
      (((liftM check : Sql Answer) >>= next) transaction >>= wrap) scene := by
  cases check with
  | error error => trivial
  | ok answer => exact rest answer rfl

theorem keeps_blockUser {command : BlockCommand} (owned : command.ownerId = ownerId)
    (unchanging : Unchanging ownerId index (.blockUser command) since scene) :
    Keeps (storesFresh ownerId) (Listed ownerId) index (.blockUser command)
      (Command.handle services (.blockUser command)) scene := by
  have changes : (Command.blockUser command).changesBlocks ownerId = true := beq_iff_eq.mpr owned
  rw [Command.handle, Command.sql, handler_map, blockUser]
  refine keeps_check fun _ _ => ?_
  refine keeps_check fun _ _ => ?_
  refine keeps_act fun now meanwhile tagged running listed _ => ?_
  have here := unchanging_later unchanging meanwhile
  simp only [applyAll_nil]
  cases existing : now.world.db.blocked.find? (command.ownerId, command.targetId) with
  | some row =>
      refine ⟨listed_after listed running here.opened
        (fitting_idle changes here nofun nofun ?_), trivial⟩
      rintro _ _ ⟨_, ⟨rfl⟩, rfl, rfl⟩ _
      rw [Db.Blocks, existing]
      rfl
  | none =>
      refine ⟨listed_after listed running here.opened
        (fitting_idle changes here nofun nofun fun _ _ _ ended => nomatch ended), ?_⟩
      refine keeps_act fun last later taggedL runningL listedL _ => ?_
      have hereL := unchanging_later (unchanging_after here (by decide)) later
      simp only
      split
      · exact ⟨listed_after listedL runningL hereL.opened
          (fitting_idle changes hereL nofun nofun fun _ _ _ ended => nomatch ended), trivial⟩
      · refine ⟨listed_after listedL runningL hereL.opened
          (fitting_idle changes hereL nofun nofun fun _ _ _ ended => nomatch ended), ?_⟩
        subst owned
        refine keeps_change changes ?_ ?_ ?_ (unchanging_after hereL (by decide))
        · intro db targetId there
          exact .inl (blocks_insert.mpr (.inl there))
        · intro db targetId there
          refine (blocks_insert.mp there).imp id fun same => ?_
          exact ⟨command, rfl, rfl, congrArg Prod.snd same⟩
        · rintro _ ⟨_, ⟨rfl⟩, _, rfl⟩ db
          exact blocks_insert.mpr (.inr rfl)

theorem keeps_unblockUser {command : BlockCommand} (owned : command.ownerId = ownerId)
    (unchanging : Unchanging ownerId index (.unblockUser command) since scene) :
    Keeps (storesFresh ownerId) (Listed ownerId) index (.unblockUser command)
      (Command.handle services (.unblockUser command)) scene := by
  have changes : (Command.unblockUser command).changesBlocks ownerId = true := beq_iff_eq.mpr owned
  rw [Command.handle, Command.sql, handler_map, unblockUser]
  refine keeps_check fun _ _ => ?_
  refine keeps_act fun now meanwhile tagged running listed _ => ?_
  have here := unchanging_later unchanging meanwhile
  simp only [applyAll_nil]
  cases existing : now.world.db.blocked.find? (command.ownerId, command.targetId) with
  | none =>
      exact ⟨listed_after listed running here.opened
        (fitting_idle changes here nofun nofun nofun), trivial⟩
  | some row =>
      refine ⟨listed_after listed running here.opened
        (fitting_idle changes here nofun nofun nofun), ?_⟩
      refine keeps_act fun last later taggedL runningL listedL _ => ?_
      have hereL := unchanging_later (unchanging_after here (by decide)) later
      refine ⟨listed_after listedL runningL hereL.opened
        (fitting_idle changes hereL nofun nofun nofun), ?_⟩
      subst owned
      refine keeps_change changes ?_ ?_ ?_ (unchanging_after hereL ?_)
      · intro db targetId there
        by_cases mine : command.targetId = targetId
        · exact .inr ⟨command, rfl, rfl, mine⟩
        · refine .inl (blocks_delete.mpr ⟨there, ?_⟩)
          rw [Table.key_of_find? existing]
          exact fun same => mine (congrArg Prod.snd same)
      · intro db targetId there
        exact .inl (blocks_delete.mp there).1
      · rintro _ ⟨_, ⟨⟩, _⟩
      · exact nofun

end Changing

section Adding

variable {now scene : Books} {index since : Nat} {tag : Command} {targets : List UserId}

theorem keeps_reads (found : scene.opened[index]? = some ⟨.getBlockList ownerId, since⟩)
    (started : since ≤ scene.history.length) :
    Keeps (storesFresh ownerId) (Listed ownerId) index (.getBlockList ownerId)
      (Command.handle services (.getBlockList ownerId)) scene := by
  rw [Command.handle, Command.sql, handler_map]
  change Keeps _ _ _ _ (getBlockList ownerId {} >>= fun result =>
    (pure result : Handler _) >>= fun result => pure (ContactAnswer.blockList result.1)) _
  rw [← Process.bind_assoc]
  refine keeps_getBlockList pure (fun result => pure (.blockList result.1)) rfl found started rfl ?_
    fun _ _ _ _ _ => trivial
  intro _ read left targets answered
  cases answered
  rfl

theorem keeps_asks {Answer Result : Type} {sql : Sql Answer} {next : Answer → Sql Result}
    {wrap : Result × Transaction → Handler ContactAnswer} {transaction : Transaction}
    (asks : sql.Writes ownerId fun _ => False) (empty : transaction.log = [])
    (bystander : Bystander ownerId index tag since scene)
    (rest : ∀ answer left now, left.log = [] → Bystander ownerId index tag since now →
      Keeps (storesFresh ownerId) (Listed ownerId) index tag (next answer left >>= wrap) now) :
    Keeps (storesFresh ownerId) (Listed ownerId) index tag
      ((sql >>= next) transaction >>= wrap) scene := by
  refine keeps_writes asks ?_ (fun _ now here meanwhile _ => bystander_later here meanwhile) ?_ ?_
    bystander
  · rw [empty]
    exact fun _ member => nomatch member
  · intro now label effect outcome here tagged running listed acting
    have spared := acting.mono fun write (none : False) =>
      (none.elim : write.Sparing ownerId (now.world.db.allTargetIds ownerId))
    exact ⟨listed_after listed running here.opened
      (fitting_acting tagged here spared fun _ => knows_rows), bystander_after here⟩
  · intro answer left now none
    exact rest answer left now (List.eq_nil_iff_forall_not_mem.mpr none)

theorem keeps_adds {Result : Type} {sql : Sql Result}
    {wrap : Result × Transaction → ContactAnswer} {transaction : Transaction}
    (writes : sql.Writes ownerId (Write.Sparing ownerId targets)) (empty : transaction.log = [])
    (spares : tag.changesBlocks ownerId = false) (reads : tag ≠ .getBlockList ownerId)
    (reader : Reader ownerId targets index tag since scene) :
    Keeps (storesFresh ownerId) (Listed ownerId) index tag
      (sql transaction >>= fun result => pure (wrap result)) scene := by
  refine keeps_along (fun _ now here meanwhile listed => reader_later here meanwhile listed.orderly)
    ?_ (writes transaction ?_) (fun _ _ _ _ => trivial) reader
  · intro now label effect outcome here tagged running listed _ acting
    have bystander : Bystander ownerId index tag since now :=
      ⟨here.opened, here.started, spares, reads⟩
    exact ⟨listed_after listed running here.opened
      (fitting_acting tagged bystander acting fun _ => here.knowing),
      reader_after here.knowing here.opened here.started running⟩
  · rw [empty]
    exact fun _ member => nomatch member

theorem keeps_addContact {command : AddContactCommand}
    (found : scene.opened[index]? = some ⟨.addContact command, since⟩)
    (started : since ≤ scene.history.length) :
    Keeps (storesFresh command.ownerId) (Listed command.ownerId) index (.addContact command)
      (Command.handle services (.addContact command)) scene := by
  rw [Command.handle, Command.sql, handler_map, addContact]
  have bystander : Bystander command.ownerId index (.addContact command) since scene :=
    ⟨found, started, rfl, nofun⟩
  refine keeps_check fun _ _ => ?_
  refine keeps_asks (writes_contactTarget command) rfl bystander fun profile left now empty here => ?_
  refine keeps_check fun profile _ => ?_
  refine keeps_check fun _ _ => ?_
  refine keeps_getBlockList (addFrom services command profile) _ empty here.opened here.started rfl
    nofun fun read left now empty reader => ?_
  exact keeps_adds (writes_addFrom fun _ => List.Subset.refl read) empty rfl nofun reader

theorem keeps_importContacts {command : ImportContactsCommand}
    (found : scene.opened[index]? = some ⟨.importContacts command, since⟩)
    (started : since ≤ scene.history.length) :
    Keeps (storesFresh command.ownerId) (Listed command.ownerId) index (.importContacts command)
      (Command.handle services (.importContacts command)) scene := by
  rw [Command.handle, Command.sql, handler_map, importContacts]
  have bystander : Bystander command.ownerId index (.importContacts command) since scene :=
    ⟨found, started, rfl, nofun⟩
  refine keeps_check fun _ _ => ?_
  refine keeps_check fun _ _ => ?_
  refine keeps_check fun hashed _ => ?_
  refine keeps_asks (writes_consumeQuota _ _) rfl bystander fun granted left now empty here => ?_
  refine keeps_check fun _ _ => ?_
  refine keeps_asks (writes_resolve _) empty here fun resolved left now empty here => ?_
  refine keeps_getBlockList (importFrom services command hashed.1 hashed.2 resolved) _ empty
    here.opened here.started rfl nofun fun read left now empty reader => ?_
  exact keeps_adds (writes_importFrom fun _ => List.Subset.refl read) empty rfl nofun reader

end Adding

section Runs

variable {scene : Books}

theorem listed_opening (listed : Listed ownerId scene) (tagged : scene.Tagged) (tag : Command) :
    Listed ownerId (scene.opening tag) := by
  have known {before after : List BookEntry} {entry : BookEntry} {task : Opened Command}
      (same : scene.history = before ++ entry :: after)
      (found : (scene.opening tag).opened[entry.index]? = some task) :
      scene.opened[entry.index]? = some task := by
    have member : entry ∈ scene.history := by
      rw [same]
      exact List.mem_append_right _ List.mem_cons_self
    obtain ⟨_, _, old⟩ := tagged entry member
    rw [Scene.opening, List.getElem?_append_left (List.getElem?_eq_some_iff.mp old).1] at found
    exact found
  refine { listed with blocked := ?_, sound := ⟨?_, ?_⟩ }
  · intro before entry after same other start targetId answer opened
    exact listed.blocked before entry after same other start targetId answer (known same opened)
  · intro before entry after same since targets opened
    exact listed.sound.returns before entry after same since targets (known same opened)
  · intro before entry after same other since contactId opened adds absent created settled blocking
      member blocked start answer begun
    have early : blocking ∈ (scene.opening tag).history := by
      rw [same]
      exact List.mem_append_left _ (List.mem_of_mem_take member)
    obtain ⟨front, back, split⟩ := List.append_of_mem early
    exact listed.sound.creates before entry after same other since contactId (known same opened) adds
      absent created settled blocking member blocked start answer (known split begun)

theorem keeps_handle (tagged : scene.Tagged) (tag : Command) :
    Keeps (storesFresh ownerId) (Listed ownerId) scene.opened.length tag (tag.handle services)
      (scene.opening tag) := by
  have found : (scene.opening tag).opened[scene.opened.length]? =
      some ⟨tag, scene.history.length⟩ := List.getElem?_concat_length
  have started : scene.history.length ≤ (scene.opening tag).history.length := Nat.le_refl _
  have unchanging : Unchanging ownerId scene.opened.length tag scene.history.length
      (scene.opening tag) := by
    refine ⟨found, started, ?_⟩
    rintro ⟨entry, member, mine, _⟩
    have own := Scene.mem_own.mpr ⟨member, mine⟩
    rw [Scene.own_opening tagged] at own
    cases own
  by_cases concerns : tag.concerns ownerId = true
  · cases tag with
    | addContact command =>
        cases beq_iff_eq.mp concerns
        exact keeps_addContact found started
    | importContacts command =>
        cases beq_iff_eq.mp concerns
        exact keeps_importContacts found started
    | blockUser command => exact keeps_blockUser (beq_iff_eq.mp concerns) unchanging
    | unblockUser command => exact keeps_unblockUser (beq_iff_eq.mp concerns) unchanging
    | getBlockList userId =>
        cases beq_iff_eq.mp concerns
        exact keeps_reads found started
    | removeContact _ | updateContact _ | registerUserIdentifier _ _ | elapse _ => cases concerns
  · exact keeps_unconcerned (Bool.eq_false_iff.mpr concerns) found started

/-- The cached list is that of the rows. -/
def World.FreshList (ownerId : UserId) (world : World) : Prop :=
  ∀ targets, world.cachedBlockList ownerId = some targets →
    ∀ targetId, targetId ∈ targets ↔ world.db.Blocks ownerId targetId

theorem listed_initial {world : World} (fresh : world.FreshList ownerId) :
    Listed ownerId ⟨world, [], []⟩ where
  orderly := Scene.earlier_nil
  connected := fun _ _ found => nomatch found
  lasting := fun _ member => nomatch member
  rising := fun _ member => nomatch member
  cache := fun targets cached => ⟨0, Nat.le_refl _, fresh targets cached, List.Pairwise.nil⟩
  deletes := fun before _ _ same => absurd same.symm (List.append_ne_nil_of_right_ne_nil before nofun)
  blocked := Scene.earlier_nil
  sound := ⟨Scene.earlier_nil, Scene.earlier_nil⟩

theorem lists_of_fresh {world : World} {final : Site World Op Command ContactError ContactAnswer}
    (fresh : world.FreshList ownerId)
    (run : Runs (Command.handle services) (storesFresh ownerId) ⟨⟨world, [], []⟩, []⟩ final) :
    ListsSound ownerId final.toScene := by
  have opened : ∀ scene tag, scene.Tagged → Listed ownerId scene →
      (storesFresh ownerId).Opens scene tag → Listed ownerId (scene.opening tag) ∧
        Keeps (storesFresh ownerId) (Listed ownerId) scene.opened.length tag
          (Command.handle services tag) (scene.opening tag) := by
    intro scene tag tagged listed _
    exact ⟨listed_opening listed tagged tag, keeps_handle tagged tag⟩
  exact (run.keeps opened (kept_initial (listed_initial fresh))).inv.sound

end Runs

section Example

instance (ownerId : UserId) : DecidablePred (IsChange ownerId) := fun _ =>
  inferInstanceAs (Decidable (_ ∧ _))

instance (ownerId : UserId) (entries : List BookEntry) : Decidable (Undeleted ownerId entries) :=
  inferInstanceAs (Decidable (List.Pairwise _ _))

instance (ownerId : UserId) (since : Nat) (history : List BookEntry) :
    Decidable (Quiet ownerId since history) :=
  inferInstanceAs (Decidable (∀ entry ∈ history, entry.tag.changesBlocks ownerId = true →
    ∃ ending ∈ history.take since, ending.index = entry.index ∧ ending.outcome.isSome))

def storesFreshCheck (ownerId : UserId) (scene : Books) (index : Nat) (_ : Command) (label : Op)
    (_ : World → World) : Bool :=
  label != .setBlockList ownerId || scene.history.tails.all fun
    | [] => true
    | read :: after => !(read.index == index && read.label == .allTargetIds ownerId) ||
        decide (Undeleted ownerId after)

theorem storesFreshCheck_sound {index : Nat} {tag : Command} {label : Op} {effect : World → World}
    {scene : Books} (passed : storesFreshCheck ownerId scene index tag label effect = true) :
    (storesFresh ownerId).Acts scene index tag label effect := by
  rintro rfl before read after same mine reads
  simp only [storesFreshCheck, bne_self_eq_false, Bool.false_or, List.all_eq_true] at passed
  have suffix : read :: after ∈ scene.history.tails :=
    (List.mem_tails _ _).mpr ⟨before, same.symm⟩
  simpa [mine, reads] using passed _ suffix

def blockingMoves : List (Move Command) :=
  [.start (.getBlockList 1), .exec 0, .exec 0, .exec 0,
    .start (.blockUser { ownerId := 1, targetId := 2 }), .exec 1, .exec 1, .exec 1, .exec 1,
    .start (.getBlockList 1), .exec 2, .exec 2, .exec 2]

def blockingSite : Option (Site World Op Command ContactError ContactAnswer) :=
  Site.steps (Command.handle plainServices) (fun _ _ => true) (storesFreshCheck 1)
    ⟨⟨twoProfiles, [], []⟩, []⟩ blockingMoves

theorem freshList_empty {world : World} (none : world.blockLists = fun _ => none) :
    world.FreshList ownerId := by
  intro targets cached
  rw [World.cachedBlockList, none] at cached
  cases cached

theorem lists_after_blocking : ∃ final, blockingSite = some final ∧
    final.history.filterMap Entry.outcome =
      [.ok (.blockList []), .ok .none, .ok (.blockList [2])] ∧ ListsSound 1 final.toScene := by
  have outcomes : blockingSite.map (fun site => site.history.filterMap Entry.outcome) =
      some [.ok (.blockList []), .ok .none, .ok (.blockList [2])] := by decide +kernel
  obtain ⟨final, reached, same⟩ := Option.map_eq_some_iff.mp outcomes
  have run : Runs (Command.handle plainServices) (storesFresh 1) ⟨⟨twoProfiles, [], []⟩, []⟩ final :=
    runs_of_steps blockingMoves (fun _ _ _ => trivial)
      (fun _ _ _ _ _ => storesFreshCheck_sound) .refl reached
  exact ⟨final, reached, same, lists_of_fresh (freshList_empty rfl) run⟩

def lateMoves : List (Move Command) :=
  [.start (.getBlockList 1), .exec 0, .exec 0,
    .start (.blockUser { ownerId := 1, targetId := 2 }), .exec 1, .exec 1, .exec 1, .exec 1,
    .exec 0, .start (.getBlockList 1), .exec 2]

def lateSite : Option (Site World Op Command ContactError ContactAnswer) :=
  Site.steps (Command.handle plainServices) (fun _ _ => true) (fun _ _ _ _ _ => true)
    ⟨⟨twoProfiles, [], []⟩, []⟩ lateMoves

/-- The next call gets the list without the blocked user. -/
theorem blocked_unlisted : ¬∀ (services : Services) (ownerId : UserId) (world : World)
    (final : Site World Op Command ContactError ContactAnswer), world.FreshList ownerId →
      Runs (Command.handle services) {} ⟨⟨world, [], []⟩, []⟩ final →
        ListsSound ownerId final.toScene := by
  intro always
  have found : lateSite.map (fun site => (site.opened[2]?, (site.history[7]?).map fun entry =>
      (entry.index, decide (entry.outcome = some (.ok (.blockList []))),
        (entry.after.db.blocked.find? (1, 2)).isSome,
          decide (Quiet 1 7 (site.history.take 7))))) =
      some (some ⟨.getBlockList 1, 7⟩, some (2, true, true, true)) := by
    decide +kernel
  obtain ⟨final, reached, same⟩ := Option.map_eq_some_iff.mp found
  obtain ⟨opened, last⟩ := Prod.mk.inj same
  obtain ⟨entry, at7, rest⟩ := Option.map_eq_some_iff.mp last
  obtain ⟨mine, outcome, there, quiet⟩ :
      entry.index = 2 ∧ entry.outcome = some (.ok (.blockList [])) ∧
        (entry.after.db.blocked.find? (1, 2)).isSome = true ∧
          Quiet 1 7 (final.history.take 7) := by
    simpa only [Prod.mk.injEq, decide_eq_true_eq] using rest
  have sound := always plainServices 1 twoProfiles final (freshList_empty rfl)
    (runs_of_steps lateMoves (fun _ _ _ => trivial) (fun _ _ _ _ _ _ => trivial) .refl reached)
  obtain ⟨bound, value⟩ := List.getElem?_eq_some_iff.mp at7
  have split : final.history = final.history.take 7 ++ entry :: final.history.drop 8 := by
    rw [← value, List.getElem_cons_drop, List.take_append_drop]
  have listed := sound.returns _ _ _ split 7 [] (by rw [mine]; exact opened) outcome
    quiet 2
  exact List.not_mem_nil (listed.mpr there)

end Example

end Messanger.Contacts
