import Mathlib.Data.List.Induction
import Messanger.Contacts.QueriesCore

/-!
A client that copies an address book while it changes.  What a row misses is decided by stamps: a
row is sent again if it is not older than the version, so a change is lost when it is committed
with an older stamp, or when it comes after its page and before a newer row sets the version.
-/

namespace Messanger.Contacts

open Relational Processes

variable {services : Services} {ownerId : UserId}

section Pages

variable {db : Db} {limit : Nat} {afterContactId : Option UserId} {updatedAfter : Option Nat}
  {row : UserContact} {contactId : UserId}

theorem pageLimit_pos (limit : Int) : 0 < pageLimit limit := by
  simp only [pageLimit, contactsMaxPageSize]
  omega

def Db.listed (db : Db) (ownerId : UserId) (afterContactId : Option UserId)
    (updatedAfter : Option Nat) : List UserContact :=
  db.contacts.select fun row => row.ownerId == ownerId &&
    afterContactId.all (fun bound => decide (bound < row.contactId)) &&
    updatedAfter.all (fun bound => decide (bound ≤ row.updatedAt))

theorem mem_listed : row ∈ db.listed ownerId afterContactId updatedAfter ↔
    db.contact? ownerId row.contactId = some row ∧
      (∀ bound, afterContactId = some bound → bound < row.contactId) ∧
      ∀ bound, updatedAfter = some bound → bound ≤ row.updatedAt := by
  have found : db.contact? ownerId row.contactId = some row ↔
      row ∈ db.contacts.rows ∧ row.ownerId = ownerId := by
    rw [Db.contact?, Table.find?_some_iff, UserContact.key, Prod.mk.injEq]
    simp
  rw [found, Db.listed, Table.select, List.mem_filter]
  simp only [Bool.and_eq_true, beq_iff_eq, Option.all_eq_true, decide_eq_true_eq]
  tauto

theorem nodup_listed :
    ((db.listed ownerId afterContactId updatedAfter).map UserContact.contactId).Nodup := by
  refine List.Nodup.map_on ?_
    ((List.Nodup.of_map _ db.contacts.unique).sublist List.filter_sublist)
  intro left leftMember right rightMember same
  have leftFound := (mem_listed.mp leftMember).1
  rw [same, (mem_listed.mp rightMember).1] at leftFound
  exact (Option.some.inj leftFound).symm

def Db.ordered (db : Db) (ownerId : UserId) (afterContactId : Option UserId)
    (updatedAfter : Option Nat) : List UserContact :=
  Keyset.newest (fun row => OrderDual.toDual row.contactId)
    (db.listed ownerId afterContactId updatedAfter)

theorem mem_ordered : row ∈ db.ordered ownerId afterContactId updatedAfter ↔
    row ∈ db.listed ownerId afterContactId updatedAfter := Keyset.mem_newest

theorem ordered_falling : Keyset.Falling (fun row : UserContact => OrderDual.toDual row.contactId)
    (db.ordered ownerId afterContactId updatedAfter) := Keyset.newest_falling nodup_listed

theorem listPage_eq : db.listPage ownerId limit afterContactId updatedAfter =
    ((db.ordered ownerId afterContactId updatedAfter).take limit,
      decide (limit < (db.ordered ownerId afterContactId updatedAfter).length)) := by
  have sorted : ((db.listed ownerId afterContactId updatedAfter).insertionSort
      fun left right => left.contactId ≤ right.contactId) =
        db.ordered ownerId afterContactId updatedAfter := rfl
  unfold Db.listPage
  rw [← Db.listed, sorted]
  simp only [List.take_take, List.length_take, Prod.mk.injEq, decide_eq_decide]
  constructor
  · rw [Nat.min_eq_left (Nat.le_succ limit)]
  · omega

def covers (page : List UserContact × Bool) (afterContactId : Option UserId)
    (contactId : UserId) : Bool :=
  afterContactId.all (fun bound => decide (bound < contactId)) &&
    (!page.2 || page.1.getLast?.any fun last => decide (contactId ≤ last.contactId))

theorem mem_listPage (member : row ∈ (db.listPage ownerId limit afterContactId updatedAfter).1) :
    db.contact? ownerId row.contactId = some row := by
  rw [listPage_eq] at member
  exact (mem_listed.mp (mem_ordered.mp (List.mem_of_mem_take member))).1

theorem listPage_covers (found : db.contact? ownerId contactId = some row)
    (fresh : ∀ bound, updatedAfter = some bound → bound ≤ row.updatedAt)
    (covered : covers (db.listPage ownerId limit afterContactId updatedAfter) afterContactId
      contactId = true) :
    row ∈ (db.listPage ownerId limit afterContactId updatedAfter).1 ∧ row.contactId = contactId := by
  have mine : row.contactId = contactId := by
    have key : row.key = (ownerId, contactId) := Table.key_of_find? found
    exact congrArg Prod.snd key
  subst mine
  refine ⟨?_, rfl⟩
  rw [listPage_eq] at covered ⊢
  simp only [covers, Bool.and_eq_true, Option.all_eq_true, decide_eq_true_eq, Bool.or_eq_true,
    Bool.not_eq_true', decide_eq_false_iff_not, Option.any_eq_true] at covered
  have member := mem_ordered.mpr (mem_listed.mpr ⟨found, covered.1, fresh⟩)
  rcases covered.2 with short | ⟨last, ends, upper⟩
  · rw [List.take_of_length_le (Nat.le_of_not_lt short)]
    exact member
  · exact Keyset.mem_front ordered_falling ends member upper

theorem listPage_last (positive : 0 < limit)
    (more : (db.listPage ownerId limit afterContactId updatedAfter).2 = true) :
    ∃ last, (db.listPage ownerId limit afterContactId updatedAfter).1.getLast? = some last := by
  rw [listPage_eq] at more ⊢
  refine ⟨_, List.getLast?_eq_some_getLast fun none => ?_⟩
  rcases List.take_eq_nil_iff.mp none with zero | empty
  · omega
  · rw [empty, decide_eq_true_eq] at more
    exact Nat.not_lt_zero _ more

end Pages

section Copies

variable {rows page : List UserContact} {row : UserContact} {contactId : UserId}

theorem rowOf_cons : rowOf (row :: rows.filter fun old => old.contactId ≠ row.contactId) contactId =
    if row.contactId = contactId then some row else rowOf rows contactId := by
  by_cases mine : row.contactId = contactId
  · simp [rowOf, mine]
  · rw [if_neg mine, rowOf, List.find?_cons_of_neg (by simpa using mine), List.find?_filter, rowOf]
    refine congrArg (fun wanted => rows.find? wanted) (funext fun old => ?_)
    by_cases same : old.contactId = contactId
    · simp [same, Ne.symm mine]
    · simp [same]

theorem rowOf_mergeRows (same : ∀ other ∈ page, other.contactId = contactId → other = row)
    (there : row ∈ page ∧ row.contactId = contactId ∨ rowOf rows contactId = some row) :
    rowOf (mergeRows rows page) contactId = some row := by
  induction page generalizing rows with
  | nil =>
      rcases there with ⟨member, _⟩ | kept
      · cases member
      · exact kept
  | cons first rest ih =>
      have later : ∀ other ∈ rest, other.contactId = contactId → other = row :=
        fun other member => same other (List.mem_cons_of_mem _ member)
      refine ih later ?_
      by_cases mine : first.contactId = contactId
      · right
        rw [rowOf_cons, if_pos mine, same first List.mem_cons_self mine]
      · rw [rowOf_cons, if_neg mine]
        rcases there with ⟨member, here⟩ | kept
        · rcases List.mem_cons.mp member with rfl | inside
          · exact absurd here mine
          · exact .inl ⟨inside, here⟩
        · exact .inr kept

end Copies

abbrev SyncEntry := Entry World Op Party ContactError PartyAnswer

abbrev SyncScene := Scene World Op Party ContactError PartyAnswer

def Party.isClient : Party → Bool
  | .client _ _ _ => true
  | .command _ => false

/-- How far the client has come: its copy, the contacts whose page it has read in the pass under way,
and those of them that have changed since. -/
structure Reading where
  copy : Copy := {}
  read : UserId → Bool := fun _ => false
  stale : UserId → Bool := fun _ => false

namespace Reading

variable (ownerId : UserId) (reading : Reading)

def touched (before after : Db) : Reading :=
  { reading with
    stale := fun contactId => reading.stale contactId || (reading.read contactId &&
      decide (after.contact? ownerId contactId ≠ before.contact? ownerId contactId)) }

def paged (page : List UserContact × Bool) (afterContactId : Option UserId) : Reading :=
  { reading with
    copy := { reading.copy with rows := mergeRows reading.copy.rows page.1 }
    read := fun contactId => reading.read contactId || covers page afterContactId contactId }

def ended (version : Option Nat) : Reading := { copy := { reading.copy with version := version } }

def next (reader : Nat) (reading : Reading) (entry : SyncEntry) : Reading :=
  if entry.index = reader ∧ entry.tag.isClient = true then
    match entry.label with
    | .listPage userId limit afterContactId updatedAfter =>
        if userId = ownerId then
          reading.paged (entry.before.db.listPage userId limit afterContactId updatedAfter)
            afterContactId
        else reading
    | .maxUpdatedAt userId =>
        if userId = ownerId then reading.ended (entry.before.db.maxUpdatedAt userId) else reading
    | _ => reading
  else reading.touched ownerId entry.before.db entry.after.db

def after (reader : Nat) (history : List SyncEntry) : Reading :=
  history.foldl (next ownerId reader) {}

end Reading

/-- No change comes too late for the client.  A transaction changes a row whose page has not been
read in the pass under way only with a stamp that is not older than the client's version, and when
a pass ends no row that has changed since its page is older than the newest. -/
def keepsUp (reader : Nat) (ownerId : UserId) : Terms World Op Party ContactError PartyAnswer where
  Acts scene index _ label effect :=
    (label = .commit → ∀ contactId row,
      (effect scene.world).db.contact? ownerId contactId = some row →
        scene.world.db.contact? ownerId contactId ≠ some row →
          (Reading.after ownerId reader scene.history).read contactId = true ∨
            ∀ version, (Reading.after ownerId reader scene.history).copy.version = some version →
              version ≤ row.updatedAt) ∧
    (index = reader → label = .maxUpdatedAt ownerId → ∀ contactId row,
      scene.world.db.contact? ownerId contactId = some row →
        (Reading.after ownerId reader scene.history).stale contactId = true →
          ∀ newest, scene.world.db.maxUpdatedAt ownerId = some newest → newest ≤ row.updatedAt)

def StartsPass (ownerId : UserId) (label : Op) : Prop :=
  ∃ limit updatedAfter, label = .listPage ownerId limit none updatedAfter

/-- When the task of that number ends with a copy, after a pass during which nothing has changed, the
copy has each row that exists. -/
def SyncedBy (reader : Nat) (ownerId : UserId) (opened : List (Opened Party))
    (before : List SyncEntry) (entry : SyncEntry) : Prop :=
  ∀ client requests passes since copy,
    opened[reader]? = some ⟨.client client requests passes, since⟩ → client.ownerId = ownerId →
      entry.index = reader → entry.outcome = some (.ok (.copy copy)) →
        ∀ early (first : SyncEntry) late, before = early ++ first :: late → first.index = reader →
          StartsPass ownerId first.label →
            (∀ other ∈ first :: late, ∀ contactId, other.after.db.contact? ownerId contactId =
              other.before.db.contact? ownerId contactId) →
              ∀ contactId row, entry.after.db.contact? ownerId contactId = some row →
                rowOf copy.rows contactId = some row

def Synced (reader : Nat) (ownerId : UserId) (scene : SyncScene) : Prop :=
  Scene.Earlier (SyncedBy reader ownerId scene.opened) scene.history

section Readings

variable {reading : Reading} {db before after : Db} {contactId : UserId} {row : UserContact}

/-- What each row is to the client: it has it, or it has missed a change, or the row is still to be
read and not older than the version. -/
def Reading.Good (ownerId : UserId) (reading : Reading) (db : Db) : Prop :=
  ∀ contactId row, db.contact? ownerId contactId = some row →
    rowOf reading.copy.rows contactId = some row ∨ reading.stale contactId = true ∨
      (reading.read contactId = false ∧
        ∀ version, reading.copy.version = some version → version ≤ row.updatedAt)

theorem good_touched (good : reading.Good ownerId before)
    (intime : ∀ contactId row, after.contact? ownerId contactId = some row →
      before.contact? ownerId contactId ≠ some row → reading.read contactId = true ∨
        ∀ version, reading.copy.version = some version → version ≤ row.updatedAt) :
    (reading.touched ownerId before after).Good ownerId after := by
  intro contactId row there
  by_cases same : before.contact? ownerId contactId = some row
  · rcases good contactId row same with kept | stale | pending
    · exact .inl kept
    · exact .inr (.inl (by simp [Reading.touched, stale]))
    · exact .inr (.inr pending)
  · have changed : after.contact? ownerId contactId ≠ before.contact? ownerId contactId := by
      rw [there]
      exact Ne.symm same
    cases read : reading.read contactId with
    | true => exact .inr (.inl (by simp [Reading.touched, read, changed]))
    | false =>
        rcases intime contactId row there same with yes | newer
        · rw [read] at yes
          cases yes
        · exact .inr (.inr ⟨read, newer⟩)

theorem good_paged {limit : Nat} {afterContactId updatedAfter : Option Nat}
    (good : reading.Good ownerId db) (version : reading.copy.version = updatedAfter) :
    (reading.paged (db.listPage ownerId limit afterContactId updatedAfter)
      afterContactId).Good ownerId db := by
  intro contactId row there
  have same : ∀ other ∈ (db.listPage ownerId limit afterContactId updatedAfter).1,
      other.contactId = contactId → other = row := by
    rintro other member rfl
    exact Option.some.inj ((mem_listPage member).symm.trans there)
  rcases good contactId row there with kept | stale | ⟨unread, newer⟩
  · exact .inl (rowOf_mergeRows same (.inr kept))
  · exact .inr (.inl stale)
  · cases covered : covers (db.listPage ownerId limit afterContactId updatedAfter) afterContactId
        contactId with
    | true =>
        rw [version] at newer
        exact .inl (rowOf_mergeRows same (.inl (listPage_covers there newer covered)))
    | false => exact .inr (.inr ⟨by simp [Reading.paged, unread, covered], newer⟩)

theorem good_ended {version : Option Nat} (good : reading.Good ownerId db)
    (all : ∀ contactId, reading.read contactId = true)
    (intime : ∀ contactId row, db.contact? ownerId contactId = some row →
      reading.stale contactId = true → ∀ newest, version = some newest → newest ≤ row.updatedAt) :
    (reading.ended version).Good ownerId db := by
  intro contactId row there
  rcases good contactId row there with kept | stale | ⟨unread, _⟩
  · exact .inl kept
  · exact .inr (.inr ⟨rfl, intime contactId row there stale⟩)
  · rw [all] at unread
    cases unread

end Readings

section Following

variable {reader : Nat} {scene now : SyncScene} {index since : Nat} {tag : Party} {label : Op}
  {effect : World → World} {outcome : Option (Except ContactError PartyAnswer)}

def Reading.Untouched (reading : Reading) : Prop :=
  ∀ contactId, reading.read contactId = false ∧ reading.stale contactId = false

structure Followed (reader : Nat) (ownerId : UserId) (scene : SyncScene) : Prop where
  good : (Reading.after ownerId reader scene.history).Good ownerId scene.world.db
  begins : Scene.Earlier (fun before entry => entry.index = reader → StartsPass ownerId entry.label →
    entry.tag.isClient = true → (Reading.after ownerId reader before).Untouched) scene.history
  sound : Synced reader ownerId scene

theorem after_concat (history : List SyncEntry) (entry : SyncEntry) :
    Reading.after ownerId reader (history ++ [entry]) =
      (Reading.after ownerId reader history).next ownerId reader entry := by
  rw [Reading.after, List.foldl_append]
  rfl

theorem followed_after (followed : Followed reader ownerId now)
    (good : ((Reading.after ownerId reader now.history).next ownerId reader
      ⟨index, tag, label, now.world, effect now.world, outcome⟩).Good ownerId (effect now.world).db)
    (begins : index = reader → StartsPass ownerId label → tag.isClient = true →
      (Reading.after ownerId reader now.history).Untouched)
    (sound : SyncedBy reader ownerId now.opened now.history
      ⟨index, tag, label, now.world, effect now.world, outcome⟩) :
    Followed reader ownerId (now.after index tag label effect outcome) where
  good := by
    change (Reading.after ownerId reader (now.history ++ [_])).Good ownerId _
    rw [after_concat]
    exact good
  begins := Scene.earlier_concat followed.begins begins
  sound := Scene.earlier_concat followed.sound sound

theorem followed_other (followed : Followed reader ownerId now)
    (found : now.opened[index]? = some ⟨tag, since⟩)
    (other : ¬(index = reader ∧ tag.isClient = true))
    (kept : label = .commit ∨ ∀ world, (effect world).db = world.db)
    (acts : (keepsUp reader ownerId).Acts now index tag label effect) :
    Followed reader ownerId (now.after index tag label effect outcome) := by
  refine followed_after followed ?_ ?_ ?_
  · rw [Reading.next, if_neg other]
    refine good_touched followed.good fun contactId row there changed => ?_
    rcases kept with commits | same
    · exact acts.1 commits contactId row there changed
    · rw [same] at there
      exact absurd there changed
  · exact fun mine _ client => absurd ⟨mine, client⟩ other
  · rintro client requests passes start copy opened _ mine
    have mine : index = reader := mine
    rw [mine, opened] at found
    cases found
    exact absurd ⟨mine, rfl⟩ other

structure Reading.Later (reading later : Reading) : Prop where
  copy : later.copy = reading.copy
  read : later.read = reading.read
  stale : ∀ contactId, reading.read contactId = false →
    later.stale contactId = reading.stale contactId

theorem reading_later {history more : List SyncEntry}
    (others : ∀ entry ∈ more, entry.index ≠ reader) :
    (Reading.after ownerId reader history).Later
      (Reading.after ownerId reader (history ++ more)) := by
  induction more using List.reverseRecOn with
  | nil =>
      rw [List.append_nil]
      exact ⟨rfl, rfl, fun _ _ => rfl⟩
  | append_singleton rest last ih =>
      have before := ih fun entry member => others entry (List.mem_append_left _ member)
      have other : ¬(last.index = reader ∧ last.tag.isClient = true) := fun mine =>
        others last (List.mem_append_right _ (List.mem_singleton_self _)) mine.1
      rw [← List.append_assoc, after_concat, Reading.next, if_neg other]
      refine ⟨before.copy, before.read, fun contactId unread => ?_⟩
      simp [Reading.touched, before.read, unread, before.stale contactId unread]

theorem untouched_quiet {reading : Reading} {entry : SyncEntry}
    (fresh : ∀ contactId, reading.stale contactId = false)
    (quiet : ∀ contactId, entry.after.db.contact? ownerId contactId =
      entry.before.db.contact? ownerId contactId) :
    ∀ contactId, (reading.next ownerId reader entry).stale contactId = false := by
  intro contactId
  rw [Reading.next]
  split
  · split
    · split
      · exact fresh contactId
      · exact fresh contactId
    · split
      · rfl
      · exact fresh contactId
    · exact fresh contactId
  · simp [Reading.touched, fresh contactId, quiet contactId]

theorem fresh_quiet {history more : List SyncEntry}
    (fresh : ∀ contactId, (Reading.after ownerId reader history).stale contactId = false)
    (quiet : ∀ entry ∈ more, ∀ contactId, entry.after.db.contact? ownerId contactId =
      entry.before.db.contact? ownerId contactId) :
    ∀ contactId, (Reading.after ownerId reader (history ++ more)).stale contactId = false := by
  induction more using List.reverseRecOn with
  | nil =>
      rw [List.append_nil]
      exact fresh
  | append_singleton rest last ih =>
      rw [← List.append_assoc, after_concat]
      refine untouched_quiet (ih fun entry member => quiet entry (List.mem_append_left _ member)) ?_
      exact quiet last (List.mem_append_right _ (List.mem_singleton_self _))

section Client

variable {client : Client} {requests passes : Nat} {copy : Copy} {rows : List UserContact}
  {afterContactId updatedAfter : Option Nat}

structure Standing (reader : Nat) (ownerId : UserId) (tag : Party) (since : Nat) (copy : Copy)
    (known : UserId → Prop) (scene : SyncScene) : Prop where
  opened : scene.opened[reader]? = some ⟨tag, since⟩
  copy : (Reading.after ownerId reader scene.history).copy = copy
  read : ∀ contactId, known contactId →
    (Reading.after ownerId reader scene.history).read contactId = true

theorem Standing.later {known : UserId → Prop}
    (standing : Standing reader ownerId tag since copy known scene)
    (meanwhile : scene.Meanwhile reader now) :
    Standing reader ownerId tag since copy known now := by
  have opened := meanwhile.opened standing.opened
  obtain ⟨_, more, history, others⟩ := meanwhile
  have later : (Reading.after ownerId reader scene.history).Later
      (Reading.after ownerId reader now.history) := history ▸ reading_later others
  refine ⟨opened, later.copy.trans standing.copy, fun contactId old => ?_⟩
  rw [later.read]
  exact standing.read contactId old

structure AtPage (reader : Nat) (ownerId : UserId) (tag : Party) (since : Nat) (copy : Copy)
    (afterContactId : Option UserId) (scene : SyncScene) : Prop where
  standing : Standing reader ownerId tag since copy
    (fun contactId => ∃ bound, afterContactId = some bound ∧ contactId ≤ bound) scene
  fresh : afterContactId = none → (Reading.after ownerId reader scene.history).Untouched

theorem AtPage.later (here : AtPage reader ownerId tag since copy afterContactId scene)
    (meanwhile : scene.Meanwhile reader now) :
    AtPage reader ownerId tag since copy afterContactId now := by
  refine ⟨here.standing.later meanwhile, fun first contactId => ?_⟩
  obtain ⟨_, more, history, others⟩ := meanwhile
  have later : (Reading.after ownerId reader scene.history).Later
      (Reading.after ownerId reader now.history) := history ▸ reading_later others
  obtain ⟨unread, unchanged⟩ := here.fresh first contactId
  exact ⟨by rw [later.read, unread], by rw [later.stale contactId unread, unchanged]⟩

theorem reading_paged (limit : Nat) (requests passes : Nat) (client : Client) (world after : World)
    (history : List SyncEntry) :
    (Reading.after ownerId reader history).next ownerId reader
      ⟨reader, .client client requests passes, .listPage ownerId limit afterContactId updatedAfter,
        world, after, outcome⟩ =
      (Reading.after ownerId reader history).paged
        (world.db.listPage ownerId limit afterContactId updatedAfter) afterContactId := by
  rw [Reading.next, if_pos ⟨rfl, rfl⟩]
  exact if_pos rfl

theorem reading_ended (requests passes : Nat) (client : Client) (world after : World)
    (history : List SyncEntry) :
    (Reading.after ownerId reader history).next ownerId reader
      ⟨reader, .client client requests passes, .maxUpdatedAt ownerId, world, after, outcome⟩ =
      (Reading.after ownerId reader history).ended (world.db.maxUpdatedAt ownerId) := by
  rw [Reading.next, if_pos ⟨rfl, rfl⟩]
  exact if_pos rfl

theorem followed_page (followed : Followed reader client.ownerId now)
    (here : AtPage reader client.ownerId (.client client requests passes) since
      ⟨rows, updatedAfter⟩ afterContactId now) (limit : Nat)
    (goes : ∀ answer, outcome ≠ some (.ok answer)) :
    Followed reader client.ownerId (now.after reader (.client client requests passes)
      (.listPage client.ownerId limit afterContactId updatedAfter) id outcome) := by
  refine followed_after followed ?_ ?_ ?_
  · rw [reading_paged]
    exact good_paged followed.good (congrArg Copy.version here.standing.copy)
  · rintro _ ⟨_, _, same⟩ _
    cases same
    exact here.fresh rfl
  · intro _ _ _ _ copy _ _ _ answered
    exact absurd answered (goes (.copy copy))

theorem AtPage.read_paged {limit : Nat}
    (here : AtPage reader client.ownerId (.client client requests passes) since
      ⟨rows, updatedAfter⟩ afterContactId now)
    (outcome : Option (Except ContactError PartyAnswer)) (positive : 0 < limit) :
    let page := now.world.db.listPage client.ownerId limit afterContactId updatedAfter
    Standing reader client.ownerId (.client client requests passes) since
      ⟨mergeRows rows page.1, updatedAfter⟩
      (fun contactId => page.2 = true → ∃ bound,
        page.1.getLast?.map UserContact.contactId = some bound ∧ contactId ≤ bound)
      (now.after reader (.client client requests passes)
        (.listPage client.ownerId limit afterContactId updatedAfter) id outcome) := by
  intro page
  refine ⟨here.standing.opened, ?_, fun contactId known => ?_⟩
  · rw [Scene.after, after_concat, reading_paged]
    simp only [Reading.paged, here.standing.copy]
    rfl
  · rw [Scene.after, after_concat, reading_paged]
    simp only [Reading.paged, Bool.or_eq_true]
    by_cases past : ∃ bound, afterContactId = some bound ∧ contactId ≤ bound
    · exact .inl (here.standing.read contactId past)
    · right
      simp only [covers, Bool.and_eq_true, Option.all_eq_true, decide_eq_true_eq, Bool.or_eq_true,
        Bool.not_eq_true', Option.any_eq_true]
      refine ⟨fun bound same => Nat.lt_of_not_le fun upper => past ⟨bound, same, upper⟩, ?_⟩
      cases more : page.2 with
      | false => exact .inl rfl
      | true =>
          obtain ⟨last, ends⟩ := listPage_last positive more
          obtain ⟨bound, same, upper⟩ := known more
          rw [ends, Option.map_some, Option.some.injEq] at same
          exact .inr ⟨last, ends, same ▸ upper⟩

theorem followed_end (followed : Followed reader client.ownerId now) (tagged : now.Tagged)
    (standing : Standing reader client.ownerId (.client client requests passes) since copy
      (fun _ => True) now)
    (acts : (keepsUp reader client.ownerId).Acts now reader (.client client requests passes)
      (.maxUpdatedAt client.ownerId) id)
    (answers : ∀ answer, outcome = some (.ok (.copy answer)) → answer.rows = copy.rows) :
    Followed reader client.ownerId (now.after reader (.client client requests passes)
      (.maxUpdatedAt client.ownerId) id outcome) := by
  refine followed_after followed ?_ ?_ ?_
  · rw [reading_ended]
    refine good_ended followed.good (fun contactId => standing.read contactId trivial) ?_
    exact acts.2 rfl rfl
  · rintro _ ⟨_, _, same⟩
    cases same
  · intro other requests passes start answer opened _ _ answered early first late split mine starts
      quiet contactId row there
    obtain ⟨_, _, found⟩ := tagged first (by
      rw [split]
      exact List.mem_append_right _ List.mem_cons_self)
    rw [mine, standing.opened] at found
    have kind : first.tag.isClient = true := by
      rw [← (Opened.mk.inj (Option.some.inj found)).1]
      rfl
    have fresh := fresh_quiet (fun contactId =>
      (followed.begins early first late split mine starts kind contactId).2) quiet
    rw [← split] at fresh
    rw [answers answer answered, ← standing.copy]
    rcases followed.good contactId row there with kept | stale | ⟨unread, _⟩
    · exact kept
    · rw [fresh contactId] at stale
      cases stale
    · rw [standing.read contactId trivial] at unread
      cases unread

theorem atPage_end (standing : Standing reader client.ownerId (.client client requests passes) since
      copy (fun _ => True) now) :
    AtPage reader client.ownerId (.client client requests passes) since
      ⟨copy.rows, now.world.db.maxUpdatedAt client.ownerId⟩ none
      (now.after reader (.client client requests passes) (.maxUpdatedAt client.ownerId) id
        outcome) := by
  refine ⟨⟨standing.opened, ?_, fun _ known => nomatch known⟩, fun _ contactId => ?_⟩
  · rw [Scene.after, after_concat, reading_ended, Reading.ended, standing.copy]
  · rw [Scene.after, after_concat, reading_ended]
    exact ⟨rfl, rfl⟩

theorem readPages_goes {next : Copy → Handler PartyAnswer} (left : Nat) (answer : PartyAnswer) :
    (client.readPages updatedAfter left rows afterContactId >>= next).outcome? ≠
      some (.ok answer) := by
  cases left with
  | zero => exact nofun
  | succ left =>
      rw [Client.readPages, getContacts]
      cases checkContactOwner client.ownerId client.userJwtData with
      | error error => exact nofun
      | ok _ => exact nofun

theorem keeps_readPages {next : Copy → Handler PartyAnswer}
    (answers : ∀ copy answer, (next copy).outcome? = some (.ok (.copy answer)) → answer = copy)
    (rest : ∀ copy now, AtPage reader client.ownerId (.client client requests passes) since copy none
      now → Keeps (keepsUp reader client.ownerId) (Followed reader client.ownerId) reader
        (.client client requests passes) (next copy) now) (left : Nat)
    (here : AtPage reader client.ownerId (.client client requests passes) since ⟨rows, updatedAfter⟩
      afterContactId scene) :
    Keeps (keepsUp reader client.ownerId) (Followed reader client.ownerId) reader
      (.client client requests passes)
      (client.readPages updatedAfter left rows afterContactId >>= next) scene := by
  induction left generalizing rows afterContactId scene with
  | zero => trivial
  | succ left ih =>
      rw [Client.readPages, getContacts]
      cases checkContactOwner client.ownerId client.userJwtData with
      | error error => trivial
      | ok _ =>
      refine keeps_act fun now meanwhile tagged running followed acts => ?_
      have hereNow := here.later meanwhile
      have asked (ended : Option (Except ContactError PartyAnswer))
          (goes : ∀ answer, ended ≠ some (.ok answer)) :=
        followed_page followed hereNow (pageLimit client.limit) goes
      have read (ended : Option (Except ContactError PartyAnswer)) :=
        hereNow.read_paged ended (pageLimit_pos client.limit)
      have ends (more : (now.world.db.listPage client.ownerId (pageLimit client.limit) afterContactId
          updatedAfter).2 = true) := listPage_last (pageLimit_pos client.limit) more
      simp only [applyAll_nil]
      simp only at read
      revert read ends
      generalize now.world.db.listPage client.ownerId (pageLimit client.limit) afterContactId
        updatedAfter = page
      obtain ⟨contacts, hasNext⟩ := page
      intro read ends
      cases hasNext with
      | true =>
          refine ⟨asked _ (readPages_goes left), ih ⟨⟨(read _).opened, (read _).copy, ?_⟩, ?_⟩⟩
          · exact fun contactId known => (read _).read contactId fun _ => known
          · intro none
            obtain ⟨last, same⟩ := ends rfl
            have next : (contacts.getLast?).map UserContact.contactId = Option.none := none
            rw [same] at next
            cases next
      | false =>
          refine ⟨asked _ nofun, ?_⟩
          refine keeps_act fun last later taggedL runningL followedL actsL => ?_
          have whole := (read _).later later
          have standing : Standing reader client.ownerId (.client client requests passes) since
              ⟨mergeRows rows contacts, updatedAfter⟩ (fun _ => True) last :=
            ⟨whole.opened, whole.copy, fun contactId _ => whole.read contactId nofun⟩
          constructor
          · refine followed_end followedL taggedL standing actsL fun answer answered => ?_
            rw [answers _ answer answered]
          · exact rest _ _ (atPage_end standing)

theorem keeps_sync (left : Nat)
    (here : AtPage reader client.ownerId (.client client requests passes) since copy none scene) :
    Keeps (keepsUp reader client.ownerId) (Followed reader client.ownerId) reader
      (.client client requests passes)
      (client.sync requests left copy >>= fun copy => pure (.copy copy)) scene := by
  induction left generalizing copy scene with
  | zero => trivial
  | succ left ih =>
      rw [Client.sync, Process.bind_assoc]
      refine keeps_readPages ?_ (fun copy now => ih) requests here
      intro copy answer ended
      cases left with
      | zero =>
          cases ended
          rfl
      | succ left =>
          rw [Client.sync, Process.bind_assoc] at ended
          exact absurd ended (readPages_goes requests _)

/-- The questions of a client. -/
def Asks (userId : UserId) (label : Op) (effect : World → World) : Prop :=
  effect = id ∧ ((∃ limit afterContactId updatedAfter,
    label = .listPage userId limit afterContactId updatedAfter) ∨ label = .maxUpdatedAt userId)

theorem every_readPages (left : Nat) :
    (client.readPages updatedAfter left rows afterContactId).Every (Asks client.ownerId) := by
  induction left generalizing rows afterContactId with
  | zero => trivial
  | succ left ih =>
      rw [Client.readPages, getContacts]
      cases checkContactOwner client.ownerId client.userJwtData with
      | error error => trivial
      | ok _ =>
      refine ⟨⟨rfl, .inl ⟨_, _, _, rfl⟩⟩, fun world => ?_⟩
      simp only
      generalize Db.listPage _ _ _ _ _ = page
      obtain ⟨contacts, hasNext⟩ := page
      cases hasNext with
      | true => exact ih
      | false => exact ⟨⟨rfl, .inr rfl⟩, fun _ => trivial⟩

theorem every_sync (left : Nat) :
    (client.sync requests left copy).Every (Asks client.ownerId) := by
  induction left generalizing copy with
  | zero => trivial
  | succ left ih => exact Process.every_bind (every_readPages requests) fun copy => ih

theorem followed_foreign (followed : Followed reader ownerId now)
    (found : now.opened[reader]? = some ⟨.client client requests passes, since⟩)
    (other : client.ownerId ≠ ownerId) (asks : Asks client.ownerId label effect) :
    Followed reader ownerId (now.after reader (.client client requests passes) label effect
      outcome) := by
  obtain ⟨rfl, asks⟩ := asks
  refine followed_after followed ?_ ?_ ?_
  · have same : (Reading.after ownerId reader now.history).next ownerId reader
        ⟨reader, .client client requests passes, label, now.world, id now.world, outcome⟩ =
          Reading.after ownerId reader now.history := by
      rw [Reading.next, if_pos ⟨rfl, rfl⟩]
      rcases asks with ⟨limit, afterContactId, updatedAfter, rfl⟩ | rfl
      · exact if_neg other
      · exact if_neg other
    rw [same]
    exact followed.good
  · rintro _ ⟨_, _, starts⟩ _
    rcases asks with ⟨_, _, _, same⟩ | same
    · rw [same] at starts
      cases starts
      exact absurd rfl other
    · rw [same] at starts
      cases starts
  · rintro _ _ _ _ _ opened owned
    rw [found] at opened
    cases opened
    exact absurd owned other

end Client

theorem keeps_other (other : ¬(index = reader ∧ tag.isClient = true))
    (found : scene.opened[index]?.map Opened.tag = some tag)
    {process : Handler PartyAnswer}
    (every : process.Every fun label effect => label = .commit ∨
      ∀ world, (effect world).db = world.db) :
    Keeps (keepsUp reader ownerId) (Followed reader ownerId) index tag process scene := by
  refine keeps_every ?_ every found
  intro now label effect outcome opened _ _ followed acts kept
  obtain ⟨⟨kind, since⟩, there, rfl⟩ := Option.map_eq_some_iff.mp opened
  exact followed_other followed there other kept acts

theorem every_command (command : Command) :
    (Party.handle services (.command command)).Every fun label effect => label = .commit ∨
      ∀ world, (effect world).db = world.db := by
  have apart : ∃ userId, command.concerns userId = false := by
    cases command with
    | addContact command | importContacts command | blockUser command | unblockUser command =>
        exact ⟨command.ownerId + 1, beq_eq_false_iff_ne.mpr (Nat.ne_of_lt (Nat.lt_succ_self _))⟩
    | getBlockList userId =>
        exact ⟨userId + 1, beq_eq_false_iff_ne.mpr (Nat.ne_of_lt (Nat.lt_succ_self _))⟩
    | removeContact _ | updateContact _ | registerUserIdentifier _ _ | elapse _ => exact ⟨0, rfl⟩
  obtain ⟨userId, other⟩ := apart
  have writes : (command.sql services).Writes userId (Write.Sparing userId []) := writes_sql other
  have along := writes {} fun _ member => nomatch member
  refine Process.every_bind (Process.every_bind (along.every ?_) fun _ => trivial) fun _ => trivial
  rintro label effect (⟨commits, _⟩ | ⟨_, _, _, same, _⟩)
  · exact .inl commits
  · exact .inr same

end Following

section Runs

variable {reader : Nat} {scene : SyncScene}

theorem followed_opening (followed : Followed reader ownerId scene) (tagged : scene.Tagged)
    (tag : Party) : Followed reader ownerId (scene.opening tag) := by
  refine { followed with sound := ?_ }
  intro before entry after same client requests passes since copy opened owned mine
  obtain ⟨_, _, found⟩ := tagged entry (by
    rw [show scene.history = before ++ entry :: after from same]
    exact List.mem_append_right _ List.mem_cons_self)
  rw [mine] at found
  rw [Scene.opening, List.getElem?_append_left (List.getElem?_eq_some_iff.mp found).1] at opened
  exact followed.sound before entry after same client requests passes since copy opened owned mine

theorem keeps_party (tagged : scene.Tagged) (tag : Party) :
    Keeps (keepsUp reader ownerId) (Followed reader ownerId) scene.opened.length tag
      (tag.handle services) (scene.opening tag) := by
  have found : (scene.opening tag).opened[scene.opened.length]? =
      some ⟨tag, scene.history.length⟩ := List.getElem?_concat_length
  have tags : (scene.opening tag).opened[scene.opened.length]?.map Opened.tag = some tag := by
    rw [found]
    rfl
  cases tag with
  | command command => exact keeps_other (fun mine => Bool.noConfusion mine.2) tags (every_command command)
  | client client requests passes =>
      have every : (Party.handle services (.client client requests passes)).Every
          (Asks client.ownerId) := Process.every_bind (every_sync passes) fun _ => trivial
      by_cases mine : scene.opened.length = reader
      · subst mine
        by_cases owned : client.ownerId = ownerId
        · subst owned
          have others : ∀ entry ∈ scene.history, entry.index ≠ scene.opened.length := by
            intro entry member same
            obtain ⟨_, _, old⟩ := tagged entry member
            rw [same] at old
            exact Nat.lt_irrefl _ (List.getElem?_eq_some_iff.mp old).1
          have later : Reading.Later (Reading.after client.ownerId scene.opened.length [])
            (Reading.after client.ownerId scene.opened.length scene.history) :=
              @reading_later _ _ [] scene.history others
          refine keeps_sync passes ⟨⟨found, later.copy, ?_⟩, fun _ contactId => ⟨?_, ?_⟩⟩
          · exact fun contactId ⟨_, absent, _⟩ => nomatch absent
          · exact congrFun later.read contactId
          · exact later.stale contactId rfl
        · refine keeps_every ?_ every tags
          intro now label effect outcome opened _ _ followed _ asks
          obtain ⟨⟨kind, since⟩, there, rfl⟩ := Option.map_eq_some_iff.mp opened
          exact followed_foreign followed there owned asks
      · refine keeps_other (fun same => mine same.1) tags (every.mono ?_)
        rintro label effect ⟨rfl, _⟩
        exact .inr fun _ => rfl

theorem followed_initial {world : World} : Followed reader ownerId ⟨world, [], []⟩ where
  good := by
    intro contactId row _
    refine .inr (.inr ⟨rfl, fun version same => ?_⟩)
    cases same
  begins := Scene.earlier_nil
  sound := Scene.earlier_nil

theorem synced_of_keepsUp {world : World}
    {final : Site World Op Party ContactError PartyAnswer}
    (run : Runs (Party.handle services) (keepsUp reader ownerId) ⟨⟨world, [], []⟩, []⟩ final) :
    Synced reader ownerId final.toScene := by
  have opened : ∀ scene tag, scene.Tagged → Followed reader ownerId scene →
      (keepsUp reader ownerId).Opens scene tag → Followed reader ownerId (scene.opening tag) ∧
        Keeps (keepsUp reader ownerId) (Followed reader ownerId) scene.opened.length tag
          (Party.handle services tag) (scene.opening tag) := by
    intro scene tag tagged followed _
    exact ⟨followed_opening followed tagged tag, keeps_party tagged tag⟩
  exact (run.keeps opened (kept_initial followed_initial)).inv.sound

end Runs

section Example

def keepsUpCheck (reader : Nat) (ownerId : UserId) (scene : SyncScene) (index : Nat) (_ : Party)
    (label : Op) (effect : World → World) : Bool :=
  let reading := Reading.after ownerId reader scene.history
  (label != .commit || (effect scene.world).db.contacts.rows.all fun row =>
    row.ownerId != ownerId || scene.world.db.contact? ownerId row.contactId == some row ||
      reading.read row.contactId || reading.copy.version.all fun version =>
        decide (version ≤ row.updatedAt)) &&
  (index != reader || label != .maxUpdatedAt ownerId || scene.world.db.contacts.rows.all fun row =>
    row.ownerId != ownerId || !reading.stale row.contactId ||
      (scene.world.db.maxUpdatedAt ownerId).all fun newest => decide (newest ≤ row.updatedAt))

theorem keepsUpCheck_sound {reader index : Nat} {tag : Party} {label : Op} {effect : World → World}
    {scene : SyncScene} (passed : keepsUpCheck reader ownerId scene index tag label effect = true) :
    (keepsUp reader ownerId).Acts scene index tag label effect := by
  simp only [keepsUpCheck, Bool.and_eq_true, Bool.or_eq_true, bne_iff_ne, List.all_eq_true,
    beq_iff_eq, Bool.not_eq_true', Option.all_eq_true, decide_eq_true_eq] at passed
  obtain ⟨commits, ends⟩ := passed
  constructor
  · rintro rfl contactId row there changed
    obtain ⟨member, key⟩ := (Table.find?_some_iff _ _ _).mp there
    obtain ⟨rfl, rfl⟩ := Prod.mk.inj key
    rcases commits.resolve_left (fun other => other rfl) row member with ((other | same) | read) | newer
    · exact absurd rfl other
    · exact absurd same changed
    · exact .inl read
    · exact .inr newer
  · rintro rfl rfl contactId row there stale newest found
    obtain ⟨member, key⟩ := (Table.find?_some_iff _ _ _).mp there
    obtain ⟨rfl, rfl⟩ := Prod.mk.inj key
    rcases ends.resolve_left (by simp) row member with (other | fresh) | older
    · exact absurd rfl other
    · rw [fresh] at stale
      cases stale
    · exact older newest found

def bookOfTwo : World where
  db :=
    { contacts := ((Table.empty : Table UserContact _ UserContact.key).insert
        { ownerId := 1, contactId := 2, source := .manual, createdAt := 0, updatedAt := 0 }).insert
          { ownerId := 1, contactId := 3, source := .manual, createdAt := 0, updatedAt := 0 } }

def rename (contactId : UserId) (name : String) : Party :=
  .command (.updateContact { ownerId := 1, contactId := contactId, firstName := some name })

def renamingMoves : List (Move Party) :=
  [.start (.client { ownerId := 1, limit := 1 } 3 2), .exec 0, .exec 0, .exec 0,
    .start (.command (.elapse 5)), .exec 1,
    .start (rename 2 "new"), .exec 2, .exec 2, .exec 2, .exec 2, .exec 0, .exec 0, .exec 0]

def renamingSite : Option (Site World Op Party ContactError PartyAnswer) :=
  Site.steps (Party.handle plainServices) (fun _ _ => true) (keepsUpCheck 0 1)
    ⟨⟨bookOfTwo, [], []⟩, []⟩ renamingMoves

def namesKept (history : List SyncEntry) : List (List (UserId × Option String)) :=
  history.filterMap fun entry =>
    match entry.outcome with
    | some (.ok (.copy copy)) => some (copy.rows.map fun row => (row.contactId, row.firstName))
    | _ => none

theorem synced_after_renaming : ∃ final, renamingSite = some final ∧
    namesKept final.history = [[(3, none), (2, some "new")]] ∧ Synced 0 1 final.toScene := by
  have names : renamingSite.map (fun site => namesKept site.history) =
      some [[(3, none), (2, some "new")]] := by decide +kernel
  obtain ⟨final, reached, same⟩ := Option.map_eq_some_iff.mp names
  have run : Runs (Party.handle plainServices) (keepsUp 0 1) ⟨⟨bookOfTwo, [], []⟩, []⟩ final :=
    runs_of_steps renamingMoves (fun _ _ _ => trivial)
      (fun _ _ _ _ _ => keepsUpCheck_sound) .refl reached
  exact ⟨final, reached, same, synced_of_keepsUp run⟩

def overtakenMoves : List (Move Party) :=
  [Move.start (rename 2 "new"), Move.exec 0, Move.exec 0, Move.exec 0,
    Move.start (Party.command (.elapse 5)), Move.exec 1,
    Move.start (rename 3 "other"), Move.exec 2, Move.exec 2, Move.exec 2, Move.exec 2,
    Move.start (Party.client { ownerId := 1 } 2 2), Move.exec 3, Move.exec 3, Move.exec 0,
    Move.exec 3, Move.exec 3]

def overtakenSite : Option (Site World Op Party ContactError PartyAnswer) :=
  Site.steps (Party.handle plainServices) (fun _ _ => true) (fun _ _ _ _ _ => true)
    ⟨⟨bookOfTwo, [], []⟩, []⟩ overtakenMoves

def overtakenCopy : Copy :=
  ⟨[{ ownerId := 1, contactId := 3, firstName := some "other", source := .manual, createdAt := 0,
      updatedAt := 5 },
    { ownerId := 1, contactId := 2, source := .manual, createdAt := 0, updatedAt := 0 }], some 5⟩

/-- The client has read again, nothing has changed meanwhile, and it still has the old name. -/
theorem change_overtaken : ¬∀ (services : Services) (reader : Nat) (ownerId : UserId)
    (world : World) (final : Site World Op Party ContactError PartyAnswer),
      Runs (Party.handle services) {} ⟨⟨world, [], []⟩, []⟩ final →
        Synced reader ownerId final.toScene := by
  intro always
  have found : overtakenSite.map (fun site => (site.opened[3]?,
      site.history[11]?.map fun entry : SyncEntry => decide (entry.index = 3 ∧
        entry.label = Op.listPage 1 100 none (some 5) ∧
          entry.after.db.contacts.rows = entry.before.db.contacts.rows),
      site.history[12]?.map fun entry : SyncEntry => decide (entry.index = 3 ∧
        entry.outcome = some (Except.ok (PartyAnswer.copy overtakenCopy)) ∧
          (entry.after.db.contact? 1 2).map UserContact.firstName = some (some "new")))) =
      some (some ⟨Party.client { ownerId := 1 } 2 2, 8⟩, some true, some true) := by
    decide +kernel
  obtain ⟨final, reached, same⟩ := Option.map_eq_some_iff.mp found
  simp only [Prod.mk.injEq, Option.map_eq_some_iff, decide_eq_true_eq] at same
  obtain ⟨opened, ⟨first, at11, mine, label, quiet⟩, last, at12, index, outcome, row, there, name⟩ := same
  have synced := always plainServices 3 1 bookOfTwo final
    (runs_of_steps overtakenMoves (fun _ _ _ => trivial) (fun _ _ _ _ _ _ => trivial) .refl reached)
  have splitAt {number : Nat} {entry : SyncEntry} (at' : final.history[number]? = some entry) :
      final.history = final.history.take number ++ entry :: final.history.drop (number + 1) := by
    obtain ⟨bound, value⟩ := List.getElem?_eq_some_iff.mp at'
    rw [← value, List.getElem_cons_drop, List.take_append_drop]
  have split : final.history.take 12 = final.history.take 11 ++ [first] := by
    obtain ⟨bound, value⟩ := List.getElem?_eq_some_iff.mp at11
    rw [List.take_succ_eq_append_getElem bound, value]
  have kept := synced _ _ _ (splitAt at12) _ 2 2 8 overtakenCopy opened rfl index outcome _ first []
    split mine ⟨100, some 5, label⟩ ?_ 2 row there
  · have old : rowOf overtakenCopy.rows 2 =
        some { ownerId := 1, contactId := 2, source := .manual, createdAt := 0, updatedAt := 0 } := by
      decide
    rw [old] at kept
    rw [← Option.some.inj kept] at name
    cases name
  · intro other member contactId
    rw [List.mem_singleton.mp member]
    exact congrArg (fun table => Table.find? table (1, contactId)) (Table.ext_rows quiet)

end Example

end Messanger.Contacts
