import Messanger.ProfileCache.Views

/-!
The answers that the cache gives.  As long as nobody's block list changes under a page of theirs that
is kept or being put together, a query that is asked when all commands have returned is answered as
if there were no cache.
-/

namespace Messanger.ProfileCache

open Relational Processes

variable {services : Services}

def Party.isCommand : Party → Bool
  | .command _ => true
  | .query _ | .expire _ => false

def Quiet (since : Nat) (history : List ListEntry) : Prop :=
  ∀ entry ∈ history, entry.tag.isCommand = true →
    ∃ ending ∈ history.take since, ending.index = entry.index ∧ ending.outcome.isSome

instance (since : Nat) (history : List ListEntry) : Decidable (Quiet since history) := by
  unfold Quiet
  infer_instance

/-- A query that starts when every command has returned, and during which none acts, is answered as
it is without the cache. -/
def AnswersFresh (services : Services) (scene : ListScene) : Prop :=
  Scene.Earlier (fun before entry => ∀ query since outcome,
    scene.opened[entry.index]? = some ⟨.query query, since⟩ → entry.outcome = some outcome →
      Quiet since before →
        outcome = ((query.handle services CacheRepository.uncached).run entry.after).2)
    scene.history

/-- Who changes whom a user blocks finds no page of the user's kept under the present version, and
who stores a page under it has read the block list after its last change. -/
def minding : ListTerms where
  Acts scene index _ op effect :=
    (∀ query : GetProfilesQuery,
      (effect scene.world).blockList query.viewerId ≠ scene.world.blockList query.viewerId →
        scene.world.cached (scene.world.version, .profiles query) = none) ∧
    ∀ query : GetProfilesQuery, op = .set (scene.world.version, .profiles query) →
      ∀ before read after, scene.history = before ++ read :: after → read.index = index →
        read.label = .allTargetIds query.viewerId → ∀ entry ∈ after,
          entry.after.blockList query.viewerId = entry.before.blockList query.viewerId

section Keeping

/-- Since some time nothing has been announced, and if nothing has been written either, the value is
what there is to answer. -/
def Kept (services : Services) (question : Question) (value : question.Value)
    (scene : ListScene) : Prop :=
  ∃ number ≤ scene.history.length,
    (∀ entry ∈ scene.history.drop number, entry.label.announces = false) ∧
      ((∀ entry ∈ scene.history.drop number, entry.label.writes entry.before = false) →
        ((question.handle services).run scene.world).2 = .ok value)

structure Fresh (services : Services) (scene : ListScene) : Prop where
  orderly : scene.Orderly
  connected : scene.Connected
  announced : scene.Announced Op.announces Op.writes
  lawful : ∀ entry ∈ scene.history,
    entry.after.version = entry.before.version + (if entry.label.announces then 1 else 0) ∧
      (entry.label.writes entry.before = false → entry.after.tables = entry.before.tables)
  calm : ∀ entry ∈ scene.history, entry.tag.isCommand = false →
    entry.after.facts = entry.before.facts ∧ entry.label.writes entry.before = false
  past : ∀ version question value, scene.world.cached (version, question) = some value →
    version ≤ scene.world.version
  kept : ∀ question value, scene.world.cached (scene.world.version, question) = some value →
    Kept services question value scene
  sound : AnswersFresh services scene

structure Fitting (services : Services) (now : ListScene) (index : Nat) (tag : Party) (since : Nat)
    (op : Op) (effect : World → World) (outcome : Option (Except ApplicationError Answer)) :
    Prop where
  version : (effect now.world).version = now.world.version + if op.announces then 1 else 0
  tables : op.writes now.world = false → (effect now.world).tables = now.world.tables
  calm : tag.isCommand = false →
    (effect now.world).facts = now.world.facts ∧ op.writes now.world = false
  past : ∀ version question value, (effect now.world).cached (version, question) = some value →
    version ≤ now.world.version
  kept : ∀ question value,
    (effect now.world).cached (now.world.version, question) = some value → Kept services question value now
  lists : ∀ (query : GetProfilesQuery) value,
    (effect now.world).cached (now.world.version, .profiles query) = some value →
      (effect now.world).blockList query.viewerId = now.world.blockList query.viewerId
  settled : outcome.isSome →
    (now.after index tag op effect outcome).Settled Op.announces Op.writes index
  answers : ∀ query result, tag = .query query → outcome = some result → Quiet since now.history →
    result = ((query.handle services CacheRepository.uncached).run (effect now.world)).2

variable {now scene : ListScene} {index since : Nat} {tag : Party} {op : Op}
  {effect : World → World} {outcome : Option (Except ApplicationError Answer)}

theorem fresh_after (fresh : Fresh services now) (running : now.Running index)
    (found : now.opened[index]? = some ⟨tag, since⟩)
    (fitting : Fitting services now index tag since op effect outcome) :
    Fresh services (now.after index tag op effect outcome) where
  orderly := Scene.orderly_after fresh.orderly running
  connected := Scene.connected_after fresh.connected
  announced := Scene.announced_after fresh.announced fitting.settled running
  lawful := by
    intro entry member
    rcases List.mem_append.mp member with old | last
    · exact fresh.lawful entry old
    · rw [List.mem_singleton.mp last]
      exact ⟨fitting.version, fitting.tables⟩
  calm := by
    intro entry member quiet
    rcases List.mem_append.mp member with old | last
    · exact fresh.calm entry old quiet
    · rw [List.mem_singleton.mp last] at quiet ⊢
      exact fitting.calm quiet
  past version question value stored := by
    have before := fitting.past version question value stored
    have grown := fitting.version
    change version ≤ (effect now.world).version
    omega
  kept question value stored := by
    have before : (effect now.world).version ≤ now.world.version :=
      fitting.past _ question value stored
    have grown := fitting.version
    have silent : op.announces = false := by
      cases loud : op.announces with
      | false => rfl
      | true =>
          rw [loud, if_pos rfl] at grown
          omega
    have same : (effect now.world).version = now.world.version := by
      rw [grown, silent]
      rfl
    have here : (effect now.world).cached (now.world.version, question) = some value := by
      rw [← same]
      exact stored
    obtain ⟨number, past, none, right⟩ := fitting.kept question value here
    refine ⟨number, by rw [Scene.length_after]; omega, ?_, ?_⟩
    · rw [Scene.drop_after past]
      intro entry member
      rcases List.mem_append.mp member with old | last
      · exact none entry old
      · rw [List.mem_singleton.mp last]
        exact silent
    · rw [Scene.drop_after past]
      intro unwritten
      have idle : op.writes now.world = false :=
        unwritten _ (List.mem_append_right _ (List.mem_singleton_self _))
      have seen : question.seen (effect now.world) = question.seen now.world := by
        have tables := fitting.tables idle
        cases question with
        | profileById profileId => rw [Question.seen, tables]; rfl
        | profileByUsername username => rw [Question.seen, tables]; rfl
        | profiles query =>
            rw [Question.seen, Question.seen, tables, Question.viewer?, Option.map_some,
              Option.map_some, fitting.lists query value here]
      rw [← right fun entry member => unwritten entry (List.mem_append_left _ member)]
      exact Process.run_sees (sees_question question) seen
  sound := by
    refine Scene.earlier_concat fresh.sound ?_
    intro query start result opened ended quiet
    cases found.symm.trans opened
    exact fitting.answers query result rfl ended quiet

theorem settled_calm (fresh : Fresh services now) (tagged : now.Tagged)
    (found : now.opened[index]? = some ⟨tag, since⟩) (calm : tag.isCommand = false)
    (idle : op.writes now.world = false) :
    (now.after index tag op effect outcome).Settled Op.announces Op.writes index := by
  refine Scene.settled_after (.inr ⟨idle, ?_⟩)
  intro before change after same mine wrote
  have member : change ∈ now.history := by
    rw [same]
    exact List.mem_append_right _ List.mem_cons_self
  obtain ⟨start, _, opened⟩ := tagged change member
  rw [mine, found] at opened
  obtain ⟨own, _⟩ := Opened.mk.inj (Option.some.inj opened)
  rw [own] at calm
  rw [(fresh.calm change member calm).2] at wrote
  cases wrote

theorem fitting_command {asked : Command} (fresh : Fresh services now) (lawful : Lawful op effect)
    (acts : minding.Acts now index (.command asked) op effect)
    (settled : outcome.isSome →
      (now.after index (.command asked) op effect outcome).Settled Op.announces Op.writes index) :
    Fitting services now index (.command asked) since op effect outcome where
  version := lawful.version now.world
  tables := lawful.tables now.world
  calm quiet := nomatch quiet
  past version question value stored := by
    rw [lawful.cached] at stored
    exact fresh.past version question value stored
  kept question value stored := by
    rw [lawful.cached] at stored
    exact fresh.kept question value stored
  lists query value stored := by
    by_contra changed
    rw [lawful.cached, acts.1 query changed] at stored
    cases stored
  settled := settled
  answers query result same := nomatch same

theorem keeps_command (asked : Command)
    (found : scene.opened[index]?.map Opened.tag = some (.command asked))
    (untouched : scene.own index = []) :
    Keeps minding (Fresh services) index (.command asked)
      ((Party.command asked).handle services) scene := by
  refine keeps_announcing ?_ (Process.announces_map (announces_handle asked)) found ?_
  · intro now op effect outcome tagged running opened fresh acts lawful settled
    obtain ⟨⟨tag, since⟩, here, rfl⟩ := Option.map_eq_some_iff.mp opened
    exact fresh_after fresh running here (fitting_command fresh lawful acts settled)
  · intro _ before change after same mine _
    have member : change ∈ scene.own index := by
      rw [Scene.mem_own, same]
      exact ⟨List.mem_append_right _ List.mem_cons_self, mine⟩
    rw [untouched] at member
    cases member

theorem keeps_expire (key : CacheKey) (found : scene.opened[index]? = some ⟨.expire key, since⟩) :
    Keeps minding (Fresh services) index (.expire key) ((Party.expire key).handle services) scene := by
  intro now meanwhile tagged running fresh acts
  have here := meanwhile.opened found
  refine ⟨fresh_after fresh running here ?_, trivial⟩
  exact {
    version := rfl
    tables := fun _ => rfl
    calm := fun _ => ⟨rfl, rfl⟩
    past := fun version question value stored =>
      fresh.past version question value (World.cached_drop stored)
    kept := fun question value stored =>
      fresh.kept question value (World.cached_drop stored)
    lists := fun _ _ _ => rfl
    settled := fun _ => settled_calm fresh tagged here rfl rfl
    answers := fun query result same => nomatch same }

end Keeping

section Asking

variable {query : Query} {now later : ListScene} {index since : Nat} {tag : Party} {op : Op}
  {effect : World → World} {outcome : Option (Except ApplicationError Answer)}

structure Asked (services : Services) (query : Query) (index since : Nat) (rest : Handler Answer)
    (scene : ListScene) : Prop where
  opened : scene.opened[index]? = some ⟨.query query, since⟩
  started : since ≤ scene.history.length
  promise : Quiet since scene.history → (rest.run scene.world).2 =
    ((query.handle services CacheRepository.uncached).run scene.world).2

def Ready (services : Services) (query : Query) (index since : Nat) (rest : Handler Answer)
    (scene : ListScene) : Prop :=
  ∀ now, scene.Meanwhile index now → Fresh services now → Asked services query index since rest now

theorem Quiet.earlier {before after : List ListEntry} (quiet : Quiet since (before ++ after))
    (started : since ≤ before.length) : Quiet since before := by
  intro entry member command
  obtain ⟨ending, early, same, ended⟩ := quiet entry (List.mem_append_left _ member) command
  rw [List.take_append_of_le_length started] at early
  exact ⟨ending, early, same, ended⟩

theorem Quiet.calm (fresh : Fresh services now) (quiet : Quiet since now.history) {number : Nat}
    (started : since ≤ number) {entry : ListEntry} (member : entry ∈ now.history.drop number) :
    entry.tag.isCommand = false := by
  by_contra acts
  rw [Bool.not_eq_false] at acts
  obtain ⟨ending, early, same, ended⟩ := quiet entry (List.mem_of_mem_drop member) acts
  obtain ⟨before, after, split⟩ := List.append_of_mem member
  have whole : now.history = (now.history.take number ++ before) ++ entry :: after := by
    rw [List.append_assoc, ← split, List.take_append_drop]
  have first : ending ∈ now.history.take number ++ before :=
    List.mem_append_left _ (List.take_subset_take_left _ started early)
  rw [fresh.orderly _ entry after whole ending first same] at ended
  cases ended

theorem facts_later (fresh : Fresh services later) (started : since ≤ now.history.length)
    (meanwhile : (now.after index tag op effect outcome).Meanwhile index later)
    (quiet : Quiet since later.history) :
    later.world.facts = (effect now.world).facts := by
  have longer := meanwhile.length_le
  rw [Scene.length_after] at longer
  have same : ∀ entry ∈ later.history.drop (now.history.length + 1),
      entry.after.facts = entry.before.facts := fun entry member =>
    (fresh.calm entry (List.mem_of_mem_drop member)
      (quiet.calm fresh (Nat.le_succ_of_le started) member)).1
  have steady := fresh.connected.steady World.facts same longer (Nat.le_refl _)
  rw [Scene.worldAt_length, fresh.connected.worldAt_meanwhile meanwhile] at steady
  exact steady

theorem ready_after {rest : Handler Answer} (sees : rest.Sees World.facts)
    (leaves : (effect now.world).facts = now.world.facts)
    (asked : Asked services query index since rest now) :
    Ready services query index since rest (now.after index (.query query) op effect outcome) := by
  intro later meanwhile fresh
  have longer := meanwhile.length_le
  rw [Scene.length_after] at longer
  have started := asked.started
  refine ⟨meanwhile.opened asked.opened, by omega, fun quiet => ?_⟩
  have agree : later.world.facts = now.world.facts :=
    (facts_later fresh asked.started meanwhile quiet).trans leaves
  obtain ⟨_, more, history, _⟩ := meanwhile
  have early : Quiet since now.history := by
    rw [history, Scene.after, List.append_assoc] at quiet
    exact quiet.earlier asked.started
  rw [Process.run_sees sees agree, asked.promise early]
  exact (Process.run_sees (asks_uncached services query).sees agree).symm

theorem fitting_looking (fresh : Fresh services now) (tagged : now.Tagged)
    (opened : now.opened[index]? = some ⟨.query query, since⟩) (looking : Looking op effect)
    (answers : ∀ result, outcome = some result → Quiet since now.history →
      result = ((query.handle services CacheRepository.uncached).run now.world).2) :
    Fitting services now index (.query query) since op effect outcome := by
  obtain ⟨rfl, silent, idle⟩ := looking
  exact {
    version := by rw [silent]; rfl
    tables := fun _ => rfl
    calm := fun _ => ⟨rfl, idle now.world⟩
    past := fresh.past
    kept := fresh.kept
    lists := fun _ _ _ => rfl
    settled := fun _ => settled_calm fresh tagged opened rfl (idle now.world)
    answers := by
      intro other result same ended quiet
      cases same
      exact answers result ended quiet }

theorem step_looking {rest : Handler Answer} (fresh : Fresh services now) (tagged : now.Tagged)
    (running : now.Running index) (looking : Looking op effect)
    (asked : Asked services query index since rest now) :
    Fresh services (now.after index (.query query) op effect rest.outcome?) ∧
      (rest.Sees World.facts → Ready services query index since rest
        (now.after index (.query query) op effect rest.outcome?)) := by
  constructor
  · refine fresh_after fresh running asked.opened
      (fitting_looking fresh tagged asked.opened looking fun result ended quiet => ?_)
    cases rest with
    | done outcome =>
        cases ended
        exact asked.promise quiet
    | act _ _ _ => cases ended
  · intro sees
    exact ready_after sees (by rw [looking.effect]; rfl) asked

theorem keeps_asking {process : Handler Answer} (asks : Asks process)
    (ready : Ready services query index since process scene) :
    Keeps minding (Fresh services) index (.query query) process scene := by
  induction process generalizing scene with
  | done outcome => trivial
  | act op effect next ih =>
      intro now meanwhile tagged running fresh acts
      have asked := ready now meanwhile fresh
      have looking := asks.looking.1
      have rest : Asked services query index since (next now.world) now := by
        refine ⟨asked.opened, asked.started, fun quiet => ?_⟩
        have promise := asked.promise quiet
        rw [Process.run_act, looking.effect] at promise
        exact promise
      obtain ⟨kept, later⟩ := step_looking fresh tagged running looking rest
      have left : Asks (next now.world) :=
        ⟨asks.looking.2 now.world, asks.sees.2.2 now.world⟩
      exact ⟨kept, ih now.world left (later left.sees)⟩

end Asking

section Storing

variable {query : Query} {question : Question} {now scene : ListScene} {index since version : Nat}
  {rest : Handler question.Value}

theorem version_mono (fresh : Fresh services now) {number later : Nat} (ordered : number ≤ later)
    (past : later ≤ now.history.length) :
    (now.worldAt number).version ≤ (now.worldAt later).version := by
  have rises : ∀ entry ∈ now.history,
      (now.worldAt number).version ≤ entry.before.version →
        (now.worldAt number).version ≤ entry.after.version ∨ False := by
    intro entry member before
    have grown := (fresh.lawful entry member).1
    omega
  rcases fresh.connected.lasts (fun world => (now.worldAt number).version ≤ world.version) rises
    ordered past (Nat.le_refl _) with still | ⟨_, _, _, _, _, never⟩
  · exact still
  · exact never.elim

theorem unannounced (fresh : Fresh services now) {number : Nat}
    (stays : now.world.version ≤ (now.worldAt number).version) :
    ∀ entry ∈ now.history.drop number, entry.label.announces = false := by
  intro entry member
  obtain ⟨offset, found⟩ := List.mem_iff_getElem?.mp member
  rw [List.getElem?_drop] at found
  have bound := (List.getElem?_eq_some_iff.mp found).1
  have before : now.worldAt (number + offset) = entry.before := by
    rw [Scene.worldAt, found]
    rfl
  have first := version_mono fresh (Nat.le_add_right number offset) (Nat.le_of_lt bound)
  have second := version_mono fresh bound (Nat.le_refl _)
  rw [Scene.worldAt_length, fresh.connected _ entry found] at second
  rw [before] at first
  have grown := (fresh.lawful entry (List.mem_of_getElem? found)).1
  cases loud : entry.label.announces with
  | false => rfl
  | true =>
      rw [loud, if_pos rfl] at grown
      omega

def Unbegun (services : Services) (question : Question) (version : Nat)
    (rest : Handler question.Value) (scene : ListScene) : Prop :=
  rest = question.handle services ∧
    ∃ number < scene.history.length, version ≤ (scene.worldAt number).version

def Begun (services : Services) (question : Question) (version index : Nat)
    (rest : Handler question.Value) (scene : ListScene) : Prop :=
  ∃ (number : Nat) (first : ListEntry), scene.history[number]? = some first ∧
    version ≤ first.before.version ∧ first.index = index ∧
      (∀ query, question = .profiles query → first.label = .allTargetIds query.viewerId) ∧
        ((∀ entry ∈ scene.history.drop number,
            question.seen entry.after = question.seen entry.before) →
          (rest.run first.before).2 = ((question.handle services).run first.before).2)

theorem Unbegun.later (unbegun : Unbegun services question version rest scene)
    (meanwhile : scene.Meanwhile index now) : Unbegun services question version rest now := by
  obtain ⟨same, number, past, read⟩ := unbegun
  have longer := meanwhile.length_le
  refine ⟨same, number, by omega, ?_⟩
  rw [meanwhile.worldAt_eq past]
  exact read

theorem Begun.later (begun : Begun services question version index rest scene)
    (meanwhile : scene.Meanwhile index now) : Begun services question version index rest now := by
  obtain ⟨number, first, found, read, mine, asked, right⟩ := begun
  have bound := (List.getElem?_eq_some_iff.mp found).1
  obtain ⟨_, more, history, _⟩ := meanwhile
  refine ⟨number, first, ?_, read, mine, asked, fun steady => right fun entry member => ?_⟩
  · rw [history, List.getElem?_append_left bound]
    exact found
  · refine steady entry ?_
    rw [history, List.drop_append_of_le_length (Nat.le_of_lt bound)]
    exact List.mem_append_left _ member

section Steps

variable {tag : Party} {op : Op} {effect : World → World} {next : World → Handler question.Value}
  {outcome : Option (Except ApplicationError Answer)}

theorem Unbegun.step (unbegun : Unbegun services question version (.act op effect next) now)
    (fresh : Fresh services now) (looking : Looking op effect) :
    Begun services question version index (next now.world)
      (now.after index tag op effect outcome) := by
  obtain ⟨same, number, past, read⟩ := unbegun
  refine ⟨now.history.length, ⟨index, tag, op, now.world, effect now.world, outcome⟩,
    List.getElem?_concat_length, ?_, rfl, fun query asked => ?_, fun _ => ?_⟩
  · have grown := version_mono fresh (Nat.le_of_lt past) (Nat.le_refl _)
    rw [Scene.worldAt_length] at grown
    exact Nat.le_trans read grown
  · subst asked
    change Process.act op effect next = Process.act (.allTargetIds query.viewerId) id _ at same
    exact (Process.act.inj same).1
  · rw [← same, Process.run_act, looking.effect]
    rfl

theorem seen_first (fresh : Fresh services now) {number : Nat} {first : ListEntry}
    (found : now.history[number]? = some first)
    (steady : ∀ entry ∈ now.history.drop number,
      question.seen entry.after = question.seen entry.before) :
    question.seen now.world = question.seen first.before := by
  have bound := (List.getElem?_eq_some_iff.mp found).1
  have same := fresh.connected.steady question.seen steady (Nat.le_of_lt bound) (Nat.le_refl _)
  rw [Scene.worldAt_length, Scene.worldAt, found] at same
  exact same

theorem Begun.step (begun : Begun services question version index (.act op effect next) now)
    (fresh : Fresh services now) (sees : (Process.act op effect next).Sees question.seen)
    (looking : Looking op effect) :
    Begun services question version index (next now.world)
      (now.after index tag op effect outcome) := by
  obtain ⟨number, first, found, read, mine, asked, right⟩ := begun
  have bound := (List.getElem?_eq_some_iff.mp found).1
  refine ⟨number, first, ?_, read, mine, asked, fun steady => ?_⟩
  · rw [Scene.after, List.getElem?_append_left bound]
    exact found
  · rw [Scene.drop_after (Nat.le_of_lt bound)] at steady
    have still := fun entry member => steady entry (List.mem_append_left _ member)
    rw [sees.2.1 _ _ (seen_first fresh found still), ← right still, Process.run_act, looking.effect]
    rfl

theorem Begun.kept {value : question.Value} (tagged : now.Tagged)
    (begun : Begun services question version index (.done (.ok value)) now)
    (fresh : Fresh services now) (opened : now.opened[index]? = some ⟨.query query, since⟩)
    (stays : now.world.version ≤ version)
    (lists : ∀ query, question = .profiles query → ∀ before read after,
      now.history = before ++ read :: after → read.index = index →
        read.label = .allTargetIds query.viewerId → ∀ entry ∈ after,
          entry.after.blockList query.viewerId = entry.before.blockList query.viewerId) :
    Kept services question value now := by
  obtain ⟨number, first, found, read, mine, asked, right⟩ := begun
  have bound := (List.getElem?_eq_some_iff.mp found).1
  have member : first ∈ now.history := List.mem_of_getElem? found
  have split : now.history = now.history.take number ++ first :: now.history.drop (number + 1) := by
    have here : now.history[number] = first := (List.getElem?_eq_some_iff.mp found).2
    rw [← here, List.getElem_cons_drop, List.take_append_drop]
  have before : now.worldAt number = first.before := by
    rw [Scene.worldAt, found]
    rfl
  refine ⟨number, Nat.le_of_lt bound, unannounced fresh ?_, fun unwritten => ?_⟩
  · rw [before]
    exact Nat.le_trans stays read
  have steady : ∀ entry ∈ now.history.drop number,
      question.seen entry.after = question.seen entry.before := by
    intro entry inside
    have tables := (fresh.lawful entry (List.mem_of_mem_drop inside)).2 (unwritten entry inside)
    cases question with
    | profileById profileId => rw [Question.seen, tables]; rfl
    | profileByUsername username => rw [Question.seen, tables]; rfl
    | profiles query =>
        rw [List.drop_eq_getElem_cons bound] at inside
        rcases List.mem_cons.mp inside with own | later
        · -- the entry is the first look of the query itself
          rw [(List.getElem?_eq_some_iff.mp found).2] at own
          obtain ⟨start, _, here⟩ := tagged first member
          rw [mine, opened] at here
          obtain ⟨same, _⟩ := Opened.mk.inj (Option.some.inj here)
          rw [own]
          refine seen_eq _ (fresh.calm first member ?_).1
          rw [← same]
          rfl
        · have listed := lists query rfl _ first _ split mine (asked query rfl) entry later
          rw [Question.seen, Question.seen, tables, Question.viewer?, Option.map_some,
            Option.map_some, listed]
  rw [Process.run_sees (sees_question question) (seen_first fresh found steady), ← right steady]
  rfl

end Steps

theorem handle_ne_done (outcome : Except ApplicationError question.Value) :
    Process.done outcome ≠ question.handle services := by
  cases question with
  | profileById profileId => exact fun same => nomatch same
  | profileByUsername username => exact fun same => nomatch same
  | profiles query => exact fun same => nomatch same

theorem fitting_store {value : question.Value} {left : Handler Answer} (fresh : Fresh services now)
    (tagged : now.Tagged) (asked : Asked services query index since left now)
    (acts : minding.Acts now index (.query query) (.set (version, question))
      fun world => world.store (version, question) value)
    (begun : Begun services question version index (.done (.ok value)) now)
    (old : version ≤ now.world.version) :
    Fitting services now index (.query query) since (.set (version, question))
      (fun world => world.store (version, question) value) left.outcome? := by
  have stored : ∀ number other found,
      (now.world.store (version, question) value).cached (number, other) = some found →
        now.world.cached (number, other) = some found ∨
          (number = version ∧ (version = now.world.version → Kept services other found now)) := by
    intro number other found there
    by_cases same : (number, other) = (version, question)
    · obtain ⟨rfl, rfl⟩ := Prod.mk.inj same
      rw [World.cached_store_self] at there
      obtain rfl := Option.some.inj there
      refine .inr ⟨rfl, fun present => ?_⟩
      refine begun.kept tagged fresh asked.opened (Nat.le_of_eq present.symm) ?_
      intro page asks
      exact acts.2 page (by rw [present, asks])
    · rw [World.cached_store_of_ne same] at there
      exact .inl there
  exact {
    version := rfl
    tables := fun _ => rfl
    calm := fun _ => ⟨rfl, rfl⟩
    past := by
      intro number other found there
      rcases stored number other found there with before | ⟨rfl, _⟩
      · exact fresh.past number other found before
      · exact old
    kept := by
      intro other found there
      rcases stored _ other found there with before | ⟨present, kept⟩
      · exact fresh.kept other found before
      · exact kept present.symm
    lists := fun _ _ _ => rfl
    settled := fun _ => settled_calm fresh tagged asked.opened rfl rfl
    answers := by
      intro other result same ended quiet
      cases same
      cases left with
      | done outcome =>
          cases ended
          refine (asked.promise quiet).trans ?_
          exact Process.run_sees (asks_uncached services query).sees rfl
      | act _ _ _ => cases ended }

theorem keeps_storing {next : question.Value → Handler Answer} (asks : ∀ value, Asks (next value))
    (looking : rest.Every Looking) (sees : rest.Sees question.seen)
    (wide : rest.Sees World.facts)
    (ready : Ready services query index since (rest >>= fun value =>
      (Process.perform (.set (version, question)) fun world =>
        world.store (version, question) value) >>= fun _ => next value) scene)
    (stash : Unbegun services question version rest scene ∨
      Begun services question version index rest scene) :
    Keeps minding (Fresh services) index (.query query) (rest >>= fun value =>
      (Process.perform (.set (version, question)) fun world =>
        world.store (version, question) value) >>= fun _ => next value) scene := by
  induction rest generalizing scene with
  | done outcome =>
      cases outcome with
      | error error => trivial
      | ok value =>
          intro now meanwhile tagged running fresh acts
          have asked := ready now meanwhile fresh
          have left : Asked services query index since (next value) now := by
            refine ⟨asked.opened, asked.started, fun quiet => ?_⟩
            refine Eq.trans ?_ (asked.promise quiet)
            exact Process.run_sees (asks value).sees rfl
          rcases stash with ⟨same, _⟩ | begun
          · exact absurd same (handle_ne_done _)
          have here := begun.later meanwhile
          have old : version ≤ now.world.version := by
            obtain ⟨number, first, found, read, _⟩ := here
            have bound := (List.getElem?_eq_some_iff.mp found).1
            have grown := version_mono fresh (Nat.le_of_lt bound) (Nat.le_refl _)
            rw [Scene.worldAt_length, Scene.worldAt, found] at grown
            exact Nat.le_trans read grown
          refine ⟨fresh_after fresh running asked.opened
            (fitting_store fresh tagged left acts here old), ?_⟩
          exact keeps_asking (asks value) (ready_after (asks value).sees rfl left)
  | act op effect after ih =>
      intro now meanwhile tagged running fresh acts
      have asked := ready now meanwhile fresh
      have looks := looking.1
      have left : Asked services query index since (after now.world >>= fun value =>
          (Process.perform (.set (version, question)) fun world =>
            world.store (version, question) value) >>= fun _ => next value) now := by
        refine ⟨asked.opened, asked.started, fun quiet => ?_⟩
        have promise := asked.promise quiet
        rw [Process.act_bind, Process.run_act, looks.effect] at promise
        exact promise
      obtain ⟨kept, later⟩ := step_looking fresh tagged running looks left
      refine ⟨kept, ih now.world (looking.2 now.world) (sees.2.2 now.world) (wide.2.2 now.world)
        (later ?_) (.inr ?_)⟩
      · refine Process.sees_bind (wide.2.2 now.world) fun value => Process.sees_bind ?_ fun _ =>
          (asks value).sees
        exact Process.sees_perform fun _ => rfl
      · rcases stash with unbegun | begun
        · exact (unbegun.later meanwhile).step fresh looks
        · exact (begun.later meanwhile).step fresh sees looks

end Storing

section Caching

variable {query : Query} {question : Question} {now scene : ListScene} {index since : Nat}

variable (services) in
theorem run_question (question : Question) (world : World) : (question.handle services).run world =
    (world, ((question.handle services).run world).2) := by
  have stays : ((question.handle services).run world).1 = world :=
    Process.run_idle ((looking_question question).mono fun _ _ looks => looks.effect) world
  exact Prod.ext stays rfl

theorem quiet_hit {value : question.Value} (fresh : Fresh services now)
    (quiet : Quiet since now.history)
    (stored : now.world.cached (now.world.version, question) = some value) :
    (question.handle services).run now.world = (now.world, .ok value) := by
  obtain ⟨number, past, silent, right⟩ := fresh.kept question value stored
  rw [run_question, right fun entry member => ?_]
  cases wrote : entry.label.writes entry.before with
  | false => rfl
  | true =>
      obtain ⟨before, after, split⟩ := List.append_of_mem member
      have whole : now.history = (now.history.take number ++ before) ++ entry :: after := by
        rw [List.append_assoc, ← split, List.take_append_drop]
      rcases fresh.announced _ entry after whole wrote with ⟨told, inside, _, loud⟩ | running
      · have none := silent told (by rw [split]; exact List.mem_append_right _ inside)
        rw [none] at loud
        cases loud
      · have acts : entry.tag.isCommand = true := by
          by_contra still
          rw [Bool.not_eq_true] at still
          rw [(fresh.calm entry (List.mem_of_mem_drop member) still).2] at wrote
          cases wrote
        obtain ⟨ending, early, same, ended⟩ := quiet entry (List.mem_of_mem_drop member) acts
        rw [running ending (List.mem_of_mem_take early) same] at ended
        cases ended

theorem cache_bind (handle : Handler question.Value) (next : question.Value → Handler Answer) :
    CacheRepository.cache question handle >>= next =
      .act .getListVersion id fun world => .act (.get (world.version, question)) id fun later =>
        match later.cached (world.version, question) with
        | some data => next data
        | none => handle >>= fun dto =>
            (Process.perform (.set (world.version, question)) fun world' =>
              world'.store (world.version, question) dto) >>= fun _ => next dto := by
  refine congrArg (Process.act _ id) (funext fun world => ?_)
  refine congrArg (Process.act _ id) (funext fun later => ?_)
  dsimp only
  cases later.cached (world.version, question) with
  | some data => rfl
  | none => exact Process.bind_assoc _ handle next

variable (services) in
theorem run_storing {next : question.Value → Handler Answer} (asks : ∀ value, Asks (next value))
    (version : Nat) (world : World) :
    ((question.handle services >>= fun dto =>
      (Process.perform (.set (version, question)) fun world => world.store (version, question) dto)
        >>= fun _ => next dto).run world).2 = ((question.handle services >>= next).run world).2 := by
  rw [Process.run_bind, Process.run_bind, run_question]
  cases ((question.handle services).run world).2 with
  | error error => rfl
  | ok dto => exact Process.run_sees (asks dto).sees rfl

theorem keeps_cached {next : question.Value → Handler Answer} (asks : ∀ value, Asks (next value))
    (same : ∀ caching : Caching,
      query.handle services caching = caching question (question.handle services) >>= next)
    (found : scene.opened[index]? = some ⟨.query query, since⟩)
    (started : since ≤ scene.history.length) :
    Keeps minding (Fresh services) index (.query query)
      (CacheRepository.cache question (question.handle services) >>= next) scene := by
  have uncached : query.handle services CacheRepository.uncached =
      question.handle services >>= next := same _
  rw [cache_bind]
  intro first meanwhile tagged running fresh acts
  have opened := meanwhile.opened found
  have before := meanwhile.length_le
  refine ⟨fresh_after fresh running opened (fitting_looking fresh tagged opened ⟨rfl, rfl, fun _ => rfl⟩
    fun result ended => nomatch ended), ?_⟩
  intro now passed taggedNow runningNow freshNow actsNow
  have openedNow := passed.opened opened
  have longer := passed.length_le
  rw [Scene.length_after] at longer
  have startedNow : since ≤ now.history.length := by omega
  have version : Quiet since now.history → now.world.version = first.world.version := by
    intro quiet
    have agree : now.world.facts = first.world.facts :=
      facts_later freshNow (Nat.le_trans started before) passed quiet
    exact congrArg (fun facts => facts.2.1) agree
  have looks : Looking (.get (first.world.version, question)) id := ⟨rfl, rfl, fun _ => rfl⟩
  dsimp only
  cases hit : now.world.cached (first.world.version, question) with
  | some value =>
      have asked : Asked services query index since (next value) now := by
        refine ⟨openedNow, startedNow, fun quiet => ?_⟩
        rw [← version quiet] at hit
        rw [uncached, Process.run_bind, quiet_hit freshNow quiet hit]
      obtain ⟨kept, later⟩ := step_looking freshNow taggedNow runningNow looks asked
      exact ⟨kept, keeps_asking (asks value) (later (asks value).sees)⟩
  | none =>
      have asked : Asked services query index since (question.handle services >>= fun dto =>
          (Process.perform (.set (first.world.version, question)) fun world =>
            world.store (first.world.version, question) dto) >>= fun _ => next dto) now := by
        refine ⟨openedNow, startedNow, fun _ => ?_⟩
        rw [uncached]
        exact run_storing services asks _ now.world
      obtain ⟨kept, later⟩ := step_looking freshNow taggedNow runningNow looks asked
      refine ⟨kept, keeps_storing asks (looking_question question) (sees_question question)
        (facts_question question) (later ?_) (.inl ⟨rfl, now.history.length, ?_, ?_⟩)⟩
      · refine Process.sees_bind (facts_question question) fun value => Process.sees_bind ?_ fun _ =>
          (asks value).sees
        exact Process.sees_perform fun _ => rfl
      · rw [Scene.length_after]
        exact Nat.lt_succ_self _
      · have grown := version_mono freshNow longer (Nat.le_refl _)
        rw [freshNow.connected.worldAt_meanwhile passed, Scene.worldAt_length] at grown
        rw [Scene.worldAt_after (Nat.le_refl _), Scene.worldAt_length]
        exact grown

theorem keeps_query (query : Query) (found : scene.opened[index]? = some ⟨.query query, since⟩)
    (started : since ≤ scene.history.length) :
    Keeps minding (Fresh services) index (.query query) ((Party.query query).handle services)
      scene := by
  change Keeps minding (Fresh services) index (.query query)
    (query.handle services CacheRepository.cache) scene
  rcases handle_cases services query with ⟨question, next, asks, same⟩ | ⟨same, asks⟩
  · rw [same CacheRepository.cache]
    exact keeps_cached asks same found started
  · rw [same]
    have ready : Ready services query index since
        (query.handle services CacheRepository.uncached) scene := by
      intro now meanwhile _
      have longer := meanwhile.length_le
      exact ⟨meanwhile.opened found, by omega, fun _ => rfl⟩
    exact keeps_asking asks ready

end Caching

section Runs

theorem Fresh.opening {scene : ListScene} {party : Party} (fresh : Fresh services scene)
    (tagged : scene.Tagged) : Fresh services (scene.opening party) where
  orderly := fresh.orderly
  connected := fresh.connected
  announced := fresh.announced
  lawful := fresh.lawful
  calm := fresh.calm
  past := fresh.past
  kept := fresh.kept
  sound := by
    intro before entry after same query since outcome opened ended quiet
    have member : entry ∈ scene.history := by
      change scene.history = before ++ entry :: after at same
      rw [same]
      exact List.mem_append_right _ List.mem_cons_self
    rcases Scene.getElem?_opening opened with old | ⟨new, _⟩
    · exact fresh.sound before entry after same query since outcome old ended quiet
    · obtain ⟨_, _, found⟩ := tagged entry member
      have bound := (List.getElem?_eq_some_iff.mp found).1
      omega

theorem fresh_initial (world : World) :
    Fresh services ⟨{ world with cached := fun _ => none }, [], []⟩ where
  orderly := Scene.earlier_nil
  connected _ _ found := nomatch found
  announced before _ _ same := by
    cases before with
    | nil => cases same
    | cons _ _ => cases same
  lawful _ member := nomatch member
  calm _ member := nomatch member
  past _ _ _ stored := nomatch stored
  kept _ _ stored := nomatch stored
  sound := Scene.earlier_nil

/-- Whatever takes its turns under these terms: who asks when all commands have returned, and while
none acts, gets the answer that there is without the cache. -/
theorem answers_fresh {world : World} {site : ListSite}
    (run : Runs (Party.handle services) minding (start world) site) :
    AnswersFresh services site.toScene := by
  have opened : ∀ scene party, scene.Tagged → Fresh services scene → minding.Opens scene party →
      Fresh services (scene.opening party) ∧ Keeps minding (Fresh services) scene.opened.length party
        (party.handle services) (scene.opening party) := by
    intro scene party tagged fresh _
    have found : (scene.opening party).opened[scene.opened.length]? =
        some ⟨party, scene.history.length⟩ := List.getElem?_concat_length
    refine ⟨fresh.opening tagged, ?_⟩
    cases party with
    | command asked => exact keeps_command asked (by rw [found]; rfl) (Scene.own_opening tagged _)
    | query query => exact keeps_query query found (Nat.le_refl _)
    | expire key => exact keeps_expire key found
  exact (run.keeps opened (kept_initial (fresh_initial world))).inv.sound

end Runs

section Example

def plainServices : Services where
  now := id
  transactionTime := id
  uuid7 := id
  lower := id
  getStat _ _ := .ok 100
  downloadBytes _ _ := .ok []
  uploadFile _ _ _ := .ok ()
  mime _ := "image/png"
  dimensions _ := .ok (640, 480)
  thumbnail _ _ _ := []
  ilike text pattern := text == pattern
  icontains text other := text == other
  column _ := none
  presignedUrl key := "https://s3/" ++ key

def twoProfiles : World where
  profiles := { db := { profiles :=
    ⟨[{ id := 1, username := "neo" }, { id := 2, username := "smith" }], by decide⟩ } }
  book := { db := { blocked := ⟨[⟨1, 3, 0⟩], by decide⟩ } }

def listing : Query := .profiles { viewerId := 1 }

def siteAfter (moves : List (Move Party))
    (acts : ListScene → Nat → Party → Op → (World → World) → Bool) : Option ListSite :=
  (start twoProfiles).steps (Party.handle plainServices) (fun _ _ => true) acts moves

def staleAtLast (site : ListSite) : Bool :=
  site.history.getLast?.any fun entry =>
    match site.opened[entry.index]?, entry.outcome with
    | some ⟨.query query, since⟩, some outcome =>
        decide (Quiet since site.history.dropLast) && decide (outcome ≠
          ((query.handle plainServices CacheRepository.uncached).run entry.after).2)
    | _, _ => false

theorem not_fresh_of_stale {site : ListSite} (stale : staleAtLast site = true) :
    ¬AnswersFresh plainServices site.toScene := by
  intro fresh
  rw [staleAtLast] at stale
  cases last : site.history.getLast? with
  | none =>
      rw [last] at stale
      cases stale
  | some entry =>
      rw [last, Option.any_some] at stale
      split at stale
      · rename_i query since outcome opened ended
        rw [Bool.and_eq_true, decide_eq_true_eq, decide_eq_true_eq] at stale
        have split : site.history = site.history.dropLast ++ entry :: [] :=
          (List.dropLast_append_getLast? entry last).symm
        exact stale.2 (fresh _ entry [] split query since outcome opened ended stale.1)
      · cases stale

def blockingMoves : List (Move Party) :=
  Move.start (Party.query listing) :: List.replicate 8 (Move.exec 0) ++
    Move.start (Party.command (.blockUser ⟨1, 2, none⟩)) :: List.replicate 4 (Move.exec 1) ++
      Move.start (Party.query listing) :: List.replicate 3 (Move.exec 2)

theorem blocked_still_listed : ¬∀ site : ListSite,
    Runs (Party.handle plainServices) {} (start twoProfiles) site →
      AnswersFresh plainServices site.toScene := by
  have found : (siteAfter blockingMoves fun _ _ _ _ _ => true).map staleAtLast = some true := by
    decide +kernel
  obtain ⟨site, reached, stale⟩ := Option.map_eq_some_iff.mp found
  have run : Runs (Party.handle plainServices) {} (start twoProfiles) site :=
    runs_of_steps blockingMoves (fun _ _ _ => trivial) (fun _ _ _ _ _ _ => trivial) .refl reached
  exact fun fresh => not_fresh_of_stale stale (fresh site run)

def steadyLists (scene : ListScene) (effect : World → World) : Bool :=
  decide ((effect scene.world).book.db.blocked.rows = scene.world.book.db.blocked.rows) &&
    scene.history.all fun entry =>
      decide (entry.after.book.db.blocked.rows = entry.before.book.db.blocked.rows)

theorem blockList_eq {left right : World}
    (same : left.book.db.blocked.rows = right.book.db.blocked.rows) (ownerId : UserId) :
    left.blockList ownerId = right.blockList ownerId := by
  simp only [World.blockList, Contacts.Db.allTargetIds, Table.select, same]

def linkingMoves : List (Move Party) :=
  Move.start (Party.query listing) :: List.replicate 8 (Move.exec 0) ++
    Move.start (Party.command (.addLink ⟨2, "git", "smith", { id := 2 }⟩)) ::
    List.replicate 4 (Move.exec 1) ++
      Move.start (Party.command (.blockUser ⟨1, 3, none⟩)) :: Move.exec 2 ::
        Move.start (Party.query listing) :: List.replicate 8 (Move.exec 3)

def lastPage (site : ListSite) : Option (List (UserId × List String)) :=
  site.history.getLast?.bind fun entry =>
    match entry.outcome with
    | some (.ok (.profiles page)) => some (page.items.map fun profile =>
        (profile.id, profile.links.map ProfileLinkDTO.contact))
    | _ => none

/-- The second list has the link, and is what there is without the cache. -/
theorem answers_after_linking : ∃ site : ListSite,
    lastPage site = some [(1, []), (2, ["smith"])] ∧ AnswersFresh plainServices site.toScene := by
  have found : (siteAfter linkingMoves fun scene _ _ _ effect => steadyLists scene effect).map
      lastPage = some (some [(1, []), (2, ["smith"])]) := by
    decide +kernel
  obtain ⟨site, reached, page⟩ := Option.map_eq_some_iff.mp found
  have run : Runs (Party.handle plainServices) minding (start twoProfiles) site := by
    refine runs_of_steps linkingMoves (fun _ _ _ => trivial) ?_ .refl reached
    intro scene index party op effect steady
    obtain ⟨same, past⟩ := (Bool.and_eq_true _ _).mp steady
    constructor
    · intro query changed
      exact absurd (blockList_eq (of_decide_eq_true same) query.viewerId) changed
    · intro query _ before read after history _ _ entry member
      have inside : entry ∈ scene.history := by
        rw [history]
        exact List.mem_append_right _ (List.mem_cons_of_mem _ member)
      exact blockList_eq (of_decide_eq_true (List.all_eq_true.mp past entry inside)) query.viewerId
  exact ⟨site, page, answers_fresh run⟩

end Example

end Messanger.ProfileCache
