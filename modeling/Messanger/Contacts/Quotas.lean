import Messanger.Contacts.CommandsCore
import Messanger.Library.Tallies

/-!
The daily quota of identifiers.  A call raises the counter before it looks at the limit and lowers
it again when it is refused, so the counter is what was granted and what is yet to be given back.
-/

namespace Messanger.Contacts

open Processes

/-- A call for some owner, or time that passes. -/
inductive QuotaTask where
  | consume (ownerId : UserId) (amount : Nat)
  | wait (time : Nat)
  deriving DecidableEq, Repr

def QuotaTask.program : QuotaTask → Handler Bool
  | .consume ownerId amount => (consumeQuota ownerId amount).handler
  | .wait time => do
      Process.perform .clock fun world => { world with clock := world.clock + time }
      return true

/-- No action leaves the day. -/
def during (today : Nat) : Terms World Op QuotaTask ContactError Bool where
  Acts scene _ _ _ effect := (effect scene.world).clock / day = today

/-- The amount of an owner's call that has returned true. -/
def granted (ownerId : UserId) : Weight World Op QuotaTask ContactError Bool
  | .consume owner amount, .done (.ok true) => if owner = ownerId then amount else 0
  | _, _ => 0

def counted (ownerId : UserId) : Weight World Op QuotaTask ContactError Bool
  | .consume owner amount, .done (.ok true) => if owner = ownerId then amount else 0
  | .consume owner amount, .act (.decrQuota _) _ _ => if owner = ownerId then amount else 0
  | _, _ => 0

section Programs

variable (ownerId : UserId) (amount dayNumber : Nat)

def returning : Handler Bool :=
  .act (.decrQuota ownerId) (fun world => world.returnQuota ownerId dayNumber amount) fun _ =>
    .done (.ok false)

def adding : Handler Bool :=
  .act (.incrQuota ownerId) (fun world => world.addQuota ownerId dayNumber amount) fun world =>
    if contactsNewIdentifiersPerDay < world.quotas (ownerId, dayNumber) + amount then
      returning ownerId amount dayNumber
    else .done (.ok true)

variable {ownerId} {amount}

theorem program_consume (positive : amount ≠ 0) : (QuotaTask.consume ownerId amount).program =
    .act .clock id fun world => adding ownerId amount (world.clock / day) := by
  simp only [QuotaTask.program, consumeQuota, if_neg positive]
  refine congrArg (Process.act Op.clock id) (funext fun world => ?_)
  refine congrArg (Process.act (Op.incrQuota ownerId) _) (funext fun later => ?_)
  by_cases beyond : contactsNewIdentifiersPerDay < later.quotas (ownerId, world.clock / day) + amount
  · rw [if_pos beyond]
    simp only [Except.map, Process.bind, pure, if_pos beyond]
    rfl
  · rw [if_neg beyond]
    simp only [Except.map, Process.bind, pure, if_neg beyond]
    rfl

theorem program_nothing : (QuotaTask.consume ownerId 0).program = .done (.ok true) := rfl

end Programs

inductive QuotaStage (today : Nat) : QuotaTask → Handler Bool → Prop
  | begun (task : QuotaTask) : QuotaStage today task task.program
  | adding (ownerId : UserId) (amount : Nat) :
      QuotaStage today (.consume ownerId amount) (adding ownerId amount today)
  | returning (ownerId : UserId) (amount : Nat) :
      QuotaStage today (.consume ownerId amount) (returning ownerId amount today)
  | ended (task : QuotaTask) (outcome : Except ContactError Bool) :
      QuotaStage today task (.done outcome)

abbrev QuotaSite := Site World Op QuotaTask ContactError Bool

structure QuotaExact (ownerId : UserId) (today : Nat) (site : QuotaSite) : Prop where
  sameDay : site.world.clock / day = today
  exact : site.world.quotas (ownerId, today) = site.total (counted ownerId)
  bounded : site.total (granted ownerId) ≤ contactsNewIdentifiersPerDay

section Steps

variable {ownerId : UserId} {today : Nat} {site : QuotaSite} {index : Nat} {task : Opened QuotaTask}
  {label : Op} {effect : World → World} {next : World → Handler Bool}

theorem granted_le (task : QuotaTask) (rest : Handler Bool) :
    granted ownerId task rest ≤ counted ownerId task rest := by
  unfold granted counted
  split
  · exact Nat.le_refl _
  · exact Nat.zero_le _

theorem counted_other {owner : UserId} (other : owner ≠ ownerId) (amount : Nat)
    (rest : Handler Bool) : counted ownerId (.consume owner amount) rest = 0 := by
  cases rest with
  | done outcome =>
      rcases outcome with error | (_ | _)
      · rfl
      · rfl
      · exact if_neg other
  | act label effect next =>
      cases label
      case decrQuota => exact if_neg other
      all_goals rfl

theorem counted_begun (task : QuotaTask) : counted ownerId task task.program = 0 := by
  cases task with
  | wait time => rfl
  | consume owner amount =>
      by_cases positive : amount = 0
      · subst positive
        rw [program_nothing]
        simp [counted]
      · rw [program_consume positive]
        rfl

theorem quota_opens (tag : QuotaTask) (exact : QuotaExact ownerId today site)
    (length : site.rests.length = site.opened.length) :
    QuotaExact ownerId today ⟨site.toScene.opening tag, site.rests ++ [tag.program]⟩ := by
  have none : granted ownerId tag tag.program = 0 :=
    Nat.le_zero.mp (counted_begun tag ▸ granted_le tag tag.program)
  refine ⟨exact.sameDay, ?_, ?_⟩
  · rw [Site.total_opening length, counted_begun]
    exact exact.exact
  · rw [Site.total_opening length, none]
    exact exact.bounded

theorem addQuota_quotas (world : World) (owner ownerId dayNumber amount : Nat) :
    (world.addQuota owner dayNumber amount).quotas (ownerId, dayNumber) =
      world.quotas (ownerId, dayNumber) + if owner = ownerId then amount else 0 := by
  by_cases same : owner = ownerId
  · subst same
    rw [if_pos rfl]
    exact Function.update_self ..
  · rw [if_neg same]
    exact Function.update_of_ne (fun keys => same (congrArg Prod.fst keys).symm) ..

theorem returnQuota_quotas (world : World) (owner ownerId dayNumber amount : Nat) :
    (world.returnQuota owner dayNumber amount).quotas (ownerId, dayNumber) =
      world.quotas (ownerId, dayNumber) - if owner = ownerId then amount else 0 := by
  by_cases same : owner = ownerId
  · subst same
    rw [if_pos rfl]
    exact Function.update_self ..
  · rw [if_neg same]
    exact Function.update_of_ne (fun keys => same (congrArg Prod.fst keys).symm) ..

theorem quota_after (exact : QuotaExact ownerId today site)
    (found : site.opened[index]? = some task)
    (left : site.rests[index]? = some (.act label effect next))
    (stays : (effect site.world).clock / day = today)
    (counts : (effect site.world).quotas (ownerId, today) +
        counted ownerId task.tag (.act label effect next) =
      site.world.quotas (ownerId, today) + counted ownerId task.tag (next site.world))
    (fits : granted ownerId task.tag (next site.world) = 0 ∨
      (effect site.world).quotas (ownerId, today) ≤ contactsNewIdentifiersPerDay) :
    QuotaExact ownerId today ⟨site.toScene.after index task.tag label effect (next site.world).outcome?,
      site.rests.set index (next site.world)⟩ := by
  have total := @Site.total_after _ _ _ _ _ (counted ownerId) site index task _ found left label effect
    (next site.world).outcome? (next site.world)
  have grants := @Site.total_after _ _ _ _ _ (granted ownerId) site index task _ found left label effect
    (next site.world).outcome? (next site.world)
  have same : (effect site.world).quotas (ownerId, today) = Site.total (counted ownerId)
      ⟨site.toScene.after index task.tag label effect (next site.world).outcome?,
        site.rests.set index (next site.world)⟩ := by
    have before := exact.exact
    omega
  refine ⟨stays, same, ?_⟩
  rcases fits with none | fits
  · have bounded := exact.bounded
    omega
  · refine le_trans (Site.total_le granted_le) ?_
    rw [← same]
    exact fits

theorem quota_acts (exact : QuotaExact ownerId today site) (found : site.opened[index]? = some task)
    (left : site.rests[index]? = some (.act label effect next))
    (stage : QuotaStage today task.tag (.act label effect next))
    (stays : (effect site.world).clock / day = today) :
    QuotaStage today task.tag (next site.world) ∧
      QuotaExact ownerId today
        ⟨site.toScene.after index task.tag label effect (next site.world).outcome?,
          site.rests.set index (next site.world)⟩ := by
  obtain ⟨tag, since⟩ := task
  generalize same : Process.act label effect next = rest at stage
  cases stage with
  | begun =>
      cases tag with
      | wait time =>
          cases same
          exact ⟨.ended _ _, quota_after exact found left stays rfl (.inl rfl)⟩
      | consume owner amount =>
          by_cases positive : amount = 0
          · subst positive
            cases same
          · rw [program_consume positive] at same
            cases same
            have kept := quota_after exact found left stays rfl (.inl rfl)
            simp only [exact.sameDay] at kept ⊢
            exact ⟨.adding _ _, kept⟩
  | adding owner amount =>
      cases same
      have raised : (site.world.addQuota owner today amount).quotas (ownerId, today) =
          site.world.quotas (ownerId, today) + if owner = ownerId then amount else 0 :=
        addQuota_quotas site.world owner ownerId today amount
      by_cases beyond : contactsNewIdentifiersPerDay < site.world.quotas (owner, today) + amount
      · have kept := quota_after exact found left stays (by
          rw [raised, if_pos beyond]
          rfl) (.inl (by rw [if_pos beyond]; rfl))
        simp only [if_pos beyond] at kept ⊢
        exact ⟨.returning _ _, kept⟩
      · have kept := quota_after exact found left stays (by
          rw [raised, if_neg beyond]
          rfl) (by
          rw [if_neg beyond]
          by_cases mine : owner = ownerId
          · subst mine
            rw [raised, if_pos rfl]
            exact .inr (Nat.le_of_not_lt beyond)
          · exact .inl (if_neg mine))
        simp only [if_neg beyond] at kept ⊢
        exact ⟨.ended _ _, kept⟩
  | returning owner amount =>
      cases same
      have own : counted ownerId (.consume owner amount) (returning owner amount today) ≤
          site.world.quotas (ownerId, today) := by
        rw [exact.exact]
        exact Site.weight_le_total found left
      have lowered : (site.world.returnQuota owner today amount).quotas (ownerId, today) =
          site.world.quotas (ownerId, today) - if owner = ownerId then amount else 0 :=
        returnQuota_quotas site.world owner ownerId today amount
      refine ⟨.ended _ _, quota_after exact found left stays ?_ (.inl rfl)⟩
      -- the amount is part of what is counted, so the counter does not stop at zero
      rw [lowered]
      exact Nat.sub_add_cancel own
  | ended outcome => cases same

end Steps

/-- No call of the owner is under way. -/
def NoCall (ownerId : UserId) (site : QuotaSite) : Prop :=
  ∀ (index : Nat) (task : Opened QuotaTask) (amount : Nat) rest, site.opened[index]? = some task →
    site.rests[index]? = some rest → task.tag = .consume ownerId amount → rest.outcome?.isSome = true

theorem granted_of_noCall {ownerId : UserId} {site : QuotaSite} (quiet : NoCall ownerId site) :
    site.total (counted ownerId) = site.total (granted ownerId) := by
  refine Site.total_congr fun index task rest found left => ?_
  obtain ⟨tag, since⟩ := task
  cases tag with
  | wait time => rfl
  | consume owner amount =>
      by_cases mine : owner = ownerId
      · subst mine
        cases rest with
        | done outcome => rcases outcome with error | (_ | _) <;> rfl
        | act label effect next => cases quiet index _ amount _ found left rfl
      · have none := counted_other mine amount rest
        have less : granted ownerId (.consume owner amount) rest ≤ _ := granted_le _ _
        exact none.trans (Nat.le_zero.mp (none ▸ less)).symm

theorem consume_alone (ownerId : UserId) (amount : Nat) (world : World) :
    ((consumeQuota ownerId amount).handler.run world).2 = .ok (decide (amount = 0 ∨
      world.quotas (ownerId, world.clock / day) + amount ≤ contactsNewIdentifiersPerDay)) := by
  by_cases nothing : amount = 0
  · subst nothing
    rfl
  · change (Process.run (QuotaTask.consume ownerId amount).program world).2 = _
    rw [program_consume nothing, Process.run_act, adding, Process.run_act, id]
    by_cases beyond : contactsNewIdentifiersPerDay <
        world.quotas (ownerId, world.clock / day) + amount
    · rw [if_pos beyond, decide_eq_false (by omega)]
      rfl
    · rw [if_neg beyond, decide_eq_true (by omega)]
      rfl

/-- The amounts granted to an owner in one day stay within the limit.  Once no call is under way
they are what the counter says, and the next call is refused only for what was granted. -/
theorem quota_exact (ownerId : UserId) (today : Nat) (world : World) (site : QuotaSite)
    (begins : world.clock / day = today) (unused : world.quotas (ownerId, today) = 0)
    (run : Runs QuotaTask.program (during today) ⟨⟨world, [], []⟩, []⟩ site) :
    site.total (granted ownerId) ≤ contactsNewIdentifiersPerDay ∧
      (NoCall ownerId site → site.world.quotas (ownerId, today) = site.total (granted ownerId) ∧
        ∀ amount, ((consumeQuota ownerId amount).handler.run site.world).2 = .ok (decide
          (amount = 0 ∨ site.total (granted ownerId) + amount ≤ contactsNewIdentifiersPerDay))) := by
  have begun : Staged (QuotaStage today) (⟨⟨world, [], []⟩, []⟩ : QuotaSite) :=
    ⟨rfl, fun _ _ _ found => nomatch found⟩
  have exact : QuotaExact ownerId today (⟨⟨world, [], []⟩, []⟩ : QuotaSite) :=
    ⟨begins, unused, Nat.zero_le _⟩
  obtain ⟨_, kept⟩ := run.staged begun exact
    (fun site tag staged exact => ⟨.begun tag, quota_opens tag exact staged.length⟩)
    (fun site index task label effect next _ exact found left stage stays =>
      quota_acts exact found left stage stays)
  refine ⟨kept.bounded, fun quiet => ?_⟩
  have counter := kept.exact.trans (granted_of_noCall quiet)
  refine ⟨counter, fun amount => ?_⟩
  rw [consume_alone, kept.sameDay, counter]

def contended : List (Move QuotaTask) :=
  [.start (.consume 1 4000), .start (.consume 1 3000), .start (.consume 1 1000), .exec 0, .exec 1,
    .exec 2, .exec 0, .exec 1, .exec 2, .exec 2, .exec 1, .start (.consume 1 1000), .exec 3, .exec 3]

def contendedSite : Option QuotaSite :=
  Site.steps QuotaTask.program (fun _ _ => true)
    (fun scene _ _ _ effect => decide ((effect scene.world).clock / day = 0)) ⟨⟨{}, [], []⟩, []⟩ contended

theorem contended_counter : ∃ site, contendedSite = some site ∧
    site.total (granted 1) = contactsNewIdentifiersPerDay ∧
    site.world.quotas (1, 0) = site.total (granted 1) := by
  have granting : contendedSite.map (Site.total (granted 1)) = some contactsNewIdentifiersPerDay := by
    decide +kernel
  obtain ⟨site, reached, grants⟩ := Option.map_eq_some_iff.mp granting
  have ended : contendedSite.map (fun site => site.rests.all fun rest => rest.outcome?.isSome) =
      some true := by decide +kernel
  rw [reached, Option.map_some, Option.some.injEq, List.all_eq_true] at ended
  have run : Runs QuotaTask.program (during 0) ⟨⟨{}, [], []⟩, []⟩ site :=
    runs_of_steps contended (fun _ _ _ => trivial)
      (fun scene _ _ _ effect sameDay =>
        show (effect scene.world).clock / day = 0 from of_decide_eq_true sameDay) .refl reached
  obtain ⟨_, settled⟩ := quota_exact 1 0 {} site rfl rfl run
  exact ⟨site, reached, grants,
    (settled fun _ _ _ rest _ left _ => ended rest (List.mem_of_getElem? left)).1⟩

end Messanger.Contacts
