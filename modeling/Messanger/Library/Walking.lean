import Mathlib.Data.List.Count
import Mathlib.Data.List.Sort

/-!
Walking through a collection batch by batch until a batch is empty.  Each batch starts past the key
of the last item of the one before, and the collection may change between the reads.
-/

namespace Walking

variable {Item Key : Type} [LinearOrder Key] (key : Item → Key) (limit : Nat)
  (cursor : Option Key) (items : List Item)

def Past (target : Key) : Prop := ∀ last ∈ cursor, last < target

instance (target : Key) : Decidable (Past cursor target) :=
  match cursor with
  | none => .isTrue fun _ absent => (Option.not_mem_none _ absent).elim
  | some last => decidable_of_iff (last < target)
      ⟨fun less _ same => Option.mem_some_iff.mp same ▸ less, fun past => past last rfl⟩

def ahead : List Item :=
  (items.filter fun item => decide (Past cursor (key item))).insertionSort fun left right =>
    key left ≤ key right

def batch : List Item := (ahead key cursor items).take limit

inductive Walks (key : Item → Key) (limit : Nat) :
    Option Key → List (List Item) → List (List Item) → Prop
  | ends {cursor : Option Key} {items : List Item} : batch key limit cursor items = [] →
      Walks key limit cursor [items] []
  | goesOn {cursor : Option Key} {items : List Item} {last : Item}
      {sources batches : List (List Item)} :
      (batch key limit cursor items).getLast? = some last →
      Walks key limit (some (key last)) sources batches →
      Walks key limit cursor (items :: sources) (batch key limit cursor items :: batches)

def remaining (keys : List Key) : Nat := keys.countP fun target => decide (Past cursor target)

section Batches

variable {key limit cursor items}

@[simp] theorem past_none (target : Key) : Past none target := fun _ absent =>
  (Option.not_mem_none _ absent).elim

@[simp] theorem past_some {last target : Key} : Past (some last) target ↔ last < target :=
  ⟨fun past => past last rfl, fun less _ same => Option.mem_some_iff.mp same ▸ less⟩

theorem past_trans {first second : Key} (past : Past cursor first) (less : first ≤ second) :
    Past cursor second := fun last member => lt_of_lt_of_le (past last member) less

theorem mem_ahead {item : Item} :
    item ∈ ahead key cursor items ↔ item ∈ items ∧ Past cursor (key item) := by
  rw [ahead, List.mem_insertionSort, List.mem_filter, decide_eq_true_eq]

theorem mem_batch {item : Item} (member : item ∈ batch key limit cursor items) :
    item ∈ items ∧ Past cursor (key item) := mem_ahead.mp (List.mem_of_mem_take member)

theorem ahead_sorted (distinct : (items.map key).Nodup) :
    (ahead key cursor items).Pairwise fun left right => key left < key right := by
  have ordered : (ahead key cursor items).Pairwise fun left right => key left ≤ key right := by
    have : Std.Total (fun left right : Item => key left ≤ key right) :=
      ⟨fun left right => le_total (key left) (key right)⟩
    have : IsTrans Item (fun left right => key left ≤ key right) :=
      ⟨fun _ _ _ first second => le_trans first second⟩
    exact List.pairwise_insertionSort _ _
  have apart : (ahead key cursor items).Pairwise fun left right => key left ≠ key right := by
    have fewer : (items.filter fun item => decide (Past cursor (key item))).Sublist items :=
      List.filter_sublist
    have spread := List.pairwise_map.mp (distinct.sublist (fewer.map key))
    exact (List.perm_insertionSort _ _).symm.pairwise spread fun other => Ne.symm other
  refine (ordered.and apart).imp ?_
  rintro left right ⟨least, other⟩
  exact lt_of_le_of_ne least other

theorem batch_sorted (distinct : (items.map key).Nodup) :
    (batch key limit cursor items).Pairwise fun left right => key left < key right :=
  (ahead_sorted distinct).sublist (List.take_sublist _ _)

theorem le_last (distinct : (items.map key).Nodup) {item last : Item}
    (final : (batch key limit cursor items).getLast? = some last)
    (member : item ∈ batch key limit cursor items) : key item ≤ key last := by
  have sorted : (batch key limit cursor items).Pairwise fun left right => key left < key right :=
    batch_sorted distinct
  obtain ⟨front, split⟩ := List.getLast?_eq_some_iff.mp final
  rw [split] at member sorted
  rcases List.mem_append.mp member with early | late
  · exact le_of_lt ((List.pairwise_append.mp sorted).2.2 item early last (List.mem_singleton_self _))
  · rw [List.mem_singleton.mp late]

theorem batch_complete (distinct : (items.map key).Nodup) {item last : Item}
    (final : (batch key limit cursor items).getLast? = some last) (member : item ∈ items)
    (past : Past cursor (key item)) (covered : key item ≤ key last) :
    item ∈ batch key limit cursor items := by
  have whole : batch key limit cursor items ++ (ahead key cursor items).drop limit =
      ahead key cursor items := List.take_append_drop _ _
  have sorted : (ahead key cursor items).Pairwise fun left right => key left < key right :=
    ahead_sorted distinct
  have inside := mem_ahead.mpr ⟨member, past⟩
  rw [← whole] at sorted inside
  rcases List.mem_append.mp inside with shown | rest
  · exact shown
  · have less := (List.pairwise_append.mp sorted).2.2 last (List.mem_of_getLast? final) item rest
    exact absurd covered (not_le_of_gt less)

theorem batch_nil (positive : 0 < limit) (empty : batch key limit cursor items = []) {item : Item}
    (member : item ∈ items) : ¬Past cursor (key item) := by
  intro past
  have inside := mem_ahead.mpr ⟨member, past⟩
  rw [batch, List.take_eq_nil_iff] at empty
  rcases empty with zero | none
  · omega
  · rw [none] at inside
    exact List.not_mem_nil inside

theorem remaining_lt {keys : List Key} {last : Item}
    (final : (batch key limit cursor items).getLast? = some last) (known : key last ∈ keys) :
    remaining (some (key last)) keys < remaining cursor keys := by
  have past := (mem_batch (List.mem_of_getLast? final)).2
  have inner : remaining (some (key last)) keys =
      (keys.filter fun target => decide (Past cursor target)).countP
        fun target => decide (key last < target) := by
    rw [remaining, List.countP_filter]
    refine List.countP_congr fun target _ => ?_
    simp only [past_some, decide_eq_true_eq, Bool.and_eq_true]
    exact ⟨fun less => ⟨less, past_trans past (le_of_lt less)⟩, fun both => both.1⟩
  rw [inner, remaining, List.countP_eq_length_filter (l := keys)]
  refine List.countP_lt_length_iff.mpr ⟨key last, List.mem_filter.mpr ⟨known, ?_⟩, ?_⟩
  · exact decide_eq_true past
  · simp

end Batches

section Walk

variable {key limit cursor} {sources batches : List (List Item)}

theorem walks_past (walks : Walks key limit cursor sources batches) :
    ∀ item ∈ batches.flatten, Past cursor (key item) := by
  induction walks with
  | ends _ =>
      intro item member
      exact (List.not_mem_nil member).elim
  | goesOn final _ ih =>
      intro item member
      rcases List.mem_append.mp (List.flatten_cons ▸ member) with shown | later
      · exact (mem_batch shown).2
      · have first := (mem_batch (List.mem_of_getLast? final)).2
        exact past_trans first (le_of_lt (past_some.mp (ih item later)))

theorem walks_sorted (walks : Walks key limit cursor sources batches)
    (distinct : ∀ items ∈ sources, (items.map key).Nodup) :
    batches.flatten.Pairwise fun left right => key left < key right := by
  induction walks with
  | ends _ => exact .nil
  | goesOn final rest ih =>
      have own := distinct _ List.mem_cons_self
      rw [List.flatten_cons]
      refine List.pairwise_append.mpr ⟨batch_sorted own,
        ih fun items member => distinct items (List.mem_cons_of_mem _ member), ?_⟩
      intro left shown right later
      exact lt_of_le_of_lt (le_last own final shown) (past_some.mp (walks_past rest right later))

theorem walks_complete (walks : Walks key limit cursor sources batches) (positive : 0 < limit)
    (distinct : ∀ items ∈ sources, (items.map key).Nodup) {target : Key}
    (lasting : ∀ items ∈ sources, ∃ item ∈ items, key item = target)
    (past : Past cursor target) : ∃ item ∈ batches.flatten, key item = target := by
  induction walks with
  | ends empty =>
      obtain ⟨item, member, rfl⟩ := lasting _ List.mem_cons_self
      exact absurd past (batch_nil positive empty member)
  | @goesOn cursor items last sources batches final rest ih =>
      obtain ⟨item, member, same⟩ := lasting items List.mem_cons_self
      subst same
      rw [List.flatten_cons]
      by_cases covered : key item ≤ key last
      · have own := distinct items List.mem_cons_self
        exact ⟨item, List.mem_append_left _ (batch_complete own final member past covered), rfl⟩
      · obtain ⟨found, inside, same⟩ := ih
          (fun items member => distinct items (List.mem_cons_of_mem _ member))
          (fun items member => lasting items (List.mem_cons_of_mem _ member))
          (past_some.mpr (lt_of_not_ge covered))
        exact ⟨found, List.mem_append_right _ inside, same⟩

end Walk

end Walking
