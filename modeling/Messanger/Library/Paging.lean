import Mathlib.Data.List.Sort

/-!
Reading a collection page by page, each page starting past the key of the last item of the one
before, while the collection changes between the reads.  An item is missed by no reader if none
appears with a key that is already passed.
-/

namespace Paging

variable {Item : Type} (key : Item → Nat) (cursor limit : Nat) (items : List Item)

def past : List Item :=
  (items.filter fun item => decide (cursor < key item)).insertionSort fun left right =>
    key left ≤ key right

def page : List Item := (past key cursor items).take limit

def hasMore : Bool := decide (limit < ((past key cursor items).take (limit + 1)).length)

def nextCursor : Nat := ((page key cursor limit items).getLast?.map key).getD cursor

/-- Reading page after page until there is no more, each from the collection as it is then. -/
inductive Rounds (key : Item → Nat) (limit : Nat) : Nat → List (List Item) → List Item → Prop
  | last {cursor : Nat} {items : List Item} : hasMore key cursor limit items = false →
      Rounds key limit cursor [items] (page key cursor limit items)
  | more {cursor : Nat} {items : List Item} {sources : List (List Item)} {history : List Item} :
      hasMore key cursor limit items = true →
      Rounds key limit (nextCursor key cursor limit items) sources history →
      Rounds key limit cursor (items :: sources) (page key cursor limit items ++ history)

/-- What appears later has a key past all that are there. -/
def Settled (earlier later : List Item) : Prop :=
  ∀ item ∈ later, (∃ other ∈ earlier, key item ≤ key other) → item ∈ earlier

variable {key cursor limit items}

theorem mem_past {item : Item} :
    item ∈ past key cursor items ↔ item ∈ items ∧ cursor < key item := by
  rw [past, List.mem_insertionSort, List.mem_filter, decide_eq_true_eq]

section Maps

variable {Source : Type} (view : Source → Item) (rows : List Source)

theorem past_map : past key cursor (rows.map view) =
    (past (fun row => key (view row)) cursor rows).map view := by
  rw [past, past, List.filter_map]
  refine (List.map_insertionSort _ _ view _ ?_).symm
  intro left _ right _
  rfl

theorem page_map : page key cursor limit (rows.map view) =
    (page (fun row => key (view row)) cursor limit rows).map view := by
  rw [page, page, past_map, List.map_take]

theorem hasMore_map : hasMore key cursor limit (rows.map view) =
    hasMore (fun row => key (view row)) cursor limit rows := by
  simp only [hasMore, past_map, List.length_take, List.length_map]

theorem nextCursor_map : nextCursor key cursor limit (rows.map view) =
    nextCursor (fun row => key (view row)) cursor limit rows := by
  rw [nextCursor, nextCursor, page_map, List.getLast?_map, Option.map_map]
  rfl

end Maps

section Page

variable (distinct : (items.map key).Nodup)
include distinct

theorem past_sorted :
    (past key cursor items).Pairwise fun left right => key left < key right := by
  have ordered : (past key cursor items).Pairwise fun left right => key left ≤ key right := by
    have : Std.Total (fun left right : Item => key left ≤ key right) :=
      ⟨fun left right => Nat.le_total (key left) (key right)⟩
    have : IsTrans Item (fun left right => key left ≤ key right) :=
      ⟨fun _ _ _ first second => Nat.le_trans first second⟩
    exact List.pairwise_insertionSort _ _
  have apart : (past key cursor items).Pairwise fun left right => key left ≠ key right := by
    have fewer : (items.filter fun item => decide (cursor < key item)).Sublist items :=
      List.filter_sublist
    have spread := List.pairwise_map.mp (distinct.sublist (fewer.map key))
    exact (List.perm_insertionSort _ _).symm.pairwise spread fun other => Ne.symm other
  refine (ordered.and apart).imp ?_
  rintro left right ⟨least, other⟩
  omega

theorem page_sorted :
    (page key cursor limit items).Pairwise fun left right => key left < key right :=
  (past_sorted distinct).sublist (List.take_sublist _ _)

theorem le_nextCursor {item : Item} (member : item ∈ page key cursor limit items) :
    key item ≤ nextCursor key cursor limit items := by
  have sorted : (page key cursor limit items).Pairwise fun left right => key left < key right :=
    page_sorted distinct
  unfold nextCursor
  obtain ⟨front, final, split⟩ := List.eq_nil_or_concat' (page key cursor limit items) |>.resolve_left
    (List.ne_nil_of_mem member)
  rw [split] at member sorted ⊢
  rw [List.getLast?_concat, Option.map_some, Option.getD_some]
  rcases List.mem_append.mp member with early | late
  · exact Nat.le_of_lt ((List.pairwise_append.mp sorted).2.2 item early final (by simp))
  · rw [List.mem_singleton.mp late]

theorem page_complete {item : Item} (member : item ∈ items) (later : cursor < key item)
    (covered : key item ≤ nextCursor key cursor limit items) :
    item ∈ page key cursor limit items := by
  have whole : page key cursor limit items ++ (past key cursor items).drop limit =
      past key cursor items := List.take_append_drop _ _
  have sorted : (past key cursor items).Pairwise fun left right => key left < key right :=
    past_sorted distinct
  have inside := mem_past.mpr ⟨member, later⟩
  rw [← whole] at sorted inside
  rcases List.mem_append.mp inside with shown | rest
  · exact shown
  · exfalso
    unfold nextCursor at covered
    cases last : (page key cursor limit items).getLast? with
    | none =>
        rw [last, Option.map_none, Option.getD_none] at covered
        omega
    | some final =>
        have before := (List.pairwise_append.mp sorted).2.2 final (List.mem_of_getLast? last) item rest
        rw [last, Option.map_some, Option.getD_some] at covered
        omega

end Page

theorem page_all {item : Item} (last : hasMore key cursor limit items = false)
    (member : item ∈ items) (later : cursor < key item) : item ∈ page key cursor limit items := by
  have short : (past key cursor items).length ≤ limit := by
    simp only [hasMore, List.length_take, decide_eq_false_iff_not] at last
    omega
  rw [page, List.take_of_length_le short]
  exact mem_past.mpr ⟨member, later⟩

theorem page_past {item : Item} (member : item ∈ page key cursor limit items) :
    item ∈ items ∧ cursor < key item := mem_past.mp (List.mem_of_mem_take member)

theorem cursor_le_next : cursor ≤ nextCursor key cursor limit items := by
  unfold nextCursor
  cases last : (page key cursor limit items).getLast? with
  | none => exact Nat.le_refl _
  | some final => exact Nat.le_of_lt (page_past (List.mem_of_getLast? last)).2

theorem cursor_lt_next (positive : 0 < limit) (more : hasMore key cursor limit items = true) :
    cursor < nextCursor key cursor limit items := by
  have long : page key cursor limit items ≠ [] := by
    intro empty
    simp only [hasMore, List.length_take, decide_eq_true_eq] at more
    rw [page, List.take_eq_nil_iff] at empty
    rcases empty with zero | none
    · omega
    · rw [none] at more
      simp at more
  unfold nextCursor
  rw [List.getLast?_eq_some_getLast long, Option.map_some, Option.getD_some]
  exact (page_past (List.getLast_mem long)).2

section Run

variable {sources : List (List Item)} {history : List Item}

theorem rounds_past (rounds : Rounds key limit cursor sources history) :
    ∀ item ∈ history, cursor < key item := by
  induction rounds with
  | last _ => exact fun item member => (page_past member).2
  | more _ _ ih =>
      intro item member
      rcases List.mem_append.mp member with shown | later
      · exact (page_past shown).2
      · exact Nat.lt_of_le_of_lt cursor_le_next (ih item later)

theorem rounds_sorted (rounds : Rounds key limit cursor sources history)
    (distinct : ∀ items ∈ sources, (items.map key).Nodup) :
    history.Pairwise fun left right => key left < key right := by
  induction rounds with
  | last _ => exact page_sorted (distinct _ (List.mem_singleton_self _))
  | more _ rest ih =>
      have own := distinct _ List.mem_cons_self
      refine List.pairwise_append.mpr ⟨page_sorted own,
        ih fun items member => distinct items (List.mem_cons_of_mem _ member), ?_⟩
      intro left shown right later
      exact Nat.lt_of_le_of_lt (le_nextCursor own shown) (rounds_past rest right later)

theorem rounds_complete (rounds : Rounds key limit cursor sources history)
    (distinct : ∀ items ∈ sources, (items.map key).Nodup) (settled : sources.Pairwise (Settled key))
    {final : List Item} (ends : sources.getLast? = some final) {item : Item}
    (member : item ∈ final) (later : cursor < key item) : item ∈ history := by
  induction rounds with
  | last done =>
      cases ends
      exact page_all done member later
  | @more cursor items sources history more rest ih =>
      obtain ⟨own, others⟩ := List.pairwise_cons.mp settled
      have tail : sources.getLast? = some final := by
        cases rest with
        | last _ => exact ends
        | more _ _ => exact ends
      by_cases covered : key item ≤ nextCursor key cursor limit items
      · refine List.mem_append_left _ ?_
        have distinctHere := distinct items List.mem_cons_self
        refine page_complete distinctHere ?_ later covered
        refine own final (List.mem_of_getLast? tail) item member ?_
        -- The next cursor is a key of the page, for the item is past the one before.
        unfold nextCursor at covered
        cases last : (page key cursor limit items).getLast? with
        | none =>
            rw [last, Option.map_none, Option.getD_none] at covered
            omega
        | some shown =>
            rw [last, Option.map_some, Option.getD_some] at covered
            exact ⟨shown, (page_past (List.mem_of_getLast? last)).1, covered⟩
      · refine List.mem_append_right _ (ih (fun items inside => distinct items
          (List.mem_cons_of_mem _ inside)) others tail ?_)
        omega

end Run

end Paging
