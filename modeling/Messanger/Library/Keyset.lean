import Mathlib.Data.List.Sort
import Mathlib.Data.Prod.Lex

/-!
Lists read from the greatest key down, and what is left of one past the last item of its front.
-/

namespace Keyset

variable {Item Key : Type} [LinearOrder Key] (key : Item → Key) (items : List Item)

def newest : List Item := items.insertionSort fun left right => key right ≤ key left

def Falling (items : List Item) : Prop := items.Pairwise fun left right => key right < key left

variable {key items}

theorem newest_perm : (newest key items).Perm items := List.perm_insertionSort _ _

theorem mem_newest {item : Item} : item ∈ newest key items ↔ item ∈ items := newest_perm.mem_iff

theorem newest_falling (distinct : (items.map key).Nodup) : Falling key (newest key items) := by
  have ordered : (newest key items).Pairwise fun left right => key right ≤ key left := by
    have : Std.Total (fun left right : Item => key right ≤ key left) :=
      ⟨fun left right => le_total (key right) (key left)⟩
    have : IsTrans Item (fun left right => key right ≤ key left) :=
      ⟨fun _ _ _ first second => le_trans second first⟩
    exact List.pairwise_insertionSort _ _
  have apart : (newest key items).Pairwise fun left right => key left ≠ key right := by
    have spread := List.pairwise_map.mp distinct
    exact newest_perm.symm.pairwise spread fun other => Ne.symm other
  refine (ordered.and apart).imp ?_
  rintro left right ⟨least, other⟩
  exact lt_of_le_of_ne least (Ne.symm other)

theorem falling_unique {left right : List Item} (first : Falling key left)
    (second : Falling key right) (same : left.Perm right) : left = right := by
  refine List.Perm.eq_of_pairwise (fun a b _ _ before after => ?_) first second same
  exact absurd after (lt_asymm before)

theorem newest_filter (distinct : (items.map key).Nodup) (wanted : Item → Bool) :
    newest key (items.filter wanted) = (newest key items).filter wanted := by
  have fewer : (items.filter wanted).Sublist items := List.filter_sublist
  refine falling_unique (newest_falling (distinct.sublist (fewer.map key)))
    ((newest_falling distinct).sublist List.filter_sublist) ?_
  exact newest_perm.trans (newest_perm.symm.filter wanted)

theorem last_le {last item : Item} (falling : Falling key items)
    (ends : items.getLast? = some last) (member : item ∈ items) : key last ≤ key item := by
  obtain ⟨earlier, split⟩ := List.getLast?_eq_some_iff.mp ends
  rw [split] at falling member
  rcases List.mem_append.mp member with before | here
  · exact le_of_lt ((List.pairwise_append.mp falling).2.2 item before last (by simp))
  · rw [List.mem_singleton.mp here]

theorem filter_past {limit : Nat} {last : Item} (falling : Falling key items)
    (ends : (items.take limit).getLast? = some last) :
    (items.filter fun item => decide (key item < key last)) = items.drop limit := by
  have whole : items.take limit ++ items.drop limit = items := List.take_append_drop _ _
  have ordered : Falling key (items.take limit ++ items.drop limit) := by rwa [whole]
  obtain ⟨front, _, across⟩ := List.pairwise_append.mp ordered
  have none : (items.take limit).filter (fun item => decide (key item < key last)) = [] := by
    refine List.filter_eq_nil_iff.mpr fun item member => ?_
    rw [decide_eq_true_eq, not_lt]
    exact last_le front ends member
  have all : (items.drop limit).filter (fun item => decide (key item < key last)) =
      items.drop limit := by
    refine List.filter_eq_self.mpr fun item member => ?_
    exact decide_eq_true (across last (List.mem_of_getLast? ends) item member)
  calc (items.filter fun item => decide (key item < key last))
      = (items.take limit ++ items.drop limit).filter fun item => decide (key item < key last) := by
        rw [whole]
    _ = items.drop limit := by rw [List.filter_append, none, all, List.nil_append]

theorem mem_front {limit : Nat} {last item : Item} (falling : Falling key items)
    (ends : (items.take limit).getLast? = some last) (member : item ∈ items)
    (reached : key last ≤ key item) : item ∈ items.take limit := by
  have whole : item ∈ items.take limit ++ items.drop limit := by
    rw [List.take_append_drop]
    exact member
  rcases List.mem_append.mp whole with front | rest
  · exact front
  · rw [← filter_past falling ends, List.mem_filter, decide_eq_true_eq] at rest
    exact absurd rest.2 (not_lt.mpr reached)

theorem mem_front_of_reached {limit : Nat} {shown item : Item} (falling : Falling key items)
    (front : shown ∈ items.take limit) (member : item ∈ items) (reached : key shown ≤ key item) :
    item ∈ items.take limit := by
  have filled : items.take limit ≠ [] := List.ne_nil_of_mem front
  have ends := List.getLast?_eq_some_getLast filled
  refine mem_front falling ends member (le_trans ?_ reached)
  exact last_le (falling.sublist (List.take_sublist _ _)) ends front

section Merging

variable {Kind : Type} [DecidableEq Kind] {kind : Item → Kind} {limit : Nat}

def reads (key : Item → Key) (kind : Item → Kind) (limit : Nat) (items : List Item)
    (kinds : List Kind) : List Item :=
  kinds.flatMap fun wanted =>
    (newest key (items.filter fun item => decide (kind item = wanted))).take limit

end Merging

section Following

variable {Cursor : Type}

structure Page (Item Cursor : Type) where
  items : List Item
  hasNext : Bool
  nextCursor : Option Cursor

/-- Following the next cursors until a page has no next; none is a page that fails. -/
inductive Follows (fetch : Option Cursor → Option (Page Item Cursor)) :
    Option Cursor → List Item → Prop
  | last {cursor : Option Cursor} {page : Page Item Cursor} : fetch cursor = some page →
      page.hasNext = false → Follows fetch cursor page.items
  | more {cursor : Option Cursor} {page : Page Item Cursor} {next : Cursor} {rest : List Item} :
      fetch cursor = some page → page.hasNext = true → page.nextCursor = some next →
      Follows fetch (some next) rest → Follows fetch cursor (page.items ++ rest)

/-- A page shows the front of what remains past its cursor, and its next cursor leaves the rest. -/
structure Shows (fetch : Option Cursor → Option (Page Item Cursor)) (limit : Nat)
    (Sound : Option Cursor → Prop) (remaining : Option Cursor → List Item) : Prop where
  page : ∀ cursor, Sound cursor → ∃ page, fetch cursor = some page ∧
    page.items = (remaining cursor).take limit ∧
    page.hasNext = decide (limit < (remaining cursor).length) ∧
    (page.hasNext = true → ∃ next, page.nextCursor = some next ∧ Sound (some next) ∧
      remaining (some next) = (remaining cursor).drop limit)

variable {fetch : Option Cursor → Option (Page Item Cursor)} {limit : Nat}
  {Sound : Option Cursor → Prop} {remaining : Option Cursor → List Item}

theorem Shows.follows_all (shows : Shows fetch limit Sound remaining) {cursor : Option Cursor}
    {read : List Item} (follows : Follows fetch cursor read) (sound : Sound cursor) :
    read = remaining cursor := by
  induction follows with
  | @last cursor page fetched ends =>
      obtain ⟨shown, found, front, flag, _⟩ := shows.page cursor sound
      cases fetched.symm.trans found
      rw [ends, eq_comm, decide_eq_false_iff_not] at flag
      rw [front, List.take_of_length_le (by omega)]
  | @more cursor page next rest fetched goes points _ ih =>
      obtain ⟨shown, found, front, _, onwards⟩ := shows.page cursor sound
      cases fetched.symm.trans found
      obtain ⟨other, pointed, soundNext, left⟩ := onwards goes
      cases points.symm.trans pointed
      rw [ih soundNext, left, front, List.take_append_drop]

theorem Shows.follows_end (shows : Shows fetch limit Sound remaining) (positive : 0 < limit)
    {cursor : Option Cursor} (sound : Sound cursor) : Follows fetch cursor (remaining cursor) := by
  induction size : (remaining cursor).length using Nat.strongRecOn generalizing cursor with
  | ind size ih =>
      obtain ⟨page, found, front, flag, onwards⟩ := shows.page cursor sound
      by_cases more : limit < (remaining cursor).length
      · have goes : page.hasNext = true := flag.trans (decide_eq_true more)
        obtain ⟨next, points, soundNext, left⟩ := onwards goes
        have rest := ih (remaining (some next)).length
          (by rw [left, List.length_drop]; omega) soundNext rfl
        rw [← List.take_append_drop limit (remaining cursor), ← front, ← left]
        exact .more found goes points rest
      · have ends : page.hasNext = false := flag.trans (decide_eq_false more)
        rw [← List.take_of_length_le (Nat.not_lt.mp more), ← front]
        exact .last found ends

def Naming (text : Item → Cursor) (items : List Item) (cursor : Option Cursor) : Prop :=
  cursor = none ∨ ∃ item ∈ items, cursor = some (text item)

theorem shows_of_naming {text : Item → Cursor} (falling : Falling key items)
    (positive : 0 < limit) (start : remaining none = items)
    (past : ∀ item ∈ items,
      remaining (some (text item)) = items.filter fun other => decide (key other < key item))
    (fetched : ∀ cursor, Naming text items cursor → ∃ page, fetch cursor = some page ∧
      page.items = (remaining cursor).take limit ∧
      page.hasNext = decide (limit < (remaining cursor).length) ∧
      (page.hasNext = true → page.nextCursor = page.items.getLast?.map text)) :
    Shows fetch limit (Naming text items) remaining := by
  refine ⟨fun cursor naming => ?_⟩
  obtain ⟨page, found, front, flag, names⟩ := fetched cursor naming
  refine ⟨page, found, front, flag, fun goes => ?_⟩
  have more : limit < (remaining cursor).length := of_decide_eq_true (flag.symm.trans goes)
  have inside : (remaining cursor).Sublist items := by
    rcases naming with rfl | ⟨item, member, rfl⟩
    · rw [start]
    · rw [past item member]
      exact List.filter_sublist
  have shown : (remaining cursor).take limit ≠ [] := by
    intro empty
    have none := congrArg List.length empty
    rw [List.length_take, List.length_nil] at none
    omega
  obtain ⟨last, ends⟩ : ∃ last, ((remaining cursor).take limit).getLast? = some last :=
    ⟨_, List.getLast?_eq_some_getLast shown⟩
  have here : last ∈ remaining cursor := List.mem_of_mem_take (List.mem_of_getLast? ends)
  refine ⟨text last, ?_, .inr ⟨last, inside.mem here, rfl⟩, ?_⟩
  · rw [names goes, front, ends, Option.map_some]
  · rw [past last (inside.mem here), ← filter_past (falling.sublist inside) ends]
    rcases naming with rfl | ⟨item, member, rfl⟩
    · rw [start]
    · rw [past item member] at here ⊢
      rw [List.filter_filter]
      refine List.filter_congr fun other _ => ?_
      have before : key last < key item := of_decide_eq_true (List.mem_filter.mp here).2
      by_cases under : key other < key last
      · simp [under, under.trans before]
      · simp [under]

end Following

end Keyset
