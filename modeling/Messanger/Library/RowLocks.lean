import Mathlib.Tactic.ByContra
import Messanger.Library.Chronicle

/-!
Rows that tasks lock.  A task holds what it has locked until an action of it that releases, or its
end; an action that locks waits until no other task holds the row.  What only the holder of a row
changes is, as long as a task holds the row, what it was when the task looked.
-/

namespace Processes

variable {World Label Error Answer Tag Key View : Type}

structure Locks (World Label Key : Type) where
  acquires : Label → World → Option Key
  releases : Label → Bool

theorem Scene.earlier_front {Holds : List (Entry World Label Tag Error Answer) →
      Entry World Label Tag Error Answer → Prop}
    {front more : List (Entry World Label Tag Error Answer)}
    (earlier : Scene.Earlier Holds (front ++ more)) : Scene.Earlier Holds front := by
  intro before entry after same
  refine earlier before entry (after ++ more) ?_
  rw [same, List.append_assoc, List.cons_append]

namespace Locks

variable (locks : Locks World Label Key) (view : Key → World → View)

def hold (index : Nat) (held : List Key) (entry : Entry World Label Tag Error Answer) : List Key :=
  if entry.index = index then
    if entry.outcome.isSome || locks.releases entry.label then []
    else (locks.acquires entry.label entry.before).toList ++ held
  else held

def held (history : List (Entry World Label Tag Error Answer)) (index : Nat) : List Key :=
  history.foldl (locks.hold index) []

def Waits (scene : Scene World Label Tag Error Answer) (index : Nat) (label : Label) : Prop :=
  ∀ key ∈ locks.acquires label scene.world, ∀ entry ∈ scene.history, entry.index ≠ index →
    key ∉ locks.held scene.history entry.index

instance [DecidableEq Key] (scene : Scene World Label Tag Error Answer) (index : Nat)
    (label : Label) : Decidable (locks.Waits scene index label) :=
  match found : locks.acquires label scene.world with
  | none => .isTrue fun key same => by rw [found] at same; cases same
  | some key =>
      decidable_of_iff (∀ entry ∈ scene.history, entry.index ≠ index →
        key ∉ locks.held scene.history entry.index) (by simp [Waits, found])

structure Lawful (scene : Scene World Label Tag Error Answer) : Prop where
  connected : scene.Connected
  exclusive : Scene.Earlier (fun before entry => ∀ key ∈ locks.acquires entry.label entry.before,
    ∀ other, other ≠ entry.index → key ∉ locks.held before other) scene.history
  guarded : Scene.Earlier (fun before entry => ∀ key,
    view key entry.after ≠ view key entry.before → key ∈ locks.held before entry.index)
    scene.history

structure Holding (index : Nat) (key : Key) (seen : View)
    (scene : Scene World Label Tag Error Answer) : Prop where
  connected : scene.Connected
  held : key ∈ locks.held scene.history index
  view : view key scene.world = seen

variable {locks view} {scene now : Scene World Label Tag Error Answer} {index other : Nat}
  {tag : Tag} {label : Label} {effect : World → World} {outcome : Option (Except Error Answer)}
  {key : Key} {seen : View} {history : List (Entry World Label Tag Error Answer)}

section Held

theorem held_concat (last : Entry World Label Tag Error Answer) :
    locks.held (history ++ [last]) index = locks.hold index (locks.held history index) last := by
  rw [held, List.foldl_append]
  rfl

theorem held_append {more : List (Entry World Label Tag Error Answer)}
    (others : ∀ entry ∈ more, entry.index ≠ index) :
    locks.held (history ++ more) index = locks.held history index := by
  induction more using List.reverseRecOn with
  | nil => rw [List.append_nil]
  | append_singleton more last ih =>
      have mine : last.index ≠ index := others last (List.mem_append_right _ List.mem_cons_self)
      rw [← List.append_assoc, held_concat, hold, if_neg mine]
      exact ih fun entry member => others entry (List.mem_append_left _ member)

theorem not_held_of_idle (idle : ∀ entry ∈ history, entry.index ≠ index) :
    locks.held history index = [] := by
  have held : locks.held ([] ++ history) index = locks.held [] index := held_append idle
  exact held

theorem holder_unique (exclusive : Scene.Earlier (fun before entry =>
      ∀ key ∈ locks.acquires entry.label entry.before, ∀ other, other ≠ entry.index →
        key ∉ locks.held before other) history)
    (mine : key ∈ locks.held history index) (theirs : key ∈ locks.held history other) :
    index = other := by
  induction history using List.reverseRecOn with
  | nil => cases mine
  | append_singleton front last ih =>
      have before := ih (Scene.earlier_front exclusive)
      have here := exclusive front last [] rfl
      rw [held_concat, hold] at mine theirs
      by_cases same : index = other
      · exact same
      · split at mine
        · rename_i acting
          rw [if_neg (acting ▸ same)] at theirs
          split at mine
          · cases mine
          · rcases List.mem_append.mp mine with taken | kept
            · have free := here key (Option.mem_toList.mp taken) other (acting ▸ Ne.symm same)
              exact absurd theirs free
            · exact before kept theirs
        · split at theirs
          · rename_i acting
            split at theirs
            · cases theirs
            · rcases List.mem_append.mp theirs with taken | kept
              · have free := here key (Option.mem_toList.mp taken) index (acting ▸ same)
                exact absurd mine free
              · exact before mine kept
          · exact before mine theirs

end Held

theorem lawful_nil {world : World} :
    locks.Lawful view (⟨world, [], []⟩ : Scene World Label Tag Error Answer) where
  connected := fun _ _ found => nomatch found
  exclusive := Scene.earlier_nil
  guarded := Scene.earlier_nil

theorem Lawful.opening (lawful : locks.Lawful view scene) :
    locks.Lawful view (scene.opening tag) := ⟨lawful.connected, lawful.exclusive, lawful.guarded⟩

theorem Lawful.after (lawful : locks.Lawful view scene) (waits : locks.Waits scene index label)
    (guarded : ∀ key, view key (effect scene.world) ≠ view key scene.world →
      key ∈ locks.held scene.history index) :
    locks.Lawful view (scene.after index tag label effect outcome) := by
  refine ⟨Scene.connected_after lawful.connected, Scene.earlier_concat lawful.exclusive ?_,
    Scene.earlier_concat lawful.guarded guarded⟩
  intro key taken other apart held
  by_cases acted : ∃ entry ∈ scene.history, entry.index = other
  · obtain ⟨entry, member, rfl⟩ := acted
    exact waits key taken entry member apart held
  · have idle : locks.held scene.history other = [] :=
      not_held_of_idle fun entry member same => acted ⟨entry, member, same⟩
    rw [idle] at held
    cases held

theorem Lawful.view_eq (lawful : locks.Lawful view now) (connected : scene.Connected)
    (held : key ∈ locks.held scene.history index) (meanwhile : scene.Meanwhile index now) :
    view key now.world = view key scene.world := by
  have acted : scene.history ≠ [] := by
    intro empty
    rw [empty] at held
    cases held
  refine (lawful.connected.induct_meanwhile
    (fun history world => key ∈ locks.held history index ∧ view key world = view key scene.world)
    connected meanwhile acted ⟨held, rfl⟩ ?_).2
  rintro before entry after split apart ⟨mine, same⟩
  constructor
  · rw [held_append (by simpa using apart)]
    exact mine
  · rw [← same]
    by_contra changed
    have theirs := lawful.guarded _ _ _ split key changed
    have exclusive := lawful.exclusive
    rw [split] at exclusive
    exact apart (holder_unique (Scene.earlier_front exclusive) theirs mine)

section Holding

theorem Holding.later (holding : locks.Holding view index key seen scene)
    (lawful : locks.Lawful view now) (meanwhile : scene.Meanwhile index now) :
    locks.Holding view index key seen now := by
  refine ⟨lawful.connected, ?_, ?_⟩
  · obtain ⟨_, more, history, others⟩ := meanwhile
    rw [history, held_append others]
    exact holding.held
  · rw [lawful.view_eq holding.connected holding.held meanwhile]
    exact holding.view

theorem Holding.after (holding : locks.Holding view index key seen scene)
    (stays : locks.releases label = false) :
    locks.Holding view index key (view key (effect scene.world))
      (scene.after index tag label effect none) := by
  refine ⟨Scene.connected_after holding.connected, ?_, rfl⟩
  rw [Scene.after, held_concat, hold, if_pos rfl, stays]
  exact List.mem_append_right _ holding.held

theorem holding_acquired (connected : scene.Connected)
    (acquires : locks.acquires label scene.world = some key)
    (stays : locks.releases label = false) :
    locks.Holding view index key (view key (effect scene.world))
      (scene.after index tag label effect none) := by
  refine ⟨Scene.connected_after connected, ?_, rfl⟩
  rw [Scene.after, held_concat, hold, if_pos rfl, stays, acquires]
  exact List.mem_append_left _ List.mem_cons_self

end Holding

end Locks

end Processes
