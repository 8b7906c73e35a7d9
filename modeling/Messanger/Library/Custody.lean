import Mathlib.Tactic.ByContra
import Messanger.Library.Chronicle

/-!
Things that tasks make, that a world names, and that are thrown away.  A thing is in the hand of the
task that took it or, later, of the one after whose action the world no longer named it; only that
task has it named, which needs it to be stored, or throws it away.
-/

namespace Processes

variable {World Label Error Answer Tag Key : Type}

structure Custody (World Label Key : Type) where
  takes : Label → World → World → List Key
  named : World → List Key
  stored : World → List Key

namespace Custody

variable [DecidableEq Key] (custody : Custody World Label Key)

def hold (key : Key) (holder : Option Nat) (entry : Entry World Label Tag Error Answer) :
    Option Nat :=
  if key ∈ custody.takes entry.label entry.before entry.after ∨
      (key ∈ custody.named entry.before ∧ key ∉ custody.named entry.after) then some entry.index
  else holder

def hand (history : List (Entry World Label Tag Error Answer)) (key : Key) : Option Nat :=
  history.foldl (custody.hold key) none

/-- What a task may do to the world: it takes what is new, has named what is in its hand and stored,
and throws away what is in its hand and not named. -/
structure Permits (history : List (Entry World Label Tag Error Answer)) (index : Nat)
    (label : Label) (before after : World) : Prop where
  takes : ∀ key ∈ custody.takes label before after,
    custody.hand history key = none ∧ key ∉ custody.named before
  names : ∀ key ∈ custody.named after, key ∉ custody.named before →
    custody.hand history key = some index ∧ key ∈ custody.stored after
  drops : ∀ key ∈ custody.stored before, key ∉ custody.stored after →
    custody.hand history key = some index ∧ key ∉ custody.named before

structure Lawful (scene : Scene World Label Tag Error Answer) : Prop where
  connected : scene.Connected
  permitted : Scene.Earlier (fun history entry =>
    custody.Permits history entry.index entry.label entry.before entry.after) scene.history
  safe : ∀ key ∈ custody.named scene.world, key ∈ custody.stored scene.world

structure Mine (index : Nat) (key : Key) (scene : Scene World Label Tag Error Answer) : Prop where
  connected : scene.Connected
  hand : custody.hand scene.history key = some index
  unnamed : key ∉ custody.named scene.world

variable {custody} {scene now : Scene World Label Tag Error Answer} {index : Nat} {tag : Tag}
  {label : Label} {effect : World → World} {outcome : Option (Except Error Answer)} {key : Key}
  {history : List (Entry World Label Tag Error Answer)}

theorem hand_concat (last : Entry World Label Tag Error Answer) :
    custody.hand (history ++ [last]) key = custody.hold key (custody.hand history key) last := by
  rw [hand, List.foldl_append]
  rfl

theorem lawful_nil {world : World}
    (safe : ∀ key ∈ custody.named world, key ∈ custody.stored world) :
    custody.Lawful (⟨world, [], []⟩ : Scene World Label Tag Error Answer) where
  connected := fun _ _ found => nomatch found
  permitted := Scene.earlier_nil
  safe := safe

theorem Lawful.opening (lawful : custody.Lawful scene) : custody.Lawful (scene.opening tag) :=
  ⟨lawful.connected, lawful.permitted, lawful.safe⟩

theorem Lawful.after (lawful : custody.Lawful scene)
    (permits : custody.Permits scene.history index label scene.world (effect scene.world)) :
    custody.Lawful (scene.after index tag label effect outcome) := by
  refine ⟨Scene.connected_after lawful.connected,
    Scene.earlier_concat lawful.permitted permits, fun key member => ?_⟩
  by_cases old : key ∈ custody.named scene.world
  · by_contra gone
    exact (permits.drops key (lawful.safe key old) gone).2 old
  · exact (permits.names key member old).2

theorem hand_other {entry : Entry World Label Tag Error Answer}
    (permits : custody.Permits history entry.index entry.label entry.before entry.after)
    (apart : entry.index ≠ index) (hand : custody.hand history key = some index)
    (unnamed : key ∉ custody.named entry.before) :
    custody.hand (history ++ [entry]) key = some index ∧ key ∉ custody.named entry.after ∧
      (key ∈ custody.stored entry.before → key ∈ custody.stored entry.after) := by
  refine ⟨?_, fun member => ?_, fun member => ?_⟩
  · rw [hand_concat, hold, if_neg]
    · exact hand
    · rintro (taken | ⟨named, _⟩)
      · have free := (permits.takes key taken).1
        rw [hand] at free
        cases free
      · exact unnamed named
  · have own := (permits.names key member unnamed).1
    rw [hand] at own
    exact apart (Option.some.inj own).symm
  · by_contra gone
    have own := (permits.drops key member gone).1
    rw [hand] at own
    exact apart (Option.some.inj own).symm

theorem Mine.later (mine : custody.Mine index key scene) (lawful : custody.Lawful now)
    (meanwhile : scene.Meanwhile index now) :
    custody.Mine index key now ∧
      (key ∈ custody.stored scene.world → key ∈ custody.stored now.world) := by
  have acted : scene.history ≠ [] := by
    intro empty
    have hand := mine.hand
    rw [empty] at hand
    cases hand
  have kept := lawful.connected.induct_meanwhile
    (fun history world => custody.hand history key = some index ∧ key ∉ custody.named world ∧
      (key ∈ custody.stored scene.world → key ∈ custody.stored world))
    mine.connected meanwhile acted ⟨mine.hand, mine.unnamed, id⟩ ?_
  · exact ⟨⟨lawful.connected, kept.1, kept.2.1⟩, kept.2.2⟩
  · rintro before entry after split apart ⟨hand, unnamed, stored⟩
    obtain ⟨still, absent, there⟩ := hand_other (lawful.permitted _ _ _ split) apart hand unnamed
    exact ⟨still, absent, fun member => there (stored member)⟩

theorem Mine.after (mine : custody.Mine index key scene)
    (unnamed : key ∉ custody.named (effect scene.world)) :
    custody.Mine index key (scene.after index tag label effect outcome) := by
  refine ⟨Scene.connected_after mine.connected, ?_, unnamed⟩
  rw [Scene.after, hand_concat, hold]
  split
  · rfl
  · exact mine.hand

theorem mine_taken (connected : scene.Connected)
    (taken : key ∈ custody.takes label scene.world (effect scene.world))
    (unnamed : key ∉ custody.named (effect scene.world)) :
    custody.Mine index key (scene.after index tag label effect outcome) := by
  refine ⟨Scene.connected_after connected, ?_, unnamed⟩
  rw [Scene.after, hand_concat, hold, if_pos (.inl taken)]

theorem mine_withdrawn (connected : scene.Connected)
    (named : key ∈ custody.named scene.world)
    (unnamed : key ∉ custody.named (effect scene.world)) :
    custody.Mine index key (scene.after index tag label effect outcome) := by
  refine ⟨Scene.connected_after connected, ?_, unnamed⟩
  rw [Scene.after, hand_concat, hold, if_pos (.inr ⟨named, unnamed⟩)]

end Custody

end Processes
