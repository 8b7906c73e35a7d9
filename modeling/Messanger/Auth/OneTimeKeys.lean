import Messanger.Auth.CommandsCore

/-!
Keys of Redis for one use: each is set once, and deleted by the one command that uses it.
-/

namespace Messanger.Auth

open Relational Processes

variable {kind : RedisKey → Prop}

structure KeyEntry (kind : RedisKey → Prop) (before : List AuthEntry) (entry : AuthEntry) :
    Prop where
  set : ∀ key, kind key → entry.label = .set key → ∀ other ∈ before, other.label ≠ .set key
  del : ∀ key, kind key → entry.label = .del key →
    (∃ issue ∈ before, issue.label = .set key) ∧ ∀ other ∈ before, other.label ≠ .del key

structure OneTime (kind : RedisKey → Prop) (scene : AuthScene) : Prop where
  entries : Scene.Earlier (KeyEntry kind) scene.history
  issued : ∀ key, kind key → ∀ stored, scene.world.redis key = some stored →
    ∃ issue ∈ scene.history, issue.label = .set key ∧ issue.after.redis key = some stored
  gone : ∀ entry ∈ scene.history, ∀ key, kind key → entry.label = .del key →
    scene.world.redis key = none

variable {now : AuthScene} {index : Nat} {tag : AuthCommand} {label : Op}
  {effect : World → World} {outcome : Option (Except AuthError AuthAnswer)}

theorem oneTime_initial {world : World} (empty : ∀ key, kind key → world.redis key = none) :
    OneTime kind ⟨world, [], []⟩ where
  entries := Scene.earlier_nil
  issued := fun key one _ found => nomatch (empty key one).symm.trans found
  gone := fun _ member => nomatch member

theorem OneTime.opening (law : OneTime kind now) : OneTime kind (now.opening tag) where
  entries := law.entries
  issued := law.issued
  gone := law.gone

theorem OneTime.after (law : OneTime kind now)
    (entry : KeyEntry kind now.history ⟨index, tag, label, now.world, effect now.world, outcome⟩)
    (redis : ∀ key, kind key → (effect now.world).redis key = now.world.redis key ∨
      label = .set key ∨ (effect now.world).redis key = none)
    (deleted : ∀ key, kind key → label = .del key → (effect now.world).redis key = none) :
    OneTime kind (now.after index tag label effect outcome) where
  entries := Scene.earlier_concat law.entries entry
  issued := by
    intro key one stored found
    rcases redis key one with same | set | none
    · obtain ⟨issue, member, labelled, kept⟩ := law.issued key one stored (same.symm.trans found)
      exact ⟨issue, List.mem_append_left _ member, labelled, kept⟩
    · exact ⟨_, List.mem_append_right _ (List.mem_singleton_self _), set, found⟩
    · exact nomatch none.symm.trans found
  gone := by
    intro old member key one labelled
    rcases List.mem_append.mp member with before | last
    · rcases redis key one with same | set | none
      · exact same.trans (law.gone old before key one labelled)
      · obtain ⟨early, late, split⟩ := List.append_of_mem before
        obtain ⟨⟨issue, issueMember, issueLabel⟩, _⟩ :=
          (law.entries early old late split).del key one labelled
        have issueBefore : issue ∈ now.history := by
          rw [split]
          exact List.mem_append_left _ issueMember
        exact absurd issueLabel (entry.set key one set issue issueBefore)
      · exact none
    · rw [List.mem_singleton.mp last] at labelled
      exact deleted key one labelled

theorem OneTime.quiet (law : OneTime kind now) (unset : ∀ key, kind key → label ≠ .set key)
    (undeleted : ∀ key, kind key → label ≠ .del key)
    (redis : ∀ key, kind key → (effect now.world).redis key = now.world.redis key) :
    OneTime kind (now.after index tag label effect outcome) :=
  law.after
    ⟨fun key one same => absurd same (unset key one),
      fun key one same => absurd same (undeleted key one)⟩
    (fun key one => .inl (redis key one)) fun key one same => absurd same (undeleted key one)

theorem redis_set_other {world : World} {key other : RedisKey} (different : other ≠ key)
    (value seconds : Nat) : (world.set key value seconds).redis other = world.redis other :=
  Function.update_of_ne different _ _

theorem OneTime.set (law : OneTime kind now) {key : RedisKey}
    (unset : ∀ entry ∈ now.history, entry.label ≠ .set key) {value seconds : Nat}
    (effect_eq : effect now.world = now.world.set key value seconds) :
    OneTime kind (now.after index tag (.set key) effect outcome) := by
  refine law.after ⟨?_, fun _ _ same => nomatch same⟩ ?_ fun _ _ same => nomatch same
  · intro other one same
    cases same
    exact unset
  · intro other one
    by_cases same : other = key
    · exact .inr (.inl (congrArg Op.set same.symm))
    · left
      rw [effect_eq]
      exact redis_set_other same _ _

theorem OneTime.del (law : OneTime kind now) {key : RedisKey} (one : kind key)
    (there : (now.world.redis key).isSome) (effect_eq : effect now.world = now.world.del key) :
    OneTime kind (now.after index tag (.del key) effect outcome) := by
  obtain ⟨stored, kept⟩ := Option.isSome_iff_exists.mp there
  refine law.after ⟨fun _ _ same => (nomatch same), ?_⟩ ?_ ?_
  · intro other _ same
    cases same
    obtain ⟨issue, member, labelled, _⟩ := law.issued _ one stored kept
    refine ⟨⟨issue, member, labelled⟩, fun old oldMember deleted => ?_⟩
    exact nomatch kept.symm.trans (law.gone old oldMember _ one deleted)
  · intro other _
    rw [effect_eq]
    by_cases same : other = key
    · right
      right
      rw [same]
      exact Function.update_self _ _ _
    · exact .inl (Function.update_of_ne same _ _)
  · intro other _ same
    cases same
    rw [effect_eq]
    exact Function.update_self _ _ _

theorem OneTime.del_unique (law : OneTime kind now) {key : RedisKey} (one : kind key)
    {left right : AuthEntry} (leftMember : left ∈ now.history) (rightMember : right ∈ now.history)
    (leftDeletes : left.label = .del key) (rightDeletes : right.label = .del key) : left = right :=
  Scene.earlier_unique (fun before entry after same deletes =>
    ((law.entries before entry after same).del key one deletes).2)
    leftMember rightMember leftDeletes rightDeletes

end Messanger.Auth
