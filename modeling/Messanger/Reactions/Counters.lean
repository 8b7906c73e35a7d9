import Messanger.Reactions.ReactionsCore

/-!
The reaction counters count the reaction rows, in every committed state of every interleaving.
A session that adds or removes a reaction holds its row and, from the second statement on, the
counter's; between whole additions and removals its buffered writes may be committed.
-/

namespace Messanger

open Relational

namespace ReactionDb

def reactors (db : ReactionDb) (messageId : MessageId) (emoji : Emoji) : Nat :=
  db.reactions.count fun row => row.messageId == messageId && row.emoji == emoji

/-- A counter is there exactly for the emojis some row has, and counts these rows. -/
structure Exact (db : ReactionDb) : Prop where
  present : ∀ messageId emoji, (db.counters.find? (messageId, emoji)).isSome ↔
    ∃ row ∈ db.reactions.rows, row.messageId = messageId ∧ row.emoji = emoji
  counted : ∀ messageId emoji counter, db.counters.find? (messageId, emoji) = some counter →
    counter.count = db.reactors messageId emoji

theorem reactors_pos_iff (db : ReactionDb) (messageId : MessageId) (emoji : Emoji) :
    0 < db.reactors messageId emoji ↔
      ∃ row ∈ db.reactions.rows, row.messageId = messageId ∧ row.emoji = emoji := by
  simp [reactors, Table.count, List.countP_pos_iff]

theorem exact_iff (db : ReactionDb) :
    db.Exact ↔ ∀ messageId emoji, db.count? messageId emoji =
      if db.reactors messageId emoji = 0 then none else some (db.reactors messageId emoji : Int) := by
  constructor
  · intro exact messageId emoji
    have shown := exact.present messageId emoji
    rw [← reactors_pos_iff] at shown
    cases found : db.counters.find? (messageId, emoji) with
    | none =>
        have none : db.reactors messageId emoji = 0 := by
          rw [found] at shown
          simpa using shown
        simp [count?, found, none]
    | some counter =>
        have some : db.reactors messageId emoji ≠ 0 := by
          rw [found] at shown
          simp at shown
          omega
        simp [count?, found, some, exact.counted messageId emoji counter found]
  · intro counts
    refine ⟨fun messageId emoji => ?_, fun messageId emoji counter found => ?_⟩
    · have counted := counts messageId emoji
      rw [← reactors_pos_iff]
      cases found : db.counters.find? (messageId, emoji) with
      | none =>
          simp only [count?, found, Option.map_none] at counted
          split at counted
          · simp [*]
          · cases counted
      | some counter =>
          simp only [count?, found, Option.map_some] at counted
          split at counted
          · cases counted
          · simp
            omega
    · have counted := counts messageId emoji
      simp only [count?, found, Option.map_some] at counted
      split at counted
      · cases counted
      · exact Option.some.inj counted

theorem reacted_counted {db : ReactionDb} {messageId : MessageId} {userId : UserId} {emoji : Emoji}
    (reacted : db.reacted messageId userId emoji = true) : 0 < db.reactors messageId emoji := by
  rw [reactors_pos_iff]
  obtain ⟨row, found⟩ := Option.isSome_iff_exists.mp reacted
  obtain ⟨member, same⟩ := (Table.find?_some_iff _ _ _).mp found
  cases same
  exact ⟨row, member, rfl, rfl⟩

section Writes

variable (db : ReactionDb) (messageId target : MessageId) (userId other : UserId)
  (emoji wanted : Emoji) (chatId : ChatId)

theorem reacted_insertReaction (row : MessageReaction) :
    (db.apply (.insertReaction row)).reacted target other wanted =
      (db.reacted target other wanted || decide (row.key = (target, other, wanted))) := by
  simp only [reacted, apply, Table.find?_insert, Option.isSome_or]
  split <;> simp [*]

theorem reacted_deleteReaction :
    (db.apply (.deleteReaction messageId userId emoji)).reacted target other wanted =
      (db.reacted target other wanted &&
        !decide ((target, other, wanted) = (messageId, userId, emoji))) := by
  simp only [reacted, apply, Table.find?_delete]
  cases found : db.reactions.find? (target, other, wanted) with
  | none => rfl
  | some row =>
      rw [Option.filter_some, Table.key_of_find? found]
      split <;> simp_all

theorem count?_change (change : Int → Int) :
    ((db.counters.change messageId emoji change).find? (target, wanted)).map (·.count) =
      if (target, wanted) = (messageId, emoji) then (db.count? messageId emoji).map change
      else db.count? target wanted := by
  have looked := Table.find?_update db.counters
    (fun row => decide (row.key = (messageId, emoji)))
    (fun row => { row with count := change row.count }) (fun _ => rfl) (target, wanted)
  rw [ReactionCounters.change, looked]
  by_cases same : (target, wanted) = (messageId, emoji)
  · rw [if_pos same, same, count?]
    cases found : db.counters.find? (messageId, emoji) with
    | none => rfl
    | some row => simp [Table.key_of_find? found]
  · rw [if_neg same, count?]
    cases found : db.counters.find? (target, wanted) with
    | none => rfl
    | some row => simp [Table.key_of_find? found, same]

theorem count?_raiseCounter :
    (db.apply (.raiseCounter messageId emoji chatId)).count? target wanted =
      if (target, wanted) = (messageId, emoji) then some ((db.count? messageId emoji).getD 0 + 1)
      else db.count? target wanted := by
  simp only [apply]
  cases found : db.counters.find? (messageId, emoji) with
  | some row =>
      rw [if_pos (by simp), count?, count?_change]
      simp [count?, found]
  | none =>
      rw [if_neg (by simp)]
      simp only [count?, Table.find?_insert, found]
      by_cases same : (target, wanted) = (messageId, emoji)
      · simp [same, found, MessageReactionCounter.key]
      · have apart : ¬ (messageId, emoji) = (target, wanted) := fun equal => same equal.symm
        simp [same, MessageReactionCounter.key, -Prod.mk.injEq, apart]

theorem count?_lowerCounter :
    (db.apply (.lowerCounter messageId emoji)).count? target wanted =
      if (target, wanted) = (messageId, emoji) then (db.count? messageId emoji).map (· - 1)
      else db.count? target wanted :=
  db.count?_change messageId target emoji wanted (· - 1)

theorem count?_deleteCounter :
    (db.apply (.deleteCounter messageId emoji)).count? target wanted =
      if (target, wanted) = (messageId, emoji) then none else db.count? target wanted := by
  simp only [count?, apply, Table.find?_delete]
  cases found : db.counters.find? (target, wanted) with
  | none => simp
  | some row =>
      rw [Option.filter_some, Table.key_of_find? found]
      by_cases same : (target, wanted) = (messageId, emoji)
      · simp [same]
      · simp [same]

theorem count?_insertCounter (counter : MessageReactionCounter) :
    (db.apply (.insertCounter counter)).count? target wanted =
      (db.count? target wanted).or
        (if counter.key = (target, wanted) then some counter.count else none) := by
  simp only [count?, apply, Table.find?_insert]
  cases found : db.counters.find? (target, wanted) with
  | none =>
      split
      · simp
      · simp
  | some row => simp

theorem reacts_iff {row : MessageReaction} :
    (row.messageId == target && row.emoji == wanted) = true ↔
      (target, wanted) = (row.messageId, row.emoji) := by
  rw [Bool.and_eq_true, beq_iff_eq, beq_iff_eq, Prod.mk.injEq, eq_comm, @eq_comm _ row.emoji]

theorem reactors_insertReaction {row : MessageReaction}
    (absent : db.reacted row.messageId row.userId row.emoji = false) :
    (db.apply (.insertReaction row)).reactors target wanted =
      db.reactors target wanted + if (target, wanted) = (row.messageId, row.emoji) then 1 else 0 := by
  have free : db.reactions.find? row.key = none := by
    rw [reacted, Option.isSome_eq_false_iff, Option.isNone_iff_eq_none] at absent
    exact absent
  simp only [reactors, apply, Table.count_insert _ _ _ free, reacts_iff]

theorem reactors_deleteReaction (present : db.reacted messageId userId emoji = true) :
    (db.apply (.deleteReaction messageId userId emoji)).reactors target wanted +
      (if (target, wanted) = (messageId, emoji) then 1 else 0) = db.reactors target wanted := by
  obtain ⟨row, found⟩ := Option.isSome_iff_exists.mp present
  obtain ⟨member, own⟩ := (Table.find?_some_iff _ _ _).mp found
  have dropped := Table.count_delete_found db.reactions
    (fun row => decide (row.key = (messageId, userId, emoji)))
    (fun row => row.messageId == target && row.emoji == wanted) row member fun candidate inside => by
      rw [decide_eq_true_eq]
      constructor
      · exact fun same => db.reactions.row_unique inside member (same.trans own.symm)
      · rintro rfl
        exact own
  simp only [reactors, apply]
  rw [← dropped]
  cases own
  simp only [reacts_iff]

end Writes

end ReactionDb

/-- The holder of a reaction's key relies on its row being there or not, the holder of a counter
on its count. -/
def counterContract : Contract ReactionDb ReactionWrite ReactionKey (Option Int) where
  inv := ReactionDb.Exact
  view key db :=
    match key with
    | .reaction messageId userId emoji => if db.reacted messageId userId emoji then some 1 else none
    | .counter messageId emoji => db.count? messageId emoji
  ok _ _ := True

section Locality

open ReactionDb

theorem view_apply_local (write : ReactionWrite) (key : ReactionKey) {left right : ReactionDb}
    (same : counterContract.view key left = counterContract.view key right) :
    counterContract.view key (left.apply write) = counterContract.view key (right.apply write) := by
  cases key with
  | reaction messageId userId emoji =>
      have rows : left.reacted messageId userId emoji = right.reacted messageId userId emoji := by
        simp only [counterContract] at same
        cases found : left.reacted messageId userId emoji <;>
          cases found' : right.reacted messageId userId emoji <;> simp [found, found'] at same ⊢
      simp only [counterContract]
      cases write with
      | insertReaction row => rw [reacted_insertReaction, reacted_insertReaction, rows]
      | deleteReaction _ _ _ => rw [reacted_deleteReaction, reacted_deleteReaction, rows]
      | raiseCounter _ _ _ => exact same
      | lowerCounter _ _ => exact same
      | deleteCounter _ _ => exact same
      | insertCounter _ => exact same
      | publish _ => exact same
  | counter messageId emoji =>
      have counts : left.count? messageId emoji = right.count? messageId emoji := same
      simp only [counterContract]
      cases write with
      | insertReaction _ => exact same
      | deleteReaction _ _ _ => exact same
      | publish _ => exact same
      | insertCounter counter => rw [count?_insertCounter, count?_insertCounter, counts]
      | deleteCounter _ _ => rw [count?_deleteCounter, count?_deleteCounter, counts]
      | raiseCounter target wanted _ =>
          rw [count?_raiseCounter, count?_raiseCounter]
          split
          · rename_i here
            cases here
            rw [counts]
          · exact counts
      | lowerCounter target wanted =>
          rw [count?_lowerCounter, count?_lowerCounter]
          split
          · rename_i here
            cases here
            rw [counts]
          · exact counts

theorem view_applyAll_local (log : List ReactionWrite) (key : ReactionKey) :
    ∀ {left right : ReactionDb}, counterContract.view key left = counterContract.view key right →
      counterContract.view key (applyAll log left) =
        counterContract.view key (applyAll log right) := by
  induction log with
  | nil => exact fun same => same
  | cons write rest ih => exact fun same => ih (view_apply_local write key same)

end Locality

section Operations

open ReactionDb Contract

variable {messageId : MessageId} {userId : UserId} {emoji : Emoji} {chatId : ChatId} {now : Nat}
  {held : List ReactionKey} {log : List ReactionWrite} {db : ReactionDb} {Result : Type}
  {Post : Result → List ReactionKey → List ReactionWrite → ReactionDb → Prop}

theorem reacted_held {after : ReactionDb} (rely : counterContract.Rely held db after)
    (holds : .reaction messageId userId emoji ∈ held) :
    (applyAll log after).reacted messageId userId emoji =
      (applyAll log db).reacted messageId userId emoji := by
  have same := view_applyAll_local log _ (rely.kept _ holds)
  simp only [counterContract] at same
  cases left : (applyAll log after).reacted messageId userId emoji <;>
    cases right : (applyAll log db).reacted messageId userId emoji <;> simp [left, right] at same ⊢

theorem count?_held {after : ReactionDb} (rely : counterContract.Rely held db after)
    (holds : .counter messageId emoji ∈ held) :
    (applyAll log after).count? messageId emoji = (applyAll log db).count? messageId emoji :=
  view_applyAll_local log _ (rely.kept _ holds)

theorem exact_added {row : MessageReaction} (exact : db.Exact)
    (absent : db.reacted row.messageId row.userId row.emoji = false) :
    (applyAll [.insertReaction row, .raiseCounter row.messageId row.emoji chatId] db).Exact := by
  rw [exact_iff] at exact ⊢
  intro target wanted
  have counts : (applyAll [.insertReaction row, .raiseCounter row.messageId row.emoji chatId]
      db).reactors target wanted = (db.apply (.insertReaction row)).reactors target wanted := rfl
  have kept : (db.apply (.insertReaction row)).count? = db.count? := rfl
  rw [counts, reactors_insertReaction db target wanted absent]
  change ((db.apply (.insertReaction row)).apply
    (.raiseCounter row.messageId row.emoji chatId)).count? target wanted = _
  rw [count?_raiseCounter, kept]
  by_cases same : (target, wanted) = (row.messageId, row.emoji)
  · cases same
    simp only [if_true, exact]
    split
    · simp [*]
    · simp
  · simp only [if_neg same, Nat.add_zero]
    exact exact target wanted

theorem exact_removed (exact : db.Exact) (present : db.reacted messageId userId emoji = true)
    {drop : List ReactionWrite}
    (dropped : drop = if db.count? messageId emoji = some 1 then
      [.deleteCounter messageId emoji] else []) :
    (applyAll (.deleteReaction messageId userId emoji :: .lowerCounter messageId emoji :: drop)
      db).Exact := by
  rw [exact_iff] at exact ⊢
  intro target wanted
  have before := reactors_deleteReaction db messageId target userId emoji wanted present
  have counted := reacted_counted present
  have own := exact messageId emoji
  rw [if_neg (by omega)] at own
  have lowered : ((db.apply (.deleteReaction messageId userId emoji)).apply
      (.lowerCounter messageId emoji)).count? target wanted =
        if (target, wanted) = (messageId, emoji) then
          some ((db.reactors messageId emoji : Int) - 1)
        else db.count? target wanted := by
    have kept : (db.apply (.deleteReaction messageId userId emoji)).count? = db.count? := rfl
    rw [count?_lowerCounter, kept, own]
    rfl
  have after : (applyAll (.deleteReaction messageId userId emoji ::
      .lowerCounter messageId emoji :: drop) db).reactors target wanted =
        (db.apply (.deleteReaction messageId userId emoji)).reactors target wanted := by
    rw [dropped]
    split
    · rfl
    · rfl
  rw [after]
  by_cases same : (target, wanted) = (messageId, emoji)
  · cases same
    simp only [if_true] at before lowered
    rw [dropped, own]
    by_cases last : db.reactors messageId emoji = 1
    · have none : (db.apply (.deleteReaction messageId userId emoji)).reactors messageId emoji = 0 := by
        omega
      rw [if_pos none, if_pos (by simp [last])]
      exact (count?_deleteCounter _ messageId messageId emoji emoji).trans (if_pos rfl)
    · have left : (db.apply (.deleteReaction messageId userId emoji)).reactors messageId emoji ≠ 0 := by
        omega
      have more : ¬ some (db.reactors messageId emoji : Int) = some 1 := by
        rw [Option.some.injEq]
        omega
      rw [if_neg left, if_neg more]
      refine lowered.trans (congrArg Option.some ?_)
      omega
  · simp only [if_neg same, Nat.add_zero] at before lowered
    rw [before, ← exact target wanted, dropped]
    split
    · refine (count?_deleteCounter _ messageId target emoji wanted).trans ?_
      rw [if_neg same]
      exact lowered
    · exact lowered

def ReactionWrite.keys : ReactionWrite → List ReactionKey
  | .insertReaction row => [.reaction row.messageId row.userId row.emoji]
  | .deleteReaction messageId userId emoji => [.reaction messageId userId emoji]
  | .raiseCounter messageId emoji _ => [.counter messageId emoji]
  | .lowerCounter messageId emoji => [.counter messageId emoji]
  | .deleteCounter messageId emoji => [.counter messageId emoji]
  | .insertCounter counter => [.counter counter.messageId counter.emoji]
  | .publish _ => []

theorem view_apply_other (write : ReactionWrite) (key : ReactionKey) (db : ReactionDb)
    (apart : key ∉ write.keys) :
    counterContract.view key (db.apply write) = counterContract.view key db := by
  cases key with
  | reaction messageId userId emoji =>
      simp only [counterContract]
      cases write with
      | insertReaction row =>
          have other : ¬ row.key = (messageId, userId, emoji) := by
            rintro same
            cases same
            exact apart List.mem_cons_self
          rw [reacted_insertReaction]
          simp [other]
      | deleteReaction target reactor wanted =>
          have other : ¬ (messageId, userId, emoji) = (target, reactor, wanted) := by
            rintro same
            cases same
            exact apart List.mem_cons_self
          rw [reacted_deleteReaction]
          simp only [other, decide_false, Bool.not_false, Bool.and_true]
      | raiseCounter _ _ _ => rfl
      | lowerCounter _ _ => rfl
      | deleteCounter _ _ => rfl
      | insertCounter _ => rfl
      | publish _ => rfl
  | counter messageId emoji =>
      have other : ∀ target wanted, .counter target wanted ∈ write.keys →
          ¬ (messageId, emoji) = (target, wanted) := by
        rintro target wanted member same
        cases same
        exact apart member
      simp only [counterContract]
      cases write with
      | insertReaction _ => rfl
      | deleteReaction _ _ _ => rfl
      | publish _ => rfl
      | raiseCounter _ _ _ =>
          exact (count?_raiseCounter _ _ _ _ _ _).trans (if_neg (other _ _ List.mem_cons_self))
      | lowerCounter _ _ =>
          exact (count?_lowerCounter _ _ _ _ _).trans (if_neg (other _ _ List.mem_cons_self))
      | deleteCounter _ _ =>
          exact (count?_deleteCounter _ _ _ _ _).trans (if_neg (other _ _ List.mem_cons_self))
      | insertCounter counter =>
          have elsewhere : ¬ counter.key = (messageId, emoji) := fun same =>
            other _ _ List.mem_cons_self same.symm
          rw [count?_insertCounter, if_neg elsewhere, Option.or_none]

theorem view_applyAll_other (key : ReactionKey) :
    ∀ (writes : List ReactionWrite) (db : ReactionDb), (∀ write ∈ writes, key ∉ write.keys) →
      counterContract.view key (applyAll writes db) = counterContract.view key db := by
  intro writes
  induction writes with
  | nil => exact fun _ _ => rfl
  | cons write rest ih =>
      intro db apart
      rw [applyAll_cons, ih _ fun other member => apart other (List.mem_cons_of_mem _ member)]
      exact view_apply_other write key db (apart write List.mem_cons_self)

theorem commits_more {held more : List ReactionKey} {log writes : List ReactionWrite}
    {db : ReactionDb} (commits : counterContract.Commits held log db)
    (keys : ∀ write ∈ writes, ∀ key ∈ write.keys, key ∈ held ++ more)
    (exact : ∀ after, counterContract.Rely (held ++ more) db after →
      (applyAll log after).Exact → (applyAll writes (applyAll log after)).Exact) :
    counterContract.Commits (held ++ more) (log ++ writes) db := by
  intro after rely
  obtain ⟨inside, _, kept⟩ := commits after (rely_fewer rely)
  rw [applyAll_append]
  refine ⟨exact after rely inside, trivial, fun key outside => ?_⟩
  rw [view_applyAll_other key writes _ fun write member touched =>
    outside (keys write member key touched)]
  exact kept key fun member => outside (List.mem_append_left _ member)

theorem safe_addReaction {rest : Option Int → ReactionHandler Result}
    (commits : counterContract.Commits held log db)
    (next : ∀ answer held log db, counterContract.Commits held log db →
      counterContract.Safe Post (rest answer) held log db) :
    counterContract.Safe Post ((addReaction messageId chatId userId emoji now).bind rest)
      held log db := by
  simp only [addReaction, insertReaction, Tx.bind_eq, Tx.bind_assoc]
  refine safe_statement fun first relied _ inserted answered => ?_
  cases answered
  cases present : (applyAll log first).reacted messageId userId emoji with
  | true =>
      simp only [if_true, List.append_nil]
      exact next none held log first (commits_stable commits relied)
  | false =>
      simp only [Bool.not_false, if_true, Bool.false_eq_true, if_false, bumpCounterUp, Tx.bind_assoc]
      refine safe_statement fun second again _ count counted => ?_
      refine next (some count) _ _ second ?_
      rw [List.append_assoc, List.append_assoc]
      refine commits_more (commits_stable commits (rely_trans relied (rely_fewer again))) ?_ ?_
      · simp [ReactionWrite.keys]
      · intro third last exact
        refine exact_added exact ?_
        have since : counterContract.Rely (held ++ [ReactionKey.reaction messageId userId emoji])
            first third := by
          rw [← List.append_assoc] at last
          exact rely_trans again (rely_fewer last)
        exact (reacted_held since (by simp)).trans present

theorem safe_removeReactionRow {rest : Option Int → ReactionHandler Result}
    (commits : counterContract.Commits held log db)
    (next : ∀ answer held log db, counterContract.Commits held log db →
      counterContract.Safe Post (rest answer) held log db) :
    counterContract.Safe Post ((removeReactionRow messageId userId emoji).bind rest)
      held log db := by
  simp only [removeReactionRow, deleteReaction, Tx.bind_eq, Tx.bind_assoc]
  refine safe_statement fun first relied _ deleted answered => ?_
  cases answered
  cases present : (applyAll log first).reacted messageId userId emoji with
  | false =>
      simp only [Bool.false_eq_true, if_false, List.append_nil]
      exact next none held log first (commits_stable commits relied)
  | true =>
      simp only [if_true, bumpCounterDown, dropEmptyCounter, Tx.bind_assoc]
      refine safe_statement fun second again _ count answered => ?_
      have still : (applyAll log second).reacted messageId userId emoji = true :=
        (reacted_held again (by simp)).trans present
      have positive := reacted_counted still
      have exact := (exact_iff _).mp (commits second (rely_trans relied (rely_fewer again))).1
        messageId emoji
      rw [if_neg (by omega)] at exact
      generalize (applyAll log second).reactors messageId emoji = reactors at exact positive
      have seen : (applyAll (log ++ [ReactionWrite.deleteReaction messageId userId emoji])
          second).count? messageId emoji = some (reactors : Int) := by
        rw [applyAll_append]
        exact exact
      rw [seen]
      simp only [Option.isSome_some, if_true]
      refine safe_statement fun third last _ _ _ => ?_
      have counted : (applyAll log third).count? messageId emoji = some (reactors : Int) :=
        (count?_held last (by simp)).trans exact
      have lowered : (applyAll (log ++ [ReactionWrite.deleteReaction messageId userId emoji] ++
          [ReactionWrite.lowerCounter messageId emoji]) third).count? messageId emoji =
            some ((reactors : Int) - 1) := by
        rw [applyAll_append, applyAll_append]
        refine (count?_lowerCounter _ _ _ _ _).trans ((if_pos rfl).trans ?_)
        exact congrArg (Option.map (· - 1)) counted
      have empties : (applyAll (log ++ [ReactionWrite.deleteReaction messageId userId emoji] ++
          [ReactionWrite.lowerCounter messageId emoji]) third).isEmptyCounter messageId emoji =
            decide (reactors = 1) := by
        rw [isEmptyCounter, lowered, Option.any_some, decide_eq_decide]
        omega
      rw [empties]
      refine next _ _ _ third ?_
      simp only [List.append_assoc]
      refine commits_more (commits_stable commits
        (rely_trans relied (rely_fewer (rely_trans again (rely_fewer last))))) ?_ ?_
      · intro write member key touched
        have own : key = ReactionKey.reaction messageId userId emoji ∨
            key = ReactionKey.counter messageId emoji := by
          simp only [List.mem_append, List.mem_singleton, List.mem_ite_nil_right] at member
          rcases member with rfl | rfl | ⟨_, rfl⟩
          · exact .inl (List.mem_singleton.mp touched)
          · exact .inr (List.mem_singleton.mp touched)
          · exact .inr (List.mem_singleton.mp touched)
        rcases own with rfl | rfl
        · simp
        · simp
      · intro fourth later inside
        have final : (applyAll log fourth).count? messageId emoji = some (reactors : Int) :=
          (count?_held later (by simp)).trans counted
        refine exact_removed inside ?_ ?_
        · refine (reacted_held later (by simp)).trans ((reacted_held last (by simp)).trans still)
        · rw [final]
          by_cases only : reactors = 1
          · simp [only]
          · have more : ¬ (reactors : Int) = 1 := by omega
            simp [only, more]

theorem safe_announceReaction {user : UserJWTData} {action : ReactionAction}
    (commits : counterContract.Commits held log db) :
    counterContract.Safe (fun _ _ _ _ => True) (announceReaction user chatId messageId action)
      held log db := by
  have ends : ∀ event db, counterContract.Commits held log db → counterContract.Safe
      (fun _ _ _ _ => True) ((publishReaction event).bind fun _ => Tx.commitNow) held log db := by
    intro event db commits
    refine safe_statement fun after rely _ _ _ => ?_
    refine safe_commit ?_ fun _ _ _ _ => trivial
    refine commits_more (commits_stable commits rely) ?_ fun _ _ exact =>
      ⟨exact.present, exact.counted⟩
    simp [ReactionWrite.keys]
  simp only [announceReaction, buildReactionEvent, getCurrentGroups, getReactionState,
    listUserEmojis, Tx.bind_eq, Tx.pure_eq, Tx.bind_assoc, Tx.ite_bind, Tx.done_bind]
  refine safe_read fun first rely => ?_
  have commits := commits_stable commits rely
  split
  · exact ends _ first commits
  · refine safe_read fun second rely => ?_
    have commits := commits_stable commits rely
    split
    · exact ends _ second commits
    · refine safe_read fun third rely => safe_read fun fourth rely' => ?_
      exact ends _ fourth (commits_stable commits (rely_trans rely rely'))

theorem safe_eachVoid {Item Answer : Type} {action : Item → ReactionHandler Answer}
    {rest : Unit → ReactionHandler Result}
    (round : ∀ item held log db (rest : Answer → ReactionHandler Result),
      counterContract.Commits held log db →
      (∀ answer held log db, counterContract.Commits held log db →
        counterContract.Safe Post (rest answer) held log db) →
      counterContract.Safe Post ((action item).bind rest) held log db)
    (last : ∀ held log db, counterContract.Commits held log db →
      counterContract.Safe Post (rest ()) held log db) (items : List Item) :
    ∀ held log db, counterContract.Commits held log db →
      counterContract.Safe Post ((Tx.each (fun item => (action item).void) items).bind rest)
        held log db := by
  refine safe_each (fun _ held log db => counterContract.Commits held log db) ?_ last items
  intro item _ held log db next commits after
  rw [Tx.void, Tx.bind_assoc]
  exact round item held log db _ commits fun _ => after

theorem safe_replaceReactions {emojis : List Emoji} {rank : Emoji → Nat}
    {rest : Bool → ReactionHandler Result} (commits : counterContract.Commits held log db)
    (next : ∀ answer held log db, counterContract.Commits held log db →
      counterContract.Safe Post (rest answer) held log db) :
    counterContract.Safe Post
      ((replaceReactions messageId chatId userId emojis now rank).bind rest) held log db := by
  simp only [replaceReactions, lockUserEmojis, listUserEmojis, Tx.bind_eq, Tx.pure_eq,
    Tx.bind_assoc]
  refine safe_read fun first relied => safe_statement fun second again _ current _ => ?_
  have locked : ∀ more, counterContract.Commits (held ++ more) (log ++ []) second := fun more =>
    commits_more (commits_stable commits (rely_trans relied again))
      (fun _ member => nomatch member) fun _ _ exact => exact
  split
  · exact next _ _ _ second (locked _)
  · simp only [Tx.bind_assoc]
    refine safe_eachVoid (fun _ _ _ _ _ commits next => safe_removeReactionRow commits next) ?_ _
      _ _ second (locked _)
    intro held log db commits
    refine safe_eachVoid (fun _ _ _ _ _ commits next => safe_addReaction commits next) ?_ _
      held log db commits
    exact fun held log db commits => next true held log db commits

end Operations

section Commands

open Contract

variable {request : ReactionRequest} {held : List ReactionKey} {log : List ReactionWrite}
  {db : ReactionDb}

theorem commits_nothing (db : ReactionDb) : counterContract.Commits [] [] db :=
  fun _ rely => ⟨rely.inv, trivial, fun _ _ => rfl⟩

theorem safe_requireReactable {user : UserJWTData} {now : Nat} {chatId : ChatId}
    {messageId : MessageId} {rest : ChatAndMember → ReactionHandler Unit}
    (next : ∀ found after, counterContract.Safe (fun _ _ _ _ => True) (rest found) [] [] after) :
    counterContract.Safe (fun _ _ _ _ => True)
      ((requireReactable user now chatId messageId).bind rest) [] [] db := by
  simp only [requireReactable, Tx.bind_eq, Tx.pure_eq, Tx.bind_assoc]
  refine safe_query fun first _ found _ => safe_require fun _ => ?_
  refine safe_read fun second _ => safe_orRaise fun message _ => safe_require fun _ => ?_
  exact next found second

theorem keeps_setReaction (user : UserJWTData) (now : Nat) (chatId : ChatId)
    (messageId : MessageId) (emoji : Emoji) :
    counterContract.Keeps (setReaction user now chatId messageId emoji) := by
  intro db _
  simp only [setReaction, listUserEmojis, countDistinctEmojis, Tx.bind_eq, Tx.pure_eq]
  refine safe_requireReactable fun found _ => safe_ofExcept fun _ _ => safe_read fun after _ => ?_
  have added : ∀ db, counterContract.Safe (fun _ _ _ _ => True)
      ((addReaction messageId chatId user.id emoji now).bind fun applied =>
        if applied.isNone = true then Tx.done () else announceReaction user chatId messageId .add)
      [] [] db := by
    intro db
    refine safe_addReaction (commits_nothing db) fun applied held log db commits => ?_
    split
    · exact fun _ _ => trivial
    · exact safe_announceReaction commits
  split
  · refine safe_require fun _ => safe_read fun after _ => safe_require fun _ => ?_
    exact added after
  · exact added after

theorem keeps_removeReaction (user : UserJWTData) (now : Nat) (chatId : ChatId)
    (messageId : MessageId) (emoji : Emoji) :
    counterContract.Keeps (removeReaction user now chatId messageId emoji) := by
  intro db _
  simp only [removeReaction, Tx.bind_eq, Tx.pure_eq]
  refine safe_requireReactable fun found after => ?_
  refine safe_removeReactionRow (commits_nothing after) fun applied held log db commits => ?_
  split
  · exact fun _ _ => trivial
  · exact safe_announceReaction commits

theorem keeps_setReactions (user : UserJWTData) (now : Nat) (chatId : ChatId)
    (messageId : MessageId) (emojis : List Emoji) (rank : Emoji → Nat) :
    counterContract.Keeps (setReactions user now chatId messageId emojis rank) := by
  intro db _
  simp only [setReactions, checkTarget, listUserEmojis, countDistinctEmojis, getCurrentGroups,
    Tx.bind_eq, Tx.pure_eq]
  refine safe_requireReactable fun found after => ?_
  have replaced : ∀ db, counterContract.Safe (fun _ _ _ _ => True)
      ((replaceReactions messageId chatId user.id emojis.eraseDups now rank).bind fun changed =>
        if (!changed) = true then Tx.done ()
        else announceReaction user chatId messageId .replace) [] [] db := by
    intro db
    refine safe_replaceReactions (commits_nothing db) fun changed held log db commits => ?_
    split
    · exact fun _ _ => trivial
    · exact safe_announceReaction commits
  split
  · simp only [Tx.bind_assoc, Tx.ite_bind, Tx.done_bind]
    refine safe_ofExcept fun _ _ => safe_ofExcept fun _ _ => safe_require fun _ => ?_
    refine safe_read fun after _ => ?_
    split
    · exact replaced after
    · refine safe_read fun second _ => safe_read fun third _ => safe_require fun _ => ?_
      exact replaced third
  · exact replaced after

theorem keeps_reactionRequest (request : ReactionRequest) :
    counterContract.Keeps request.program := by
  unfold ReactionRequest.program
  split
  · exact keeps_setReaction _ _ _ _ _
  · exact keeps_removeReaction _ _ _ _ _
  · exact keeps_setReactions _ _ _ _ _ _

theorem exact_in_run {db : ReactionDb} {final : ReactionSystem} (exact : db.Exact)
    (run : ReactionRun (System.idle db) final) : final.db.Exact := by
  have start : counterContract.Sound (System.idle db : ReactionSystem) := sound_idle exact
  suffices kept : counterContract.inv final.db from kept
  refine run_inv ?_ start run
  rintro _ ⟨request, rfl⟩
  exact keeps_reactionRequest request

end Commands

section Recount

open ReactionDb

variable (messageId target : MessageId) (wanted : Emoji)

theorem count?_deleteCounters (emojis : List Emoji) (db : ReactionDb) :
    (applyAll (emojis.map (.deleteCounter messageId)) db).count? target wanted =
      if target = messageId ∧ wanted ∈ emojis then none else db.count? target wanted := by
  induction emojis generalizing db with
  | nil => simp
  | cons emoji rest ih =>
      rw [List.map_cons, applyAll_cons, ih]
      refine Eq.trans (congrArg (ite _ none) (count?_deleteCounter db messageId target emoji wanted)) ?_
      by_cases here : (target, wanted) = (messageId, emoji)
      · cases here
        simp
      · simp only [Prod.mk.injEq, not_and] at here
        by_cases same : target = messageId
        · simp [same, here same]
        · simp [same]

theorem count?_insertCounters (counters : List MessageReactionCounter) (db : ReactionDb) :
    (applyAll (counters.map .insertCounter) db).count? target wanted =
      (db.count? target wanted).or
        ((counters.find? fun row => decide (row.key = (target, wanted))).map (·.count)) := by
  induction counters generalizing db with
  | nil => simp
  | cons counter rest ih =>
      rw [List.map_cons, applyAll_cons, ih]
      refine Eq.trans (congrArg (Option.or · _) (count?_insertCounter db target wanted counter)) ?_
      rw [Option.or_assoc]
      congr 1
      by_cases here : counter.key = (target, wanted)
      · simp [here]
      · simp [here]

theorem reactions_deleteCounters (emojis : List Emoji) (db : ReactionDb) :
    (applyAll (emojis.map (.deleteCounter messageId)) db).reactions = db.reactions := by
  induction emojis generalizing db with
  | nil => rfl
  | cons emoji rest ih => exact ih (db.apply (.deleteCounter messageId emoji))

def ReactionDb.countedEmojis (db : ReactionDb) : List Emoji :=
  (db.counters.select fun row => row.messageId == messageId).map (·.emoji)

theorem mem_countedEmojis (db : ReactionDb) (counted : (db.count? messageId wanted).isSome) :
    wanted ∈ db.countedEmojis messageId := by
  rw [count?, Option.isSome_map] at counted
  obtain ⟨row, found⟩ := Option.isSome_iff_exists.mp counted
  obtain ⟨member, same⟩ := (Table.find?_some_iff _ _ _).mp found
  cases same
  exact List.mem_map.mpr ⟨row, List.mem_filter.mpr ⟨member, by simp⟩, rfl⟩

theorem find?_emoji (emojis : List Emoji) :
    (emojis.find? fun emoji => decide ((messageId, emoji) = (target, wanted))) =
      if target = messageId ∧ wanted ∈ emojis then some wanted else none := by
  induction emojis with
  | nil => simp
  | cons emoji rest ih =>
      rw [List.find?_cons, ih]
      by_cases here : (messageId, emoji) = (target, wanted)
      · cases here
        simp
      · simp only [here, decide_false]
        simp only [Prod.mk.injEq, not_and] at here
        by_cases same : target = messageId
        · have other : ¬ wanted = emoji := fun equal => here same.symm equal.symm
          simp [same, other]
        · simp [same]

theorem find?_recounted (db : ReactionDb) :
    ((db.recounted messageId).find? fun row => decide (row.key = (target, wanted))).map (·.count) =
      if target = messageId ∧ db.reactors messageId wanted ≠ 0 then
        some (db.reactors messageId wanted : Int)
      else none := by
  have lengths : ∀ emoji, ((db.reactions.select fun row => row.messageId == messageId).filter
      fun row => row.emoji == emoji).length = db.reactors messageId emoji := by
    intro emoji
    rw [reactors, Table.count, List.countP_eq_length_filter, Table.select, List.filter_filter]
    simp only [Bool.and_comm]
  have listed : wanted ∈ ((db.reactions.select fun row => row.messageId == messageId).map
      (·.emoji)).eraseDups ↔ db.reactors messageId wanted ≠ 0 := by
    rw [List.mem_eraseDups, ← Nat.pos_iff_ne_zero, reactors_pos_iff]
    simp [Table.select, and_assoc]
  simp only [recounted, List.find?_map, Option.map_map, lengths]
  refine (congrArg (Option.map _) (find?_emoji messageId target wanted _)).trans ?_
  simp only [listed]
  split
  · rfl
  · rfl

theorem recount_exec {db : ReactionDb} (exact : db.Exact) :
    ∃ after, ((recount messageId).bind fun _ => Tx.commitNow).exec db = (.ok (), after) ∧
      ∀ target wanted, after.count? target wanted = db.count? target wanted := by
  have deleted : (db.counters.select fun row => row.messageId == messageId).map
      (fun row => ReactionWrite.deleteCounter messageId row.emoji) =
        (db.countedEmojis messageId).map (.deleteCounter messageId) := by
    simp [countedEmojis, Function.comp_def]
  have rebuilt : (applyAll ((db.countedEmojis messageId).map (.deleteCounter messageId))
      db).recounted messageId = db.recounted messageId := by
    simp only [recounted, reactions_deleteCounters]
  have cleared : ∀ emoji, (applyAll ((db.countedEmojis messageId).map (.deleteCounter messageId))
      db).count? messageId emoji = none := by
    intro emoji
    rw [count?_deleteCounters]
    split
    · rfl
    · rename_i outside
      by_contra counted
      refine outside ⟨rfl, mem_countedEmojis messageId emoji db ?_⟩
      exact Option.isSome_iff_ne_none.mpr counted
  have accepted : ((db.recounted messageId).any fun row => ((applyAll
      ((db.countedEmojis messageId).map (.deleteCounter messageId)) db).count? messageId
        row.emoji).isSome) = false := by
    simp [cleared]
  refine ⟨applyAll ((db.recounted messageId).map .insertCounter)
    (applyAll ((db.countedEmojis messageId).map (.deleteCounter messageId)) db), ?_, ?_⟩
  · simp only [recount, Tx.exec, Tx.bind_eq, Tx.statement, Tx.bind, Tx.run, Tx.ofExcept, deleted,
      rebuilt, accepted, Tx.commitNow]
    rfl
  · intro target wanted
    rw [count?_insertCounters, find?_recounted]
    by_cases same : target = messageId
    · subst same
      rw [cleared, (exact_iff db).mp exact]
      by_cases none : db.reactors target wanted = 0
      · simp [none]
      · simp [none]
    · rw [count?_deleteCounters]
      simp [same]

end Recount

/-- Whatever the order of the statements: the counters of every committed state are exact, and
rebuilding those of a message changes no count. -/
theorem counters_exact_in_run {db : ReactionDb} {final : ReactionSystem} (exact : db.Exact)
    (run : ReactionRun (System.idle db) final) :
    (∀ messageId emoji, (final.db.counters.find? (messageId, emoji)).isSome ↔
      ∃ row ∈ final.db.reactions.rows, row.messageId = messageId ∧ row.emoji = emoji) ∧
    (∀ messageId emoji counter, final.db.counters.find? (messageId, emoji) = some counter →
      counter.count = (final.db.reactions.rows.filter fun row =>
        row.messageId == messageId && row.emoji == emoji).length) ∧
    ∀ messageId, ∃ after,
      ((recount messageId).bind fun _ => Tx.commitNow).exec final.db = (.ok (), after) ∧
        ∀ target emoji, after.count? target emoji = final.db.count? target emoji := by
  have kept := exact_in_run exact run
  refine ⟨kept.present, fun messageId emoji counter found => ?_, fun messageId => ?_⟩
  · rw [kept.counted messageId emoji counter found, ReactionDb.reactors, Table.count,
      List.countP_eq_length_filter]
  · exact recount_exec messageId kept

def reactedGroup : ReactionDb where
  base := applyAll
    [.insertChat { id := 1, type := .group, createdBy := 1, memberCount := 2 },
      .insertMember 1 1 .owner, .insertMember 1 2 .member,
      .insertMessage { id := 10, chatId := 1, seq := 1, authorId := some 1, content := some "hi" }] {}
  reactions := ⟨[⟨10, 1, "🔥", 1, 0⟩], by decide⟩
  counters := ⟨[⟨10, "🔥", 1, 1⟩], by decide⟩

theorem reactedGroup_exact : reactedGroup.Exact := by
  rw [ReactionDb.exact_iff]
  intro messageId emoji
  simp only [ReactionDb.count?, ReactionDb.reactors, Table.count, Table.find?, reactedGroup,
    MessageReactionCounter.key, List.find?_singleton, List.countP_singleton]
  by_cases same : (10, "🔥") = (messageId, emoji)
  · cases same
    rfl
  · have other : ((10 == messageId) && ("🔥" == emoji)) = false := by
      rw [Bool.eq_false_iff]
      intro both
      simp only [Bool.and_eq_true, beq_iff_eq] at both
      exact same (by rw [both.1, both.2])
    simp only [same, other]
    rfl

def dropAgainstAdd : List (Label ReactionDb ReactionWrite ReactionKey ReactionError) :=
  [Label.start (removeReaction ⟨1, [], []⟩ 0 1 10 "🔥"),
    Label.start (setReaction ⟨2, [], []⟩ 0 1 10 "🔥")] ++
    List.replicate 5 (Label.exec 0) ++ List.replicate 5 (Label.exec 1) ++
    List.replicate 3 (Label.exec 0) ++
    List.replicate 7 (Label.exec 1)

theorem counters_exact_after_drop :
    ∃ final, (System.idle reactedGroup).steps (fun _ _ => true) dropAgainstAdd = some final ∧
      final.db.counters.rows = [⟨10, "🔥", 1, 1⟩] ∧
      (final.db.reactions.rows.map (·.userId)) = [2] ∧
      ∀ messageId, ∃ after,
        ((recount messageId).bind fun _ => Tx.commitNow).exec final.db = (.ok (), after) ∧
          ∀ target emoji, after.count? target emoji = final.db.count? target emoji := by
  have outcome : ((System.idle reactedGroup).steps (fun _ _ => true) dropAgainstAdd).map
      (fun final => (final.db.counters.rows, final.db.reactions.rows.map (·.userId))) =
        some ([⟨10, "🔥", 1, 1⟩], [2]) := by decide +kernel
  obtain ⟨final, reached, rows⟩ := Option.map_eq_some_iff.mp outcome
  simp only [Prod.mk.injEq] at rows
  refine ⟨final, reached, rows.1, rows.2, (counters_exact_in_run reactedGroup_exact ?_).2.2⟩
  refine run_of_steps (fun _ _ => true) (fun _ _ _ => trivial) dropAgainstAdd _ _ _ ?_ .refl reached
  intro program started
  simp [dropAgainstAdd] at started
  rcases started with rfl | rfl
  · exact ⟨⟨⟨1, [], []⟩, 0, 1, 10, .remove "🔥"⟩, rfl⟩
  · exact ⟨⟨⟨2, [], []⟩, 0, 1, 10, .set "🔥"⟩, rfl⟩

end Messanger
