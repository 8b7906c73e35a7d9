import Messanger.Reactions.Counters
import Messanger.Library.Isolation
import Mathlib.Data.List.Dedup
import Mathlib.Data.List.Perm.Subperm

/-!
The limits of reactions: three per user, twenty distinct emojis per message.  Both are checked on
rows read before the insert, so they hold in the runs in which a session that adds a reaction, while
somebody else adds to the message or removes one of the same user's, still finds room when it commits.
-/

namespace Messanger

open Relational

namespace ReactionDb

def reactedEmojis (db : ReactionDb) (messageId : MessageId) : List Emoji :=
  ((db.reactions.select fun row => row.messageId == messageId).map (·.emoji)).dedup

structure WithinLimits (db : ReactionDb) (messageId : MessageId) : Prop where
  user : ∀ userId, (db.userEmojis messageId userId).length ≤ maxReactionsPerUserPerMessage
  message : (db.reactedEmojis messageId).length ≤ maxDistinctReactionsPerMessage

variable {db : ReactionDb} {messageId : MessageId} {userId : UserId} {emoji : Emoji}

theorem reacted_iff : db.reacted messageId userId emoji = true ↔
    ∃ row ∈ db.reactions.rows, row.key = (messageId, userId, emoji) := by
  rw [reacted, Option.isSome_iff_exists]
  simp only [Table.find?_some_iff]

theorem mem_userEmojis :
    emoji ∈ db.userEmojis messageId userId ↔ db.reacted messageId userId emoji = true := by
  rw [reacted_iff]
  simp [userEmojis, Table.select, MessageReaction.key, and_assoc]

theorem mem_reactedEmojis :
    emoji ∈ db.reactedEmojis messageId ↔ ∃ userId, db.reacted messageId userId emoji = true := by
  simp only [reacted_iff, reactedEmojis, List.mem_dedup]
  constructor
  · intro member
    obtain ⟨row, inside, rfl⟩ := List.mem_map.mp member
    obtain ⟨inside, own⟩ := List.mem_filter.mp inside
    exact ⟨row.userId, row, inside, by simp [MessageReaction.key, beq_iff_eq.mp own]⟩
  · rintro ⟨userId, row, inside, own⟩
    cases own
    exact List.mem_map.mpr ⟨row, List.mem_filter.mpr ⟨inside, by simp⟩, rfl⟩

theorem userEmojis_nodup (db : ReactionDb) (messageId : MessageId) (userId : UserId) :
    (db.userEmojis messageId userId).Nodup := by
  refine List.Nodup.map_on ?_ ((List.Nodup.of_map _ db.reactions.unique).filter _)
  intro left inLeft right inRight same
  obtain ⟨leftRow, leftOwn⟩ := List.mem_filter.mp inLeft
  obtain ⟨rightRow, rightOwn⟩ := List.mem_filter.mp inRight
  simp only [Bool.and_eq_true, beq_iff_eq] at leftOwn rightOwn
  refine db.reactions.row_unique leftRow rightRow ?_
  simp [MessageReaction.key, leftOwn, rightOwn, same]

theorem length_userEmojis_le (most : List Emoji)
    (inside : ∀ emoji, db.reacted messageId userId emoji = true → emoji ∈ most) :
    (db.userEmojis messageId userId).length ≤ most.length := by
  refine (List.subperm_of_subset (db.userEmojis_nodup messageId userId) ?_).length_le
  intro emoji member
  exact inside emoji (mem_userEmojis.mp member)

theorem length_reactedEmojis_le (most : List Emoji)
    (inside : ∀ userId emoji, db.reacted messageId userId emoji = true → emoji ∈ most) :
    (db.reactedEmojis messageId).length ≤ most.length := by
  refine (List.subperm_of_subset (List.nodup_dedup _) ?_).length_le
  intro emoji member
  obtain ⟨userId, reacted⟩ := mem_reactedEmojis.mp member
  exact inside userId emoji reacted

theorem Exact.counted_iff (exact : db.Exact) :
    (db.count? messageId emoji).isSome ↔ emoji ∈ db.reactedEmojis messageId := by
  rw [count?, Option.isSome_map, exact.present, mem_reactedEmojis]
  simp only [reacted_iff]
  constructor
  · rintro ⟨row, member, rfl, rfl⟩
    exact ⟨row.userId, row, member, rfl⟩
  · rintro ⟨userId, row, member, own⟩
    cases own
    exact ⟨row, member, rfl, rfl⟩

theorem countedEmojis_iff :
    emoji ∈ db.countedEmojis messageId ↔ (db.count? messageId emoji).isSome := by
  constructor
  · intro member
    obtain ⟨row, inside, rfl⟩ := List.mem_map.mp member
    obtain ⟨inside, own⟩ := List.mem_filter.mp inside
    have found := (Table.find?_some_iff db.counters _ row).mpr ⟨inside, rfl⟩
    cases beq_iff_eq.mp own
    rw [count?, Option.isSome_map, show (row.messageId, row.emoji) = row.key from rfl, found]
    rfl
  · exact mem_countedEmojis messageId emoji db

theorem countedEmojis_nodup (db : ReactionDb) (messageId : MessageId) :
    (db.countedEmojis messageId).Nodup := by
  refine List.Nodup.map_on ?_ ((List.Nodup.of_map _ db.counters.unique).filter _)
  intro left inLeft right inRight same
  obtain ⟨leftRow, leftOwn⟩ := List.mem_filter.mp inLeft
  obtain ⟨rightRow, rightOwn⟩ := List.mem_filter.mp inRight
  simp only [beq_iff_eq] at leftOwn rightOwn
  refine db.counters.row_unique leftRow rightRow ?_
  simp [MessageReactionCounter.key, leftOwn, rightOwn, same]

theorem Exact.distinctEmojis (exact : db.Exact) (messageId : MessageId) :
    db.distinctEmojis messageId = (db.reactedEmojis messageId).length := by
  have rows : db.distinctEmojis messageId = (db.countedEmojis messageId).length := by
    simp [ReactionDb.distinctEmojis, countedEmojis, Table.count, Table.select,
      List.countP_eq_length_filter]
  rw [rows]
  refine ((List.perm_ext_iff_of_nodup (db.countedEmojis_nodup messageId)
    (List.nodup_dedup _)).mpr fun emoji => ?_).length_eq
  rw [countedEmojis_iff, exact.counted_iff]
  rfl

theorem Exact.grouped (exact : db.Exact)
    (member : emoji ∈ (db.currentGroups messageId).map (·.emoji)) :
    emoji ∈ db.reactedEmojis messageId := by
  rw [← exact.counted_iff, ← countedEmojis_iff]
  obtain ⟨group, listed, rfl⟩ := List.mem_map.mp member
  rw [currentGroups, List.mem_insertionSort] at listed
  obtain ⟨row, selected, rfl⟩ := List.mem_map.mp listed
  obtain ⟨inside, own⟩ := List.mem_filter.mp selected
  simp only [Bool.and_eq_true] at own
  exact List.mem_map.mpr ⟨row, List.mem_filter.mpr ⟨inside, own.1⟩, rfl⟩

theorem WithinLimits.fewer {after : ReactionDb} (limits : db.WithinLimits messageId)
    (fewer : ∀ userId emoji, after.reacted messageId userId emoji = true →
      db.reacted messageId userId emoji = true) : after.WithinLimits messageId := by
  refine ⟨fun userId => ?_, ?_⟩
  · refine (length_userEmojis_le _ fun emoji reacted => ?_).trans (limits.user userId)
    exact mem_userEmojis.mpr (fewer userId emoji reacted)
  · refine (length_reactedEmojis_le _ fun userId emoji reacted => ?_).trans limits.message
    exact mem_reactedEmojis.mpr ⟨userId, fewer userId emoji reacted⟩

end ReactionDb

def ReactionWrite.Own (userId : UserId) (messageId : MessageId) : ReactionWrite → Prop
  | .insertReaction row => row.messageId = messageId ∧ row.userId = userId
  | .deleteReaction target reactor _ => target = messageId ∧ reactor = userId
  | .raiseCounter target _ _ => target = messageId
  | .lowerCounter target _ => target = messageId
  | .deleteCounter target _ => target = messageId
  | .insertCounter counter => counter.messageId = messageId
  | .publish event => event.messageId = messageId

def ReactionWrite.Rows (userId : UserId) (messageId : MessageId) (write : ReactionWrite) : Prop :=
  write.Own userId messageId ∧ ∀ event, write ≠ .publish event

/-- What spoils a limit check of the user on the message: a reaction added to the message, or one
of the user's removed from it. -/
def ReactionWrite.disturbs (userId : UserId) (messageId : MessageId) : ReactionWrite → Bool
  | .insertReaction row => row.messageId == messageId
  | .deleteReaction target reactor _ => target == messageId && reactor == userId
  | _ => false

def ReactionWrite.inserted? (userId : UserId) (messageId : MessageId) :
    ReactionWrite → Option Emoji
  | .insertReaction row =>
      if row.messageId = messageId ∧ row.userId = userId then some row.emoji else none
  | _ => none

def ReactionWrite.deleted? (userId : UserId) (messageId : MessageId) : ReactionWrite → Option Emoji
  | .deleteReaction target reactor emoji =>
      if target = messageId ∧ reactor = userId then some emoji else none
  | _ => none

section Emits

open Tx

variable {userId : UserId} {messageId : MessageId} {chatId : ChatId}

theorem emits_conditional {Answer : Type} {locks : ReactionDb → List ReactionKey}
    {condition : ReactionDb → Bool} {answer : ReactionDb → Except ReactionError Answer}
    {Allowed : ReactionWrite → Prop} (write : ReactionWrite) (allowed : Allowed write) :
    (Tx.statement locks (fun db => if condition db then [write] else []) answer).Emits Allowed := by
  rw [emits_statement_alone_iff]
  intro seen other member
  split at member
  · rw [List.mem_singleton.mp member]
    exact allowed
  · cases member

theorem emits_addReaction (emoji : Emoji) (now : Nat) :
    (addReaction messageId chatId userId emoji now).Emits (ReactionWrite.Rows userId messageId) := by
  have inserts : (insertReaction messageId chatId userId emoji now).Emits
      (ReactionWrite.Rows userId messageId) := by
    rw [insertReaction, emits_statement_alone_iff]
    intro seen write member
    split at member
    · cases member
    · rw [List.mem_singleton.mp member]
      exact ⟨⟨rfl, rfl⟩, by simp⟩
  have raises : (bumpCounterUp messageId chatId emoji).Emits
      (ReactionWrite.Rows userId messageId) := by
    rw [bumpCounterUp, emits_statement_alone_iff]
    intro seen write member
    rw [List.mem_singleton.mp member]
    exact ⟨rfl, by simp⟩
  refine emits_bind inserts fun inserted => emits_ite_iff.mpr ⟨fun _ => ?_, fun _ => trivial⟩
  exact emits_bind raises fun _ => trivial

theorem emits_removeReactionRow (emoji : Emoji) :
    (removeReactionRow messageId userId emoji).Emits (ReactionWrite.Rows userId messageId) := by
  have deletes : (deleteReaction messageId userId emoji).Emits
      (ReactionWrite.Rows userId messageId) :=
    emits_conditional (.deleteReaction messageId userId emoji) ⟨⟨rfl, rfl⟩, nofun⟩
  have lowers : (bumpCounterDown messageId emoji).Emits (ReactionWrite.Rows userId messageId) :=
    emits_conditional (.lowerCounter messageId emoji) ⟨rfl, nofun⟩
  have drops : (dropEmptyCounter messageId emoji).Emits (ReactionWrite.Rows userId messageId) :=
    emits_conditional (.deleteCounter messageId emoji) ⟨rfl, nofun⟩
  refine emits_bind deletes fun deleted => emits_ite_iff.mpr ⟨fun _ => ?_, fun _ => trivial⟩
  exact emits_bind lowers fun _ => emits_bind drops fun _ => trivial

theorem emits_announceReaction {user : UserJWTData} {action : ReactionAction} :
    (announceReaction user chatId messageId action).Emits (ReactionWrite.Own userId messageId) := by
  have publishes : ∀ event : ReactionUpdatedEvent, event.messageId = messageId →
      ((publishReaction event).bind fun _ => Tx.commitNow).Emits
        (ReactionWrite.Own userId messageId) := by
    intro event own
    simp only [publishReaction, emits_statement_iff]
    refine ⟨fun seen write member => ?_, fun _ _ _ => trivial⟩
    rw [List.mem_singleton.mp member]
    exact own
  simp only [announceReaction, buildReactionEvent, getCurrentGroups, getReactionState,
    listUserEmojis, Tx.bind_eq, Tx.pure_eq, Tx.bind_assoc, Tx.ite_bind, Tx.done_bind,
    emits_read_iff, emits_ite_iff]
  exact fun _ => ⟨fun _ => publishes _ rfl, fun _ _ =>
    ⟨fun _ => publishes _ rfl, fun _ _ _ => publishes _ rfl⟩⟩

theorem emits_replaceReactions {emojis : List Emoji} {now : Nat} {rank : Emoji → Nat} :
    (replaceReactions messageId chatId userId emojis now rank).Emits
      (ReactionWrite.Rows userId messageId) := by
  have locks : (lockUserEmojis messageId userId).Emits (ReactionWrite.Rows userId messageId) := by
    refine emits_bind (emits_read_alone _) fun snapshot => ?_
    rw [emits_statement_alone_iff]
    intro seen write member
    cases member
  refine emits_bind locks fun current => emits_ite_iff.mpr ⟨fun _ => trivial, fun _ => ?_⟩
  refine emits_bind (emits_each_alone _ fun emoji _ => ?_) fun _ =>
    emits_bind (emits_each_alone _ fun emoji _ => ?_) fun _ => trivial
  · exact emits_bind (emits_removeReactionRow emoji) fun _ => trivial
  · exact emits_bind (emits_addReaction emoji now) fun _ => trivial

theorem emits_requireReactable {user : UserJWTData} {now : Nat} :
    (requireReactable user now chatId messageId).Emits (ReactionWrite.Rows userId messageId) := by
  simp [requireReactable]

theorem emits_checkTarget {user : UserJWTData} {now : Nat} {found : ChatAndMember}
    {target : List Emoji} :
    (checkTarget user now messageId found target).Emits (ReactionWrite.Rows userId messageId) := by
  simp [checkTarget, listUserEmojis, countDistinctEmojis, getCurrentGroups]

theorem emits_own {Answer : Type} {program : ReactionHandler Answer}
    (emits : program.Emits (ReactionWrite.Rows userId messageId)) :
    program.Emits (ReactionWrite.Own userId messageId) :=
  emits_mono emits fun _ row => row.1

theorem emits_setReaction {user : UserJWTData} {now : Nat} {emoji : Emoji} :
    (setReaction user now chatId messageId emoji).Emits
      (ReactionWrite.Own user.id messageId) := by
  have adds : ((addReaction messageId chatId user.id emoji now).bind fun applied =>
      if applied.isNone = true then Tx.done ()
      else announceReaction user chatId messageId .add).Emits
        (ReactionWrite.Own user.id messageId) :=
    emits_bind (emits_own (emits_addReaction emoji now)) fun applied => emits_ite_iff.mpr
      ⟨fun _ => trivial, fun _ => emits_announceReaction⟩
  refine emits_bind (emits_own emits_requireReactable) fun found => emits_ofExcept_iff.mpr fun _ _ =>
    emits_read_iff.mpr fun _ => emits_ite_iff.mpr ⟨fun _ => ?_, fun _ => adds⟩
  exact emits_require_iff.mpr fun _ => emits_read_iff.mpr fun _ => emits_require_iff.mpr
    fun _ => adds

theorem emits_removeReaction {user : UserJWTData} {now : Nat} {emoji : Emoji} :
    (removeReaction user now chatId messageId emoji).Emits
      (ReactionWrite.Own user.id messageId) := by
  refine emits_bind (emits_own emits_requireReactable) fun found => ?_
  exact emits_bind (emits_own (emits_removeReactionRow emoji)) fun applied => emits_ite_iff.mpr
    ⟨fun _ => trivial, fun _ => emits_announceReaction⟩

theorem emits_setReactions {user : UserJWTData} {now : Nat} {emojis : List Emoji}
    {rank : Emoji → Nat} :
    (setReactions user now chatId messageId emojis rank).Emits
      (ReactionWrite.Own user.id messageId) := by
  have replaces : ((replaceReactions messageId chatId user.id emojis.eraseDups now rank).bind
      fun changed => if (!changed) = true then Tx.done ()
        else announceReaction user chatId messageId .replace).Emits
          (ReactionWrite.Own user.id messageId) :=
    emits_bind (emits_own emits_replaceReactions) fun changed => emits_ite_iff.mpr
      ⟨fun _ => trivial, fun _ => emits_announceReaction⟩
  refine emits_bind (emits_own emits_requireReactable) fun found =>
    emits_ite_iff.mpr ⟨fun _ => ?_, fun _ => ?_⟩
  · exact emits_bind (emits_own emits_checkTarget) fun _ => replaces
  · exact replaces

theorem emits_reactionRequest (request : ReactionRequest) :
    request.program.Emits (ReactionWrite.Own request.user.id request.messageId) := by
  unfold ReactionRequest.program
  split
  · exact emits_setReaction
  · exact emits_removeReaction
  · exact emits_setReactions

end Emits

section Effects

open ReactionDb

variable {userId : UserId} {messageId : MessageId} {emoji : Emoji}

theorem reacted_apply_other {write : ReactionWrite} (own : write.Own userId messageId)
    (db : ReactionDb) {target : MessageId} {reactor : UserId}
    (apart : ¬ (target = messageId ∧ reactor = userId)) :
    (db.apply write).reacted target reactor emoji = db.reacted target reactor emoji := by
  cases write with
  | insertReaction row =>
      have other : ¬ row.key = (target, reactor, emoji) := by
        intro same
        cases same
        exact apart own
      rw [reacted_insertReaction]
      simp [other]
  | deleteReaction deleted by' wanted =>
      have other : ¬ (target, reactor, emoji) = (deleted, by', wanted) := by
        intro same
        cases same
        exact apart own
      rw [reacted_deleteReaction]
      simp only [other, decide_false, Bool.not_false, Bool.and_true]
  | raiseCounter _ _ _ => rfl
  | lowerCounter _ _ => rfl
  | deleteCounter _ _ => rfl
  | insertCounter _ => rfl
  | publish _ => rfl

theorem reacted_applyAll_other {target : MessageId} {reactor : UserId}
    (apart : ¬ (target = messageId ∧ reactor = userId)) :
    ∀ (log : List ReactionWrite) (db : ReactionDb),
      (∀ write ∈ log, write.Own userId messageId) →
      (applyAll log db).reacted target reactor emoji = db.reacted target reactor emoji := by
  intro log
  induction log with
  | nil => exact fun _ _ => rfl
  | cons write rest ih =>
      intro db own
      rw [applyAll_cons, ih _ fun other member => own other (List.mem_cons_of_mem _ member)]
      exact reacted_apply_other (own write List.mem_cons_self) db apart

theorem reacted_applyAll (log : List ReactionWrite) (db : ReactionDb)
    (reacted : (applyAll log db).reacted messageId userId emoji = true) :
    emoji ∈ log.filterMap (ReactionWrite.inserted? userId messageId) ∨
      (db.reacted messageId userId emoji = true ∧
        emoji ∉ log.filterMap (ReactionWrite.deleted? userId messageId)) := by
  induction log generalizing db with
  | nil => exact .inr ⟨reacted, List.not_mem_nil⟩
  | cons write rest ih =>
      rcases ih (db.apply write) reacted with later | ⟨before, stays⟩
      · exact .inl (List.mem_filterMap.mpr
          ((List.mem_filterMap.mp later).imp fun _ found => ⟨List.mem_cons_of_mem _ found.1, found.2⟩))
      cases write with
      | insertReaction row =>
          rw [reacted_insertReaction, Bool.or_eq_true, decide_eq_true_eq] at before
          rcases before with earlier | here
          · exact .inr ⟨earlier, by simpa [ReactionWrite.deleted?] using stays⟩
          · cases here
            exact .inl (List.mem_filterMap.mpr ⟨_, List.mem_cons_self, by simp [ReactionWrite.inserted?]⟩)
      | deleteReaction target reactor wanted =>
          rw [reacted_deleteReaction, Bool.and_eq_true] at before
          obtain ⟨earlier, spared⟩ := before
          refine .inr ⟨earlier, fun deleted => ?_⟩
          obtain ⟨write, member, same⟩ := List.mem_filterMap.mp deleted
          rcases List.mem_cons.mp member with rfl | later
          · obtain ⟨⟨rfl, rfl⟩, rfl⟩ := by simpa [ReactionWrite.deleted?] using same
            simp at spared
          · exact stays (List.mem_filterMap.mpr ⟨write, later, same⟩)
      | raiseCounter _ _ _ => exact .inr ⟨before, stays⟩
      | lowerCounter _ _ => exact .inr ⟨before, stays⟩
      | deleteCounter _ _ => exact .inr ⟨before, stays⟩
      | insertCounter _ => exact .inr ⟨before, stays⟩
      | publish _ => exact .inr ⟨before, stays⟩

structure Trails (userId : UserId) (messageId : MessageId) (left right : ReactionDb) : Prop where
  own : ∀ emoji, left.reacted messageId userId emoji = right.reacted messageId userId emoji
  fewer : ∀ reactor emoji, left.reacted messageId reactor emoji = true →
    right.reacted messageId reactor emoji = true

theorem Trails.apply {left right : ReactionDb} (trails : Trails userId messageId left right)
    (write : ReactionWrite) : Trails userId messageId (left.apply write) (right.apply write) := by
  cases write with
  | insertReaction row =>
      refine ⟨fun emoji => ?_, fun reactor emoji reacted => ?_⟩
      · rw [reacted_insertReaction, reacted_insertReaction, trails.own]
      · rw [reacted_insertReaction, Bool.or_eq_true] at reacted ⊢
        exact reacted.imp_left (trails.fewer reactor emoji)
  | deleteReaction target reactor wanted =>
      refine ⟨fun emoji => ?_, fun other emoji reacted => ?_⟩
      · rw [reacted_deleteReaction, reacted_deleteReaction, trails.own]
      · rw [reacted_deleteReaction, Bool.and_eq_true] at reacted ⊢
        exact ⟨trails.fewer other emoji reacted.1, reacted.2⟩
  | raiseCounter _ _ _ => exact ⟨trails.own, trails.fewer⟩
  | lowerCounter _ _ => exact ⟨trails.own, trails.fewer⟩
  | deleteCounter _ _ => exact ⟨trails.own, trails.fewer⟩
  | insertCounter _ => exact ⟨trails.own, trails.fewer⟩
  | publish _ => exact ⟨trails.own, trails.fewer⟩

theorem Trails.applyAll (log : List ReactionWrite) : ∀ {left right : ReactionDb},
    Trails userId messageId left right →
      Trails userId messageId (Relational.applyAll log left) (Relational.applyAll log right) := by
  induction log with
  | nil => exact fun trails => trails
  | cons write rest ih => exact fun trails => ih (trails.apply write)

theorem Trails.after {left right : ReactionDb} (trails : Trails userId messageId left right)
    {write : ReactionWrite} (quiet : ¬ write.disturbs userId messageId = true) :
    Trails userId messageId (left.apply write) right := by
  cases write with
  | insertReaction row =>
      have elsewhere : ∀ reactor emoji, ¬ row.key = (messageId, reactor, emoji) := by
        intro reactor emoji same
        cases same
        simp [ReactionWrite.disturbs] at quiet
      have same : ∀ reactor emoji, (left.apply (.insertReaction row)).reacted messageId reactor emoji =
          left.reacted messageId reactor emoji := by
        intro reactor emoji
        rw [reacted_insertReaction]
        simp [elsewhere]
      exact ⟨fun emoji => (same userId emoji).trans (trails.own emoji),
        fun reactor emoji reacted => trails.fewer reactor emoji (same reactor emoji ▸ reacted)⟩
  | deleteReaction target reactor wanted =>
      refine ⟨fun emoji => ?_, fun other emoji reacted => ?_⟩
      · have apart : ¬ (messageId, userId, emoji) = (target, reactor, wanted) := by
          intro same
          cases same
          simp [ReactionWrite.disturbs] at quiet
        rw [reacted_deleteReaction]
        simp only [apart, decide_false, Bool.not_false, Bool.and_true]
        exact trails.own emoji
      · rw [reacted_deleteReaction, Bool.and_eq_true] at reacted
        exact trails.fewer other emoji reacted.1
  | raiseCounter _ _ _ => exact ⟨trails.own, trails.fewer⟩
  | lowerCounter _ _ => exact ⟨trails.own, trails.fewer⟩
  | deleteCounter _ _ => exact ⟨trails.own, trails.fewer⟩
  | insertCounter _ => exact ⟨trails.own, trails.fewer⟩
  | publish _ => exact ⟨trails.own, trails.fewer⟩

theorem trails_beside {Known : ReactionDb → Prop} {db after : ReactionDb}
    (beside : Beside (fun write => write.disturbs userId messageId = true) Known db after) :
    Trails userId messageId after db :=
  beside.keeps (fun state => Trails userId messageId state db)
    (fun _ quiet _ trails => trails.after quiet) ⟨fun _ => rfl, fun _ _ reacted => reacted⟩

/-- The user's reactions are among `own`, those of all users among `all`. -/
structure Bounded (userId : UserId) (messageId : MessageId) (own all : List Emoji)
    (db : ReactionDb) : Prop where
  own : ∀ emoji, db.reacted messageId userId emoji = true → emoji ∈ own
  all : ∀ reactor emoji, db.reacted messageId reactor emoji = true → emoji ∈ all

theorem Bounded.trails {own all : List Emoji} {left right : ReactionDb}
    (bounded : Bounded userId messageId own all right)
    (trails : Trails userId messageId left right) : Bounded userId messageId own all left :=
  ⟨fun emoji reacted => bounded.own emoji (trails.own emoji ▸ reacted),
    fun reactor emoji reacted => bounded.all reactor emoji (trails.fewer reactor emoji reacted)⟩

theorem bounded_insert {own all : List Emoji} {db : ReactionDb} {row : MessageReaction}
    (bounded : Bounded userId messageId own all db) (mine : row.emoji ∈ own)
    (counted : row.emoji ∈ all) :
    Bounded userId messageId own all (db.apply (.insertReaction row)) := by
  refine ⟨fun emoji reacted => ?_, fun reactor emoji reacted => ?_⟩
  · rw [reacted_insertReaction, Bool.or_eq_true, decide_eq_true_eq] at reacted
    rcases reacted with old | new
    · exact bounded.own emoji old
    · cases new
      exact mine
  · rw [reacted_insertReaction, Bool.or_eq_true, decide_eq_true_eq] at reacted
    rcases reacted with old | new
    · exact bounded.all reactor emoji old
    · cases new
      exact counted

theorem bounded_delete {own all : List Emoji} {db : ReactionDb}
    (bounded : Bounded userId messageId (emoji :: own) all db) :
    Bounded userId messageId own all (db.apply (.deleteReaction messageId userId emoji)) := by
  refine ⟨fun wanted reacted => ?_, fun reactor wanted reacted => ?_⟩
  · rw [reacted_deleteReaction, Bool.and_eq_true] at reacted
    rcases List.mem_cons.mp (bounded.own wanted reacted.1) with rfl | inside
    · simp at reacted
    · exact inside
  · rw [reacted_deleteReaction, Bool.and_eq_true] at reacted
    exact bounded.all reactor wanted reacted.1

end Effects

section Guards

open ReactionDb Tx

abbrev LimitsKnown (db : ReactionDb) : Prop := db.Exact ∧ ∀ messageId, db.WithinLimits messageId

abbrev KeepsLimits (userId : UserId) (messageId : MessageId) {Result : Type}
    (program : ReactionHandler Result) (log : List ReactionWrite) (db : ReactionDb) : Prop :=
  program.Undisturbed (fun write => write.disturbs userId messageId = true) LimitsKnown
    (fun db => ∀ messageId, db.WithinLimits messageId) log db

structure InsideLimits (userId : UserId) (messageId : MessageId) (own all : List Emoji)
    (log : List ReactionWrite) (db : ReactionDb) : Prop where
  writes : ∀ write ∈ log, write.Own userId messageId
  bounded : Bounded userId messageId own all (applyAll log db)

variable {userId : UserId} {messageId : MessageId} {own all : List Emoji} {chatId : ChatId}
  {emoji : Emoji} {now : Nat} {log : List ReactionWrite} {db after : ReactionDb} {Result : Type}

theorem InsideLimits.beside {Known : ReactionDb → Prop}
    (inside : InsideLimits userId messageId own all log db)
    (beside : Beside (fun write => write.disturbs userId messageId = true) Known db after) :
    InsideLimits userId messageId own all log after :=
  ⟨inside.writes, inside.bounded.trails ((trails_beside beside).applyAll log)⟩

theorem InsideLimits.write {kept : List Emoji}
    (inside : InsideLimits userId messageId own all log db) (write : ReactionWrite)
    (mine : write.Own userId messageId)
    (bounded : Bounded userId messageId kept all ((applyAll log db).apply write)) :
    InsideLimits userId messageId kept all (log ++ [write]) db := by
  refine ⟨fun other member => ?_, ?_⟩
  · rcases List.mem_append.mp member with logged | written
    · exact inside.writes other logged
    · rw [List.mem_singleton.mp written]
      exact mine
  · rw [applyAll_append]
    exact bounded

theorem InsideLimits.quiet
    (inside : InsideLimits userId messageId own all log db) (write : ReactionWrite)
    (condition : Bool) (mine : write.Own userId messageId)
    (same : ∀ db : ReactionDb, (db.apply write).reacted = db.reacted) :
    InsideLimits userId messageId own all (log ++ if condition then [write] else []) db := by
  cases condition with
  | false => simpa using inside
  | true =>
      refine inside.write write mine ⟨?_, ?_⟩
      · rw [same]
        exact inside.bounded.own
      · rw [same]
        exact inside.bounded.all

theorem InsideLimits.limits (inside : InsideLimits userId messageId own all log db)
    (few : own.length ≤ maxReactionsPerUserPerMessage)
    (distinct : all.length ≤ maxDistinctReactionsPerMessage)
    (limits : ∀ messageId, db.WithinLimits messageId) :
    ∀ messageId, (applyAll log db).WithinLimits messageId := by
  intro target
  by_cases here : target = messageId
  · subst here
    refine ⟨fun reactor => ?_, ?_⟩
    · by_cases mine : reactor = userId
      · subst mine
        exact (length_userEmojis_le _ inside.bounded.own).trans few
      · refine (length_userEmojis_le _ fun emoji reacted => ?_).trans ((limits target).user reactor)
        rw [reacted_applyAll_other (fun same => mine same.2) log db inside.writes] at reacted
        exact mem_userEmojis.mpr reacted
    · exact (length_reactedEmojis_le _ inside.bounded.all).trans distinct
  · refine (limits target).fewer fun reactor emoji reacted => ?_
    rwa [reacted_applyAll_other (fun same => here same.1) log db inside.writes] at reacted

theorem guarded_announceReaction {user : UserJWTData} {action : ReactionAction}
    (inside : InsideLimits userId messageId own all log db)
    (few : own.length ≤ maxReactionsPerUserPerMessage)
    (distinct : all.length ≤ maxDistinctReactionsPerMessage) :
    KeepsLimits userId messageId (announceReaction user chatId messageId action) log db := by
  have ends : ∀ (event : ReactionUpdatedEvent) db, event.messageId = messageId →
      InsideLimits userId messageId own all log db →
      KeepsLimits userId messageId ((publishReaction event).bind fun _ => Tx.commitNow) log db := by
    intro event db mine inside
    refine undisturbed_statement fun first beside _ _ => undisturbed_commit fun second besides => ?_
    have published := (inside.beside beside).quiet (.publish event) true mine fun _ => rfl
    exact (published.beside besides).limits few distinct besides.known.2
  simp only [announceReaction, buildReactionEvent, getCurrentGroups, getReactionState,
    listUserEmojis, Tx.bind_eq, Tx.pure_eq, Tx.bind_assoc, Tx.ite_bind, Tx.done_bind]
  refine undisturbed_read fun first beside => ?_
  have inside := inside.beside beside
  split
  · exact ends _ first rfl inside
  · refine undisturbed_read fun second beside => ?_
    have inside := inside.beside beside
    split
    · exact ends _ second rfl inside
    · refine undisturbed_read fun third beside => undisturbed_read fun fourth beside' => ?_
      exact ends _ fourth rfl (inside.beside (beside.trans beside'))

theorem guarded_addReaction {rest : Option Int → ReactionHandler Result}
    (inside : InsideLimits userId messageId own all log db) (mine : emoji ∈ own) (counted : emoji ∈ all)
    (next : ∀ answer log db, InsideLimits userId messageId own all log db →
      KeepsLimits userId messageId (rest answer) log db) :
    KeepsLimits userId messageId ((addReaction messageId chatId userId emoji now).bind rest) log db := by
  simp only [addReaction, insertReaction, bumpCounterUp, Tx.bind_eq, Tx.bind_assoc]
  refine undisturbed_statement fun first beside inserted answered => ?_
  cases answered
  have inside := inside.beside beside
  cases present : (applyAll log first).reacted messageId userId emoji with
  | true =>
      simp only [if_true, List.append_nil]
      exact next none log first inside
  | false =>
      simp only [Bool.not_false, if_true, Bool.false_eq_true, if_false, Tx.bind_assoc]
      refine undisturbed_statement fun second beside count _ => next (some count) _ second ?_
      have inserted := inside.write (.insertReaction ⟨messageId, userId, emoji, chatId, now⟩)
        ⟨rfl, rfl⟩ (bounded_insert inside.bounded mine counted)
      exact (inserted.beside beside).quiet (.raiseCounter messageId emoji chatId) true rfl
        fun _ => rfl

theorem guarded_removeReactionRow {rest : Option Int → ReactionHandler Result}
    (inside : InsideLimits userId messageId (emoji :: own) all log db)
    (next : ∀ answer log db, InsideLimits userId messageId own all log db →
      KeepsLimits userId messageId (rest answer) log db) :
    KeepsLimits userId messageId ((removeReactionRow messageId userId emoji).bind rest) log db := by
  simp only [removeReactionRow, deleteReaction, bumpCounterDown, dropEmptyCounter, Tx.bind_eq,
    Tx.bind_assoc]
  refine undisturbed_statement fun first beside deleted answered => ?_
  cases answered
  have inside := inside.beside beside
  cases present : (applyAll log first).reacted messageId userId emoji with
  | false =>
      simp only [Bool.false_eq_true, if_false, List.append_nil]
      refine next none log first ⟨inside.writes, fun wanted reacted => ?_, inside.bounded.all⟩
      rcases List.mem_cons.mp (inside.bounded.own wanted reacted) with rfl | member
      · rw [present] at reacted
        cases reacted
      · exact member
  | true =>
      simp only [if_true, Tx.bind_assoc]
      have removed := inside.write (.deleteReaction messageId userId emoji) ⟨rfl, rfl⟩
        (bounded_delete inside.bounded)
      refine undisturbed_statement fun second beside lowered _ => ?_
      have lower := (removed.beside beside).quiet (.lowerCounter messageId emoji)
        ((applyAll (log ++ [ReactionWrite.deleteReaction messageId userId emoji]) second).count?
          messageId emoji).isSome rfl fun _ => rfl
      refine undisturbed_statement fun third beside _ _ => next _ _ third ?_
      exact (lower.beside beside).quiet (.deleteCounter messageId emoji) _ rfl fun _ => rfl

theorem mem_walked {rank : Emoji → Nat} {emojis : List Emoji} :
    emoji ∈ walked rank emojis ↔ emoji ∈ emojis := by
  rw [walked, List.mem_insertionSort, List.mem_eraseDups]

theorem guarded_replaceReactions {target : List Emoji} {rank : Emoji → Nat}
    {rest : Bool → ReactionHandler Result}
    (inside : InsideLimits userId messageId own all log db) (counted : ∀ emoji ∈ target, emoji ∈ all)
    (next : ∀ answer log db, InsideLimits userId messageId target all log db →
      KeepsLimits userId messageId (rest answer) log db) :
    KeepsLimits userId messageId
      ((replaceReactions messageId chatId userId target now rank).bind rest) log db := by
  simp only [replaceReactions, lockUserEmojis, listUserEmojis, Tx.bind_eq, Tx.pure_eq,
    Tx.bind_assoc]
  refine undisturbed_read fun first beside => undisturbed_query fun second beside' current locked => ?_
  -- Nobody removed a row of the user while the statement waited: the rows are all of the user's.
  have complete : ∀ emoji, (applyAll log second).reacted messageId userId emoji = true →
      emoji ∈ current := by
    intro emoji reacted
    cases locked
    refine List.mem_filter.mpr ⟨mem_userEmojis.mpr ?_, reacted⟩
    rw [← ((trails_beside beside').applyAll log).own emoji]
    exact reacted
  have inside := inside.beside (beside.trans beside')
  have covered : ∀ items, (∀ emoji ∈ current, emoji ∉ target → emoji ∈ items) →
      InsideLimits userId messageId (items ++ target) all log second := by
    intro items removed
    refine ⟨inside.writes, fun emoji reacted => ?_, inside.bounded.all⟩
    by_cases wanted : emoji ∈ target
    · exact List.mem_append_right _ wanted
    · exact List.mem_append_left _ (removed emoji (complete emoji reacted) wanted)
  split
  · rename_i unchanged
    simp only [Bool.and_eq_true, List.isEmpty_iff] at unchanged
    refine next false log second ((List.nil_append target) ▸ covered [] fun emoji member outside => ?_)
    rw [← unchanged.2]
    exact List.mem_filter.mpr ⟨member, by simp [outside]⟩
  · simp only [Tx.bind_assoc]
    refine undisturbed_each
      (fun items log db => InsideLimits userId messageId (items ++ target) all log db) ?_ ?_ _ log second
      (covered _ fun emoji member outside => ?_)
    · intro item others log db after inside remains
      rw [Tx.void, Tx.bind_assoc]
      exact guarded_removeReactionRow inside fun _ log db inside => remains log db inside
    · intro log db inside
      refine undisturbed_each
        (fun items log db => InsideLimits userId messageId target all log db ∧
          ∀ emoji ∈ items, emoji ∈ target) ?_ ?_ _ log db ⟨inside, fun emoji member => ?_⟩
      · intro item others log db after both remains
        rw [Tx.void, Tx.bind_assoc]
        have wanted := both.2 item List.mem_cons_self
        refine guarded_addReaction both.1 wanted (counted item wanted) fun _ log db inside => ?_
        exact remains log db ⟨inside, fun emoji member => both.2 emoji (List.mem_cons_of_mem _ member)⟩
      · exact fun log db both => next true log db both.1
      · exact (List.mem_filter.mp (mem_walked.mp member)).1
    · exact mem_walked.mpr (List.mem_filter.mpr ⟨member, by simp [outside]⟩)

theorem guarded_requireReactable {user : UserJWTData}
    {rest : ChatAndMember → ReactionHandler Result}
    (next : ∀ found after, LimitsKnown after → KeepsLimits userId messageId (rest found) [] after) :
    KeepsLimits userId messageId ((requireReactable user now chatId messageId).bind rest) [] db := by
  simp only [requireReactable, Tx.bind_eq, Tx.pure_eq, Tx.bind_assoc]
  refine undisturbed_query fun first _ found _ => undisturbed_require fun _ => ?_
  refine undisturbed_read fun second beside => undisturbed_orRaise fun message _ =>
    undisturbed_require fun _ => ?_
  exact next found second beside.known

theorem inside_start (db : ReactionDb) (userId : UserId) (messageId : MessageId) :
    InsideLimits userId messageId (db.userEmojis messageId userId) (db.reactedEmojis messageId) [] db :=
  ⟨by simp, fun _ reacted => mem_userEmojis.mpr reacted,
    fun reactor _ reacted => mem_reactedEmojis.mpr ⟨reactor, reacted⟩⟩

theorem InsideLimits.wider {own' all' : List Emoji} (inside : InsideLimits userId messageId own all log db)
    (ownWider : ∀ emoji ∈ own, emoji ∈ own') (allWider : ∀ emoji ∈ all, emoji ∈ all') :
    InsideLimits userId messageId own' all' log db :=
  ⟨inside.writes, fun emoji reacted => ownWider emoji (inside.bounded.own emoji reacted),
    fun reactor emoji reacted => allWider emoji (inside.bounded.all reactor emoji reacted)⟩

theorem guarded_setReaction {user : UserJWTData} :
    KeepsLimits user.id messageId (setReaction user now chatId messageId emoji) [] db := by
  simp only [setReaction, listUserEmojis, countDistinctEmojis, Tx.bind_eq, Tx.pure_eq]
  refine guarded_requireReactable fun found _ _ => undisturbed_ofExcept fun _ _ =>
    undisturbed_read fun first beside => ?_
  have adds : ∀ (own all : List Emoji) {db : ReactionDb},
      InsideLimits user.id messageId own all [] db → emoji ∈ own → emoji ∈ all →
      own.length ≤ maxReactionsPerUserPerMessage → all.length ≤ maxDistinctReactionsPerMessage →
      KeepsLimits user.id messageId ((addReaction messageId chatId user.id emoji now).bind fun applied =>
        if applied.isNone = true then Tx.done () else announceReaction user chatId messageId .add)
        [] db := by
    intro own all db inside mine counted few distinct
    refine guarded_addReaction inside mine counted fun applied log db inside => ?_
    split
    · trivial
    · exact guarded_announceReaction inside few distinct
  have limits := beside.known.2 messageId
  split
  · rename_i fresh
    refine undisturbed_require fun room => undisturbed_read fun second beside' => ?_
    refine undisturbed_require fun roomy => ?_
    rw [decide_eq_true_eq] at room roomy
    have distinct := beside'.known.1.distinctEmojis messageId
    refine adds (emoji :: first.userEmojis messageId user.id)
      (emoji :: second.reactedEmojis messageId) ?_ List.mem_cons_self List.mem_cons_self ?_ ?_
    · have start := (inside_start first user.id messageId).beside beside'
      refine ⟨start.writes, ?_, ?_⟩
      · exact fun wanted reacted => List.mem_cons_of_mem _ (start.bounded.own wanted reacted)
      · exact fun reactor wanted reacted => List.mem_cons_of_mem _
          ((inside_start second user.id messageId).bounded.all reactor wanted reacted)
    · exact room
    · rw [List.length_cons, ← distinct]
      exact roomy
  · rename_i known
    have present : emoji ∈ first.userEmojis messageId user.id := by simpa using known
    refine adds _ _ (inside_start first user.id messageId) present ?_ (limits.user user.id)
      limits.message
    exact mem_reactedEmojis.mpr ⟨user.id, mem_userEmojis.mp present⟩

theorem guarded_checkTarget {user : UserJWTData} {found : ChatAndMember} {target : List Emoji}
    {rest : Unit → ReactionHandler Result}
    (next : ∀ own all after, InsideLimits user.id messageId own all [] after →
      target.length ≤ maxReactionsPerUserPerMessage →
      all.length ≤ maxDistinctReactionsPerMessage → (∀ emoji ∈ target, emoji ∈ all) →
      KeepsLimits user.id messageId (rest ()) [] after) :
    KeepsLimits user.id messageId ((checkTarget user now messageId found target).bind rest) [] db := by
  simp only [checkTarget, listUserEmojis, countDistinctEmojis, getCurrentGroups, Tx.bind_eq,
    Tx.pure_eq, Tx.bind_assoc, Tx.ite_bind, Tx.done_bind]
  refine undisturbed_ofExcept fun _ _ => undisturbed_ofExcept fun _ _ =>
    undisturbed_require fun few => undisturbed_read fun first beside => ?_
  rw [decide_eq_true_eq] at few
  split
  · rename_i nothing
    refine next _ _ first (inside_start first user.id messageId) few
      (beside.known.2 messageId).message fun emoji wanted => ?_
    rw [List.isEmpty_iff, List.filter_eq_nil_iff] at nothing
    have present := nothing emoji wanted
    simp only [Bool.not_eq_true, Bool.not_eq_false', List.contains_iff_mem] at present
    exact mem_reactedEmojis.mpr ⟨user.id, mem_userEmojis.mp present⟩
  · refine undisturbed_read fun second beside' => undisturbed_read fun third beside'' =>
      undisturbed_require fun room => ?_
    rw [decide_eq_true_eq, applyAll_nil, beside'.known.1.distinctEmojis] at room
    have start := (inside_start second user.id messageId).beside beside''
    refine next _ _ third (start.wider (fun _ member => member)
      fun emoji member => List.mem_append_left _ member) few (by rw [List.length_append]; exact room) ?_
    intro emoji wanted
    rw [List.mem_append]
    by_cases old : emoji ∈ first.userEmojis messageId user.id
    · refine .inl (mem_reactedEmojis.mpr ⟨user.id, ?_⟩)
      rw [(trails_beside beside').own emoji]
      exact mem_userEmojis.mp old
    · by_cases grouped : emoji ∈ (third.currentGroups messageId).map (·.emoji)
      · obtain ⟨reactor, reacted⟩ := mem_reactedEmojis.mp (beside''.known.1.grouped grouped)
        exact .inl (mem_reactedEmojis.mpr ⟨reactor, (trails_beside beside'').fewer _ _ reacted⟩)
      · refine .inr (List.mem_filter.mpr ⟨List.mem_filter.mpr ⟨wanted, ?_⟩, ?_⟩)
        · simpa using old
        · simpa using grouped

theorem guarded_setReactions {user : UserJWTData} {emojis : List Emoji} {rank : Emoji → Nat} :
    KeepsLimits user.id messageId (setReactions user now chatId messageId emojis rank) [] db := by
  simp only [setReactions, Tx.bind_eq, Tx.pure_eq]
  have replaces : ∀ {own all : List Emoji} {db : ReactionDb},
      InsideLimits user.id messageId own all [] db →
      emojis.eraseDups.length ≤ maxReactionsPerUserPerMessage →
      all.length ≤ maxDistinctReactionsPerMessage → (∀ emoji ∈ emojis.eraseDups, emoji ∈ all) →
      KeepsLimits user.id messageId
        ((replaceReactions messageId chatId user.id emojis.eraseDups now rank).bind fun changed =>
          if (!changed) = true then Tx.done ()
          else announceReaction user chatId messageId .replace) [] db := by
    intro own all db inside few distinct counted
    refine guarded_replaceReactions inside counted fun changed log db inside => ?_
    split
    · trivial
    · exact guarded_announceReaction inside few distinct
  refine guarded_requireReactable fun found after known => ?_
  split
  · refine guarded_checkTarget fun own all after inside few distinct counted => ?_
    exact replaces inside few distinct counted
  · rename_i nothing
    have empty : emojis.eraseDups = [] := by simpa using nothing
    refine replaces (inside_start after user.id messageId) ?_ (known.2 messageId).message ?_
    · simp [empty]
    · simp [empty]

theorem guarded_removeReaction {user : UserJWTData} :
    KeepsLimits user.id messageId (removeReaction user now chatId messageId emoji) [] db := by
  simp only [removeReaction, Tx.bind_eq, Tx.pure_eq]
  refine guarded_requireReactable fun found after known => ?_
  have limits := known.2 messageId
  have start := (inside_start after user.id messageId).wider
    (fun _ member => List.mem_cons_of_mem emoji member) fun _ member => member
  refine guarded_removeReactionRow start fun applied log db inside => ?_
  split
  · trivial
  · exact guarded_announceReaction inside (limits.user user.id) limits.message

theorem guarded_reactionRequest (request : ReactionRequest) (db : ReactionDb) :
    KeepsLimits request.user.id request.messageId request.program [] db := by
  unfold ReactionRequest.program
  split
  · exact guarded_setReaction
  · exact guarded_removeReaction
  · exact guarded_setReactions

theorem limits_without_insert (messageId : MessageId) (log : List ReactionWrite)
    (none : ∀ row, .insertReaction row ∉ log) (limits : db.WithinLimits messageId) :
    (applyAll log db).WithinLimits messageId := by
  refine applyAll_preserves (fun db => db.WithinLimits messageId) log (fun write member db limits => ?_)
    db limits
  refine limits.fewer fun reactor emoji reacted => ?_
  cases write with
  | insertReaction row => exact absurd member (none row)
  | deleteReaction target other wanted =>
      have kept := (reacted_deleteReaction db target messageId other reactor wanted emoji).symm.trans
        reacted
      rw [Bool.and_eq_true] at kept
      exact kept.1
  | raiseCounter _ _ _ => exact reacted
  | lowerCounter _ _ => exact reacted
  | deleteCounter _ _ => exact reacted
  | insertCounter _ => exact reacted
  | publish _ => exact reacted

end Guards

/-- The emojis of the user on the message that the log leaves, with those it adds. -/
def ReactionDb.userEmojisWith (db : ReactionDb) (messageId : MessageId) (userId : UserId)
    (log : List ReactionWrite) : List Emoji :=
  (((db.userEmojis messageId userId).filter fun emoji =>
      !(log.filterMap (ReactionWrite.deleted? userId messageId)).contains emoji) ++
    log.filterMap (ReactionWrite.inserted? userId messageId)).dedup

def ReactionDb.reactedEmojisWith (db : ReactionDb) (messageId : MessageId) (userId : UserId)
    (log : List ReactionWrite) : List Emoji :=
  (db.reactedEmojis messageId ++ log.filterMap (ReactionWrite.inserted? userId messageId)).dedup

structure HasRoom (userId : UserId) (messageId : MessageId) (log : List ReactionWrite)
    (db : ReactionDb) : Prop where
  user : (db.userEmojisWith messageId userId log).length ≤ maxReactionsPerUserPerMessage
  message : (db.reactedEmojisWith messageId userId log).length ≤ maxDistinctReactionsPerMessage

theorem inside_log {userId : UserId} {messageId : MessageId} {log : List ReactionWrite}
    {db : ReactionDb} (own : ∀ write ∈ log, write.Own userId messageId) :
    InsideLimits userId messageId (db.userEmojisWith messageId userId log)
      (db.reactedEmojisWith messageId userId log) log db := by
  refine ⟨own, fun emoji reacted => ?_, fun reactor emoji reacted => ?_⟩
  · rw [ReactionDb.userEmojisWith, List.mem_dedup, List.mem_append]
    rcases reacted_applyAll log db reacted with added | ⟨before, stays⟩
    · exact .inr added
    · refine .inl (List.mem_filter.mpr ⟨ReactionDb.mem_userEmojis.mpr before, ?_⟩)
      simpa using stays
  · rw [ReactionDb.reactedEmojisWith, List.mem_dedup, List.mem_append]
    by_cases mine : reactor = userId
    · subst mine
      rcases reacted_applyAll log db reacted with added | ⟨before, _⟩
      · exact .inr added
      · exact .inl (ReactionDb.mem_reactedEmojis.mpr ⟨reactor, before⟩)
    · rw [reacted_applyAll_other (fun same => mine same.2) log db own] at reacted
      exact .inl (ReactionDb.mem_reactedEmojis.mpr ⟨reactor, reacted⟩)

abbrev WatchedReactions := Watched ReactionDb ReactionWrite ReactionKey ReactionError

/-- A commit that adds a reaction, although an addition to the message or a removal of the same
user's was committed since its session was opened, finds room for it. -/
def LimitsFit (watched : WatchedReactions) :
    Label ReactionDb ReactionWrite ReactionKey ReactionError → Prop
  | .exec index => ∀ log, watched.system.committing index = some log →
      ∀ row, .insertReaction row ∈ log →
        (∀ write ∈ watched.missed index, ¬ write.disturbs row.userId row.messageId = true) ∨
          HasRoom row.userId row.messageId log watched.system.db
  | _ => True

/-- The limits hold in every run in which each commit that adds a reaction missed nothing that its
checks rest on, or has room. -/
theorem reaction_limits_in_run {db : ReactionDb} {final : WatchedReactions} (exact : db.Exact)
    (limits : ∀ messageId, db.WithinLimits messageId)
    (run : Watched.Runs (fun program => ∃ request : ReactionRequest, program = request.program)
      LimitsFit (Watched.idle db) final) :
    ∀ messageId, final.system.db.WithinLimits messageId := by
  refine run.inv (fun request : ReactionRequest =>
      ReactionWrite.Own request.user.id request.messageId)
    (fun request write => write.disturbs request.user.id request.messageId = true)
    ReactionDb.Exact (fun db => ∀ messageId, db.WithinLimits messageId)
    (fun middle reached => exact_in_run exact reached.run) emits_reactionRequest
    (fun request db _ _ => guarded_reactionRequest request db) ?_ limits
  intro watched index request log fits committing own _ limits undisturbed
  by_cases adds : ∃ row, .insertReaction row ∈ log
  · obtain ⟨row, member⟩ := adds
    obtain ⟨sameMessage, sameUser⟩ := own _ member
    have fit := fits log committing row member
    rw [sameMessage, sameUser] at fit
    rcases fit with apart | room
    · exact undisturbed apart
    · exact (inside_log own).limits room.user room.message limits
  · intro messageId
    exact limits_without_insert messageId log (fun row member => adds ⟨row, member⟩)
      (limits messageId)

instance decidableHasRoom (userId : UserId) (messageId : MessageId) (log : List ReactionWrite)
    (db : ReactionDb) : Decidable (HasRoom userId messageId log db) :=
  decidable_of_iff
    ((db.userEmojisWith messageId userId log).length ≤ maxReactionsPerUserPerMessage ∧
      (db.reactedEmojisWith messageId userId log).length ≤ maxDistinctReactionsPerMessage)
    ⟨fun both => ⟨both.1, both.2⟩, fun room => ⟨room.user, room.message⟩⟩

def limitsFit (watched : WatchedReactions) :
    Label ReactionDb ReactionWrite ReactionKey ReactionError → Bool
  | .exec index => (watched.system.committing index).all fun log => log.all fun write =>
      match write with
      | .insertReaction row =>
          ((watched.missed index).all fun other => !other.disturbs row.userId row.messageId) ||
            decide (HasRoom row.userId row.messageId log watched.system.db)
      | _ => true
  | _ => true

theorem limitsFit_sound (watched : WatchedReactions)
    (label : Label ReactionDb ReactionWrite ReactionKey ReactionError)
    (fits : limitsFit watched label = true) : LimitsFit watched label := by
  cases label with
  | start _ => trivial
  | rollback _ => trivial
  | exec index =>
      intro log committing row member
      simp only [limitsFit, committing, Option.all_some] at fits
      have fit := List.all_eq_true.mp fits _ member
      rw [Bool.or_eq_true, List.all_eq_true, decide_eq_true_eq] at fit
      refine fit.imp_left fun quiet write missed disturbs => ?_
      have undisturbed := quiet write missed
      rw [disturbs] at undisturbed
      cases undisturbed

def reactBy (userId : UserId) (emoji : Emoji) : ReactionRequest :=
  ⟨⟨userId, [], []⟩, 0, 1, 10, .set emoji⟩

theorem reactedGroup_limits (messageId : MessageId) : reactedGroup.WithinLimits messageId := by
  refine ⟨fun userId => ?_, ?_⟩
  · refine (ReactionDb.length_userEmojis_le ["🔥"] fun emoji reacted => ?_).trans
      (by decide)
    rw [ReactionDb.reacted_iff] at reacted
    obtain ⟨row, member, own⟩ := reacted
    rw [List.mem_singleton.mp member] at own
    cases own
    exact List.mem_singleton_self _
  · refine (ReactionDb.length_reactedEmojis_le ["🔥"] fun userId emoji reacted => ?_).trans
      (by decide)
    rw [ReactionDb.reacted_iff] at reacted
    obtain ⟨row, member, own⟩ := reacted
    rw [List.mem_singleton.mp member] at own
    cases own
    exact List.mem_singleton_self _

def twoAtOnce : List (Label ReactionDb ReactionWrite ReactionKey ReactionError) :=
  [Label.start (reactBy 1 "👍").program, Label.start (reactBy 1 "👎").program] ++
    List.replicate 4 (Label.exec 0) ++ List.replicate 4 (Label.exec 1) ++
    List.replicate 8 (Label.exec 0) ++ List.replicate 8 (Label.exec 1)

/-- Two requests of one user overlap, and the second finds room for a third emoji. -/
theorem reaction_limits_two_at_once :
    ∃ final, (Watched.idle reactedGroup).trace limitsFit twoAtOnce = some final ∧
      final.system.db.userEmojis 10 1 = ["🔥", "👍", "👎"] ∧
      ∀ messageId, final.system.db.WithinLimits messageId := by
  have outcome : ((Watched.idle reactedGroup).trace limitsFit twoAtOnce).map
      (fun final => final.system.db.userEmojis 10 1) = some ["🔥", "👍", "👎"] := by decide +kernel
  obtain ⟨final, traced, emojis⟩ := Option.map_eq_some_iff.mp outcome
  refine ⟨final, traced, emojis, reaction_limits_in_run reactedGroup_exact reactedGroup_limits ?_⟩
  refine Watched.runs_of_trace limitsFit_sound twoAtOnce ?_ .refl traced
  intro program started
  simp [twoAtOnce] at started
  rcases started with rfl | rfl
  · exact ⟨_, rfl⟩
  · exact ⟨_, rfl⟩

def threeAtOnce : List (Label ReactionDb ReactionWrite ReactionKey ReactionError) :=
  [Label.start (reactBy 1 "👍").program, Label.start (reactBy 1 "👎").program,
    Label.start (reactBy 1 "❤️").program] ++ List.replicate 4 (Label.exec 0) ++
    List.replicate 4 (Label.exec 1) ++ List.replicate 4 (Label.exec 2) ++
    List.replicate 8 (Label.exec 0) ++ List.replicate 8 (Label.exec 1) ++
    List.replicate 8 (Label.exec 2)

theorem reaction_limit_passed :
    ¬ ∀ (db : ReactionDb) (final : ReactionSystem), db.Exact →
      (∀ messageId, db.WithinLimits messageId) → ReactionRun (System.idle db) final →
        ∀ messageId, final.db.WithinLimits messageId := by
  intro claimed
  have outcome : ((System.idle reactedGroup).steps (fun _ _ => true) threeAtOnce).map
      (fun final => final.db.userEmojis 10 1) = some ["🔥", "👍", "👎", "❤️"] := by decide +kernel
  obtain ⟨final, reached, emojis⟩ := Option.map_eq_some_iff.mp outcome
  have run : ReactionRun (System.idle reactedGroup) final := by
    refine run_of_steps (fun _ _ => true) (fun _ _ _ => trivial) threeAtOnce _ _ _ ?_ .refl reached
    intro program started
    simp [threeAtOnce] at started
    rcases started with rfl | rfl | rfl
    · exact ⟨_, rfl⟩
    · exact ⟨_, rfl⟩
    · exact ⟨_, rfl⟩
  have limits := (claimed reactedGroup final reactedGroup_exact reactedGroup_limits run 10).user 1
  rw [emojis] at limits
  exact absurd limits (by decide)

end Messanger
