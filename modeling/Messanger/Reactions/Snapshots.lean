import Messanger.Reactions.Limits
import Messanger.Library.Coalesce

/-!
The way of a reaction snapshot to the clients: built inside the transaction, published with its
commit, put into the coalescing queue by the consumer, claimed and routed by the coalescer.  The
consumer takes the events in the order of the commits; one coalescer routes what it claimed before
it claims again, and loses the rest of it when routing raises.
-/

namespace Messanger

open Relational

section Groups

open ReactionDb

variable {messageId : MessageId}

theorem before_trans : IsTrans ReactionGroupSnapshot ReactionGroupSnapshot.Before := by
  refine ⟨fun first second third left right => ?_⟩
  rcases left with less | ⟨same, le⟩
  · rcases right with less' | ⟨same', _⟩
    · exact .inl (less'.trans less)
    · exact .inl (same' ▸ less)
  · rcases right with less' | ⟨same', le'⟩
    · exact .inl (same ▸ less')
    · exact .inr ⟨same.trans same', String.le_trans le le'⟩

theorem before_total : Std.Total ReactionGroupSnapshot.Before := by
  refine ⟨fun left right => ?_⟩
  rcases Int.lt_trichotomy left.count right.count with less | same | less
  · exact .inr (.inl less)
  · rcases String.le_total left.emoji right.emoji with le | le
    · exact .inl (.inr ⟨same, le⟩)
    · exact .inr (.inr ⟨same.symm, le⟩)
  · exact .inl (.inl less)

theorem before_antisymm : Std.Antisymm ReactionGroupSnapshot.Before := by
  refine ⟨fun left right first second => ?_⟩
  obtain ⟨leftEmoji, leftCount⟩ := left
  obtain ⟨rightEmoji, rightCount⟩ := right
  simp only [ReactionGroupSnapshot.Before] at first second
  rcases first with less | ⟨same, le⟩
  · rcases second with less' | ⟨same', _⟩
    · omega
    · omega
  · rcases second with less' | ⟨_, le'⟩
    · omega
    · rw [same, String.le_antisymm le le']

theorem mem_currentGroups {db : ReactionDb} {group : ReactionGroupSnapshot} :
    group ∈ db.currentGroups messageId ↔
      db.count? messageId group.emoji = some group.count ∧ 0 < group.count := by
  rw [currentGroups, List.mem_insertionSort, List.mem_map]
  constructor
  · rintro ⟨row, selected, rfl⟩
    obtain ⟨inside, own⟩ := List.mem_filter.mp selected
    simp only [Bool.and_eq_true, beq_iff_eq, decide_eq_true_eq] at own
    have found := (Table.find?_some_iff db.counters (messageId, row.emoji) row).mpr
      ⟨inside, by rw [← own.1]; rfl⟩
    exact ⟨by rw [count?, found]; rfl, own.2⟩
  · rintro ⟨counted, positive⟩
    obtain ⟨row, found, same⟩ := Option.map_eq_some_iff.mp counted
    obtain ⟨inside, own⟩ := (Table.find?_some_iff _ _ _).mp found
    simp only [MessageReactionCounter.key, Prod.mk.injEq] at own
    refine ⟨row, List.mem_filter.mpr ⟨inside, ?_⟩, by rw [own.2, same]⟩
    simp [own.1, same, positive]

theorem currentGroups_nodup (db : ReactionDb) : (db.currentGroups messageId).Nodup := by
  rw [currentGroups, (List.perm_insertionSort _ _).nodup_iff]
  refine List.Nodup.map_on ?_ ((List.Nodup.of_map _ db.counters.unique).filter _)
  intro left inLeft right inRight same
  obtain ⟨leftRow, leftOwn⟩ := List.mem_filter.mp inLeft
  obtain ⟨rightRow, rightOwn⟩ := List.mem_filter.mp inRight
  simp only [Bool.and_eq_true, beq_iff_eq] at leftOwn rightOwn
  simp only [ReactionGroupSnapshot.mk.injEq] at same
  refine db.counters.row_unique leftRow rightRow ?_
  simp [MessageReactionCounter.key, leftOwn.1, rightOwn.1, same.1]

theorem currentGroups_congr {left right : ReactionDb}
    (same : ∀ emoji, left.count? messageId emoji = right.count? messageId emoji) :
    left.currentGroups messageId = right.currentGroups messageId := by
  have := before_trans
  have := before_total
  have := before_antisymm
  refine List.Perm.eq_of_pairwise' (r := ReactionGroupSnapshot.Before) ?_ ?_
    ((List.perm_ext_iff_of_nodup (currentGroups_nodup left) (currentGroups_nodup right)).mpr
      fun group => ?_)
  · exact List.pairwise_insertionSort _ _
  · exact List.pairwise_insertionSort _ _
  · rw [mem_currentGroups, mem_currentGroups, same]

theorem groups_applyAll_local (log : List ReactionWrite) {left right : ReactionDb}
    (same : ∀ emoji, left.count? messageId emoji = right.count? messageId emoji) :
    (applyAll log left).currentGroups messageId = (applyAll log right).currentGroups messageId :=
  currentGroups_congr fun emoji => view_applyAll_local log (.counter messageId emoji) (same emoji)

end Groups

def ReactionWrite.counts (messageId : MessageId) : ReactionWrite → Bool
  | .raiseCounter target _ _ => target == messageId
  | .lowerCounter target _ => target == messageId
  | .deleteCounter target _ => target == messageId
  | .insertCounter counter => counter.messageId == messageId
  | _ => false

def ReactionWrite.isRow : ReactionWrite → Bool
  | .publish _ => false
  | _ => true

theorem count?_apply_quiet {messageId : MessageId} {write : ReactionWrite}
    (quiet : ¬ write.counts messageId = true) (db : ReactionDb) (emoji : Emoji) :
    (db.apply write).count? messageId emoji = db.count? messageId emoji := by
  refine view_apply_other write (.counter messageId emoji) db fun touched => ?_
  cases write with
  | insertReaction _ => simp [ReactionWrite.keys] at touched
  | deleteReaction _ _ _ => simp [ReactionWrite.keys] at touched
  | publish _ => simp [ReactionWrite.keys] at touched
  | raiseCounter _ _ _ =>
      simp only [ReactionWrite.keys, List.mem_singleton, ReactionKey.counter.injEq] at touched
      simp [ReactionWrite.counts, touched.1] at quiet
  | lowerCounter _ _ =>
      simp only [ReactionWrite.keys, List.mem_singleton, ReactionKey.counter.injEq] at touched
      simp [ReactionWrite.counts, touched.1] at quiet
  | deleteCounter _ _ =>
      simp only [ReactionWrite.keys, List.mem_singleton, ReactionKey.counter.injEq] at touched
      simp [ReactionWrite.counts, touched.1] at quiet
  | insertCounter _ =>
      simp only [ReactionWrite.keys, List.mem_singleton, ReactionKey.counter.injEq] at touched
      simp [ReactionWrite.counts, touched.1] at quiet

section Announcements

open ReactionDb

variable {messageId : MessageId} {base : Db}

def eventsOf (messageId : MessageId) (events : List ReactionUpdatedEvent) :
    List ReactionUpdatedEvent :=
  events.filter fun event => event.messageId == messageId

/-- The groups of the last snapshot of the message; none counts as the empty one. -/
def lastGroups (messageId : MessageId) (events : List ReactionUpdatedEvent) :
    List ReactionGroupSnapshot :=
  ((eventsOf messageId events).getLast?.map (·.groups)).getD []

def ReactionUpdatedEvent.Placed (base : Db) (event : ReactionUpdatedEvent) : Prop :=
  (base.openChat? event.chatId).isSome ∧
    ∃ message, base.liveMessage? event.messageId = some message ∧ message.chatId = event.chatId

def EventsPlaced (base : Db) (messageId : MessageId) (db : ReactionDb) : Prop :=
  ∀ event ∈ db.events, event.messageId = messageId → event.Placed base

/-- The last snapshot published for the message shows its counters. -/
def LastCurrent (messageId : MessageId) (db : ReactionDb) : Prop :=
  lastGroups messageId db.events = db.currentGroups messageId

structure Announced (base : Db) (messageId : MessageId) (db : ReactionDb) : Prop where
  based : db.base = base
  placed : EventsPlaced base messageId db
  current : LastCurrent messageId db

theorem base_applyAll (log : List ReactionWrite) (db : ReactionDb) :
    (applyAll log db).base = db.base := by
  refine applyAll_preserves (fun state => state.base = db.base) log
    (fun write _ state same => ?_) db rfl
  cases write with
  | insertReaction _ => exact same
  | deleteReaction _ _ _ => exact same
  | raiseCounter _ _ _ => exact same
  | lowerCounter _ _ => exact same
  | deleteCounter _ _ => exact same
  | insertCounter _ => exact same
  | publish _ => exact same

theorem events_applyAll (log : List ReactionWrite) (db : ReactionDb)
    (rows : ∀ write ∈ log, ∀ event, write ≠ .publish event) :
    (applyAll log db).events = db.events := by
  refine applyAll_preserves (fun state => state.events = db.events) log
    (fun write member state same => ?_) db rfl
  cases write with
  | insertReaction _ => exact same
  | deleteReaction _ _ _ => exact same
  | raiseCounter _ _ _ => exact same
  | lowerCounter _ _ => exact same
  | deleteCounter _ _ => exact same
  | insertCounter _ => exact same
  | publish event => exact absurd rfl (rows _ member event)

theorem lastGroups_append (events : List ReactionUpdatedEvent) (event : ReactionUpdatedEvent) :
    lastGroups messageId (events ++ [event]) =
      if event.messageId = messageId then event.groups else lastGroups messageId events := by
  simp only [lastGroups, eventsOf, List.filter_append, List.filter_singleton]
  by_cases same : event.messageId = messageId
  · simp [same]
  · have other : (event.messageId == messageId) = false := by simpa using same
    simp [same, other]

theorem placed_elsewhere {userId : UserId} {other : MessageId} (apart : other ≠ messageId)
    (log : List ReactionWrite) (own : ∀ write ∈ log, write.Own userId other) (db : ReactionDb)
    (placed : EventsPlaced base messageId db) : EventsPlaced base messageId (applyAll log db) := by
  refine applyAll_preserves (EventsPlaced base messageId) log (fun write member db placed => ?_) db
    placed
  cases write with
  | publish event =>
      intro published inside here
      rcases List.mem_append.mp inside with old | new
      · exact placed published old here
      · rw [List.mem_singleton.mp new] at here
        exact absurd ((own _ member).symm.trans here) apart
  | insertReaction _ => exact placed
  | deleteReaction _ _ _ => exact placed
  | raiseCounter _ _ _ => exact placed
  | lowerCounter _ _ => exact placed
  | deleteCounter _ _ => exact placed
  | insertCounter _ => exact placed

theorem current_elsewhere {userId : UserId} {other : MessageId} (apart : other ≠ messageId)
    (log : List ReactionWrite) (own : ∀ write ∈ log, write.Own userId other) (db : ReactionDb)
    (current : LastCurrent messageId db) : LastCurrent messageId (applyAll log db) := by
  refine applyAll_preserves (LastCurrent messageId) log (fun write member db current => ?_) db current
  have mine := own write member
  have quiet : ¬ write.counts messageId = true := by
    intro counts
    cases write with
    | insertReaction _ => cases counts
    | deleteReaction _ _ _ => cases counts
    | publish _ => cases counts
    | raiseCounter _ _ _ => exact apart (mine.symm.trans (beq_iff_eq.mp counts))
    | lowerCounter _ _ => exact apart (mine.symm.trans (beq_iff_eq.mp counts))
    | deleteCounter _ _ => exact apart (mine.symm.trans (beq_iff_eq.mp counts))
    | insertCounter _ => exact apart (mine.symm.trans (beq_iff_eq.mp counts))
  have groups : (db.apply write).currentGroups messageId = db.currentGroups messageId :=
    currentGroups_congr (count?_apply_quiet quiet db)
  have events : lastGroups messageId (db.apply write).events = lastGroups messageId db.events := by
    cases write with
    | publish event =>
        refine (lastGroups_append db.events event).trans (if_neg fun here => ?_)
        exact apart (mine.symm.trans here)
    | insertReaction _ => rfl
    | deleteReaction _ _ _ => rfl
    | raiseCounter _ _ _ => rfl
    | lowerCounter _ _ => rfl
    | deleteCounter _ _ => rfl
    | insertCounter _ => rfl
  exact events.trans (current.trans groups.symm)

section Requests

open Tx

variable {user : UserJWTData} {now : Nat} {chatId : ChatId} {emoji : Emoji}

theorem commitless_addReaction (userId : UserId) :
    (addReaction messageId chatId userId emoji now).Commitless := by
  refine commitless_bind (commitless_statement _ _ _) fun inserted => commitless_ite ?_ trivial
  exact commitless_bind (commitless_statement _ _ _) fun _ => trivial

theorem commitless_removeReactionRow (userId : UserId) :
    (removeReactionRow messageId userId emoji).Commitless := by
  refine commitless_bind (commitless_statement _ _ _) fun deleted => commitless_ite ?_ trivial
  exact commitless_bind (commitless_statement _ _ _) fun _ =>
    commitless_bind (commitless_statement _ _ _) fun _ => trivial

theorem commitless_replaceReactions (userId : UserId) (emojis : List Emoji) (rank : Emoji → Nat) :
    (replaceReactions messageId chatId userId emojis now rank).Commitless := by
  have locks : (lockUserEmojis messageId userId).Commitless :=
    commitless_bind (commitless_read _) fun _ => commitless_statement _ _ _
  refine commitless_bind locks fun current => commitless_ite trivial ?_
  refine commitless_bind (commitless_each (fun emoji => ?_) _) fun _ =>
    commitless_bind (commitless_each (fun emoji => ?_) _) fun _ => trivial
  · exact commitless_bind (commitless_removeReactionRow userId) fun _ => trivial
  · exact commitless_bind (commitless_addReaction userId) fun _ => trivial

theorem commitless_requireReactable :
    (requireReactable user now chatId messageId).Commitless := by
  refine commitless_bind (commitless_statement _ _ _) fun found => commitless_bind
    (commitless_require _ _) fun _ => commitless_bind (commitless_read _) fun message =>
      commitless_bind (commitless_orRaise _ _) fun message => ?_
  exact commitless_bind (commitless_require _ _) fun _ => trivial

theorem commitless_checkTarget (found : ChatAndMember) (target : List Emoji) :
    (checkTarget user now messageId found target).Commitless := by
  refine commitless_bind (commitless_ofExcept _) fun _ => commitless_bind (commitless_ofExcept _)
    fun _ => commitless_bind (commitless_require _ _) fun _ => commitless_bind (commitless_read _)
    fun existing => commitless_ite trivial ?_
  exact commitless_bind (commitless_read _) fun _ => commitless_bind (commitless_read _)
    fun _ => commitless_require _ _

theorem count?_beside {Known : ReactionDb → Prop} {db after : ReactionDb}
    (beside : Beside (fun write => write.counts messageId = true) Known db after) (emoji : Emoji) :
    after.count? messageId emoji = db.count? messageId emoji :=
  beside.keeps (fun state => state.count? messageId emoji = db.count? messageId emoji)
    (fun _ quiet state same => (count?_apply_quiet quiet state emoji).trans same) rfl

theorem undisturbed_announceReaction {Clash : ReactionWrite → Prop} {Known Goal : ReactionDb → Prop}
    {action : ReactionAction} {log : List ReactionWrite} {db : ReactionDb}
    (closes : ∀ first recent after, Beside Clash Known first after →
      Goal (applyAll (log ++ [.publish ⟨messageId, chatId, user.id, action,
        (applyAll log first).currentGroups messageId, recent⟩]) after)) :
    (announceReaction user chatId messageId action).Undisturbed Clash Known Goal log db := by
  have ends : ∀ first recent db, Beside Clash Known first db →
      ((publishReaction ⟨messageId, chatId, user.id, action,
        (applyAll log first).currentGroups messageId, recent⟩).bind fun _ =>
          Tx.commitNow).Undisturbed Clash Known Goal log db := by
    intro first recent db since
    refine undisturbed_statement fun second beside _ _ => undisturbed_commit fun third besides => ?_
    exact closes first recent third ((since.trans beside).trans besides)
  simp only [announceReaction, buildReactionEvent, getCurrentGroups, getReactionState,
    listUserEmojis, Tx.bind_eq, Tx.pure_eq, Tx.bind_assoc, Tx.ite_bind, Tx.done_bind]
  refine undisturbed_read fun first beside => ?_
  split
  · exact ends first [] first (.refl beside.known)
  · refine undisturbed_read fun second later => ?_
    split
    · exact ends first _ second later
    · refine undisturbed_read fun third more => undisturbed_read fun fourth last => ?_
      exact ends first _ fourth ((later.trans more).trans last)

section Places

abbrev Places (base : Db) (messageId : MessageId) {Result : Type}
    (program : ReactionHandler Result) (log : List ReactionWrite) (db : ReactionDb) : Prop :=
  program.Undisturbed (fun _ => False)
    (fun db => db.base = base ∧ EventsPlaced base messageId db) (EventsPlaced base messageId) log db

theorem places_announceReaction {userId : UserId} {action : ReactionAction}
    {log : List ReactionWrite} {db : ReactionDb}
    (placed : ∀ groups recent,
      ReactionUpdatedEvent.Placed base ⟨messageId, chatId, user.id, action, groups, recent⟩)
    (rows : ∀ write ∈ log, write.Rows userId messageId) :
    Places base messageId (announceReaction user chatId messageId action) log db := by
  refine undisturbed_announceReaction fun first recent after beside event inside here => ?_
  rw [applyAll_append] at inside
  rcases List.mem_append.mp inside with old | new
  · rw [events_applyAll log after fun write member => (rows write member).2] at old
    exact beside.known.2 event old here
  · rw [List.mem_singleton.mp new]
    exact placed _ _

theorem places_requireReactable {rest : ChatAndMember → ReactionHandler Unit} {db : ReactionDb}
    (next : ∀ found after,
      (∀ action groups recent, ReactionUpdatedEvent.Placed base
        ⟨messageId, chatId, user.id, action, groups, recent⟩) →
      Places base messageId (rest found) [] after) :
    Places base messageId ((requireReactable user now chatId messageId).bind rest) [] db := by
  simp only [requireReactable, Tx.bind_eq, Tx.pure_eq, Tx.bind_assoc]
  refine undisturbed_query fun first beside found answered => undisturbed_require fun _ => ?_
  refine undisturbed_read fun second later => undisturbed_orRaise fun message live =>
    undisturbed_require fun same => next found second fun action groups recent => ⟨?_, message, ?_, ?_⟩
  · rw [applyAll_nil, beside.known.1] at answered
    cases access : base.chatAndMember chatId user.id with
    | error _ =>
        rw [access] at answered
        cases answered
    | ok found =>
        rw [(Db.chatAndMember_ok access).1]
        rfl
  · rw [applyAll_nil, later.known.1] at live
    exact live
  · exact beq_iff_eq.mp same

theorem places_setReaction {db : ReactionDb} :
    Places base messageId (setReaction user now chatId messageId emoji) [] db := by
  simp only [setReaction, listUserEmojis, countDistinctEmojis, Tx.bind_eq, Tx.pure_eq]
  refine places_requireReactable fun found _ placed => undisturbed_ofExcept fun _ _ =>
    undisturbed_read fun first _ => ?_
  have adds : ∀ db, Places base messageId
      ((addReaction messageId chatId user.id emoji now).bind fun applied =>
        if applied.isNone = true then Tx.done () else announceReaction user chatId messageId .add)
      [] db := by
    intro db
    refine undisturbed_bind (commitless_addReaction user.id) (emits_addReaction emoji now)
      (fun applied log db rows => ?_) (by simp)
    split
    · trivial
    · exact places_announceReaction (placed .add) rows
  split
  · refine undisturbed_require fun _ => undisturbed_read fun second _ => undisturbed_require fun _ => ?_
    exact adds second
  · exact adds first

theorem places_removeReaction {db : ReactionDb} :
    Places base messageId (removeReaction user now chatId messageId emoji) [] db := by
  simp only [removeReaction, Tx.bind_eq, Tx.pure_eq]
  refine places_requireReactable fun found _ placed => ?_
  refine undisturbed_bind (commitless_removeReactionRow user.id) (emits_removeReactionRow emoji)
    (fun applied log db rows => ?_) (by simp)
  split
  · trivial
  · exact places_announceReaction (placed .remove) rows

theorem places_setReactions {db : ReactionDb} {emojis : List Emoji} {rank : Emoji → Nat} :
    Places base messageId (setReactions user now chatId messageId emojis rank) [] db := by
  simp only [setReactions, Tx.bind_eq, Tx.pure_eq]
  refine places_requireReactable fun found after placed => ?_
  have replaces : ∀ (log : List ReactionWrite) db,
      (∀ write ∈ log, write.Rows user.id messageId) → Places base messageId
      ((replaceReactions messageId chatId user.id emojis.eraseDups now rank).bind fun changed =>
        if (!changed) = true then Tx.done ()
        else announceReaction user chatId messageId .replace) log db := by
    intro log db rows
    refine undisturbed_bind (commitless_replaceReactions user.id _ rank) emits_replaceReactions
      (fun changed log db rows => ?_) rows
    split
    · trivial
    · exact places_announceReaction (placed .replace) rows
  split
  · exact undisturbed_bind (commitless_checkTarget found _) emits_checkTarget
      (fun _ log db rows => replaces log db rows) (by simp)
  · exact replaces [] after (by simp)

theorem places_reactionRequest (request : ReactionRequest) (db : ReactionDb) :
    Places base messageId request.program [] db := by
  by_cases here : request.messageId = messageId
  · subst here
    unfold ReactionRequest.program
    split
    · exact places_setReaction
    · exact places_removeReaction
    · exact places_setReactions
  · refine Tx.undisturbed_of_emits (fun log own db known => ?_) (emits_reactionRequest request) (by simp)
    exact placed_elsewhere here log own db known.2

end Places

section Restarting

abbrev Announces (messageId : MessageId) {Result : Type} (program : ReactionHandler Result)
    (log : List ReactionWrite) : Prop :=
  program.Restarts (fun write => write.isRow = true) (fun write => write.counts messageId = true)
    (fun db => True ∧ LastCurrent messageId db) (LastCurrent messageId) log

theorem announces_done (log : List ReactionWrite) :
    Announces messageId (Tx.done () : ReactionHandler Unit) log :=
  ⟨fun _ => trivial, trivial⟩

/-- The snapshot shows the counters, as nobody changes them between its reading and the commit. -/
theorem announces_announceReaction (action : ReactionAction) (log : List ReactionWrite) :
    Announces messageId (announceReaction user chatId messageId action) log := by
  refine ⟨fun db => undisturbed_announceReaction fun first recent after beside => ?_, ?_⟩
  · have groups : (applyAll log after).currentGroups messageId =
        (applyAll log first).currentGroups messageId :=
      groups_applyAll_local log (count?_beside beside)
    rw [applyAll_append]
    exact (lastGroups_append _ _).trans ((if_pos rfl).trans groups.symm)
  · refine renews_unmarked ?_
    simp [announceReaction, buildReactionEvent, getCurrentGroups, getReactionState, listUserEmojis,
      publishReaction, ReactionWrite.isRow, Tx.bind_eq, Tx.pure_eq, Tx.bind_assoc, Tx.ite_bind,
      Tx.done_bind, Tx.commitNow, Emits]

theorem announces_setReaction :
    Announces messageId (setReaction user now chatId messageId emoji) [] := by
  simp only [setReaction, listUserEmojis, countDistinctEmojis, Tx.bind_eq, Tx.pure_eq]
  have adds : ∀ log, Announces messageId
      ((addReaction messageId chatId user.id emoji now).bind fun applied =>
        if applied.isNone = true then Tx.done ()
        else announceReaction user chatId messageId .add) log := by
    refine restarts_bind (commitless_addReaction user.id) fun applied log => ?_
    split
    · exact announces_done log
    · exact announces_announceReaction .add log
  refine restarts_bind commitless_requireReactable (fun found => ?_) []
  refine restarts_bind (commitless_ofExcept _) fun _ => ?_
  refine restarts_bind (commitless_read _) fun existing log => ?_
  split
  · refine restarts_bind (commitless_require _ _) (fun _ => ?_) log
    refine restarts_bind (commitless_read _) fun distinct => ?_
    exact restarts_bind (commitless_require _ _) fun _ => adds
  · exact adds log

theorem announces_removeReaction :
    Announces messageId (removeReaction user now chatId messageId emoji) [] := by
  simp only [removeReaction, Tx.bind_eq, Tx.pure_eq]
  refine restarts_bind commitless_requireReactable (fun found => ?_) []
  refine restarts_bind (commitless_removeReactionRow user.id) fun applied log => ?_
  split
  · exact announces_done log
  · exact announces_announceReaction .remove log

theorem announces_setReactions {emojis : List Emoji} {rank : Emoji → Nat} :
    Announces messageId (setReactions user now chatId messageId emojis rank) [] := by
  simp only [setReactions, Tx.bind_eq, Tx.pure_eq]
  have replaces : ∀ log, Announces messageId
      ((replaceReactions messageId chatId user.id emojis.eraseDups now rank).bind fun changed =>
        if (!changed) = true then Tx.done ()
        else announceReaction user chatId messageId .replace) log := by
    refine restarts_bind (commitless_replaceReactions user.id _ rank) fun changed log => ?_
    split
    · exact announces_done log
    · exact announces_announceReaction .replace log
  refine restarts_bind commitless_requireReactable (fun found log => ?_) []
  split
  · exact restarts_bind (commitless_checkTarget found _) (fun _ => replaces) log
  · exact replaces log

theorem announces_reactionRequest (request : ReactionRequest) :
    Announces messageId request.program [] := by
  by_cases here : request.messageId = messageId
  · subst here
    unfold ReactionRequest.program
    split
    · exact announces_setReaction
    · exact announces_removeReaction
    · exact announces_setReactions
  · have harmless : ∀ log : List ReactionWrite,
        (∀ write ∈ log, write.Own request.user.id request.messageId) →
        ∀ db, True ∧ LastCurrent messageId db → LastCurrent messageId (applyAll log db) :=
      fun log own db known => current_elsewhere here log own db known.2
    exact ⟨fun db => undisturbed_of_emits harmless (emits_reactionRequest request) (by simp),
      renews_of_emits harmless (emits_reactionRequest request) (by simp)⟩

end Restarting

end Requests

def ReactionWrite.message : ReactionWrite → MessageId
  | .insertReaction row => row.messageId
  | .deleteReaction messageId _ _ => messageId
  | .raiseCounter messageId _ _ => messageId
  | .lowerCounter messageId _ => messageId
  | .deleteCounter messageId _ => messageId
  | .insertCounter counter => counter.messageId
  | .publish event => event.messageId

theorem message_own {userId : UserId} {write : ReactionWrite}
    (own : write.Own userId messageId) : write.message = messageId := by
  cases write with
  | insertReaction _ => exact own.1
  | deleteReaction _ _ _ => exact own.1
  | raiseCounter _ _ _ => exact own
  | lowerCounter _ _ => exact own
  | deleteCounter _ _ => exact own
  | insertCounter _ => exact own
  | publish _ => exact own

/-- A commit on the message is of a session whose last row comes after every change of the message's
counters that the others have committed since it was opened. -/
def SnapshotsFresh (messageId : MessageId) (watched : WatchedReactions) :
    Label ReactionDb ReactionWrite ReactionKey ReactionError → Prop
  | .exec index => ∀ log, watched.system.committing index = some log →
      (∃ write ∈ log, write.message = messageId) →
        ∀ note ∈ watched.notes index, note.2.counts messageId = true →
          ∃ row ∈ log.drop note.1, row.isRow = true
  | _ => True

section Runs

variable {Meets : WatchedReactions → Label ReactionDb ReactionWrite ReactionKey ReactionError → Prop}
  {db : ReactionDb} {final : WatchedReactions}

theorem based_in_run
    (run : Watched.Runs (fun program => ∃ request : ReactionRequest, program = request.program)
      Meets (Watched.idle db) final) : final.system.db.base = db.base := by
  refine run.inv (fun request : ReactionRequest =>
      ReactionWrite.Own request.user.id request.messageId)
    (fun _ _ => False) (fun _ => True) (fun after => after.base = db.base) (fun _ _ => trivial)
    emits_reactionRequest ?_ ?_ rfl
  · exact fun request _ _ _ => Tx.undisturbed_of_emits
      (fun log _ after known => (base_applyAll log after).trans known.2)
      (emits_reactionRequest request) (by simp)
  · exact fun watched _ _ log _ _ _ _ based _ => (base_applyAll log _).trans based

theorem placed_in_run (placed : EventsPlaced db.base messageId db)
    (run : Watched.Runs (fun program => ∃ request : ReactionRequest, program = request.program)
      Meets (Watched.idle db) final) : EventsPlaced db.base messageId final.system.db := by
  refine run.inv (fun request : ReactionRequest =>
      ReactionWrite.Own request.user.id request.messageId)
    (fun _ _ => False) (fun after => after.base = db.base) (EventsPlaced db.base messageId)
    (fun _ before => based_in_run before) emits_reactionRequest ?_ ?_ placed
  · exact fun request state _ _ => places_reactionRequest request state
  · exact fun _ _ _ _ _ _ _ _ _ undisturbed => undisturbed fun _ _ => not_false

theorem announced_in_run (start : Announced db.base messageId db)
    (run : Watched.Runs (fun program => ∃ request : ReactionRequest, program = request.program)
      (SnapshotsFresh messageId) (Watched.idle db) final) :
    Announced db.base messageId final.system.db := by
  refine ⟨based_in_run run, placed_in_run start.placed run, ?_⟩
  refine run.inv_marked (fun request : ReactionRequest =>
      ReactionWrite.Own request.user.id request.messageId)
    (fun _ write => write.counts messageId = true) (fun write => write.isRow = true)
    (fun _ => True) (LastCurrent messageId) (fun _ _ => trivial) emits_reactionRequest
    (fun request state _ _ => (announces_reactionRequest request).undisturbed state)
    (fun request => (announces_reactionRequest request).renews) ?_ start.current
  intro watched index request log fresh committing own _ current undisturbed
  by_cases here : request.messageId = messageId
  · cases log with
    | nil => exact current
    | cons write rest =>
        refine undisturbed (fresh _ committing ⟨write, List.mem_cons_self, ?_⟩)
        exact (message_own (own write List.mem_cons_self)).trans here
  · exact current_elsewhere here log own _ current

end Runs

end Announcements

def reactionsCoalesceWindowMs : Nat := 500

def reactionsCoalesceMaxKeysPerTick : Nat := 500

abbrev ReactionField := ChatId × MessageId

def ReactionUpdatedEvent.field (event : ReactionUpdatedEvent) : ReactionField :=
  (event.chatId, event.messageId)

/-- `consumed` counts the events the consumer has taken from the outbox, `claimed` are the
snapshots of the coalescer's tick that are still to be routed. -/
structure ReactionDelivery where
  store : WatchedReactions
  consumed : Nat := 0
  queue : Queue ReactionField ReactionUpdatedEvent := {}
  claimed : List ReactionUpdatedEvent := []
  routed : List ReactionUpdatedEvent := []

namespace ReactionDelivery

inductive Step where
  | store (label : Label ReactionDb ReactionWrite ReactionKey ReactionError)
  | consume (now : Nat)
  | claim (before : ReactionField → ReactionField → Bool) (now : Nat)
  | route
  | fail

/-- `route_reaction_snapshot`: nothing is sent into a chat that is gone. -/
def routeReactionSnapshot (delivery : ReactionDelivery) (event : ReactionUpdatedEvent) :
    List ReactionUpdatedEvent :=
  if (delivery.store.system.db.base.openChat? event.chatId).isSome then delivery.routed ++ [event]
  else delivery.routed

def step (delivery : ReactionDelivery) : Step → Option ReactionDelivery
  | .store label => (delivery.store.step label).map fun next => { delivery with store := next }
  | .consume now =>
      match delivery.store.system.db.events[delivery.consumed]? with
      | none => none
      | some event =>
          some { delivery with
            consumed := delivery.consumed + 1
            queue := delivery.queue.put event.field event (now + reactionsCoalesceWindowMs) }
  | .claim before now =>
      if delivery.claimed.isEmpty then
        let due := delivery.queue.claimDue before now reactionsCoalesceMaxKeysPerTick
        some { delivery with queue := due.2, claimed := due.1.map Prod.snd }
      else none
  | .route =>
      match delivery.claimed with
      | [] => none
      | event :: rest =>
          some { delivery with claimed := rest, routed := delivery.routeReactionSnapshot event }
  | .fail =>
      match delivery.claimed with
      | [] => none
      | _ :: _ => some { delivery with claimed := [] }

def steps (ok : ReactionDelivery → Step → Bool) (delivery : ReactionDelivery) :
    List Step → Option ReactionDelivery
  | [] => some delivery
  | step :: rest =>
      if ok delivery step then
        match delivery.step step with
        | none => none
        | some next => next.steps ok rest
      else none

def Legal : Step → Prop
  | .store (.start program) => ∃ request : ReactionRequest, program = request.program
  | _ => True

inductive Reaches (Holds : ReactionDelivery → Step → Prop) (initial : ReactionDelivery) :
    ReactionDelivery → Prop
  | refl : Reaches Holds initial initial
  | step {delivery next : ReactionDelivery} {step : Step} :
      Reaches Holds initial delivery → Legal step → Holds delivery step →
      delivery.step step = some next → Reaches Holds initial next

/-- A snapshot of the message waits in the queue, or for the consumer. -/
def Follows (messageId : MessageId) (delivery : ReactionDelivery) : Prop :=
  (∃ event ∈ delivery.store.system.db.events.drop delivery.consumed, event.messageId = messageId) ∨
    ∃ field, field.2 = messageId ∧ (delivery.queue.payload? field).isSome

/-- The commits on the message carry fresh snapshots, and a tick fails with one of them only if
another follows. -/
def Orderly (messageId : MessageId) (delivery : ReactionDelivery) : Step → Prop
  | .store label => SnapshotsFresh messageId delivery.store label
  | .fail => (∃ event ∈ delivery.claimed, event.messageId = messageId) → delivery.Follows messageId
  | _ => True

section Stream

variable {messageId : MessageId} {base : Db}

theorem Reaches.store {initial final : ReactionDelivery}
    (reached : Reaches (Orderly messageId) initial final) :
    Watched.Runs (fun program => ∃ request : ReactionRequest, program = request.program)
      (SnapshotsFresh messageId) initial.store final.store := by
  induction reached with
  | refl => exact .refl
  | @step delivery next step _ legal orderly stepped ih =>
      cases step with
      | store label =>
          obtain ⟨moved, watched, rfl⟩ := Option.map_eq_some_iff.mp stepped
          refine .step ih (fun program started => ?_) orderly watched
          subst started
          exact legal
      | consume now =>
          simp only [ReactionDelivery.step] at stepped
          split at stepped
          · cases stepped
          · cases stepped
            exact ih
      | claim before now =>
          simp only [ReactionDelivery.step] at stepped
          split at stepped
          · cases stepped
            exact ih
          · cases stepped
      | route =>
          simp only [ReactionDelivery.step] at stepped
          split at stepped
          · cases stepped
          · cases stepped
            exact ih
      | fail =>
          simp only [ReactionDelivery.step] at stepped
          split at stepped
          · cases stepped
          · cases stepped
            exact ih

/-- The latest of the message among the events. -/
def latest (messageId : MessageId) (events : List ReactionUpdatedEvent) :
    Option ReactionUpdatedEvent :=
  (eventsOf messageId events).getLast?

@[simp] theorem latest_nil : latest messageId [] = none := rfl

theorem latest_append (first second : List ReactionUpdatedEvent) :
    latest messageId (first ++ second) = (latest messageId second).or (latest messageId first) := by
  rw [latest, eventsOf, List.filter_append, List.getLast?_append]
  rfl

theorem latest_cons (event : ReactionUpdatedEvent) (events : List ReactionUpdatedEvent) :
    latest messageId (event :: events) = (latest messageId events).or (latest messageId [event]) :=
  latest_append [event] events

theorem latest_single (event : ReactionUpdatedEvent) :
    latest messageId [event] = if event.messageId = messageId then some event else none := by
  by_cases same : event.messageId = messageId
  · simp [latest, eventsOf, same]
  · simp [latest, eventsOf, same]

theorem latest_copies {events : List ReactionUpdatedEvent} {event : ReactionUpdatedEvent}
    (member : event ∈ events) (same : event.messageId = messageId)
    (copies : ∀ other ∈ events, other.messageId = messageId → other = event) :
    latest messageId events = some event := by
  have inside : event ∈ eventsOf messageId events :=
    List.mem_filter.mpr ⟨member, beq_iff_eq.mpr same⟩
  cases last : latest messageId events with
  | none =>
      rw [latest, List.getLast?_eq_none_iff] at last
      rw [last] at inside
      cases inside
  | some found =>
      have listed := List.mem_of_getLast? last
      obtain ⟨listed, own⟩ := List.mem_filter.mp listed
      rw [copies found listed (beq_iff_eq.mp own)]

theorem latest_isSome {events : List ReactionUpdatedEvent} {event : ReactionUpdatedEvent}
    (member : event ∈ events) (same : event.messageId = messageId) :
    (latest messageId events).isSome := by
  rw [latest, List.getLast?_isSome]
  exact List.ne_nil_of_mem (List.mem_filter.mpr ⟨member, beq_iff_eq.mpr same⟩)

theorem latest_none {events : List ReactionUpdatedEvent}
    (absent : ∀ event ∈ events, event.messageId ≠ messageId) : latest messageId events = none := by
  rw [latest, List.getLast?_eq_none_iff, eventsOf, List.filter_eq_nil_iff]
  intro event member same
  exact absent event member (beq_iff_eq.mp same)

/-- The snapshot of the message that waits in the queue. -/
def waiting (base : Db) (messageId : MessageId)
    (queue : Queue ReactionField ReactionUpdatedEvent) : Option ReactionUpdatedEvent :=
  (base.liveMessage? messageId).bind fun message => queue.payload? (message.chatId, messageId)

structure Streams (base : Db) (messageId : MessageId) (delivery : ReactionDelivery) : Prop where
  bounded : delivery.consumed ≤ delivery.store.system.db.events.length
  keyed : ∀ field event, delivery.queue.payload? field = some event →
    field = event.field ∧ (event.messageId = messageId → event.Placed base)
  placed : ∀ event ∈ delivery.claimed, event.messageId = messageId → event.Placed base
  stream : (latest messageId (delivery.store.system.db.events.drop delivery.consumed)).or
    ((waiting base messageId delivery.queue).or
      ((latest messageId delivery.claimed).or (latest messageId delivery.routed))) =
        latest messageId delivery.store.system.db.events

theorem waiting_placed {queue : Queue ReactionField ReactionUpdatedEvent}
    {event : ReactionUpdatedEvent} (placed : event.Placed base) (same : event.messageId = messageId) :
    waiting base messageId queue = queue.payload? event.field := by
  obtain ⟨_, message, live, chat⟩ := placed
  subst same
  rw [waiting, live, Option.bind_some, chat, ReactionUpdatedEvent.field]

theorem events_grow {watched next : WatchedReactions}
    {label : Label ReactionDb ReactionWrite ReactionKey ReactionError}
    (stepped : watched.step label = some next) :
    ∃ new, next.system.db.events = watched.system.db.events ++ new := by
  have grows : ∀ (log : List ReactionWrite) (db : ReactionDb),
      ∃ new, (applyAll log db).events = db.events ++ new := by
    intro log db
    refine applyAll_preserves (fun state => ∃ new, state.events = db.events ++ new) log
      (fun write _ state grown => ?_) db ⟨[], (List.append_nil _).symm⟩
    obtain ⟨new, same⟩ := grown
    cases write with
    | publish event => exact ⟨new ++ [event], by rw [← List.append_assoc, ← same]; rfl⟩
    | insertReaction _ => exact ⟨new, same⟩
    | deleteReaction _ _ _ => exact ⟨new, same⟩
    | raiseCounter _ _ _ => exact ⟨new, same⟩
    | lowerCounter _ _ => exact ⟨new, same⟩
    | deleteCounter _ _ => exact ⟨new, same⟩
    | insertCounter _ => exact ⟨new, same⟩
  obtain ⟨system, moved, rfl⟩ := Option.map_eq_some_iff.mp stepped
  cases label with
  | start _ =>
      cases moved
      exact ⟨[], (List.append_nil _).symm⟩
  | rollback _ =>
      cases moved
      exact ⟨[], (List.append_nil _).symm⟩
  | exec index =>
      obtain ⟨session, _, ⟨_, _, _, _, rfl⟩ | ⟨_, _, rfl⟩⟩ := System.exec_cases moved
      · exact ⟨[], (List.append_nil _).symm⟩
      · exact grows session.log watched.system.db

section Steps

variable {delivery : ReactionDelivery}

theorem Streams.store {watched : WatchedReactions} {new : List ReactionUpdatedEvent}
    (streams : Streams base messageId delivery)
    (grown : watched.system.db.events = delivery.store.system.db.events ++ new) :
    Streams base messageId { delivery with store := watched } := by
  refine ⟨?_, streams.keyed, streams.placed, ?_⟩
  · have bounded := streams.bounded
    simp only [grown, List.length_append]
    omega
  · simp only [grown, List.drop_append_of_le_length streams.bounded, latest_append, Option.or_assoc]
    rw [streams.stream]

theorem Streams.consume {event : ReactionUpdatedEvent} (deadline : Nat)
    (streams : Streams base messageId delivery)
    (announced : Announced base messageId delivery.store.system.db)
    (found : delivery.store.system.db.events[delivery.consumed]? = some event) :
    Streams base messageId { delivery with
      consumed := delivery.consumed + 1
      queue := delivery.queue.put event.field event deadline } := by
  obtain ⟨inside, same⟩ := List.getElem?_eq_some_iff.mp found
  have member := List.mem_of_getElem? found
  have split : delivery.store.system.db.events.drop delivery.consumed =
      event :: delivery.store.system.db.events.drop (delivery.consumed + 1) := by
    rw [← same]
    exact List.drop_eq_getElem_cons inside
  refine ⟨inside, fun field other waits => ?_, streams.placed, ?_⟩
  · rw [Queue.payload?_put] at waits
    split at waits
    · rename_i own
      cases waits
      exact ⟨own.symm, announced.placed event member⟩
    · exact streams.keyed field other waits
  · have stream := streams.stream
    rw [split, latest_cons, Option.or_assoc, latest_single] at stream
    rw [← stream]
    by_cases own : event.messageId = messageId
    · have placed := announced.placed event member own
      simp only [waiting_placed placed own, Queue.payload?_put, if_true, if_pos own, Option.some_or]
    · have kept : waiting base messageId (delivery.queue.put event.field event deadline) =
          waiting base messageId delivery.queue := by
        unfold waiting
        refine congrArg _ (funext fun message => ?_)
        rw [Queue.payload?_put, if_neg]
        intro field
        exact own (congrArg Prod.snd field)
      rw [if_neg own, Option.none_or]
      simp only [kept]

theorem Streams.claim (fields : List ReactionField) (streams : Streams base messageId delivery)
    (idle : delivery.claimed = []) :
    Streams base messageId { delivery with
      queue := (Queue.claim fields delivery.queue).2
      claimed := (Queue.claim fields delivery.queue).1.map Prod.snd } := by
  have taken : ∀ event ∈ (Queue.claim fields delivery.queue).1.map Prod.snd,
      delivery.queue.payload? event.field = some event ∧ event.field ∈ fields ∧
        (event.messageId = messageId → event.Placed base) := by
    intro event member
    obtain ⟨⟨field, payload⟩, listed, rfl⟩ := List.mem_map.mp member
    obtain ⟨due, waits⟩ := Queue.mem_claim.mp listed
    obtain ⟨own, placed⟩ := streams.keyed field payload waits
    subst own
    exact ⟨waits, due, placed⟩
  refine ⟨streams.bounded, fun field event waits => ?_, fun event member => (taken event member).2.2, ?_⟩
  · rw [Queue.payload?_claim] at waits
    split at waits
    · cases waits
    · exact streams.keyed field event waits
  · -- The waiting snapshot of the message stays in the queue or is what was claimed.
    have moved : (waiting base messageId (Queue.claim fields delivery.queue).2).or
        (latest messageId ((Queue.claim fields delivery.queue).1.map Prod.snd)) =
          waiting base messageId delivery.queue := by
      cases live : base.liveMessage? messageId with
      | none =>
          rw [waiting, waiting, live, Option.bind_none, Option.bind_none, Option.none_or]
          refine latest_none fun event member own => ?_
          obtain ⟨_, message, present, _⟩ := (taken event member).2.2 own
          rw [own, live] at present
          cases present
      | some message =>
          have fielded : ∀ event ∈ (Queue.claim fields delivery.queue).1.map Prod.snd,
              event.messageId = messageId → event.field = (message.chatId, messageId) := by
            intro event member own
            obtain ⟨_, found, present, chat⟩ := (taken event member).2.2 own
            rw [own, live] at present
            cases present
            rw [ReactionUpdatedEvent.field, chat, own]
          rw [waiting, waiting, live, Option.bind_some, Option.bind_some, Queue.payload?_claim]
          by_cases due : (message.chatId, messageId) ∈ fields
          · rw [if_pos due, Option.none_or]
            cases waits : delivery.queue.payload? (message.chatId, messageId) with
            | none =>
                refine latest_none fun event member own => ?_
                have present := (taken event member).1
                rw [fielded event member own, waits] at present
                cases present
            | some event =>
                have own := (streams.keyed _ event waits).1
                refine latest_copies (List.mem_map.mpr ⟨(_, event), Queue.mem_claim.mpr
                  ⟨due, waits⟩, rfl⟩) (congrArg Prod.snd own).symm fun other member same => ?_
                have present := (taken other member).1
                rw [fielded other member same, waits] at present
                exact (Option.some.inj present).symm
          · rw [if_neg due, latest_none, Option.or_none]
            intro event member own
            exact due (fielded event member own ▸ (taken event member).2.1)
    have stream := streams.stream
    rw [idle, latest_nil, Option.none_or] at stream
    rw [← stream, ← moved, Option.or_assoc]

theorem Streams.route {event : ReactionUpdatedEvent} {rest : List ReactionUpdatedEvent}
    (streams : Streams base messageId delivery)
    (announced : Announced base messageId delivery.store.system.db)
    (claimed : delivery.claimed = event :: rest) :
    Streams base messageId
      { delivery with claimed := rest, routed := delivery.routeReactionSnapshot event } := by
  have placed : ∀ other ∈ event :: rest, other.messageId = messageId → other.Placed base := by
    rw [← claimed]
    exact streams.placed
  refine ⟨streams.bounded, streams.keyed,
    fun other member => placed other (List.mem_cons_of_mem _ member), ?_⟩
  have sent : latest messageId (delivery.routeReactionSnapshot event) =
      (latest messageId [event]).or (latest messageId delivery.routed) := by
    rw [routeReactionSnapshot]
    split
    · rw [latest_append]
    · rename_i gone
      rw [latest_single, if_neg, Option.none_or]
      intro own
      rw [announced.based] at gone
      exact gone (placed event List.mem_cons_self own).1
  have stream := streams.stream
  rw [claimed, latest_cons, Option.or_assoc] at stream
  simp only [sent]
  exact stream

theorem Streams.fail (streams : Streams base messageId delivery)
    (spared : (∃ event ∈ delivery.claimed, event.messageId = messageId) →
      delivery.Follows messageId) :
    Streams base messageId { delivery with claimed := [] } := by
  refine ⟨streams.bounded, streams.keyed, by simp, ?_⟩
  have stream := streams.stream
  by_cases lost : ∃ event ∈ delivery.claimed, event.messageId = messageId
  · rcases spared lost with ⟨event, member, own⟩ | ⟨field, own, waits⟩
    · obtain ⟨last, found⟩ := Option.isSome_iff_exists.mp (latest_isSome member own)
      rw [found, Option.some_or] at stream
      rw [found, Option.some_or]
      exact stream
    · obtain ⟨event, payload⟩ := Option.isSome_iff_exists.mp waits
      obtain ⟨rfl, placed⟩ := streams.keyed field event payload
      have waits : waiting base messageId delivery.queue = some event :=
        (waiting_placed (placed own) own).trans payload
      rw [waits, Option.some_or] at stream
      rw [waits, Option.some_or]
      exact stream
  · rw [latest_none fun event member own => lost ⟨event, member, own⟩, Option.none_or] at stream
    exact stream

end Steps

theorem streams_in_run {db : ReactionDb} {final : ReactionDelivery}
    (start : Announced db.base messageId db) (silent : db.events = [])
    (reached : Reaches (Orderly messageId) { store := Watched.idle db } final) :
    Streams db.base messageId final := by
  induction reached with
  | refl =>
      have empty : ∀ field, ({} : Queue ReactionField ReactionUpdatedEvent).payload? field = none :=
        fun _ => rfl
      refine ⟨Nat.zero_le _, fun field event waits => ?_, by simp, ?_⟩
      · rw [empty] at waits
        cases waits
      · have still : (Watched.idle db : WatchedReactions).system.db.events = [] := silent
        simp [still, waiting, empty]
  | @step delivery next step before legal orderly stepped ih =>
      have announced := announced_in_run start before.store
      cases step with
      | store label =>
          obtain ⟨watched, moved, rfl⟩ := Option.map_eq_some_iff.mp stepped
          obtain ⟨new, grown⟩ := events_grow moved
          exact ih.store grown
      | consume now =>
          simp only [ReactionDelivery.step] at stepped
          split at stepped
          · cases stepped
          · rename_i event found
            cases stepped
            exact ih.consume _ announced found
      | claim before now =>
          simp only [ReactionDelivery.step] at stepped
          split at stepped
          · rename_i idle
            cases stepped
            exact ih.claim _ (List.isEmpty_iff.mp idle)
          · cases stepped
      | route =>
          simp only [ReactionDelivery.step] at stepped
          split at stepped
          · cases stepped
          · rename_i event rest claimed
            cases stepped
            exact ih.route announced claimed
      | fail =>
          simp only [ReactionDelivery.step] at stepped
          split at stepped
          · cases stepped
          · cases stepped
            exact ih.fail orderly

end Stream

theorem reaches_of_steps {Holds : ReactionDelivery → Step → Prop}
    {ok : ReactionDelivery → Step → Bool}
    (sound : ∀ delivery step, ok delivery step = true → Holds delivery step) :
    ∀ (steps : List Step) (initial delivery final : ReactionDelivery),
      (∀ step ∈ steps, Legal step) → Reaches Holds initial delivery →
      delivery.steps ok steps = some final → Reaches Holds initial final := by
  intro steps
  induction steps with
  | nil =>
      intro initial delivery final _ reached stepped
      cases stepped
      exact reached
  | cons step rest ih =>
      intro initial delivery final legal reached stepped
      simp only [ReactionDelivery.steps] at stepped
      split at stepped
      · rename_i checked
        cases found : delivery.step step with
        | none => simp [found] at stepped
        | some next =>
            simp only [found] at stepped
            refine ih initial next final
              (fun other member => legal other (List.mem_cons_of_mem _ member)) ?_ stepped
            exact .step reached (legal step List.mem_cons_self) (sound delivery step checked) found
      · cases stepped

def snapshotsFresh (messageId : MessageId) (watched : WatchedReactions) :
    Label ReactionDb ReactionWrite ReactionKey ReactionError → Bool
  | .exec index => (watched.system.committing index).all fun log =>
      !(log.any fun write => write.message == messageId) ||
        (watched.notes index).all fun note =>
          !note.2.counts messageId || (log.drop note.1).any (·.isRow)
  | _ => true

def orderly (messageId : MessageId) (delivery : ReactionDelivery) : Step → Bool
  | .store label => snapshotsFresh messageId delivery.store label
  | .fail => delivery.claimed.all fun event => event.messageId != messageId
  | _ => true

theorem orderly_sound (messageId : MessageId) (delivery : ReactionDelivery) (step : Step)
    (checked : orderly messageId delivery step = true) : Orderly messageId delivery step := by
  cases step with
  | store label =>
      cases label with
      | start _ => trivial
      | rollback _ => trivial
      | exec index =>
          rintro log committing ⟨write, member, own⟩ note noted counts
          simp only [orderly, snapshotsFresh, committing, Option.all_some, Bool.or_eq_true,
            Bool.not_eq_true', List.any_eq_false, List.all_eq_true] at checked
          rcases checked with none | fresh
          · exact absurd (beq_iff_eq.mpr own) (none write member)
          · rcases fresh note noted with quiet | row
            · rw [quiet] at counts
              cases counts
            · exact List.any_eq_true.mp row
  | fail =>
      rintro ⟨event, member, own⟩
      have other := List.all_eq_true.mp checked event member
      simp [own] at other
  | consume _ => trivial
  | claim _ _ => trivial
  | route => trivial

end ReactionDelivery

/-- When every event is consumed, nothing waits in the queue and no tick is under way, the last
snapshot routed for the message is its current one, in every orderly run. -/
theorem last_snapshot_current {db : ReactionDb} {messageId : MessageId} {final : ReactionDelivery}
    (silent : db.events = []) (unreacted : db.currentGroups messageId = [])
    (run : ReactionDelivery.Reaches (ReactionDelivery.Orderly messageId)
      { store := Watched.idle db } final)
    (consumed : final.consumed = final.store.system.db.events.length)
    (drained : final.queue.pending.rows = []) (idle : final.claimed = []) :
    lastGroups messageId final.routed = final.store.system.db.currentGroups messageId := by
  have start : Announced db.base messageId db := by
    refine ⟨rfl, fun event member => ?_, ?_⟩
    · rw [silent] at member
      cases member
    · rw [LastCurrent, silent, unreacted]
      rfl
  have announced := announced_in_run start run.store
  have stream := (ReactionDelivery.streams_in_run start silent run).stream
  have empty : ReactionDelivery.waiting db.base messageId final.queue = none := by
    simp [ReactionDelivery.waiting, Queue.payload?, Table.find?, drained]
  rw [consumed, List.drop_length, idle, empty, ReactionDelivery.latest_nil, Option.none_or,
    Option.none_or, Option.none_or] at stream
  rw [← announced.current]
  exact congrArg (fun event => (event.map (·.groups)).getD []) stream

def quietGroup : ReactionDb := { base := reactedGroup.base }

/-- The second session waits for the counter that the first has raised, and shows both. -/
def sameCounter : List ReactionDelivery.Step :=
  [ReactionDelivery.Step.store (.start (reactBy 1 "🔥").program),
    ReactionDelivery.Step.store (.start (reactBy 2 "🔥").program)] ++
    List.replicate 5 (ReactionDelivery.Step.store (.exec 1)) ++
    List.replicate 12 (ReactionDelivery.Step.store (.exec 0)) ++
    List.replicate 7 (ReactionDelivery.Step.store (.exec 1)) ++
    [ReactionDelivery.Step.consume 0, ReactionDelivery.Step.consume 100,
      ReactionDelivery.Step.claim (fun _ _ => true) 600, ReactionDelivery.Step.route]

theorem last_snapshot_same_counter :
    ∃ final, ReactionDelivery.steps (ReactionDelivery.orderly 10)
        { store := Watched.idle quietGroup } sameCounter = some final ∧
      final.routed.map (·.groups) = [[⟨"🔥", 2⟩]] ∧
      lastGroups 10 final.routed = final.store.system.db.currentGroups 10 := by
  have outcome : (ReactionDelivery.steps (ReactionDelivery.orderly 10)
      { store := Watched.idle quietGroup } sameCounter).map (fun final =>
        (final.routed.map (·.groups),
        decide (final.consumed = final.store.system.db.events.length),
        final.queue.pending.rows.isEmpty, final.claimed.isEmpty)) =
          some ([[⟨"🔥", 2⟩]], true, true, true) := by decide +kernel
  obtain ⟨final, reached, ends⟩ := Option.map_eq_some_iff.mp outcome
  simp only [Prod.mk.injEq, decide_eq_true_eq, List.isEmpty_iff] at ends
  refine ⟨final, reached, ends.1, @last_snapshot_current quietGroup 10 final rfl rfl ?_ ends.2.1
    ends.2.2.1 ends.2.2.2⟩
  refine ReactionDelivery.reaches_of_steps (ReactionDelivery.orderly_sound 10) sameCounter _ _ _ ?_
    .refl reached
  simp only [sameCounter, List.forall_mem_append, List.forall_mem_cons, List.forall_mem_replicate]
  simp [ReactionDelivery.Legal]

/-- The snapshot of the second session is built while the first has not committed, and the other
way round; each knows its own reaction only. -/
def overlapping : List ReactionDelivery.Step :=
  [ReactionDelivery.Step.store (.start (reactBy 1 "🔥").program),
    ReactionDelivery.Step.store (.start (reactBy 2 "👍").program)] ++
    List.replicate 11 (ReactionDelivery.Step.store (.exec 0)) ++
    List.replicate 11 (ReactionDelivery.Step.store (.exec 1)) ++
    [ReactionDelivery.Step.store (.exec 0), ReactionDelivery.Step.store (.exec 1),
      ReactionDelivery.Step.consume 0, ReactionDelivery.Step.consume 0,
      ReactionDelivery.Step.claim (fun _ _ => true) 600, ReactionDelivery.Step.route]

theorem last_snapshot_stale :
    ¬ ∀ (db : ReactionDb) (messageId : MessageId) (final : ReactionDelivery),
      db.events = [] → db.currentGroups messageId = [] →
      ReactionDelivery.Reaches (fun _ _ => True) { store := Watched.idle db } final →
      final.consumed = final.store.system.db.events.length → final.queue.pending.rows = [] →
      final.claimed = [] →
        lastGroups messageId final.routed = final.store.system.db.currentGroups messageId := by
  intro claimed
  have outcome : (ReactionDelivery.steps (fun _ _ => true)
      { store := Watched.idle quietGroup } overlapping).map (fun final => (lastGroups 10 final.routed,
        final.store.system.db.currentGroups 10,
        decide (final.consumed = final.store.system.db.events.length),
        final.queue.pending.rows.isEmpty, final.claimed.isEmpty)) =
          some ([⟨"👍", 1⟩], [⟨"👍", 1⟩, ⟨"🔥", 1⟩], true, true, true) := by decide +kernel
  obtain ⟨final, reached, ends⟩ := Option.map_eq_some_iff.mp outcome
  simp only [Prod.mk.injEq, decide_eq_true_eq, List.isEmpty_iff] at ends
  have run : ReactionDelivery.Reaches (fun _ _ => True) { store := Watched.idle quietGroup } final := by
    refine ReactionDelivery.reaches_of_steps (fun _ _ _ => trivial) overlapping _ _ _ ?_ .refl reached
    simp only [overlapping, List.forall_mem_append, List.forall_mem_cons, List.forall_mem_replicate]
    simp [ReactionDelivery.Legal]
  have same := claimed quietGroup 10 final rfl rfl run ends.2.2.1 ends.2.2.2.1 ends.2.2.2.2
  rw [ends.1, ends.2.1] at same
  exact absurd same (by decide)

end Messanger
