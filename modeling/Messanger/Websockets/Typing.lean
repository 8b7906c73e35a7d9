import Mathlib.Data.List.MinMax
import Mathlib.Tactic.Linarith
import Messanger.Library.Latest
import Messanger.Websockets.WebsocketsCore

/-!
Typing signals of one connection.  A record per chat keeps the access check, the action and the
time of the last start; when too many chats are tracked the inactive records go, then the oldest.
The clock is `time.monotonic`, in seconds.
-/

namespace Messanger

open Latest (Since)

inductive TypingAction where
  | typing
  | recordVoice
  | uploadVoice
  | recordVideoNote
  | uploadVideoNote
  | uploadPhoto
  | uploadVideo
  | uploadFile
  | cancel
  deriving DecidableEq, Repr

inductive TypingDenial where
  | notFoundChat
  | notChatMember
  | chatAccessDenied
  | userBlocked
  | messagesPrivacyRestricted
  deriving DecidableEq, Repr

def typingTtlSeconds : ℚ := 6

def typingBroadcastIntervalMs : ℚ := 3000

def typingContextTtlSeconds : ℚ := 15

def typingMaxTrackedChats : Nat := 64

structure TypingContext where
  fanoutStrategy : ChatFanoutStrategy
  denied : Option TypingDenial
  loadedAt : ℚ
  deriving DecidableEq

def TypingContext.isFresh (context : TypingContext) (now : ℚ) : Bool :=
  decide (now - context.loadedAt < typingContextTtlSeconds)

structure TypingState where
  context : Option TypingContext := none
  action : Option TypingAction := none
  sentAt : ℚ := 0
  deriving DecidableEq

namespace TypingState

variable (state : TypingState) (now : ℚ)

def isActive : Bool := state.action.isSome && decide (now - state.sentAt < typingTtlSeconds)

def isThrottled (action : TypingAction) : Bool :=
  state.action == some action &&
    decide ((now - state.sentAt) * 1000 < typingBroadcastIntervalMs)

end TypingState

structure TrackedChat where
  chatId : ChatId
  state : TypingState
  deriving DecidableEq

/-- `typing_by_chat`, in the order of insertion. -/
abbrev TypingStates := Relational.Table TrackedChat ChatId TrackedChat.chatId

namespace TypingStates

variable (states : TypingStates) (chatId : ChatId) (now : ℚ)

def of : TypingState := ((states.find? chatId).map TrackedChat.state).getD {}

def put (state : TypingState) : TypingStates :=
  states.update (fun row => decide (row.chatId = chatId)) (fun row => { row with state := state })
    fun _ => rfl

def dropStale : TypingStates :=
  if typingMaxTrackedChats ≤ states.rows.length then
    states.delete fun row => !row.state.isActive now
  else states

def dropOldest : TypingStates :=
  if typingMaxTrackedChats ≤ states.rows.length then
    match states.rows.argmin fun row => row.state.sentAt with
    | none => states
    | some oldest => states.delete fun row => decide (row.chatId = oldest.chatId)
  else states

/-- `track_typing_state`. -/
def track : TypingStates :=
  match states.find? chatId with
  | some _ => states
  | none => ((states.dropStale now).dropOldest).insert ⟨chatId, {}⟩

end TypingStates

def Db.typingContext (db : Db) (wall : Nat) (userId : UserId) (chatId : ChatId) (now : ℚ) :
    TypingContext :=
  match db.chatAndMember chatId userId with
  | .error _ => ⟨.fanoutOnWrite, some .notFoundChat, now⟩
  | .ok ⟨chat, member⟩ =>
      let strategy := resolveFanoutStrategy chat.type chat.memberCount
      if member.isBanned wall then ⟨strategy, some .notChatMember, now⟩
      else if chat.type = .channel ∨ memberCanSend wall chat (some member) = false then
        ⟨strategy, some .chatAccessDenied, now⟩
      else
        match db.ensureCanMessage chat userId with
        | .error (.userBlocked _ _) => ⟨strategy, some .userBlocked, now⟩
        | .error _ => ⟨strategy, some .messagesPrivacyRestricted, now⟩
        | .ok _ => ⟨strategy, none, now⟩

inductive TypingSignal where
  | start (action : TypingAction)
  | stop
  deriving DecidableEq, Repr

inductive TypingOutput where
  | routed (chatId : ChatId) (strategy : ChatFanoutStrategy) (signal : TypingSignal)
  | error (code : TypingDenial)
  deriving DecidableEq, Repr

/-- A command at a time of the clock, with the tables and the date an access check would see. -/
structure TypingCommand where
  chatId : ChatId
  action : TypingAction
  now : ℚ
  db : Db
  wall : Nat

namespace TypingCommand

variable (command : TypingCommand) (userId : UserId) (states : TypingStates)

def cached (state : TypingState) : Option TypingContext :=
  state.context.filter fun context => context.isFresh command.now

def typingContext : TypingContext :=
  command.db.typingContext command.wall userId command.chatId command.now

def handle : TypingStates × List TypingOutput :=
  let { chatId, action, now, .. } := command
  if action = .cancel then
    let state := states.of chatId
    match state.context with
    | none => (states, [])
    | some context =>
        if state.isActive now then
          (states.put chatId { state with action := none },
            [.routed chatId context.fanoutStrategy .stop])
        else (states, [])
  else
    let states := states.track chatId now
    let state := states.of chatId
    if state.isThrottled now action then (states, [])
    else
      let context := (command.cached state).getD (command.typingContext userId)
      let errors := if (command.cached state).isNone then context.denied.toList.map .error else []
      if context.denied.isSome then
        (states.put chatId { state with context := some context }, errors)
      else
        (states.put chatId ⟨some context, some action, now⟩,
          errors ++ [.routed chatId context.fanoutStrategy (.start action)])

def base : TypingStates :=
  if command.action = .cancel then states else states.track command.chatId command.now

def loaded? : Option TypingContext :=
  let state := states.of command.chatId
  if command.action = .cancel || state.isThrottled command.now command.action ||
      (command.cached state).isSome then none
  else some (command.typingContext userId)

end TypingCommand

section Tracking

variable {states : TypingStates} {chatId other : ChatId} {now : ℚ}

theorem of_put_self (state : TypingState) (tracked : (states.find? chatId).isSome = true) :
    (states.put chatId state).of chatId = state := by
  obtain ⟨row, found⟩ := Option.isSome_iff_exists.mp tracked
  have own : row.chatId = chatId := Relational.Table.key_of_find? found
  simp [TypingStates.of, TypingStates.put, found, own]

theorem of_put_other (state : TypingState) (apart : other ≠ chatId) :
    (states.put chatId state).of other = states.of other := by
  rw [TypingStates.of, TypingStates.put, Relational.Table.find?_update_other]
  · rfl
  · rintro row rfl
    exact decide_eq_false apart

theorem length_put (state : TypingState) :
    (states.put chatId state).rows.length = states.rows.length := List.length_map _

theorem tracked_track : ((states.track chatId now).find? chatId).isSome = true := by
  unfold TypingStates.track
  split
  · rename_i row found
    rw [found]
    rfl
  · rw [Relational.Table.find?_insert, if_pos rfl]
    cases (TypingStates.dropOldest (states.dropStale now)).find? chatId with
    | none => rfl
    | some _ => rfl

theorem find?_dropOldest : (TypingStates.dropOldest states).find? chatId = states.find? chatId ∨
    (TypingStates.dropOldest states).find? chatId = none := by
  unfold TypingStates.dropOldest
  split
  · split
    · exact .inl rfl
    · rw [Relational.Table.find?_delete]
      cases states.find? chatId with
      | none => exact .inl rfl
      | some row =>
          rw [Option.filter_some]
          split
          · exact .inl rfl
          · exact .inr rfl
  · exact .inl rfl

theorem find?_dropStale (full : typingMaxTrackedChats ≤ states.rows.length) :
    (states.dropStale now).find? chatId =
      (states.find? chatId).filter fun row => row.state.isActive now := by
  rw [TypingStates.dropStale, if_pos full, Relational.Table.find?_delete]
  simp only [Bool.not_not]

theorem absent_dropped (absent : states.find? chatId = none) :
    (TypingStates.dropOldest (states.dropStale now)).find? chatId = none := by
  have stale : (states.dropStale now).find? chatId = none := by
    by_cases full : typingMaxTrackedChats ≤ states.rows.length
    · rw [find?_dropStale full, absent]
      rfl
    · rw [TypingStates.dropStale, if_neg full]
      exact absent
  rcases @find?_dropOldest (states.dropStale now) chatId with same | none
  · exact same.trans stale
  · exact none

theorem of_track_self : (states.track chatId now).of chatId = states.of chatId := by
  unfold TypingStates.track
  split
  · rfl
  · rename_i absent
    rw [TypingStates.of, TypingStates.of, absent, Relational.Table.find?_insert,
      absent_dropped absent, if_pos rfl]
    rfl

theorem length_dropOldest (bounded : states.rows.length ≤ typingMaxTrackedChats) :
    (TypingStates.dropOldest states).rows.length < typingMaxTrackedChats := by
  unfold TypingStates.dropOldest
  split
  · rename_i full
    split
    · rename_i none
      rw [List.argmin_eq_none.mp none] at full
      exact absurd full (by decide)
    · rename_i oldest least
      have fewer : (states.rows.filter fun row => !decide (row.chatId = oldest.chatId)).length <
          states.rows.length :=
        List.length_filter_lt_length_iff_exists.mpr ⟨oldest, List.argmin_mem least, by simp⟩
      exact Nat.lt_of_lt_of_le fewer bounded
  · omega

theorem length_dropStale : (states.dropStale now).rows.length ≤ states.rows.length := by
  unfold TypingStates.dropStale
  split
  · exact List.length_filter_le _ _
  · exact Nat.le_refl _

theorem length_track (bounded : states.rows.length ≤ typingMaxTrackedChats) :
    (states.track chatId now).rows.length ≤ typingMaxTrackedChats := by
  unfold TypingStates.track
  split
  · exact bounded
  · rename_i absent
    have fewer := length_dropOldest ((@length_dropStale states now).trans bounded)
    rw [Relational.Table.rows_insert _ _ (absent_dropped absent), List.length_append,
      List.length_singleton]
    exact fewer

structure Displaced (states : TypingStates) (new : ChatId) (now : ℚ) (chatId : ChatId) : Prop where
  new : states.find? new = none
  tracked : (states.find? chatId).isSome = true
  dropped : ((states.dropStale now).dropOldest).find? chatId = none
  full : typingMaxTrackedChats ≤ states.rows.length
  active : ∀ row ∈ states.rows, row.state.isActive now = true
  oldest : ∀ row ∈ states.rows, (states.of chatId).sentAt ≤ row.state.sentAt

theorem of_dropStale (full : typingMaxTrackedChats ≤ states.rows.length) :
    (states.dropStale now).of chatId = states.of chatId ∨
      (states.dropStale now).find? chatId = none ∧ (states.of chatId).isActive now = false := by
  rw [TypingStates.of, TypingStates.of, find?_dropStale full]
  cases states.find? chatId with
  | none => exact .inl rfl
  | some row =>
      rw [Option.filter_some]
      cases active : row.state.isActive now with
      | true => exact .inl rfl
      | false => exact .inr ⟨rfl, active⟩

theorem of_dropOldest (bounded : states.rows.length ≤ typingMaxTrackedChats)
    (absent : states.find? chatId = none) :
    (TypingStates.dropOldest (states.dropStale now)).of other = (states.dropStale now).of other ∨
      (TypingStates.dropOldest (states.dropStale now)).find? other = none ∧
        Displaced states chatId now other := by
  rw [TypingStates.dropOldest]
  split
  · rename_i still
    have full := still.trans length_dropStale
    have kept : (states.dropStale now).rows.length = states.rows.length :=
      Nat.le_antisymm length_dropStale (bounded.trans still)
    have active : ∀ row ∈ states.rows, row.state.isActive now = true := by
      rw [TypingStates.dropStale, if_pos full] at kept
      intro row member
      simpa using List.length_filter_eq_length_iff.mp kept row member
    have same : states.dropStale now = states := by
      rw [TypingStates.dropStale, if_pos full]
      exact Relational.Table.delete_absent _ _ fun row member => by rw [active row member]; rfl
    rw [same]
    split
    · exact .inl rfl
    · rename_i oldest least
      by_cases here : oldest.chatId = other
      · have found : states.find? other = some oldest :=
          (Relational.Table.find?_some_iff _ _ _).mpr ⟨List.argmin_mem least, here⟩
        have dropped : (states.delete fun row => decide (row.chatId = oldest.chatId)).find? other =
            none := by
          rw [Relational.Table.find?_delete, found, Option.filter_some, if_neg (by simp)]
        refine .inr ⟨dropped, absent, by rw [found]; rfl, ?_, full, active, fun row member => ?_⟩
        · rw [same, TypingStates.dropOldest, if_pos full, least]
          exact dropped
        · have below := List.le_of_mem_argmin member least
          rw [TypingStates.of, found]
          exact below
      · refine .inl ?_
        rw [TypingStates.of, TypingStates.of, Relational.Table.find?_delete_other]
        rintro row rfl
        exact decide_eq_false (Ne.symm here)
  · exact .inl rfl

theorem of_track_other (bounded : states.rows.length ≤ typingMaxTrackedChats)
    (apart : other ≠ chatId) :
    (states.track chatId now).of other = states.of other ∨
      (states.track chatId now).of other = {} ∧
        ((states.of other).isActive now = false ∨ Displaced states chatId now other) := by
  unfold TypingStates.track
  split
  · exact .inl rfl
  · rename_i absent
    have inserted : ((TypingStates.dropOldest (states.dropStale now)).insert ⟨chatId, {}⟩).find? other =
        (TypingStates.dropOldest (states.dropStale now)).find? other :=
      Relational.Table.find?_insert_other _ _ _ (Ne.symm apart)
    have gone : (TypingStates.dropOldest (states.dropStale now)).find? other = none →
        TypingStates.of ((TypingStates.dropOldest (states.dropStale now)).insert ⟨chatId, {}⟩) other =
          {} := by
      intro none
      rw [TypingStates.of, inserted, none]
      rfl
    rcases @of_dropOldest states chatId other now bounded absent with kept | ⟨none, displaced⟩
    · by_cases full : typingMaxTrackedChats ≤ states.rows.length
      · rcases @of_dropStale states other now full with same | ⟨missing, inactive⟩
        · exact .inl (by rw [TypingStates.of, inserted]; exact kept.trans same)
        · refine .inr ⟨gone ?_, .inl inactive⟩
          rcases @find?_dropOldest (states.dropStale now) other with same | missing
          · rwa [same]
          · exact missing
      · refine .inl ?_
        rw [TypingStates.of, inserted]
        refine kept.trans ?_
        rw [TypingStates.dropStale, if_neg full]
    · exact .inr ⟨gone none, .inr displaced⟩

end Tracking

section Commands

variable {command : TypingCommand} {userId : UserId} {states : TypingStates}

theorem typingContext_loadedAt (db : Db) (wall : Nat) (userId : UserId) (chatId : ChatId) (now : ℚ) :
    (db.typingContext wall userId chatId now).loadedAt = now := by
  unfold Db.typingContext
  split
  · rfl
  · dsimp only
    split
    · rfl
    · split
      · rfl
      · split
        · rfl
        · rfl
        · rfl

theorem loaded_now {context : TypingContext}
    (loaded : command.loaded? userId states = some context) : context.loadedAt = command.now := by
  simp only [TypingCommand.loaded?, Option.ite_none_left_eq_some, Option.some.injEq] at loaded
  rw [← loaded.2]
  exact typingContext_loadedAt ..

theorem of_base_self : (command.base states).of command.chatId = states.of command.chatId := by
  unfold TypingCommand.base
  split
  · rfl
  · exact of_track_self

theorem length_base (bounded : states.rows.length ≤ typingMaxTrackedChats) :
    (command.base states).rows.length ≤ typingMaxTrackedChats := by
  unfold TypingCommand.base
  split
  · exact bounded
  · exact length_track bounded

inductive TypingCommand.Handles (command : TypingCommand) (userId : UserId) (states : TypingStates) :
    TypingStates × List TypingOutput → Prop
  | quiet : command.loaded? userId states = none → Handles command userId states (command.base states, [])
  | stopped (strategy : ChatFanoutStrategy) : command.loaded? userId states = none →
      (states.of command.chatId).isActive command.now = true →
      (command.base states).find? command.chatId ≠ none →
      Handles command userId states
        ((command.base states).put command.chatId
          { states.of command.chatId with action := none },
          [.routed command.chatId strategy .stop])
  | refused (context : TypingContext) (errors : List TypingOutput) :
      (command.loaded? userId states = some context ∨
        command.loaded? userId states = none ∧ (states.of command.chatId).context = some context) →
      (∀ output ∈ errors, ∃ code, output = .error code) →
      (command.base states).find? command.chatId ≠ none →
      Handles command userId states
        ((command.base states).put command.chatId
          { states.of command.chatId with context := some context }, errors)
  | started (context : TypingContext) :
      (command.loaded? userId states = some context ∨
        command.loaded? userId states = none ∧ (states.of command.chatId).context = some context ∧
          context.isFresh command.now = true) →
      context.denied = none →
      (states.of command.chatId).isThrottled command.now command.action = false →
      (command.base states).find? command.chatId ≠ none →
      Handles command userId states
        ((command.base states).put command.chatId ⟨some context, some command.action, command.now⟩,
          [.routed command.chatId context.fanoutStrategy (.start command.action)])

theorem handles (command : TypingCommand) (userId : UserId) (states : TypingStates) :
    command.Handles userId states (command.handle userId states) := by
  obtain ⟨chatId, action, now, db, wall⟩ := command
  unfold TypingCommand.handle
  by_cases cancel : action = .cancel
  · have unloaded : TypingCommand.loaded? ⟨chatId, action, now, db, wall⟩ userId states = none := by
      simp [TypingCommand.loaded?, cancel]
    have same : TypingCommand.base ⟨chatId, action, now, db, wall⟩ states = states := if_pos cancel
    have quiet := TypingCommand.Handles.quiet unloaded
    rw [same] at quiet
    simp only [if_pos cancel]
    cases known : (states.of chatId).context with
    | none => exact quiet
    | some context =>
        by_cases active : (states.of chatId).isActive now = true
        · have stopped := TypingCommand.Handles.stopped context.fanoutStrategy unloaded active fun missing => by
            rw [same] at missing
            rw [TypingStates.of, missing] at known
            cases known
          simp only [same, known] at stopped
          simp only [if_pos active]
          exact stopped
        · simp only [if_neg active]
          exact quiet
  · have same : TypingCommand.base ⟨chatId, action, now, db, wall⟩ states = states.track chatId now :=
      if_neg cancel
    have tracked : (TypingCommand.base ⟨chatId, action, now, db, wall⟩ states).find? chatId ≠ none := by
      rw [same]
      exact Option.isSome_iff_ne_none.mp tracked_track
    simp only [if_neg cancel, of_track_self]
    by_cases throttled : (states.of chatId).isThrottled now action = true
    · have quiet := @TypingCommand.Handles.quiet ⟨chatId, action, now, db, wall⟩ userId states (by
        simp [TypingCommand.loaded?, throttled])
      rw [same] at quiet
      simp only [if_pos throttled]
      exact quiet
    · simp only [if_neg throttled]
      rw [Bool.not_eq_true] at throttled
      cases cached : TypingCommand.cached ⟨chatId, action, now, db, wall⟩ (states.of chatId) with
      | some context =>
          obtain ⟨known, fresh⟩ := Option.filter_eq_some_iff.mp cached
          have unloaded : TypingCommand.loaded? ⟨chatId, action, now, db, wall⟩ userId states = none := by
            simp [TypingCommand.loaded?, cached]
          cases denied : context.denied with
          | some code =>
              have refused := TypingCommand.Handles.refused context [] (.inr ⟨unloaded, known⟩)
                (fun _ member => nomatch member) tracked
              rw [same] at refused
              simpa [denied] using refused
          | none =>
              have started := TypingCommand.Handles.started context (.inr ⟨unloaded, known, fresh⟩)
                denied throttled tracked
              rw [same] at started
              simpa [denied] using started
      | none =>
          have loaded : TypingCommand.loaded? ⟨chatId, action, now, db, wall⟩ userId states =
              some (TypingCommand.typingContext ⟨chatId, action, now, db, wall⟩ userId) := by
            simp [TypingCommand.loaded?, cancel, throttled, cached]
          cases denied : (TypingCommand.typingContext ⟨chatId, action, now, db, wall⟩ userId).denied with
          | some code =>
              have refused := TypingCommand.Handles.refused _ [.error code] (.inl loaded)
                (fun output member => ⟨code, List.mem_singleton.mp member⟩) tracked
              rw [same] at refused
              simpa [denied] using refused
          | none =>
              have started := TypingCommand.Handles.started _ (.inl loaded) denied throttled tracked
              rw [same] at started
              simpa [denied] using started

end Commands

/-- A command and the records it was given. -/
structure TypingMoment where
  before : TypingStates
  command : TypingCommand

namespace TypingMoment

variable (userId : UserId) (chatId : ChatId) (moment : TypingMoment)

def Broadcasts (signal : TypingSignal) : Prop :=
  ∃ strategy, .routed chatId strategy signal ∈ (moment.command.handle userId moment.before).2

def Signals : Prop := ∃ signal, moment.Broadcasts userId chatId signal

def Checks : Prop :=
  moment.command.chatId = chatId ∧ (moment.command.loaded? userId moment.before).isSome = true

def Allows : Prop := ∃ context, moment.command.loaded? userId moment.before = some context ∧
  context.denied = none

/-- An active chat is forgotten to make room for another one. -/
def Displaces : Prop := moment.command.action ≠ .cancel ∧
  Displaced moment.before moment.command.chatId moment.command.now chatId

end TypingMoment

/-- The commands of one connection, whose clock does not go back. -/
inductive TypingRun (userId : UserId) : List TypingMoment → TypingStates → Prop
  | idle : TypingRun userId [] .empty
  | handle {moments : List TypingMoment} {states : TypingStates} {command : TypingCommand} :
      TypingRun userId moments states →
      (∀ last ∈ moments.getLast?, last.command.now ≤ command.now) →
      TypingRun userId (moments ++ [⟨states, command⟩]) (command.handle userId states).1

structure TypingKnown (userId : UserId) (moments : List TypingMoment) (states : TypingStates) : Prop where
  bounded : states.rows.length ≤ typingMaxTrackedChats
  started : ∀ chatId action, (states.of chatId).action = some action → ∃ first between,
    Since (TypingMoment.Signals userId chatId) moments first between ∧
      first.Broadcasts userId chatId (.start action) ∧
      (states.of chatId).sentAt = first.command.now
  checked : ∀ chatId context, (states.of chatId).context = some context → ∃ check between,
    Since (TypingMoment.Checks userId chatId) moments check between ∧
      check.command.loaded? userId check.before = some context
  /-- A start is remembered, or long ago, or was displaced. -/
  remembered : ∀ chatId action first between,
    Since (TypingMoment.Signals userId chatId) moments first between →
    first.Broadcasts userId chatId (.start action) →
    ((states.of chatId).action = some action ∧ (states.of chatId).sentAt = first.command.now) ∨
      (∃ last ∈ moments.getLast?, typingTtlSeconds ≤ last.command.now - first.command.now) ∨
      ∃ moment ∈ between, moment.Displaces chatId

section Steps

variable {userId : UserId} {moments : List TypingMoment} {states : TypingStates}
  {command : TypingCommand} {chatId : ChatId} {action : TypingAction}

theorem handle_bounded (bounded : states.rows.length ≤ typingMaxTrackedChats) :
    (command.handle userId states).1.rows.length ≤ typingMaxTrackedChats := by
  have base := @length_base command states bounded
  have outcome := handles command userId states
  generalize command.handle userId states = handled at outcome
  cases outcome with
  | quiet _ => exact base
  | stopped _ _ _ _ => exact (length_put _).trans_le base
  | refused _ _ _ _ _ => exact (length_put _).trans_le base
  | started _ _ _ _ _ => exact (length_put _).trans_le base

theorem of_handle_other (apart : chatId ≠ command.chatId) :
    (command.handle userId states).1.of chatId = (command.base states).of chatId := by
  have outcome := handles command userId states
  generalize command.handle userId states = handled at outcome
  cases outcome with
  | quiet _ => rfl
  | stopped _ _ _ _ => exact of_put_other _ apart
  | refused _ _ _ _ _ => exact of_put_other _ apart
  | started _ _ _ _ _ => exact of_put_other _ apart

theorem of_handle_kept (bounded : states.rows.length ≤ typingMaxTrackedChats)
    (apart : chatId ≠ command.chatId) :
    (command.handle userId states).1.of chatId = states.of chatId ∨
      (command.handle userId states).1.of chatId = {} ∧
        ((states.of chatId).isActive command.now = false ∨
          (⟨states, command⟩ : TypingMoment).Displaces chatId) := by
  rw [of_handle_other apart]
  unfold TypingCommand.base
  split
  · exact .inl rfl
  · rename_i acts
    exact (of_track_other bounded apart).imp_right fun gone =>
      ⟨gone.1, gone.2.imp_right fun displaced => ⟨acts, displaced⟩⟩

theorem broadcasts_own {signal : TypingSignal}
    (broadcasts : (⟨states, command⟩ : TypingMoment).Broadcasts userId chatId signal) :
    chatId = command.chatId := by
  obtain ⟨strategy, routed⟩ := broadcasts
  have outcome := handles command userId states
  simp only at routed
  generalize command.handle userId states = handled at outcome routed
  cases outcome with
  | quiet _ => cases routed
  | stopped _ _ _ _ =>
      cases List.mem_singleton.mp routed
      rfl
  | refused _ _ _ errors _ =>
      obtain ⟨code, same⟩ := errors _ routed
      cases same
  | started _ _ _ _ _ =>
      cases List.mem_singleton.mp routed
      rfl

inductive TypingMoment.Outcome (userId : UserId) (states : TypingStates) (command : TypingCommand)
    (state : TypingState) : Prop
  | silent : (∀ signal, ¬ (⟨states, command⟩ : TypingMoment).Broadcasts userId command.chatId signal) →
      state.action = (states.of command.chatId).action →
      state.sentAt = (states.of command.chatId).sentAt →
      (∀ context, state.context = some context → command.loaded? userId states = some context ∨
        command.loaded? userId states = none ∧ (states.of command.chatId).context = some context) →
      Outcome userId states command state
  | stopped : (∀ signal, (⟨states, command⟩ : TypingMoment).Broadcasts userId command.chatId signal ↔
        signal = .stop) →
      (states.of command.chatId).isActive command.now = true → state.action = none →
      (∀ context, state.context = some context →
        command.loaded? userId states = none ∧ (states.of command.chatId).context = some context) →
      Outcome userId states command state
  | started (context : TypingContext) :
      (∀ signal, (⟨states, command⟩ : TypingMoment).Broadcasts userId command.chatId signal ↔
        signal = .start command.action) →
      (states.of command.chatId).isThrottled command.now command.action = false →
      (command.loaded? userId states = some context ∨
        command.loaded? userId states = none ∧ (states.of command.chatId).context = some context ∧
          context.isFresh command.now = true) →
      context.denied = none → state = ⟨some context, some command.action, command.now⟩ →
      Outcome userId states command state

theorem outcome : TypingMoment.Outcome userId states command
    ((command.handle userId states).1.of command.chatId) := by
  have outcome := handles command userId states
  have routes : ∀ signal, (⟨states, command⟩ : TypingMoment).Broadcasts userId command.chatId signal ↔
      ∃ strategy, .routed command.chatId strategy signal ∈ (command.handle userId states).2 :=
    fun _ => Iff.rfl
  generalize command.handle userId states = handled at outcome routes
  cases outcome with
  | quiet unloaded =>
      refine .silent (fun signal heard => ?_) (by rw [of_base_self]) (by rw [of_base_self])
        fun context known => .inr ⟨unloaded, ?_⟩
      · obtain ⟨_, routed⟩ := (routes signal).mp heard
        cases routed
      · rwa [of_base_self] at known
  | stopped strategy unloaded active tracked =>
      simp only [of_put_self _ (Option.isSome_iff_ne_none.mpr tracked)]
      refine .stopped (fun signal => ?_) active rfl fun context known => ⟨unloaded, known⟩
      rw [routes]
      constructor
      · rintro ⟨_, routed⟩
        cases List.mem_singleton.mp routed
        rfl
      · rintro rfl
        exact ⟨strategy, List.mem_singleton_self _⟩
  | refused context errors known refusals tracked =>
      simp only [of_put_self _ (Option.isSome_iff_ne_none.mpr tracked)]
      refine .silent (fun signal heard => ?_) rfl rfl fun other same => ?_
      · obtain ⟨_, routed⟩ := (routes signal).mp heard
        obtain ⟨_, same⟩ := refusals _ routed
        cases same
      · cases same
        exact known
  | started context known granted free tracked =>
      simp only [of_put_self _ (Option.isSome_iff_ne_none.mpr tracked)]
      refine .started context (fun signal => ?_) free known granted rfl
      rw [routes]
      constructor
      · rintro ⟨_, routed⟩
        cases List.mem_singleton.mp routed
        rfl
      · rintro rfl
        exact ⟨_, List.mem_singleton_self _⟩

theorem known_started (known : TypingKnown userId moments states)
    (acted : ((command.handle userId states).1.of chatId).action = some action) :
    ∃ first between, Since (TypingMoment.Signals userId chatId) (moments ++ [⟨states, command⟩]) first
        between ∧ first.Broadcasts userId chatId (.start action) ∧
      ((command.handle userId states).1.of chatId).sentAt = first.command.now := by
  have later : ∀ {first between}, Since (TypingMoment.Signals userId chatId) moments first between →
      (∀ signal, ¬ (⟨states, command⟩ : TypingMoment).Broadcasts userId chatId signal) →
      Since (TypingMoment.Signals userId chatId) (moments ++ [⟨states, command⟩]) first
        (between ++ [⟨states, command⟩]) :=
    fun since quiet => Latest.since_later since fun ⟨signal, heard⟩ => quiet signal heard
  by_cases own : chatId = command.chatId
  · subst own
    have outcome := @outcome userId states command
    generalize (command.handle userId states).1.of command.chatId = state at acted outcome ⊢
    cases outcome with
    | silent quiet same sent _ =>
        obtain ⟨first, between, since, heard, time⟩ := known.started _ _ (same ▸ acted)
        exact ⟨first, _, later since quiet, heard, sent.trans time⟩
    | stopped _ _ gone _ =>
        rw [gone] at acted
        cases acted
    | started context heard _ _ _ same =>
        subst same
        cases acted
        have first := (heard _).mpr rfl
        exact ⟨_, [], Latest.since_last ⟨_, first⟩, first, rfl⟩
  · rcases of_handle_kept known.bounded own with same | ⟨gone, _⟩
    · rw [same] at acted ⊢
      obtain ⟨first, between, since, heard, time⟩ := known.started _ _ acted
      exact ⟨first, _, later since fun _ heard => own (broadcasts_own heard), heard, time⟩
    · rw [gone] at acted
      cases acted

theorem known_checked (known : TypingKnown userId moments states) {context : TypingContext}
    (loaded : ((command.handle userId states).1.of chatId).context = some context) :
    ∃ check between, Since (TypingMoment.Checks userId chatId) (moments ++ [⟨states, command⟩]) check
        between ∧ check.command.loaded? userId check.before = some context := by
  have later : ∀ {check between}, Since (TypingMoment.Checks userId chatId) moments check between →
      (command.chatId = chatId → command.loaded? userId states = none) →
      Since (TypingMoment.Checks userId chatId) (moments ++ [⟨states, command⟩]) check
        (between ++ [⟨states, command⟩]) := by
    intro check between since unloaded
    refine Latest.since_later since fun ⟨own, checks⟩ => ?_
    rw [unloaded own] at checks
    cases checks
  have answered : ∀ {context}, chatId = command.chatId →
      command.loaded? userId states = some context ∨ command.loaded? userId states = none ∧
        (states.of command.chatId).context = some context →
      ∃ check between, Since (TypingMoment.Checks userId chatId) (moments ++ [⟨states, command⟩]) check
        between ∧ check.command.loaded? userId check.before = some context := by
    rintro context rfl (now | ⟨unloaded, before⟩)
    · exact ⟨_, [], Latest.since_last ⟨rfl, by rw [now]; rfl⟩, now⟩
    · obtain ⟨check, between, since, found⟩ := known.checked _ _ before
      exact ⟨check, _, later since fun _ => unloaded, found⟩
  by_cases own : chatId = command.chatId
  · subst own
    have outcome := @outcome userId states command
    generalize (command.handle userId states).1.of command.chatId = state at loaded outcome
    cases outcome with
    | silent _ _ _ known => exact answered rfl (known context loaded)
    | stopped _ _ _ known => exact answered rfl (.inr (known context loaded))
    | started other _ _ known _ same =>
        subst same
        cases loaded
        exact answered rfl (known.imp_right fun cached => ⟨cached.1, cached.2.1⟩)
  · rcases of_handle_kept known.bounded own with same | ⟨gone, _⟩
    · rw [same] at loaded
      obtain ⟨check, between, since, found⟩ := known.checked _ _ loaded
      exact ⟨check, _, later since fun same => absurd same.symm own, found⟩
    · rw [gone] at loaded
      cases loaded

theorem known_remembered (known : TypingKnown userId moments states)
    (clock : ∀ last ∈ moments.getLast?, last.command.now ≤ command.now) {first : TypingMoment}
    {between : List TypingMoment}
    (since : Since (TypingMoment.Signals userId chatId) (moments ++ [⟨states, command⟩]) first between)
    (heard : first.Broadcasts userId chatId (.start action)) :
    (((command.handle userId states).1.of chatId).action = some action ∧
        ((command.handle userId states).1.of chatId).sentAt = first.command.now) ∨
      (∃ last ∈ (moments ++ [(⟨states, command⟩ : TypingMoment)]).getLast?,
        typingTtlSeconds ≤ last.command.now - first.command.now) ∨
      ∃ moment ∈ between, moment.Displaces chatId := by
  have last : ⟨states, command⟩ ∈ (moments ++ [(⟨states, command⟩ : TypingMoment)]).getLast? := by
    rw [List.getLast?_concat]
    rfl
  rcases Latest.since_concat since with ⟨_, rfl, rfl⟩ | ⟨quiet, rest, rfl, before⟩
  · -- The command itself is the last to be heard of.
    obtain rfl := broadcasts_own heard
    have outcome := @outcome userId states command
    generalize (command.handle userId states).1.of command.chatId = state at outcome ⊢
    cases outcome with
    | silent quiet _ _ _ => exact absurd heard (quiet _)
    | stopped only _ _ _ => cases (only _).mp heard
    | started _ only _ _ _ same =>
        subst same
        cases (only _).mp heard
        exact .inl ⟨rfl, rfl⟩
  · rcases known.remembered _ _ _ _ before heard with ⟨acted, sent⟩ | ⟨old, oldLast, long⟩ |
        ⟨moment, member, displaces⟩
    · by_cases own : chatId = command.chatId
      · subst own
        have outcome := @outcome userId states command
        generalize (command.handle userId states).1.of command.chatId = state at outcome ⊢
        cases outcome with
        | silent _ same time _ => exact .inl ⟨same.trans acted, time.trans sent⟩
        | stopped only _ _ _ => exact (quiet ⟨_, (only _).mpr rfl⟩).elim
        | started _ only _ _ _ _ => exact (quiet ⟨_, (only _).mpr rfl⟩).elim
      · rcases of_handle_kept known.bounded own with same | ⟨_, inactive | displaced⟩
        · rw [same]
          exact .inl ⟨acted, sent⟩
        · refine .inr (.inl ⟨_, last, ?_⟩)
          simp only [TypingState.isActive, acted, Option.isSome_some, Bool.true_and,
            decide_eq_false_iff_not, not_lt, sent] at inactive
          exact inactive
        · exact .inr (.inr ⟨_, List.mem_append_right _ (List.mem_singleton_self _), displaced⟩)
    · refine .inr (.inl ⟨_, last, ?_⟩)
      have passed := clock old oldLast
      simp only
      linarith
    · exact .inr (.inr ⟨moment, List.mem_append_left _ member, displaces⟩)

theorem known_run (run : TypingRun userId moments states) : TypingKnown userId moments states := by
  induction run with
  | idle =>
      refine ⟨Nat.zero_le _, fun _ _ acted => (nomatch acted), fun _ _ loaded => (nomatch loaded), ?_⟩
      rintro _ _ _ _ since
      exact nomatch Latest.since_mem since
  | handle _ clock known =>
      exact ⟨handle_bounded known.bounded, fun _ _ acted => known_started known acted,
        fun _ _ loaded => known_checked known loaded,
        fun _ _ _ _ since heard => known_remembered known clock since heard⟩

end Steps

/-- What holds of the next command of a run: of the chats tracked so far, of a start that follows
one with the same action, of a stop, and of the access check behind a start. -/
structure TypingBounds (Excused : List TypingMoment → ChatId → Prop) (userId : UserId)
    (moments : List TypingMoment) (states : TypingStates) (command : TypingCommand) : Prop where
  tracked : states.rows.length ≤ typingMaxTrackedChats
  spaced : ∀ chatId action first between,
    (⟨states, command⟩ : TypingMoment).Broadcasts userId chatId (.start action) →
    Since (TypingMoment.Signals userId chatId) moments first between →
    first.Broadcasts userId chatId (.start action) →
    typingBroadcastIntervalMs ≤ (command.now - first.command.now) * 1000 ∨ Excused between chatId
  stopped : ∀ chatId, (⟨states, command⟩ : TypingMoment).Broadcasts userId chatId .stop →
    ∃ action first between, Since (TypingMoment.Signals userId chatId) moments first between ∧
      first.Broadcasts userId chatId (.start action) ∧
      command.now - first.command.now < typingTtlSeconds
  checked : ∀ chatId action,
    (⟨states, command⟩ : TypingMoment).Broadcasts userId chatId (.start action) →
    ∃ check between, Since (TypingMoment.Checks userId chatId) (moments ++ [⟨states, command⟩]) check
        between ∧ check.Allows userId ∧
      command.now - check.command.now ≤ typingContextTtlSeconds

section Crowds

variable {userId : UserId} {moments : List TypingMoment} {states : TypingStates}
  {command : TypingCommand}

def momentsOf (userId : UserId) (states : TypingStates) : List TypingCommand → List TypingMoment
  | [] => []
  | command :: rest => ⟨states, command⟩ :: momentsOf userId (command.handle userId states).1 rest

theorem run_of_commands (commands : List TypingCommand)
    (ordered : commands.Pairwise fun early late => early.now ≤ late.now)
    (clock : ∀ last ∈ moments.getLast?, ∀ command ∈ commands, last.command.now ≤ command.now)
    (run : TypingRun userId moments states) :
    TypingRun userId (moments ++ momentsOf userId states commands)
      (commands.foldl (fun states command => (command.handle userId states).1) states) := by
  induction commands generalizing moments states with
  | nil => simpa [momentsOf] using run
  | cons command rest ih =>
      obtain ⟨before, later⟩ := List.pairwise_cons.mp ordered
      have stepped := ih later (fun last ends other member => ?_)
        (.handle run fun last ends => clock last ends command List.mem_cons_self)
      · rw [List.append_assoc] at stepped
        exact stepped
      · rw [List.getLast?_concat, Option.mem_some] at ends
        exact ends ▸ before other member

theorem mem_momentsOf {commands : List TypingCommand} {moment : TypingMoment}
    (member : moment ∈ momentsOf userId states commands) : moment.command ∈ commands := by
  induction commands generalizing states with
  | nil => cases member
  | cons command rest ih =>
      rcases List.mem_cons.mp member with rfl | later
      · exact List.mem_cons_self
      · exact List.mem_cons_of_mem _ (ih later)

def typingGroup (chatId : ChatId) : Db :=
  { chats := ⟨[{ id := chatId, type := .group, createdBy := 1 }], List.nodup_singleton _⟩
    members := ⟨[{ id := 1, chatId := chatId, userId := 1, roleId := .owner }],
      List.nodup_singleton _⟩ }

def typingAt (now : ℚ) (chatId : ChatId) : TypingCommand :=
  ⟨chatId, .typing, now, typingGroup chatId, 0⟩

def crowd : List TypingCommand := (List.range' 2 63).map (typingAt 0) ++ [typingAt 1 65]

/-- The first chat is displaced by the last one, and two seconds after its start starts again. -/
theorem displaced_starts_again : ¬ ∀ (userId : UserId) (moments : List TypingMoment)
    (states : TypingStates), TypingRun userId moments states → ∀ command : TypingCommand,
      (∀ last ∈ moments.getLast?, last.command.now ≤ command.now) →
        TypingBounds (fun _ _ => False) userId moments states command := by
  intro claim
  have ordered : (typingAt 0 1 :: crowd).Pairwise fun early late => early.now ≤ late.now := by
    decide +kernel
  have run := run_of_commands (typingAt 0 1 :: crowd) ordered (by simp) (@TypingRun.idle 1)
  have bounds := claim 1 _ _ run (typingAt 2 1) fun last ends => by
    have early : ∀ command ∈ typingAt 0 1 :: crowd, command.now ≤ 2 := by decide +kernel
    exact early _ (mem_momentsOf (List.mem_of_getLast? ends))
  have first : (⟨.empty, typingAt 0 1⟩ : TypingMoment).Broadcasts 1 1 (.start .typing) :=
    ⟨.fanoutOnWrite, by decide +kernel⟩
  have since : Since (TypingMoment.Signals 1 1) ([] ++ momentsOf 1 .empty (typingAt 0 1 :: crowd))
      ⟨.empty, typingAt 0 1⟩ (momentsOf 1 ((typingAt 0 1).handle 1 .empty).1 crowd) := by
    refine ⟨[], rfl, ⟨_, first⟩, fun other member ⟨signal, heard⟩ => ?_⟩
    have others : ∀ command ∈ crowd, 1 ≠ command.chatId := by decide +kernel
    exact others _ (mem_momentsOf member) (broadcasts_own heard)
  have again : (⟨(typingAt 0 1 :: crowd).foldl (fun states command => (command.handle 1 states).1)
      .empty, typingAt 2 1⟩ : TypingMoment).Broadcasts 1 1 (.start .typing) :=
    ⟨.fanoutOnWrite, by decide +kernel⟩
  rcases bounds.spaced 1 .typing _ _ again since first with long | none
  · exact absurd long (by decide +kernel)
  · exact none

end Crowds

/-- A start follows one with the same action after the interval, unless the chat was displaced
between them; the other bounds hold without exception. -/
theorem typing_bounds {userId : UserId} {moments : List TypingMoment} {states : TypingStates}
    (run : TypingRun userId moments states) (command : TypingCommand)
    (clock : ∀ last ∈ moments.getLast?, last.command.now ≤ command.now) :
    TypingBounds (fun between chatId => ∃ moment ∈ between, moment.Displaces chatId) userId moments
      states command := by
  have known := known_run run
  refine ⟨known.bounded, ?_, ?_, ?_⟩
  · intro chatId action first between heard since began
    obtain rfl := broadcasts_own heard
    have outcome := @outcome userId states command
    generalize (command.handle userId states).1.of command.chatId = state at outcome
    cases outcome with
    | silent quiet _ _ _ => exact absurd heard (quiet _)
    | stopped only _ _ _ => cases (only _).mp heard
    | started _ only free _ _ _ =>
        cases (only _).mp heard
        rcases known.remembered _ _ _ _ since began with ⟨acted, sent⟩ | ⟨last, ends, long⟩ | displaced
        · left
          simp only [TypingState.isThrottled, acted, beq_self_eq_true, Bool.true_and, sent,
            decide_eq_false_iff_not, not_lt] at free
          exact free
        · left
          have passed := clock last ends
          simp only [typingTtlSeconds] at long
          simp only [typingBroadcastIntervalMs]
          linarith
        · exact .inr displaced
  · intro chatId heard
    obtain rfl := broadcasts_own heard
    have outcome := @outcome userId states command
    generalize (command.handle userId states).1.of command.chatId = state at outcome
    cases outcome with
    | silent quiet _ _ _ => exact absurd heard (quiet _)
    | started _ only _ _ _ _ => cases (only _).mp heard
    | stopped _ active _ _ =>
        simp only [TypingState.isActive, Bool.and_eq_true, decide_eq_true_eq] at active
        obtain ⟨action, acted⟩ := Option.isSome_iff_exists.mp active.1
        obtain ⟨first, between, since, began, sent⟩ := known.started _ _ acted
        exact ⟨action, first, between, since, began, sent ▸ active.2⟩
  · intro chatId action heard
    obtain rfl := broadcasts_own heard
    have outcome := @outcome userId states command
    generalize (command.handle userId states).1.of command.chatId = state at outcome
    cases outcome with
    | silent quiet _ _ _ => exact absurd heard (quiet _)
    | stopped only _ _ _ => cases (only _).mp heard
    | started context _ _ found granted _ =>
        rcases found with loaded | ⟨unloaded, cached, fresh⟩
        · refine ⟨_, [], Latest.since_last ⟨rfl, by rw [loaded]; rfl⟩, ⟨context, loaded, granted⟩, ?_⟩
          rw [sub_self]
          decide +kernel
        · obtain ⟨check, between, since, loaded⟩ := known.checked _ _ cached
          refine ⟨check, _, Latest.since_later since fun ⟨_, checks⟩ => ?_, ⟨context, loaded, granted⟩, ?_⟩
          · rw [unloaded] at checks
            cases checks
          · have time := loaded_now loaded
            simp only [TypingContext.isFresh, decide_eq_true_eq, time] at fresh
            exact fresh.le

theorem typing_bounds_repeated : TypingBounds
    (fun between chatId => ∃ moment ∈ between, moment.Displaces chatId) 1
    ([] ++ [⟨.empty, typingAt 0 1⟩]) ((typingAt 0 1).handle 1 .empty).1 (typingAt 4 1) := by
  refine typing_bounds (.handle .idle fun _ none => nomatch none) (typingAt 4 1) fun last ends => ?_
  cases ends
  decide +kernel

end Messanger
