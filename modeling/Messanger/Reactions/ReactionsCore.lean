import Messanger.Chats.CommandsCore
import Messanger.Messages.CommandsCore
import Messanger.Library.Coalesce

/-!
Reactions: one row per user and emoji, a counter per emoji, and the three commands that change
them.  The order in which a Python set is walked is an argument.
-/

namespace Messanger

open Relational

abbrev Emoji := String

def maxDistinctReactionsPerMessage : Nat := 20

def maxReactionsPerUserPerMessage : Nat := 3

def reactionRecentUsersLimit : Nat := 3

structure MessageReaction where
  messageId : MessageId
  userId : UserId
  emoji : Emoji
  chatId : ChatId
  createdAt : Nat
  deriving DecidableEq, Repr

def MessageReaction.key (reaction : MessageReaction) : MessageId × UserId × Emoji :=
  (reaction.messageId, reaction.userId, reaction.emoji)

structure MessageReactionCounter where
  messageId : MessageId
  emoji : Emoji
  chatId : ChatId
  count : Int
  deriving DecidableEq, Repr

def MessageReactionCounter.key (counter : MessageReactionCounter) : MessageId × Emoji :=
  (counter.messageId, counter.emoji)

structure ReactionGroupSnapshot where
  emoji : Emoji
  count : Int
  deriving DecidableEq, Repr

/-- `ORDER BY count DESC, emoji ASC`, the emojis in the order of their code points. -/
def ReactionGroupSnapshot.Before (left right : ReactionGroupSnapshot) : Prop :=
  right.count < left.count ∨ (left.count = right.count ∧ left.emoji ≤ right.emoji)

instance : DecidableRel ReactionGroupSnapshot.Before := fun left right =>
  inferInstanceAs (Decidable (right.count < left.count ∨
    (left.count = right.count ∧ left.emoji ≤ right.emoji)))

inductive ReactionAction where
  | add
  | remove
  | replace
  deriving DecidableEq, Repr

structure ReactionUpdatedEvent where
  messageId : MessageId
  chatId : ChatId
  actorId : UserId
  action : ReactionAction
  groups : List ReactionGroupSnapshot
  recentByEmoji : List (Emoji × List UserId)
  deriving DecidableEq, Repr

abbrev ReactionCounters :=
  Table MessageReactionCounter (MessageId × Emoji) MessageReactionCounter.key

def ReactionCounters.change (counters : ReactionCounters) (messageId : MessageId) (emoji : Emoji)
    (amend : Int → Int) : ReactionCounters :=
  counters.update (fun row => decide (row.key = (messageId, emoji)))
    (fun row => { row with count := amend row.count }) fun _ => rfl

/-- The tables of the reactions beside those of the chats, and the outbox of their events. -/
structure ReactionDb where
  base : Db
  reactions : Table MessageReaction (MessageId × UserId × Emoji) MessageReaction.key := .empty
  counters : ReactionCounters := .empty
  events : List ReactionUpdatedEvent := []

inductive ReactionWrite where
  | insertReaction (reaction : MessageReaction)
  | deleteReaction (messageId : MessageId) (userId : UserId) (emoji : Emoji)
  | raiseCounter (messageId : MessageId) (emoji : Emoji) (chatId : ChatId)
  | lowerCounter (messageId : MessageId) (emoji : Emoji)
  | deleteCounter (messageId : MessageId) (emoji : Emoji)
  | insertCounter (counter : MessageReactionCounter)
  | publish (event : ReactionUpdatedEvent)

inductive ReactionKey where
  | reaction (messageId : MessageId) (userId : UserId) (emoji : Emoji)
  | counter (messageId : MessageId) (emoji : Emoji)
  deriving DecidableEq, Repr

/-- The `scope` of `TooManyReactionsError`. -/
inductive ReactionScope where
  | user
  | message
  deriving DecidableEq, Repr

inductive ReactionError where
  | chat (error : ChatError)
  | reactionsDisabled (chatId : ChatId)
  | invalidReaction (emoji : String)
  | reactionNotAllowed (emoji : Emoji) (allowed : List Emoji)
  | tooManyReactions (limit : Nat) (scope : ReactionScope)
  deriving DecidableEq, Repr

namespace ReactionDb

def apply : ReactionWrite → ReactionDb → ReactionDb
  | .insertReaction reaction, db => { db with reactions := db.reactions.insert reaction }
  | .deleteReaction messageId userId emoji, db =>
      { db with
        reactions := db.reactions.delete fun row => decide (row.key = (messageId, userId, emoji)) }
  | .raiseCounter messageId emoji chatId, db =>
      { db with
        counters :=
          if (db.counters.find? (messageId, emoji)).isSome then
            db.counters.change messageId emoji (· + 1)
          else db.counters.insert ⟨messageId, emoji, chatId, 1⟩ }
  | .lowerCounter messageId emoji, db =>
      { db with counters := db.counters.change messageId emoji (· - 1) }
  | .deleteCounter messageId emoji, db =>
      { db with counters := db.counters.delete fun row => decide (row.key = (messageId, emoji)) }
  | .insertCounter counter, db => { db with counters := db.counters.insert counter }
  | .publish event, db => { db with events := db.events ++ [event] }

instance : Storage ReactionDb ReactionWrite := ⟨ReactionDb.apply⟩

def reacted (db : ReactionDb) (messageId : MessageId) (userId : UserId) (emoji : Emoji) : Bool :=
  (db.reactions.find? (messageId, userId, emoji)).isSome

def count? (db : ReactionDb) (messageId : MessageId) (emoji : Emoji) : Option Int :=
  (db.counters.find? (messageId, emoji)).map (·.count)

def userEmojis (db : ReactionDb) (messageId : MessageId) (userId : UserId) : List Emoji :=
  (db.reactions.select fun row => row.messageId == messageId && row.userId == userId).map (·.emoji)

def distinctEmojis (db : ReactionDb) (messageId : MessageId) : Nat :=
  db.counters.count fun row => row.messageId == messageId

def currentGroups (db : ReactionDb) (messageId : MessageId) : List ReactionGroupSnapshot :=
  ((db.counters.select fun row => row.messageId == messageId && decide (0 < row.count)).map
    fun row => ⟨row.emoji, row.count⟩).insertionSort ReactionGroupSnapshot.Before

/-- The lateral join: for every counted emoji its latest users, an emoji without users left out. -/
def recentUsers (db : ReactionDb) (messageId : MessageId) : List (Emoji × List UserId) :=
  (db.counters.select fun row => row.messageId == messageId && decide (0 < row.count)).filterMap
    fun counter =>
      let users := (((db.reactions.select fun row =>
        row.messageId == messageId && row.emoji == counter.emoji).insertionSort
          fun left right => right.createdAt < left.createdAt ∨
            (left.createdAt = right.createdAt ∧ right.userId ≤ left.userId)).take
              reactionRecentUsersLimit).map (·.userId)
      if users.isEmpty then none else some (counter.emoji, users)

end ReactionDb

abbrev ReactionHandler := Tx ReactionDb ReactionWrite ReactionKey ReactionError

section Policy

variable (chat : Chat) (member : ChatMember) (now : Nat)

def ensureCanReact : Except ReactionError Unit :=
  if member.isMuted now then .error (.chat (.accessDeniedChat chat.id member.userId))
  else if chat.reactionsMode = .none then .error (.reactionsDisabled chat.id)
  else .ok ()

def validateEmoji (emoji : Emoji) : Except ReactionError Unit :=
  if !defaultReactions.contains emoji then
    .error (.invalidReaction (String.ofList (emoji.toList.take 64)))
  else if chat.reactionsMode = .none then .error (.reactionsDisabled chat.id)
  else if chat.reactionsMode = .some && !chat.allowedReactions.contains emoji then
    .error (.reactionNotAllowed emoji chat.allowedReactions)
  else .ok ()

def validateReaction (emoji : Emoji) : Except ReactionError Unit := do
  ensureCanReact chat member now
  validateEmoji chat emoji

end Policy

section Repository

variable (messageId : MessageId)

def countDistinctEmojis : ReactionHandler Nat := Tx.read fun db => db.distinctEmojis messageId

def listUserEmojis (userId : UserId) : ReactionHandler (List Emoji) :=
  Tx.read fun db => db.userEmojis messageId userId

/-- `INSERT … ON CONFLICT DO NOTHING`: a free key is taken by the insert, and a key another
session has taken is waited for; a row that is there is neither changed nor locked. -/
def insertReaction (chatId : ChatId) (userId : UserId) (emoji : Emoji) (now : Nat) :
    ReactionHandler Bool :=
  Tx.statement
    (fun db => if db.reacted messageId userId emoji then [] else [.reaction messageId userId emoji])
    (fun db =>
      if db.reacted messageId userId emoji then []
      else [.insertReaction ⟨messageId, userId, emoji, chatId, now⟩])
    fun db => .ok (!db.reacted messageId userId emoji)

def bumpCounterUp (chatId : ChatId) (emoji : Emoji) : ReactionHandler Int :=
  Tx.statement (fun _ => [.counter messageId emoji])
    (fun _ => [.raiseCounter messageId emoji chatId])
    fun db => .ok ((db.count? messageId emoji).getD 0 + 1)

def addReaction (chatId : ChatId) (userId : UserId) (emoji : Emoji) (now : Nat) :
    ReactionHandler (Option Int) := do
  let inserted ← insertReaction messageId chatId userId emoji now
  if inserted then
    let count ← bumpCounterUp messageId chatId emoji
    return some count
  else return none

def deleteReaction (userId : UserId) (emoji : Emoji) : ReactionHandler Bool :=
  Tx.statement
    (fun db => if db.reacted messageId userId emoji then [.reaction messageId userId emoji] else [])
    (fun db =>
      if db.reacted messageId userId emoji then [.deleteReaction messageId userId emoji] else [])
    fun db => .ok (db.reacted messageId userId emoji)

def bumpCounterDown (emoji : Emoji) : ReactionHandler (Option Int) :=
  Tx.statement
    (fun db => if (db.count? messageId emoji).isSome then [.counter messageId emoji] else [])
    (fun db => if (db.count? messageId emoji).isSome then [.lowerCounter messageId emoji] else [])
    fun db => .ok ((db.count? messageId emoji).map (· - 1))

def ReactionDb.isEmptyCounter (db : ReactionDb) (emoji : Emoji) : Bool :=
  (db.count? messageId emoji).any fun count => decide (count ≤ 0)

def dropEmptyCounter (emoji : Emoji) : ReactionHandler Unit :=
  Tx.statement
    (fun db => if db.isEmptyCounter messageId emoji then [.counter messageId emoji] else [])
    (fun db => if db.isEmptyCounter messageId emoji then [.deleteCounter messageId emoji] else [])
    fun _ => .ok ()

def removeReactionRow (userId : UserId) (emoji : Emoji) : ReactionHandler (Option Int) := do
  let deleted ← deleteReaction messageId userId emoji
  if deleted then
    let row ← bumpCounterDown messageId emoji
    dropEmptyCounter messageId emoji
    return some (row.getD 0)
  else return none

/-- `SELECT … FOR UPDATE`: the rows of the statement's snapshot that are still there once their
locks are free.  Rows inserted while it waits are not among them. -/
def lockUserEmojis (userId : UserId) : ReactionHandler (List Emoji) := do
  let snapshot ← listUserEmojis messageId userId
  Tx.statement
    (fun db => (snapshot.filter (db.reacted messageId userId)).map (.reaction messageId userId))
    (fun _ => [])
    fun db => .ok (snapshot.filter (db.reacted messageId userId))

/-- A Python set walked in the order of `rank`. -/
def walked (rank : Emoji → Nat) (emojis : List Emoji) : List Emoji :=
  emojis.eraseDups.insertionSort fun left right => rank left ≤ rank right

def replaceReactions (chatId : ChatId) (userId : UserId) (emojis : List Emoji) (now : Nat)
    (rank : Emoji → Nat) : ReactionHandler Bool := do
  let current ← lockUserEmojis messageId userId
  let toAdd := emojis.filter fun emoji => !current.contains emoji
  let toRemove := current.filter fun emoji => !emojis.contains emoji
  if toAdd.isEmpty && toRemove.isEmpty then return false
  else
    Tx.each (fun emoji => Tx.void (removeReactionRow messageId userId emoji)) (walked rank toRemove)
    Tx.each (fun emoji => Tx.void (addReaction messageId chatId userId emoji now))
      (walked rank toAdd)
    return true

def getCurrentGroups : ReactionHandler (List ReactionGroupSnapshot) :=
  Tx.read fun db => db.currentGroups messageId

structure MessageReactionState where
  groups : List ReactionGroupSnapshot
  myEmojis : List Emoji
  recentByEmoji : List (Emoji × List UserId)
  deriving DecidableEq, Repr

/-- `get_reaction_state_for_messages` of the one message. -/
def getReactionState (userId : UserId) : ReactionHandler (Option MessageReactionState) := do
  let groups ← getCurrentGroups messageId
  if groups.isEmpty then return none
  else
    let mine ← listUserEmojis messageId userId
    let recent ← Tx.read fun db => db.recentUsers messageId
    return some ⟨groups, mine, recent⟩

/-- The rows of the rebuilding `INSERT … SELECT … GROUP BY message_id, emoji`. -/
def ReactionDb.recounted (db : ReactionDb) : List MessageReactionCounter :=
  let rows := db.reactions.select fun row => row.messageId == messageId
  (rows.map (·.emoji)).eraseDups.map fun emoji =>
    { messageId := messageId
      emoji := emoji
      chatId := (((rows.filter fun row => row.emoji == emoji).map (·.chatId)).min?).getD 0
      count := (rows.filter fun row => row.emoji == emoji).length }

def recount : ReactionHandler Unit := do
  Tx.statement
    (fun db => (db.counters.select fun row => row.messageId == messageId).map fun row =>
      .counter messageId row.emoji)
    (fun db => (db.counters.select fun row => row.messageId == messageId).map fun row =>
      .deleteCounter messageId row.emoji)
    fun _ => .ok ()
  Tx.statement (fun db => (db.recounted messageId).map fun row => .counter messageId row.emoji)
    (fun db => (db.recounted messageId).map .insertCounter)
    fun db =>
      if (db.recounted messageId).any fun row => (db.count? messageId row.emoji).isSome then
        .error (.chat .integrityError)
      else .ok ()

end Repository

section Commands

variable (user : UserJWTData) (now : Nat) (chatId : ChatId) (messageId : MessageId)

def buildReactionEvent (action : ReactionAction) : ReactionHandler ReactionUpdatedEvent := do
  let groups ← getCurrentGroups messageId
  if groups.isEmpty then return ⟨messageId, chatId, user.id, action, groups, []⟩
  else
    let state ← getReactionState messageId user.id
    return ⟨messageId, chatId, user.id, action, groups, (state.map (·.recentByEmoji)).getD []⟩

def publishReaction (event : ReactionUpdatedEvent) : ReactionHandler Unit :=
  Tx.statement (fun _ => []) (fun _ => [.publish event]) fun _ => .ok ()

def announceReaction (action : ReactionAction) : ReactionHandler Unit := do
  let event ← buildReactionEvent user chatId messageId action
  publishReaction event
  Tx.commitNow

def requireReactable : ReactionHandler ChatAndMember := do
  let found ← Tx.statement (fun _ => []) (fun _ => []) fun db =>
    (db.base.chatAndMember chatId user.id).mapError .chat
  Tx.require (!found.member.isBanned now) (.chat (.notChatMember chatId user.id))
  let message ← Tx.read fun db => db.base.liveMessage? messageId
  let message ← Tx.orRaise message (.chat (.notFoundMessage messageId))
  Tx.require (message.chatId == chatId) (.chat (.notFoundMessage messageId))
  return found

def setReaction (emoji : Emoji) : ReactionHandler Unit := do
  let found ← requireReactable user now chatId messageId
  Tx.ofExcept (validateReaction found.chat found.member now emoji)
  let existing ← listUserEmojis messageId user.id
  if !existing.contains emoji then
    Tx.require (decide (existing.length < maxReactionsPerUserPerMessage))
      (.tooManyReactions maxReactionsPerUserPerMessage .user)
    let distinct ← countDistinctEmojis messageId
    Tx.require (decide (distinct < maxDistinctReactionsPerMessage))
      (.tooManyReactions maxDistinctReactionsPerMessage .message)
  let applied ← addReaction messageId chatId user.id emoji now
  if applied.isNone then return ()
  else announceReaction user chatId messageId .add

def removeReaction (emoji : Emoji) : ReactionHandler Unit := do
  let _ ← requireReactable user now chatId messageId
  let applied ← removeReactionRow messageId user.id emoji
  if applied.isNone then return ()
  else announceReaction user chatId messageId .remove

/-- The checks of `SetReactions` for a target that is not empty. -/
def checkTarget (found : ChatAndMember) (target : List Emoji) : ReactionHandler Unit := do
  Tx.ofExcept (ensureCanReact found.chat found.member now)
  Tx.ofExcept (target.forM (validateEmoji found.chat))
  Tx.require (decide (target.length ≤ maxReactionsPerUserPerMessage))
    (.tooManyReactions maxReactionsPerUserPerMessage .user)
  let existing ← listUserEmojis messageId user.id
  let newEmojis := target.filter fun emoji => !existing.contains emoji
  if newEmojis.isEmpty then return ()
  else
    let distinct ← countDistinctEmojis messageId
    let groups ← getCurrentGroups messageId
    let addedDistinct := newEmojis.filter fun emoji => !(groups.map (·.emoji)).contains emoji
    Tx.require (decide (distinct + addedDistinct.length ≤ maxDistinctReactionsPerMessage))
      (.tooManyReactions maxDistinctReactionsPerMessage .message)

def setReactions (emojis : List Emoji) (rank : Emoji → Nat) : ReactionHandler Unit := do
  let target := emojis.eraseDups
  let found ← requireReactable user now chatId messageId
  if !target.isEmpty then checkTarget user now messageId found target
  let changed ← replaceReactions messageId chatId user.id target now rank
  if !changed then return ()
  else announceReaction user chatId messageId .replace

end Commands

inductive ReactionCommand where
  | set (emoji : Emoji)
  | remove (emoji : Emoji)
  | setMany (emojis : List Emoji) (rank : Emoji → Nat)

structure ReactionRequest where
  user : UserJWTData
  now : Nat
  chatId : ChatId
  messageId : MessageId
  command : ReactionCommand

def ReactionRequest.program (request : ReactionRequest) : ReactionHandler Unit :=
  match request.command with
  | .set emoji => setReaction request.user request.now request.chatId request.messageId emoji
  | .remove emoji => removeReaction request.user request.now request.chatId request.messageId emoji
  | .setMany emojis rank =>
      setReactions request.user request.now request.chatId request.messageId emojis rank

abbrev ReactionSystem := System ReactionDb ReactionWrite ReactionKey ReactionError

/-- Any interleaving of the three commands, by any users and on any messages. -/
abbrev ReactionRun : ReactionSystem → ReactionSystem → Prop :=
  Run (fun program => ∃ request : ReactionRequest, program = request.program) fun _ _ => True

end Messanger
