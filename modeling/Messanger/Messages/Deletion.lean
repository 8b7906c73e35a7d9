import Messanger.Messages.Replies
import Messanger.Messages.MessageSeq

/-!
What is left to see of a deleted message.  A message that no live message names is not shown
again, and neither are its files, as long as nobody claims them or asks for their links.
-/

namespace Messanger

open Relational

structure Deleted where
  id : MessageId
  Files : AttachmentId → Prop

namespace Deleted

variable (deleted : Deleted)

def InLoaded (loaded : LoadedMessage) : Prop :=
  loaded.message.id = deleted.id ∨ ∃ attachment ∈ loaded.attachments, deleted.Files attachment.id

/-- The message or one of its files, at any place of the DTO. -/
def InDTO (dto : MessageDTO) : Prop :=
  deleted.InLoaded dto.body ∨ (∃ loaded, dto.replyTo = some loaded ∧ deleted.InLoaded loaded) ∨
    ∃ loaded, dto.forwardedFrom = some loaded ∧ deleted.InLoaded loaded

def InReply : Reply → Prop
  | .done => False
  | .message dto => deleted.InDTO dto
  | .messages dtos => ∃ dto ∈ dtos, deleted.InDTO dto
  | .bodies loaded => ∃ one ∈ loaded, deleted.InLoaded one
  | .rows messages => ∃ message ∈ messages, message.id = deleted.id
  | .media items => ∃ item ∈ items, item.message.id = deleted.id ∨
      ∃ attachment, item.attachment = some attachment ∧ deleted.Files attachment.id
  | .downloadUrl attachment => deleted.Files attachment.id
  | .callToken _ => False

end Deleted

/-- The message and its files, as the database has them. -/
def Db.deletedMessage (db : Db) (messageId : MessageId) : Deleted where
  id := messageId
  Files id := ∃ attachment, db.attachment? id = some attachment ∧
    attachment.messageId = some messageId

/-- No message that is still shown answers to this one or was forwarded from it. -/
def Db.Unnamed (db : Db) (messageId : MessageId) : Prop :=
  ∀ id message, db.liveMessage? id = some message →
    message.replyToId ≠ some messageId ∧ message.forwardedFromMessageId ≠ some messageId

/-- Nobody claims a file of a deleted message or asks for its link. -/
def LeavesDeleted (db : Db) (request : Request) : Prop :=
  match request.command with
  | .sendMessage _ new _ _ => ∀ token ∈ new.uploadTokens, ∀ attachment messageId message,
      db.attachment? token = some attachment → attachment.messageId = some messageId →
      db.message? messageId = some message → message.isDeleted = false
  | .getAttachmentDownloadUrl _ messageId _ =>
      ∀ message, db.message? messageId = some message → message.isDeleted = false
  | _ => True

/-- After the deletion: the message is flagged, no shown message names it and its files are still
bound to it. -/
structure Hidden (deleted : Deleted) (db : Db) : Prop where
  pinned : PinsStored db
  gone : ∃ message, db.message? deleted.id = some message ∧ message.isDeleted = true
  unnamed : db.Unnamed deleted.id
  bound : ∀ id, deleted.Files id → ∃ attachment, db.attachment? id = some attachment ∧
    attachment.messageId = some deleted.id

section Step

variable {deleted : Deleted} {request : Request} {db final : Db}

theorem Hidden.not_live (hidden : Hidden deleted db) {message : Message}
    (live : db.liveMessage? message.id = some message) : message.id ≠ deleted.id := by
  intro same
  obtain ⟨row, found, flagged⟩ := hidden.gone
  obtain ⟨stored, kept⟩ := live_message live
  rw [same, found] at stored
  cases stored
  rw [flagged] at kept
  cases kept

theorem Hidden.unclaimed (hidden : Hidden deleted db) (leaves : LeavesDeleted db request)
    {id : AttachmentId} (file : deleted.Files id) : ¬ request.Claims id := by
  intro claims
  obtain ⟨attachment, found, bound⟩ := hidden.bound id file
  obtain ⟨message, stored, flagged⟩ := hidden.gone
  obtain ⟨user, now, command⟩ := request
  cases command
  case sendMessage =>
    have kept := leaves id claims attachment deleted.id message found bound stored
    rw [flagged] at kept
    cases kept
  all_goals exact claims.elim

theorem Hidden.sourced_unnamed (hidden : Hidden deleted db) {message : Message}
    (sourced : Sourced request db message) :
    message.replyToId ≠ some deleted.id ∧ message.forwardedFromMessageId ≠ some deleted.id := by
  constructor
  · intro named
    obtain ⟨answered, live, _⟩ := sourced.reply _ named
    have key := Db.liveMessage_id live
    exact hidden.not_live (by rw [key]; exact live) key
  · intro named
    obtain ⟨source, live, _, _, chained | same⟩ := sourced.origin _ named
    · exact (hidden.unnamed _ source live).2 chained
    · exact hidden.not_live live same

theorem live_before (evolved : Evolved request db final) {id : MessageId} {before message : Message}
    (found : db.message? id = some before) (live : final.liveMessage? id = some message) :
    db.liveMessage? id = some before ∧ before.Succeeds message := by
  obtain ⟨stored, kept⟩ := live_message live
  obtain ⟨later, there, revised⟩ := evolved.kept id before found
  cases there.symm.trans stored
  refine ⟨live_of_message found ?_, revised.succeeds⟩
  cases flagged : before.isDeleted with
  | false => rfl
  | true =>
      rw [revised.succeeds.isDeleted flagged] at kept
      cases kept

theorem hidden_step (leaves : LeavesDeleted db request) (hidden : Hidden deleted db)
    (evolved : Evolved request db final) : Hidden deleted final := by
  refine ⟨pinsStored_step hidden.pinned evolved, ?_, fun id message live => ?_, fun id file => ?_⟩
  · obtain ⟨message, found, flagged⟩ := hidden.gone
    obtain ⟨later, stored, revised⟩ := evolved.kept _ message found
    exact ⟨later, stored, revised.succeeds.isDeleted flagged⟩
  · cases found : db.message? id with
    | none => exact hidden.sourced_unnamed (evolved.added id message found (live_message live).1)
    | some before =>
        obtain ⟨liveBefore, same⟩ := live_before evolved found live
        rw [same.replyToId, same.forwardedFromMessageId]
        exact hidden.unnamed id before liveBefore
  · obtain ⟨attachment, found, bound⟩ := hidden.bound id file
    obtain ⟨later, stored, _, same | ⟨claims, _⟩⟩ := evolved.files id attachment found
    · exact ⟨later, stored, same.trans bound⟩
    · exact absurd claims (hidden.unclaimed leaves file)

theorem hidden_run {final : Db} (hidden : Hidden deleted db) (run : Reaches LeavesDeleted db final) :
    Hidden deleted final :=
  reaches_invariant (Hidden deleted) hidden
    (fun seen request leaves still => hidden_step leaves still (perform_evolved request seen)) run

theorem flagged_message {messageId : MessageId} {row : Message}
    (stored : db.message? messageId = some row) :
    (Db.apply (.deleteMessage messageId) db).message? messageId =
      some { row with isDeleted := true } := by
  rw [Db.message_deleteMessage, stored, Option.map_some, if_pos (Db.message_id stored)]

theorem deleteMessage_flags (user : UserJWTData) (now : Nat) (chatId : ChatId)
    (messageId : MessageId) :
    (deleteMessage user now chatId messageId).Ends db db fun _ final =>
      ∃ message, final.message? messageId = some message ∧ message.isDeleted = true := by
  unfold deleteMessage
  simp only [Tx.bind_eq, Tx.pure_eq]
  refine Tx.ends_read (Tx.ends_orRaise fun before found => Tx.ends_require fun _ => ?_)
  refine Tx.ends_read (Tx.ends_orRaise fun _ _ => Tx.ends_require fun _ => ?_)
  refine Tx.ends_statement fun _ _ => Tx.ends_statement fun _ present => Tx.ends_statement fun _ _ => ?_
  refine Tx.ends_commit ?_
  split at present
  · rename_i there
    obtain ⟨row, stored⟩ := Option.isSome_iff_exists.mp there
    refine ⟨{ row with isDeleted := true }, ?_, rfl⟩
    rw [if_pos there]
    exact flagged_message stored
  · cases present

end Step

section Answers

variable {deleted : Deleted} {request : Request} {db final : Db}

theorem Hidden.not_loaded (hidden : Hidden deleted db) {message : Message}
    (other : message.id ≠ deleted.id) : ¬ deleted.InLoaded (db.load message) := by
  rintro (same | ⟨attachment, member, file⟩)
  · exact other same
  · obtain ⟨found, bound⟩ := mem_attachmentsOf member
    obtain ⟨row, stored, ofDeleted⟩ := hidden.bound _ file
    cases stored.symm.trans found
    rw [bound, Option.some.injEq] at ofDeleted
    exact other ofDeleted

theorem Hidden.not_nested (hidden : Hidden deleted db) {message : Message}
    (live : db.liveMessage? message.id = some message) :
    ¬ deleted.InDTO (db.loadNested message) := by
  obtain ⟨noReply, noOrigin⟩ := hidden.unnamed _ message live
  rintro (body | ⟨loaded, nested, shown⟩ | ⟨loaded, nested, shown⟩)
  · exact hidden.not_loaded (hidden.not_live live) body
  · obtain ⟨target, found, rfl⟩ := Option.map_eq_some_iff.mp nested
    obtain ⟨id, named, stored⟩ := Option.bind_eq_some_iff.mp found
    refine hidden.not_loaded (fun same => noReply ?_) shown
    rw [named, ← Db.message_id stored, same]
  · obtain ⟨target, found, rfl⟩ := Option.map_eq_some_iff.mp nested
    obtain ⟨id, named, stored⟩ := Option.bind_eq_some_iff.mp found
    refine hidden.not_loaded (fun same => noOrigin ?_) shown
    rw [named, ← Db.message_id stored, same]

theorem Hidden.not_posted (hidden : Hidden deleted db) (leaves : LeavesDeleted db request)
    {loaded : LoadedMessage} (posted : Posted request db final loaded) :
    ¬ deleted.InLoaded loaded := by
  rintro (same | ⟨attachment, member, file⟩)
  · obtain ⟨row, found, _⟩ := hidden.gone
    have absent := posted.added.1
    rw [same, found] at absent
    cases absent
  · rcases posted.files attachment member with claims | absent
    · exact hidden.unclaimed leaves file claims
    · obtain ⟨row, stored, _⟩ := hidden.bound _ file
      rw [absent] at stored
      cases stored

theorem Hidden.not_told (hidden : Hidden deleted db) (leaves : LeavesDeleted db request)
    {reply : Reply} (told : Told request db final reply) : ¬ deleted.InReply reply := by
  intro shown
  cases told with
  | done => exact shown
  | shown readable => exact hidden.not_nested readable.live shown
  | posted posted =>
      rcases shown with body | ⟨_, nested, _⟩ | ⟨_, nested, _⟩
      · exact hidden.not_posted leaves posted body
      · cases nested
      · cases nested
  | listed all =>
      obtain ⟨dto, member, inside⟩ := shown
      obtain ⟨message, readable, rfl⟩ := all dto member
      exact hidden.not_nested readable.live inside
  | bodies all =>
      obtain ⟨one, member, inside⟩ := shown
      exact hidden.not_posted leaves (all one member) inside
  | edited _ live same =>
      obtain ⟨one, member, inside⟩ := shown
      rw [List.mem_singleton.mp member] at inside
      rcases inside with body | ⟨_, none, _⟩
      · exact hidden.not_live live (same.id.symm.trans body)
      · cases none
  | rows all =>
      obtain ⟨message, member, same⟩ := shown
      exact hidden.not_live (all message member).live same
  | media all =>
      obtain ⟨item, member, same | ⟨attachment, listed, file⟩⟩ := shown
      · exact hidden.not_live (all item member).1.live same
      · obtain ⟨readable, carried⟩ := all item member
        obtain ⟨found, bound⟩ := carried attachment listed
        obtain ⟨row, stored, ofDeleted⟩ := hidden.bound _ file
        cases stored.symm.trans found
        rw [bound, Option.some.injEq] at ofDeleted
        exact hidden.not_live readable.live ofDeleted
  | @downloadUrl attachment messageId asked found bound =>
      obtain ⟨row, stored, ofDeleted⟩ := hidden.bound _ shown
      cases stored.symm.trans found
      rw [bound, Option.some.injEq] at ofDeleted
      obtain ⟨message, there, flagged⟩ := hidden.gone
      unfold LeavesDeleted at leaves
      rw [asked] at leaves
      rw [leaves message (ofDeleted ▸ there)] at flagged
      cases flagged
  | callToken _ => exact shown

theorem routed_live {event : ChatEvent} {dto : MessageDTO} (routed : db.routed event = some dto) :
    ∃ message, db.liveMessage? message.id = some message ∧ dto = db.loadNested message := by
  have loaded : ∀ {messageId : MessageId} {chatId : ChatId},
      (if (db.openChat? chatId).isSome then (db.liveMessage? messageId).map db.loadNested else none) =
        some dto → ∃ message, db.liveMessage? message.id = some message ∧
          dto = db.loadNested message := by
    intro messageId chatId given
    split at given
    · obtain ⟨message, live, rfl⟩ := Option.map_eq_some_iff.mp given
      exact ⟨message, by rw [Db.liveMessage_id live]; exact live, rfl⟩
    · cases given
  cases event
  case sendedMessage => exact loaded routed
  case modifiedMessage => exact loaded routed
  all_goals cases routed

end Answers

/-- After the deletion of a message that no shown message names, in every run that leaves deleted
messages alone, no answer and no routed event shows the message or one of its files. -/
theorem deleted_hidden_in_run (initial middle final : Db) (user : UserJWTData) (now : Nat)
    (chatId : ChatId) (messageId : MessageId) (reply : Reply) (start : PinsStored initial)
    (before : Reaches (fun _ _ => True) initial middle) (unnamed : middle.Unnamed messageId)
    (committed : (perform ⟨user, now, .deleteMessage chatId messageId⟩ middle).1 = .ok reply)
    (after : Reaches LeavesDeleted
      (perform ⟨user, now, .deleteMessage chatId messageId⟩ middle).2 final) :
    (∀ request answer, LeavesDeleted final request → (perform request final).1 = .ok answer →
      ¬ (middle.deletedMessage messageId).InReply answer) ∧
    ∀ event dto, final.routed event = some dto →
      ¬ (middle.deletedMessage messageId).InDTO dto := by
  have pinned := pinsStored_run start before
  have evolved := perform_evolved ⟨user, now, .deleteMessage chatId messageId⟩ middle
  obtain ⟨_, _, flagged⟩ :=
    reply_of_ends (deleteMessage_flags user now chatId messageId) committed
  have hidden : Hidden (middle.deletedMessage messageId)
      (perform ⟨user, now, .deleteMessage chatId messageId⟩ middle).2 := by
    refine ⟨pinsStored_step pinned evolved, flagged, fun id message live => ?_, fun id file => ?_⟩
    · cases found : middle.message? id with
      | none =>
          have posts := (evolved.added id message found (live_message live).1).posts
          exact posts.2.2.elim
      | some row =>
          obtain ⟨liveBefore, same⟩ := live_before evolved found live
          rw [same.replyToId, same.forwardedFromMessageId]
          exact unnamed id row liveBefore
    · obtain ⟨attachment, found, bound⟩ := file
      obtain ⟨later, stored, _, same | ⟨claims, _⟩⟩ := evolved.files id attachment found
      · exact ⟨later, stored, same.trans bound⟩
      · exact claims.elim
  have still := hidden_run hidden after
  refine ⟨fun request answer leaves answered => ?_, fun event dto routed => ?_⟩
  · exact still.not_told leaves
      (perform_told request final (pinsInChat_of_stored still.pinned) answered)
  · obtain ⟨message, live, rfl⟩ := routed_live routed
    exact still.not_nested live

def Reply.nestedIds : Reply → List MessageId
  | .message dto => ((dto.replyTo.map (·.message.id)).toList ++
      (dto.forwardedFrom.map (·.message.id)).toList)
  | _ => []

def textSentBy (userId : UserId) (messageId : MessageId) (replyToId : Option MessageId) : Request :=
  ⟨{ id := userId }, 0, .sendMessage 1 { content := some "hi", replyToId := replyToId } none messageId⟩

def deletionBy (userId : UserId) (messageId : MessageId) : Request :=
  ⟨{ id := userId }, 0, .deleteMessage 1 messageId⟩

def detailFor (userId : UserId) (messageId : MessageId) : Request :=
  ⟨{ id := userId }, 0, .getMessageDetail 1 messageId⟩

def twoTexts (replyToId : Option MessageId) : Db :=
  (perform (textSentBy 2 11 replyToId) (perform (textSentBy 1 10 none) emptyGroup).2).2

theorem emptyGroup_pinsStored : PinsStored emptyGroup := fun _ listed => nomatch listed

theorem deleted_hidden_from_detail :
    (perform (detailFor 2 11) (perform (deletionBy 1 10) (twoTexts none)).2).1.isOk = true ∧
      ∀ answer, (perform (detailFor 2 11) (perform (deletionBy 1 10) (twoTexts none)).2).1 =
        .ok answer → ¬ ((twoTexts none).deletedMessage 10).InReply answer := by
  have fine : (perform (deletionBy 1 10) (twoTexts none)).1.isOk = true := by decide +kernel
  obtain ⟨reply, answered⟩ := perform_ok fine
  have names : ∀ row ∈ (twoTexts none).messages.rows,
      row.replyToId ≠ some 10 ∧ row.forwardedFromMessageId ≠ some 10 := by decide +kernel
  have unnamed : (twoTexts none).Unnamed 10 := by
    intro id message live
    refine names message ?_
    rw [Table.mem_rows_iff, Db.liveMessage_id live]
    exact (live_message live).1
  refine ⟨by decide +kernel, fun answer asked => ?_⟩
  exact (deleted_hidden_in_run emptyGroup (twoTexts none) _ { id := 1 } 0 1 10 reply
    emptyGroup_pinsStored (.step (.step .refl trivial) trivial) unnamed
    (congrArg Prod.fst answered) .refl).1 (detailFor 2 11) answer trivial asked

/-- A deleted message is still shown inside its answers. -/
theorem deleted_shown_in_reply :
    ¬ ∀ (initial middle final : Db) (user : UserJWTData) (now : Nat) (chatId : ChatId)
      (messageId : MessageId) (reply : Reply) (request : Request) (answer : Reply),
      PinsStored initial → Reaches (fun _ _ => True) initial middle →
      (perform ⟨user, now, .deleteMessage chatId messageId⟩ middle).1 = .ok reply →
      Reaches (fun _ _ => True)
        (perform ⟨user, now, .deleteMessage chatId messageId⟩ middle).2 final →
      (perform request final).1 = .ok answer →
        ¬ (middle.deletedMessage messageId).InReply answer := by
  intro claimed
  have fine : (perform (deletionBy 1 10) (twoTexts (some 10))).1.isOk = true := by decide +kernel
  obtain ⟨reply, deleted⟩ := perform_ok fine
  have shown : (perform (detailFor 2 11)
      (perform (deletionBy 1 10) (twoTexts (some 10))).2).1.toOption.map Reply.nestedIds =
        some [10] := by decide +kernel
  obtain ⟨answer, asked, nested⟩ := Option.map_eq_some_iff.mp shown
  have answered : (perform (detailFor 2 11)
      (perform (deletionBy 1 10) (twoTexts (some 10))).2).1 = .ok answer := by
    cases outcome : (perform (detailFor 2 11)
        (perform (deletionBy 1 10) (twoTexts (some 10))).2).1 with
    | error => rw [outcome] at asked; cases asked
    | ok => rw [outcome] at asked; exact congrArg Except.ok (Option.some.inj asked)
  refine claimed emptyGroup (twoTexts (some 10)) _ { id := 1 } 0 1 10 reply (detailFor 2 11) answer
    emptyGroup_pinsStored (.step (.step .refl trivial) trivial) (congrArg Prod.fst deleted) .refl
    answered ?_
  cases answer with
  | message dto =>
      simp only [Reply.nestedIds] at nested
      cases found : dto.replyTo with
      | some loaded =>
          rw [found] at nested
          exact .inr (.inl ⟨loaded, found, .inl (List.cons.inj nested).1⟩)
      | none =>
          rw [found] at nested
          cases origin : dto.forwardedFrom with
          | none => rw [origin] at nested; cases nested
          | some loaded =>
              rw [origin] at nested
              exact .inr (.inr ⟨loaded, origin, .inl (List.cons.inj nested).1⟩)
  | _ => cases nested

end Messanger
