import Messanger.Messages.MessageSeq
import Messanger.Chats.MemberEffects
import Messanger.Websockets.WebsocketsCore
import Messanger.Library.Paging

/-!
The messages of a chat from commit to commit, while any number of sends and deletions interleave:
numbers are given in the order of the commits, and messages stay where they are.
-/

namespace Messanger

open Relational

inductive MessagingCommand : Handler Unit → Prop
  | posting {program : Handler Unit} : PostingCommand program → MessagingCommand program
  | deleteMessage (user now chatId messageId) :
      MessagingCommand (deleteMessage user now chatId messageId).void

section Numbers

variable {chatId : ChatId}

def Write.Muted (write : Write) : Prop := write.Silent ∨ ∃ messageId, write = .deleteMessage messageId

structure SameNumbers (chatId : ChatId) (before after : Db) : Prop where
  known : (before.chat? chatId).isSome → (after.chat? chatId).isSome
  counter : after.seqCounter chatId = before.seqCounter chatId
  seqs : after.seqs chatId = before.seqs chatId
  present : ∀ messageId, (after.message? messageId).isSome = (before.message? messageId).isSome

theorem sameNumbers_apply {write : Write} (muted : write.Muted) (db : Db) :
    SameNumbers chatId db (Db.apply write db) := by
  rcases muted with silent | ⟨messageId, rfl⟩
  · have same := messages_silent db write silent
    refine ⟨db.chat_stays chatId write, seqCounter_silent db write silent, ?_, fun other => ?_⟩
    · rw [Db.seqs, same, Db.seqs]
    · rw [Db.message?, same, Db.message?]
  · refine ⟨id, rfl, ?_, fun other => ?_⟩
    · simp only [Db.apply, Db.seqs, Table.select, Table.update, List.filter_map, List.map_map]
      congr 1
      · funext message
        simp only [Function.comp_apply]
        split
        · rfl
        · rfl
      · congr 1
        funext message
        simp only [Function.comp_apply]
        split
        · rfl
        · rfl
    · rw [Db.message_deleteMessage, Option.isSome_map]

theorem sameNumbers_applyAll (log : List Write) : ∀ db : Db, (∀ write ∈ log, write.Muted) →
    SameNumbers chatId db (applyAll log db) := by
  induction log with
  | nil => exact fun _ _ => ⟨id, rfl, rfl, fun _ => rfl⟩
  | cons write rest ih =>
      intro db muted
      have first : SameNumbers chatId db (Db.apply write db) :=
        sameNumbers_apply (muted write List.mem_cons_self) db
      have others := ih (Db.apply write db) fun other member =>
        muted other (List.mem_cons_of_mem _ member)
      rw [applyAll_cons, Db.apply_eq]
      exact ⟨fun known => others.known (first.known known), others.counter.trans first.counter,
        others.seqs.trans first.seqs, fun id => (others.present id).trans (first.present id)⟩

theorem deleteMessage_muted (user : UserJWTData) (now : Nat) (target : ChatId)
    (messageId : MessageId) : (deleteMessage user now target messageId).Emits Write.Muted := by
  have gone : Write.Muted (.deleteMessage messageId) := .inr ⟨messageId, rfl⟩
  have told : ∀ events, Write.Muted (.publish events) := fun _ => .inl trivial
  have unpinned : ∀ pin, Write.Muted (.deletePin target pin) := fun _ => .inl trivial
  simp only [deleteMessage, getMessage, getMemberChat, Tx.bind_eq, Tx.pure_eq, Tx.emits_read_iff,
    Tx.emits_orRaise_iff, Tx.emits_require_iff]
  intro _ _ _ _ _ _ _ _
  refine Tx.emits_bind ?_ fun pins => Tx.emits_bind (updateRow_emits gone) fun _ =>
    Tx.emits_bind ?_ fun _ => trivial
  · simp only [deletePins, Tx.emits_statement_alone_iff]
    intro seen write member
    obtain ⟨pin, _, rfl⟩ := List.mem_map.mp member
    exact unpinned pin.messageId
  · simp only [publish, Tx.emits_statement_alone_iff, List.mem_singleton]
    rintro seen write rfl
    exact told _

theorem numbers_messagingCommand (chatId : ChatId) {program : Handler Unit}
    (command : MessagingCommand program) : (seqContract chatId).Keeps program := by
  cases command with
  | posting command => exact numbers_postingCommand chatId command
  | deleteMessage user now target messageId =>
      refine Contract.keeps_void (Contract.keeps_of_emits ?_
        (deleteMessage_muted user now target messageId))
      intro held log db muted after rely
      have same := @sameNumbers_applyAll chatId log after muted
      obtain ⟨known, numbered⟩ := rely.inv
      refine ⟨⟨same.known known, ?_, fun seq => ?_⟩, trivial, fun key _ => ?_⟩
      · rw [same.seqs]
        exact numbered.distinct
      · rw [same.seqs, same.counter]
        exact numbered.exact seq
      · cases key with
        | chat other => simp only [seqContract, same.seqs, same.counter]
        | message messageId => simp only [seqContract, same.present]
        | _ => rfl

end Numbers

section Members

variable {chatId : ChatId} {userId : UserId} {row : Option ChatMember}

def memberContract (chatId : ChatId) (userId : UserId) (row : Option ChatMember) :
    Contract Db Write RowKey Unit where
  inv db := db.member? chatId userId = row
  view _ _ := ()
  ok _ _ := True

theorem member_applyAll (log : List Write) : ∀ db : Db,
    (∀ write ∈ log, write.ofMember = false) →
      (applyAll log db).member? chatId userId = db.member? chatId userId := by
  induction log with
  | nil => exact fun _ _ => rfl
  | cons write rest ih =>
      intro db apart
      rw [applyAll_cons, Db.apply_eq, ih _ fun other member =>
        apart other (List.mem_cons_of_mem _ member)]
      exact db.member_apply chatId userId write (apart write List.mem_cons_self)

theorem ofMember_footprint {request : Request} (apart : request.command.ofMembers = false)
    {write : Write} (allowed : request.Footprint write) : write.ofMember = false := by
  rcases footprint_apart apart allowed with incidental | ⟨_, _, rfl, _⟩
  · exact incidental.1
  · rfl

theorem messagingCommand_apart {program : Handler Unit} (command : MessagingCommand program) :
    program.Emits fun write => write.ofMember = false := by
  have done : ∀ {Answer : Type} {source : Handler Answer} (request : Request),
      request.command.ofMembers = false → source.Emits request.Footprint →
        source.void.Emits fun write => write.ofMember = false :=
    fun request apart emits => Tx.emits_bind
      (Tx.emits_mono emits fun _ allowed => ofMember_footprint apart allowed) fun _ => trivial
  cases command with
  | posting command =>
      cases command with
      | sendMessage user now target new slowTtl id =>
          exact done ⟨user, now, _⟩ rfl (sendMessage_emits user now target new slowTtl id)
      | forwardMessage user now source target comment slowTtl id fresh =>
          exact done ⟨user, now, _⟩ rfl (forwardMessage_emits user now source target comment slowTtl id fresh)
      | forwardMessages user now source sourceIds target hideAuthor comment slowTtl ids fresh =>
          exact done ⟨user, now, _⟩ rfl (forwardMessages_emits user now source sourceIds target hideAuthor
            comment slowTtl ids fresh)
      | pinMessage user now target messageId noticeId =>
          exact done ⟨user, now, _⟩ rfl (pinMessage_emits user now target messageId noticeId)
  | deleteMessage user now target messageId =>
      exact done ⟨user, now, _⟩ rfl (deleteMessage_emits user now target messageId)

theorem members_messagingCommand {program : Handler Unit} (command : MessagingCommand program) :
    (memberContract chatId userId row).Keeps program := by
  refine Contract.keeps_of_emits ?_ (messagingCommand_apart command)
  intro held log db apart after rely
  exact ⟨(member_applyAll log after apart).trans rely.inv, trivial, fun _ _ => rfl⟩

end Members

section Marks

variable {chatId : ChatId}

def Outlives (before after : Db) : Prop :=
  ∀ id message, before.message? id = some message →
    ∃ later, after.message? id = some later ∧ later.chatId = message.chatId ∧
      later.seq = message.seq ∧ (message.isDeleted = true → later.isDeleted = true)

theorem outlives_refl (db : Db) : Outlives db db :=
  fun _ message found => ⟨message, found, rfl, rfl, fun gone => gone⟩

theorem outlives_trans {first second third : Db} (left : Outlives first second)
    (right : Outlives second third) : Outlives first third := by
  intro id message found
  obtain ⟨middle, there, chat, seq, gone⟩ := left id message found
  obtain ⟨later, present, sameChat, sameSeq, stillGone⟩ := right id middle there
  exact ⟨later, present, sameChat.trans chat, sameSeq.trans seq,
    fun deleted => stillGone (gone deleted)⟩

theorem outlives_apply (write : Write) (db : Db) : Outlives db (Db.apply write db) := by
  intro id message found
  cases write
  case insertMessage other =>
    refine ⟨message, ?_, rfl, rfl, fun gone => gone⟩
    rw [Db.message_insertMessage, found]
    rfl
  case editMessage target content =>
    rw [Db.message_editMessage, found, Option.map_some]
    split
    · exact ⟨_, rfl, rfl, rfl, fun gone => gone⟩
    · exact ⟨_, rfl, rfl, rfl, fun gone => gone⟩
  case deleteMessage target =>
    rw [Db.message_deleteMessage, found, Option.map_some]
    split
    · exact ⟨_, rfl, rfl, rfl, fun _ => rfl⟩
    · exact ⟨_, rfl, rfl, rfl, fun gone => gone⟩
  all_goals exact ⟨message, found, rfl, rfl, fun gone => gone⟩

theorem outlives_applyAll (log : List Write) (db : Db) : Outlives db (applyAll log db) := by
  induction log generalizing db with
  | nil => exact outlives_refl db
  | cons write rest ih =>
      rw [applyAll_cons, Db.apply_eq]
      exact outlives_trans (outlives_apply write db) (ih _)

theorem outlives_step {system next : System Db Write RowKey ChatError}
    {label : Label Db Write RowKey ChatError} (stepped : system.step label = some next) :
    Outlives system.db next.db := by
  cases label with
  | start program =>
      cases stepped
      exact outlives_refl _
  | rollback index =>
      cases stepped
      exact outlives_refl _
  | exec index =>
      simp only [System.step] at stepped
      split at stepped
      · cases stepped
      · split at stepped
        · cases stepped
        · cases stepped
        · split at stepped
          · cases stepped
            exact outlives_refl _
          · cases stepped
        · cases stepped
          exact outlives_applyAll _ _

def Db.marks (db : Db) (chatId : ChatId) : List (MessageId × Nat) :=
  (db.liveMessages chatId fun _ => true).map fun message => (message.id, message.seq)

def ReplayDTO.marks (replay : ReplayDTO) : List (MessageId × Nat) :=
  replay.messages.map fun message => (message.body.message.id, message.body.message.seq)

theorem mem_marks {db : Db} {mark : MessageId × Nat} : mark ∈ db.marks chatId ↔
    ∃ message, db.message? mark.1 = some message ∧ message.chatId = chatId ∧
      message.isDeleted = false ∧ message.seq = mark.2 := by
  simp only [Db.marks, Db.liveMessages, Table.select, List.mem_map, List.mem_filter,
    Bool.and_eq_true, beq_iff_eq, Bool.not_eq_true', and_true]
  constructor
  · rintro ⟨message, ⟨inside, here, kept⟩, rfl⟩
    exact ⟨message, (Table.find?_some_iff _ _ _).mpr ⟨inside, rfl⟩, here, kept, rfl⟩
  · rintro ⟨message, found, here, kept, seq⟩
    obtain ⟨inside, id⟩ := (Table.find?_some_iff _ _ _).mp found
    exact ⟨message, ⟨inside, here, kept⟩, Prod.ext id seq⟩

theorem marks_distinct {db : Db} (numbered : Numbered chatId db) :
    ((db.marks chatId).map Prod.snd).Nodup := by
  have fewer : (db.liveMessages chatId fun _ => true).Sublist
      (db.messages.select fun message => message.chatId == chatId) := by
    refine List.monotone_filter_right _ fun message kept => ?_
    simp only [Bool.and_eq_true] at kept
    exact kept.1.1
  rw [Db.marks, List.map_map]
  exact numbered.distinct.sublist (fewer.map (·.seq))

theorem same_seq {db : Db} (numbered : Numbered chatId db) {left right : Message}
    {leftId rightId : MessageId} (leftFound : db.message? leftId = some left)
    (rightFound : db.message? rightId = some right) (leftHere : left.chatId = chatId)
    (rightHere : right.chatId = chatId) (same : left.seq = right.seq) : leftId = rightId := by
  obtain ⟨leftRow, rfl⟩ := (Table.find?_some_iff _ _ _).mp leftFound
  obtain ⟨rightRow, rfl⟩ := (Table.find?_some_iff _ _ _).mp rightFound
  have inside : ∀ message ∈ db.messages.rows, message.chatId = chatId →
      message ∈ db.messages.select fun message => message.chatId == chatId :=
    fun message row here => List.mem_filter.mpr ⟨row, beq_iff_eq.mpr here⟩
  exact congrArg Message.id (List.inj_on_of_nodup_map numbered.distinct (inside left leftRow leftHere)
    (inside right rightRow rightHere) same)

theorem settled_marks {before after : Db} (early : Numbered chatId before)
    (late : Numbered chatId after) (outlives : Outlives before after) :
    Paging.Settled Prod.snd (before.marks chatId) (after.marks chatId) := by
  rintro ⟨id, seq⟩ member ⟨⟨otherId, otherSeq⟩, shown, below⟩
  obtain ⟨message, found, here, kept, rfl⟩ := mem_marks.mp member
  obtain ⟨other, otherFound, otherHere, _, rfl⟩ := mem_marks.mp shown
  have inUse : ∀ {db : Db} {id : MessageId} {message : Message}, db.message? id = some message →
      message.chatId = chatId → message.seq ∈ db.seqs chatId := by
    intro db id message found here
    exact (mem_seqs_iff db chatId _).mpr
      ⟨message, ((Table.find?_some_iff _ _ _).mp found).1, here, rfl⟩
  have positive : 1 ≤ message.seq := ((late.exact _).mp (inUse found here)).1
  have counted : other.seq ≤ before.seqCounter chatId :=
    ((early.exact _).mp (inUse otherFound otherHere)).2
  have used : message.seq ∈ before.seqs chatId :=
    (early.exact _).mpr ⟨positive, Nat.le_trans below counted⟩
  obtain ⟨old, row, oldHere, oldSeq⟩ := (mem_seqs_iff before chatId _).mp used
  have oldFound : before.message? old.id = some old := (Table.find?_some_iff _ _ _).mpr ⟨row, rfl⟩
  obtain ⟨later, laterFound, laterHere, laterSeq, gone⟩ := outlives old.id old oldFound
  have same : old.id = id :=
    same_seq late laterFound found (laterHere.trans oldHere) here (laterSeq.trans oldSeq)
  rw [same] at oldFound laterFound
  refine mem_marks.mpr ⟨old, oldFound, oldHere, ?_, oldSeq⟩
  cases flagged : old.isDeleted with
  | false => rfl
  | true =>
      rw [Option.some.inj (laterFound.symm.trans found)] at gone
      rw [gone flagged] at kept
      cases kept

section Page

variable (db : Db) (cursorSeq : Int) (limit : Nat)

theorem messagesAfterSeq_eq (lastSeq : Nat) : db.messagesAfterSeq chatId lastSeq limit =
    (Paging.past (·.seq) lastSeq (db.liveMessages chatId fun _ => true)).take (limit + 1) := by
  have later : db.liveMessages chatId (fun message => decide (lastSeq < message.seq)) =
      (db.liveMessages chatId fun _ => true).filter fun message => decide (lastSeq < message.seq) := by
    rw [Db.liveMessages, Db.liveMessages, Table.select, Table.select, List.filter_filter]
    refine List.filter_congr fun message _ => ?_
    rw [Bool.and_true, Bool.and_comm]
  rw [Db.messagesAfterSeq, oldestFirst, later]
  rfl

theorem replay_batch : (db.messagesAfterSeq chatId cursorSeq.toNat limit).take limit =
    Paging.page (·.seq) cursorSeq.toNat limit (db.liveMessages chatId fun _ => true) := by
  rw [messagesAfterSeq_eq, List.take_take, Nat.min_eq_left (Nat.le_succ limit)]
  rfl

theorem replay_marks : (db.replay chatId cursorSeq limit).marks =
    Paging.page Prod.snd cursorSeq.toNat limit (db.marks chatId) := by
  rw [Db.marks, Paging.page_map, ReplayDTO.marks, Db.replay]
  simp only [List.map_map]
  rw [replay_batch]
  rfl

theorem replay_hasMore : (db.replay chatId cursorSeq limit).hasMore =
    Paging.hasMore Prod.snd cursorSeq.toNat limit (db.marks chatId) := by
  rw [Db.marks, Paging.hasMore_map, Db.replay]
  simp only [messagesAfterSeq_eq]
  rfl

theorem replay_nextLastSeq : (db.replay chatId cursorSeq limit).nextLastSeq =
    Paging.nextCursor Prod.snd cursorSeq.toNat limit (db.marks chatId) := by
  rw [Db.marks, Paging.nextCursor_map, Db.replay]
  simp only [replay_batch]
  rfl

end Page

end Marks

end Messanger
