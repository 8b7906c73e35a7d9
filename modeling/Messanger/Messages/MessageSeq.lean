import Mathlib.Algebra.GroupWithZero.Nat
import Messanger.Messages.CommandsCore

/-!
The numbers of the messages of a chat.  Every command that posts allocates its numbers with an
`UPDATE` of the chat row and holds that row until it ends; at its commit it has inserted exactly
the messages the numbers were allocated for.
-/

namespace Messanger

open Relational

namespace Db

variable (db : Db) (chatId : ChatId)

/-- The numbers of all messages of the chat, deleted ones included. -/
def seqs : List Nat := (db.messages.select fun message => message.chatId == chatId).map (·.seq)

def seqCounter : Nat := ((db.chat? chatId).map (·.seqCounter)).getD 0

end Db

namespace Write

/-- The message an `INSERT` of `messages` adds. -/
def posted? : Write → Option Message
  | .insertMessage message => some message
  | _ => none

def allotted (chatId : ChatId) : Write → Nat
  | .allocateMessageSeq target count _ => if target = chatId then count else 0
  | _ => 0

def Silent : Write → Prop
  | .insertChat _ => False
  | .allocateMessageSeq _ _ _ => False
  | .insertMessage _ => False
  | .editMessage _ _ => False
  | .deleteMessage _ => False
  | _ => True

end Write

def posted (log : List Write) : List Message := log.filterMap Write.posted?

def allotted (chatId : ChatId) (log : List Write) : Nat := (log.map (Write.allotted chatId)).sum

def seqsIn (chatId : ChatId) (messages : List Message) : List Nat :=
  (messages.filter fun message => message.chatId == chatId).map (·.seq)

/-- The seqs of the chat's messages are distinct and are exactly 1 … `seq_counter`. -/
structure Numbered (chatId : ChatId) (db : Db) : Prop where
  distinct : (db.seqs chatId).Nodup
  exact : ∀ seq, seq ∈ db.seqs chatId ↔ 1 ≤ seq ∧ seq ≤ db.seqCounter chatId

structure SeqView where
  counter : Nat := 0
  seqs : List Nat := []
  present : Bool := false

/-- The holder of the chat row relies on the counter and the numbers in use, the holder of a
message key on the message being there or not. -/
def seqContract (chatId : ChatId) : Contract Db Write RowKey SeqView where
  inv db := (db.chat? chatId).isSome ∧ Numbered chatId db
  view key db :=
    match key with
    | .chat target =>
        if target = chatId then { counter := db.seqCounter chatId, seqs := db.seqs chatId } else {}
    | .message messageId => { present := (db.message? messageId).isSome }
    | _ => {}
  ok _ _ := True

section Applying

variable {chatId : ChatId}

def Write.Posting (write : Write) : Prop :=
  write.Silent ∨ (∃ message, write = .insertMessage message) ∨
    ∃ target count date, write = .allocateMessageSeq target count date

theorem seqCounter_updateChat (db : Db) (target : ChatId) (change : Chat → Chat)
    (keeps : ∀ chat, (change chat).id = chat.id)
    (same : ∀ chat, (change chat).seqCounter = chat.seqCounter) :
    (db.updateChat target change keeps).seqCounter chatId = db.seqCounter chatId := by
  rw [Db.seqCounter, Db.seqCounter, Db.chat_updateChat, Option.map_map]
  refine congrArg (fun view => ((db.chat? chatId).map view).getD 0) (funext fun chat => ?_)
  simp only [Function.comp_apply]
  split
  · exact same chat
  · rfl

theorem seqCounter_silent (db : Db) (write : Write) (silent : write.Silent) :
    (Db.apply write db).seqCounter chatId = db.seqCounter chatId := by
  cases write
  case insertChat => cases silent
  case allocateMessageSeq => cases silent
  case patchChat => exact seqCounter_updateChat db _ _ _ fun _ => rfl
  case shiftMemberCount => exact seqCounter_updateChat db _ _ _ fun _ => rfl
  all_goals rfl

theorem messages_silent (db : Db) (write : Write) (silent : write.Silent) :
    (Db.apply write db).messages = db.messages := by
  cases write <;> first | rfl | cases silent

theorem seqCounter_allocate (db : Db) (target : ChatId) (count date : Nat)
    (known : (db.chat? chatId).isSome) :
    (Db.apply (.allocateMessageSeq target count date) db).seqCounter chatId =
      db.seqCounter chatId + (Write.allocateMessageSeq target count date).allotted chatId := by
  rw [Db.apply, Db.seqCounter, Db.seqCounter, Db.chat_updateChat]
  obtain ⟨chat, found⟩ := Option.isSome_iff_exists.mp known
  have key : chat.id = chatId := Table.key_of_find? found
  rw [found]
  simp only [Option.map_some, Option.getD_some, key, Write.allotted, eq_comm (a := chatId)]
  split
  · rfl
  · rfl

theorem seqs_insert (db : Db) (message : Message) (absent : db.message? message.id = none) :
    (Db.apply (.insertMessage message) db).seqs chatId =
      db.seqs chatId ++ seqsIn chatId [message] := by
  simp only [Db.apply, Db.seqs, Table.select, seqsIn]
  rw [Table.rows_insert _ _ absent, List.filter_append, List.map_append]

theorem posted_cons (write : Write) (log : List Write) :
    posted (write :: log) = write.posted?.toList ++ posted log := by
  cases found : write.posted? <;> simp [posted, found]

theorem seqsIn_append (left right : List Message) :
    seqsIn chatId (left ++ right) = seqsIn chatId left ++ seqsIn chatId right := by
  simp [seqsIn]

theorem apply_posting (db : Db) (write : Write) (posting : write.Posting)
    (known : (db.chat? chatId).isSome)
    (free : ∀ message ∈ write.posted?.toList, db.message? message.id = none) :
    (Db.apply write db).seqCounter chatId = db.seqCounter chatId + write.allotted chatId ∧
    (Db.apply write db).seqs chatId = db.seqs chatId ++ seqsIn chatId write.posted?.toList ∧
    ∀ messageId, ((Db.apply write db).message? messageId).isSome =
      ((db.message? messageId).isSome ||
        decide (messageId ∈ write.posted?.toList.map (·.id))) := by
  rcases posting with silent | ⟨message, rfl⟩ | ⟨target, count, date, rfl⟩
  · have nothing : write.posted? = none ∧ write.allotted chatId = 0 := by
      cases write <;> first | exact ⟨rfl, rfl⟩ | cases silent
    rw [nothing.1, nothing.2, seqCounter_silent db write silent]
    refine ⟨rfl, ?_, fun messageId => ?_⟩
    · simp [Db.seqs, messages_silent db write silent, seqsIn]
    · simp [Db.message?, messages_silent db write silent]
  · refine ⟨rfl, seqs_insert db message (free message (by simp [Write.posted?])), ?_⟩
    intro messageId
    rw [Db.message_insertMessage]
    by_cases same : message.id = messageId
    · simp [Write.posted?, same]
    · simp [Write.posted?, same, Ne.symm same]
  · refine ⟨seqCounter_allocate db target count date known, ?_, fun messageId => ?_⟩
    · simp [Db.seqs, Db.apply, Db.updateChat, Write.posted?, seqsIn]
    · simp [Db.message?, Db.apply, Db.updateChat, Write.posted?]

theorem applyAll_posting (log : List Write) : ∀ db : Db, (∀ write ∈ log, write.Posting) →
    (db.chat? chatId).isSome → (∀ message ∈ posted log, db.message? message.id = none) →
    ((posted log).map (·.id)).Nodup →
      ((applyAll log db).chat? chatId).isSome ∧
      (applyAll log db).seqCounter chatId = db.seqCounter chatId + allotted chatId log ∧
      (applyAll log db).seqs chatId = db.seqs chatId ++ seqsIn chatId (posted log) ∧
      ∀ messageId, ((applyAll log db).message? messageId).isSome =
        ((db.message? messageId).isSome || decide (messageId ∈ (posted log).map (·.id))) := by
  induction log with
  | nil =>
      intro db _ known _ _
      refine ⟨known, rfl, ?_, fun messageId => ?_⟩
      · simp [posted, seqsIn]
      · simp [posted]
  | cons write rest ih =>
      intro db posting known free apart
      rw [posted_cons] at free apart ⊢
      rw [List.map_append, List.nodup_append] at apart
      obtain ⟨_, distinct, disjoint⟩ := apart
      obtain ⟨counter, seqs, present⟩ := apply_posting db write
        (posting write List.mem_cons_self) known fun message member =>
          free message (List.mem_append_left _ member)
      obtain ⟨stays, restCounter, restSeqs, restPresent⟩ := ih (Db.apply write db)
        (fun other member => posting other (List.mem_cons_of_mem _ member))
        (db.chat_stays chatId write known)
        (fun message member => by
          have fresh : (db.message? message.id).isSome = false := by
            simp [free message (List.mem_append_right _ member)]
          have other : message.id ∉ write.posted?.toList.map (·.id) := fun taken =>
            disjoint _ taken _ (List.mem_map_of_mem member) rfl
          have absent := present message.id
          rw [fresh, decide_eq_false other] at absent
          simpa using absent) distinct
      rw [applyAll_cons, Db.apply_eq]
      refine ⟨stays, ?_, ?_, fun messageId => ?_⟩
      · rw [restCounter, counter, Nat.add_assoc]
        rfl
      · rw [restSeqs, seqs, seqsIn_append, List.append_assoc]
      · rw [restPresent, present, Bool.or_assoc]
        simp only [List.map_append, List.mem_append, Bool.decide_or]

end Applying

section Numbering

variable {chatId : ChatId}

/-- Where a posting session stands: of the numbers it allocated in the chat, the first belong to
the messages it has inserted and the rest to the messages still to come. -/
structure Numbering (chatId : ChatId) (held : List RowKey) (log : List Write) (db : Db)
    (todo : List Message) : Prop where
  posting : ∀ write ∈ log, write.Posting
  locked : allotted chatId log ≠ 0 → RowKey.chat chatId ∈ held
  reserved : ∀ message ∈ posted log, RowKey.message message.id ∈ held
  free : ∀ message ∈ posted log, db.message? message.id = none
  distinct : ((posted log).map (·.id)).Nodup
  consecutive : seqsIn chatId (posted log ++ todo) =
    List.range' (db.seqCounter chatId + 1) (allotted chatId log)

variable {held : List RowKey} {log : List Write} {db after : Db} {todo : List Message}

theorem posted_append (first second : List Write) :
    posted (first ++ second) = posted first ++ posted second := List.filterMap_append

theorem allotted_append (first second : List Write) :
    allotted chatId (first ++ second) = allotted chatId first + allotted chatId second := by
  simp [allotted]

theorem Numbering.stable (numbering : Numbering chatId held log db todo)
    (rely : (seqContract chatId).Rely held db after) : Numbering chatId held log after todo where
  posting := numbering.posting
  locked := numbering.locked
  reserved := numbering.reserved
  free := by
    intro message member
    have same := rely.kept _ (numbering.reserved message member)
    simp only [seqContract, SeqView.mk.injEq, true_and, numbering.free message member] at same
    simpa using same
  distinct := numbering.distinct
  consecutive := by
    rw [numbering.consecutive]
    by_cases none : allotted chatId log = 0
    · rw [none]
      rfl
    · have same := rely.kept _ (numbering.locked none)
      simp only [seqContract, if_true, SeqView.mk.injEq] at same
      rw [same.1]

theorem Numbering.silent {locks : List RowKey} {writes : List Write}
    (numbering : Numbering chatId held log db todo) (silent : ∀ write ∈ writes, write.Silent) :
    Numbering chatId (held ++ locks) (log ++ writes) db todo := by
  have nothing : posted writes = [] ∧ allotted chatId writes = 0 := by
    induction writes with
    | nil => exact ⟨rfl, rfl⟩
    | cons write rest ih =>
        obtain ⟨none, zero⟩ := ih fun other member => silent other (List.mem_cons_of_mem _ member)
        have quiet := silent write List.mem_cons_self
        rw [posted_cons, none, allotted, List.map_cons, List.sum_cons, ← allotted, zero]
        cases write <;> first | exact ⟨rfl, rfl⟩ | cases quiet
  have postedSame : posted (log ++ writes) = posted log := by
    rw [posted_append, nothing.1, List.append_nil]
  have allottedSame : allotted chatId (log ++ writes) = allotted chatId log := by
    rw [allotted_append, nothing.2, Nat.add_zero]
  refine ⟨fun write member => ?_, fun some => ?_, fun message member => ?_, ?_, ?_, ?_⟩
  · rcases List.mem_append.mp member with logged | written
    · exact numbering.posting write logged
    · exact .inl (silent write written)
  · rw [allottedSame] at some
    exact List.mem_append_left _ (numbering.locked some)
  · rw [postedSame] at member
    exact List.mem_append_left _ (numbering.reserved message member)
  · rw [postedSame]
    exact numbering.free
  · rw [postedSame]
    exact numbering.distinct
  · rw [postedSame, allottedSame]
    exact numbering.consecutive

theorem Numbering.commits (numbering : Numbering chatId held log db []) :
    (seqContract chatId).Commits held log db := by
  intro after rely
  have now := numbering.stable rely
  obtain ⟨known, numbered⟩ := rely.inv
  obtain ⟨stays, counter, seqs, present⟩ :=
    applyAll_posting log after now.posting known now.free now.distinct
  have block := now.consecutive
  rw [List.append_nil] at block
  refine ⟨⟨stays, ?_, fun seq => ?_⟩, trivial, fun key outside => ?_⟩
  · rw [seqs, block, List.nodup_append]
    refine ⟨numbered.distinct, List.nodup_range', fun old used new fresh => ?_⟩
    have bound := (numbered.exact old).mp used
    rw [List.mem_range'_1] at fresh
    omega
  · rw [seqs, block, counter, List.mem_append, numbered.exact, List.mem_range'_1]
    omega
  · cases key with
    | chat target =>
        simp only [seqContract]
        split
        · rename_i here
          rw [here] at outside
          have none : allotted chatId log = 0 := by
            by_contra some
            exact outside (now.locked some)
          rw [counter, seqs, block, none]
          simp
        · rfl
    | message messageId =>
        have other : messageId ∉ (posted log).map (·.id) := by
          intro member
          obtain ⟨message, listed, rfl⟩ := List.mem_map.mp member
          exact outside (now.reserved message listed)
        simp only [seqContract, present, decide_eq_false other, Bool.or_false]
    | _ => rfl

end Numbering

section Steps

variable {chatId : ChatId} {Result : Type} {Post : Result → List RowKey → List Write → Db → Prop}
  {held : List RowKey} {log : List Write} {db : Db} {todo : List Message}

theorem safe_silent {Answer : Type} {locks : Db → List RowKey} {writes : Db → List Write}
    {answer : Db → Except ChatError Answer} {rest : Answer → Handler Result}
    (numbering : Numbering chatId held log db todo)
    (silent : ∀ seen, ∀ write ∈ writes seen, write.Silent)
    (next : ∀ result held log db, Numbering chatId held log db todo →
      (seqContract chatId).Safe Post (rest result) held log db) :
    (seqContract chatId).Safe Post ((Tx.statement locks writes answer).bind rest) held log db :=
  Contract.safe_statement fun _ rely _ _ _ =>
    next _ _ _ _ ((numbering.stable rely).silent (silent _))

theorem safe_allocate {target : ChatId} {date count : Nat} {error : ChatError}
    {rest : Nat → Handler Result}
    (next : ∀ before held log db, (∀ messages, (∀ message ∈ messages, message.chatId = target) →
        messages.map (·.seq) = List.range' (before + 1) count →
          Numbering chatId held log db messages) →
      (seqContract chatId).Safe Post (rest (before + count)) held log db) :
    (seqContract chatId).Safe Post
      ((allocateMessageSeq target date count).bind fun allocated =>
        (Tx.orRaise allocated error).bind rest) held [] db := by
  refine Contract.safe_statement fun after _ _ _ answered => ?_
  refine Contract.safe_orRaise fun seq allocated => ?_
  rw [allocated, Except.ok.injEq] at answered
  obtain ⟨chat, found, rfl⟩ := Option.map_eq_some_iff.mp answered
  rw [applyAll_nil] at found
  simp only [applyAll_nil, found, Option.isSome_some, if_true, List.nil_append]
  refine next _ _ _ _ fun messages inTarget numbers => ⟨?_, ?_, ?_, ?_, ?_, ?_⟩
  · intro write member
    rw [List.mem_singleton.mp member]
    exact .inr (.inr ⟨_, _, _, rfl⟩)
  · intro some
    by_cases here : target = chatId
    · simp [here]
    · simp [allotted, Write.allotted, here] at some
  · exact fun _ member => nomatch member
  · exact fun _ member => nomatch member
  · exact List.nodup_nil
  · have stored : after.chat? target = some chat := (Option.filter_eq_some_iff.mp found).1
    by_cases here : target = chatId
    · subst here
      have all : messages.filter (fun message => message.chatId == target) = messages :=
        List.filter_eq_self.mpr fun message member => by simp [inTarget message member]
      simp only [posted, List.filterMap_cons, Write.posted?, List.filterMap_nil, List.nil_append,
        seqsIn, all, numbers, allotted, Write.allotted, if_true, List.map_cons, List.map_nil,
        List.sum_singleton, Db.seqCounter, stored, Option.map_some, Option.getD_some]
    · have none : messages.filter (fun message => message.chatId == chatId) = [] :=
        List.filter_eq_nil_iff.mpr fun message member => by simp [inTarget message member, here]
      simp [posted, Write.posted?, seqsIn, none, allotted, Write.allotted, here]

theorem safe_insertMessage {message : Message} {rest : Unit → Handler Result}
    (numbering : Numbering chatId held log db (message :: todo))
    (next : ∀ held log db, Numbering chatId held log db todo →
      (seqContract chatId).Safe Post (rest ()) held log db) :
    (seqContract chatId).Safe Post ((insertMessage message).bind rest) held log db := by
  refine Contract.safe_statement fun after rely _ _ answered => ?_
  split at answered
  · cases answered
  · rename_i free
    rw [if_neg free]
    refine next _ _ _ ?_
    have now := numbering.stable rely
    obtain ⟨_, _, _, present⟩ :=
      @applyAll_posting chatId log after now.posting rely.inv.1 now.free now.distinct
    have untaken : ((applyAll log after).message? message.id).isSome = false :=
      Bool.eq_false_iff.mpr free
    have absent := present message.id
    rw [untaken, eq_comm, Bool.or_eq_false_iff] at absent
    have postedNow : posted (log ++ [.insertMessage message]) = posted log ++ [message] := by
      rw [posted_append]
      rfl
    have allottedNow : allotted chatId (log ++ [.insertMessage message]) = allotted chatId log := by
      rw [allotted_append]
      rfl
    refine ⟨fun write member => ?_, fun some => ?_, ?_, ?_, ?_, ?_⟩
    · rcases List.mem_append.mp member with logged | written
      · exact now.posting write logged
      · rw [List.mem_singleton.mp written]
        exact .inr (.inl ⟨message, rfl⟩)
    · rw [allottedNow] at some
      exact List.mem_append_left _ (now.locked some)
    · rw [postedNow]
      intro other member
      rcases List.mem_append.mp member with logged | written
      · exact List.mem_append_left _ (now.reserved other logged)
      · rw [List.mem_singleton.mp written]
        simp
    · rw [postedNow]
      intro other member
      rcases List.mem_append.mp member with logged | written
      · exact now.free other logged
      · rw [List.mem_singleton.mp written]
        simpa using absent.1
    · rw [postedNow, List.map_append, List.nodup_append]
      refine ⟨now.distinct, List.nodup_singleton _, fun old used new fresh => ?_⟩
      rw [List.mem_singleton.mp fresh]
      rintro rfl
      exact of_decide_eq_false absent.2 used
    · rw [postedNow, allottedNow, List.append_assoc, List.singleton_append]
      exact now.consecutive

theorem safe_silentEach {Item : Type} {action : Item → Handler Unit} {rest : Unit → Handler Result}
    (silent : ∀ item, ∃ locks writes answer, action item = Tx.statement locks writes answer ∧
      ∀ seen, ∀ write ∈ writes seen, write.Silent)
    (numbering : Numbering chatId held log db todo)
    (next : ∀ held log db, Numbering chatId held log db todo →
      (seqContract chatId).Safe Post (rest ()) held log db) (items : List Item) :
    (seqContract chatId).Safe Post ((Tx.each action items).bind rest) held log db := by
  refine Contract.safe_each (fun _ held log db => Numbering chatId held log db todo)
    (fun item _ held log db _ standing round => ?_) next items held log db numbering
  obtain ⟨locks, writes, answer, same, quiet⟩ := silent item
  rw [same]
  exact safe_silent standing quiet fun _ => round

theorem insertAttachment_silent (attachment : MessageAttachment) :
    ∃ locks writes answer, insertAttachment attachment = Tx.statement locks writes answer ∧
      ∀ seen, ∀ write ∈ writes seen, write.Silent := by
  refine ⟨_, _, _, rfl, fun seen write member => ?_⟩
  split at member
  · cases member
  · rw [List.mem_singleton.mp member]
    trivial

theorem bindAttachment_silent (messageId : MessageId) (seq : Nat) (attachment : MessageAttachment) :
    ∃ locks writes answer,
      bindAttachment messageId seq attachment = Tx.statement locks writes answer ∧
        ∀ seen, ∀ write ∈ writes seen, write.Silent := by
  refine ⟨_, _, _, rfl, fun seen write member => ?_⟩
  split at member
  · rw [List.mem_singleton.mp member]
    trivial
  · cases member

theorem safe_saveMessage {created : Message × List MessageAttachment} {rest : Unit → Handler Result}
    (numbering : Numbering chatId held log db (created.1 :: todo))
    (next : ∀ held log db, Numbering chatId held log db todo →
      (seqContract chatId).Safe Post (rest ()) held log db) :
    (seqContract chatId).Safe Post ((saveMessage created).bind rest) held log db := by
  unfold saveMessage
  rw [Tx.bind_eq, Tx.bind_assoc]
  refine safe_insertMessage numbering fun held log db standing => ?_
  exact safe_silentEach insertAttachment_silent standing next _

theorem safe_publishLast {events : List ChatEvent} {result : Unit → Result}
    (numbering : Numbering chatId held log db []) :
    (seqContract chatId).Safe (fun _ _ _ _ => True)
      ((publish events).bind fun _ => (Tx.commitNow : Handler Unit).bind fun ended =>
        .done (result ended)) held log db := by
  refine safe_silent numbering (fun seen write member => ?_) fun _ held log db standing =>
    Contract.safe_commit_last standing.commits
  rw [List.mem_singleton.mp member]
  trivial

end Steps

theorem created_number {draft : Message.Draft} {id : MessageId} {seq : Nat}
    {created : Message × List MessageAttachment} (built : Message.create draft id seq = .ok created) :
    created.1.chatId = draft.chatId ∧ created.1.seq = seq := by
  rw [(Message.create_ok built).1]
  exact ⟨rfl, rfl⟩

section Programs

variable {chatId : ChatId} (user : UserJWTData) (now : Nat)

theorem numbers_sendMessage (target : ChatId) (new : NewMessage) (slowTtl : Option Nat)
    (id : MessageId) : (seqContract chatId).Keeps (sendMessage user now target new slowTtl id) := by
  intro db _
  unfold sendMessage
  simp only [Tx.bind_eq, Tx.pure_eq]
  refine Contract.safe_query fun _ _ found _ => Contract.safe_require fun _ => ?_
  refine Contract.safe_query fun _ _ _ _ => Contract.safe_ofExcept fun _ _ => ?_
  refine Contract.safe_read fun _ _ => Contract.safe_require fun _ => ?_
  refine Contract.safe_query fun _ _ _ _ => safe_allocate fun before held log db reserved => ?_
  refine Contract.safe_ofExcept fun created built => ?_
  obtain ⟨inChat, number⟩ := created_number built
  refine safe_insertMessage (reserved [created.1] (by simpa using inChat) (by simp [number]))
    fun held log db numbering => ?_
  exact safe_silentEach (bindAttachment_silent id _) numbering
    (fun held log db numbering => safe_publishLast numbering) _

theorem numbers_forwardMessage (source : ForwardSource) (target : ChatId)
    (comment : Option String) (slowTtl : Option Nat) (id : MessageId)
    (fresh : Nat → AttachmentId) : (seqContract chatId).Keeps
      (forwardMessage user now source target comment slowTtl id fresh) := by
  intro db _
  unfold forwardMessage
  simp only [Tx.bind_eq, Tx.pure_eq]
  refine Contract.safe_read fun _ _ => Contract.safe_orRaise fun _ _ => ?_
  refine Contract.safe_read fun _ _ => Contract.safe_orRaise fun original _ => ?_
  refine Contract.safe_require fun _ => Contract.safe_require fun _ => ?_
  refine Contract.safe_query fun _ _ found _ => Contract.safe_require fun _ => ?_
  refine Contract.safe_query fun _ _ _ _ => Contract.safe_ofExcept fun _ _ => ?_
  refine safe_allocate fun before held log db reserved => ?_
  refine Contract.safe_ofExcept fun created built => ?_
  obtain ⟨inChat, number⟩ := created_number built
  refine safe_saveMessage (reserved [created.1] (by simpa using inChat) (by simp [number])) ?_
  exact fun held log db numbering => safe_publishLast numbering

theorem numbers_pinMessage (target : ChatId) (messageId noticeId : MessageId) :
    (seqContract chatId).Keeps (pinMessage user now target messageId noticeId) := by
  intro db _
  unfold pinMessage
  simp only [Tx.bind_eq, Tx.pure_eq]
  refine Contract.safe_statement fun _ _ _ _ _ => Contract.safe_orRaise fun chat _ => ?_
  rw [List.append_nil]
  refine Contract.safe_read fun _ _ => Contract.safe_ofExcept fun _ _ => ?_
  refine Contract.safe_read fun _ _ => Contract.safe_orRaise fun message _ => ?_
  refine Contract.safe_require fun _ => Contract.safe_read fun _ _ => ?_
  split
  · exact Contract.safe_done fun _ _ => trivial
  · refine Contract.safe_read fun _ _ => Contract.safe_ofExcept fun pin _ => ?_
    refine safe_allocate fun before held log db reserved => ?_
    refine Contract.safe_ofExcept fun notice built => ?_
    obtain ⟨inChat, number⟩ := created_number built
    refine safe_insertMessage (reserved [notice.1] (by simpa using inChat) (by simp [number]))
      fun held log db numbering => ?_
    refine safe_silent numbering (fun seen write member => ?_)
      fun _ held log db numbering => safe_publishLast numbering
    split at member
    · cases member
    · rw [List.mem_singleton.mp member]
      trivial

theorem buildMessages_numbers {ids : Nat → MessageId} {firstSeq : Nat} {drafts : List Message.Draft}
    {created : List (Message × List MessageAttachment)}
    (built : buildMessages ids firstSeq drafts = .ok created) :
    (created.map (·.1)).map (·.seq) = List.range' firstSeq drafts.length := by
  have made := mapM_ok built
  have length : created.length = drafts.length := by
    rw [← made.length_eq, List.length_mapIdx]
  refine List.ext_getElem (by simp [length]) fun position here _ => ?_
  simp only [List.length_map] at here
  have step := made.get (by simpa [length] using here) here
  simp only [List.get_eq_getElem, List.getElem_mapIdx] at step
  simp [(created_number step).2]

theorem numbers_forwardMessages (source : ChatId) (sourceIds : List MessageId) (target : ChatId)
    (hideAuthor : Bool) (comment : Option String) (slowTtl : Option Nat) (ids : Nat → MessageId)
    (fresh : Nat → Nat → AttachmentId) : (seqContract chatId).Keeps
      (forwardMessages user now source sourceIds target hideAuthor comment slowTtl ids fresh) := by
  intro db _
  unfold forwardMessages
  simp only [Tx.bind_eq, Tx.pure_eq]
  refine Contract.safe_read fun _ _ => Contract.safe_orRaise fun _ _ => ?_
  refine Contract.safe_require fun _ => Contract.safe_require fun _ => ?_
  refine Contract.safe_read fun _ _ => Contract.safe_require fun _ => ?_
  refine Contract.safe_require fun _ => Contract.safe_query fun _ _ found _ => ?_
  refine Contract.safe_require fun _ => Contract.safe_query fun _ _ _ _ => ?_
  refine Contract.safe_ofExcept fun _ _ => safe_allocate fun before held log db reserved => ?_
  refine Contract.safe_ofExcept fun created built => ?_
  rw [Nat.add_sub_cancel] at built
  have numbering := reserved (created.map (·.1)) (fun message member => ?_)
    (buildMessages_numbers built)
  · refine Contract.safe_each
      (fun todo held log db => Numbering chatId held log db (todo.map (·.1)))
      (fun entry _ held log db _ standing round => safe_saveMessage standing round)
      (fun held log db standing => safe_publishLast standing) created held log db numbering
  · obtain ⟨entry, listed, rfl⟩ := List.mem_map.mp member
    obtain ⟨index, draft, drafted, made⟩ := buildMessages_ok built entry listed
    rw [(created_number made).1]
    exact (forwardDrafts_ok draft drafted).2.1

end Programs

/-- The commands that post messages. -/
inductive PostingCommand : Handler Unit → Prop
  | sendMessage (user now chatId new slowTtl id) :
      PostingCommand (sendMessage user now chatId new slowTtl id).void
  | forwardMessage (user now source chatId comment slowTtl id fresh) :
      PostingCommand (forwardMessage user now source chatId comment slowTtl id fresh).void
  | forwardMessages (user now source sourceIds chatId hideAuthor comment slowTtl ids fresh) :
      PostingCommand
        (forwardMessages user now source sourceIds chatId hideAuthor comment slowTtl ids fresh).void
  | pinMessage (user now chatId messageId noticeId) :
      PostingCommand (pinMessage user now chatId messageId noticeId).void

theorem numbers_postingCommand (chatId : ChatId) {program : Handler Unit}
    (command : PostingCommand program) : (seqContract chatId).Keeps program := by
  cases command with
  | sendMessage user now target new slowTtl id =>
      exact Contract.keeps_void (numbers_sendMessage user now target new slowTtl id)
  | forwardMessage user now source target comment slowTtl id fresh =>
      exact Contract.keeps_void
        (numbers_forwardMessage user now source target comment slowTtl id fresh)
  | forwardMessages user now source sourceIds target hideAuthor comment slowTtl ids fresh =>
      exact Contract.keeps_void (numbers_forwardMessages user now source sourceIds target hideAuthor
        comment slowTtl ids fresh)
  | pinMessage user now target messageId noticeId =>
      exact Contract.keeps_void (numbers_pinMessage user now target messageId noticeId)

theorem mem_seqs_iff (db : Db) (chatId : ChatId) (seq : Nat) :
    seq ∈ db.seqs chatId ↔
      ∃ message ∈ db.messages.rows, message.chatId = chatId ∧ message.seq = seq := by
  simp [Db.seqs, Table.select, and_assoc]

/-- In every interleaving of sends, forwards and pins the numbers of the chat's committed messages
are distinct and exactly 1 … `seq_counter`, so a reader who sees a message sees its predecessor. -/
theorem seqs_exact_in_run (chatId : ChatId) (db : Db) (known : (db.chat? chatId).isSome)
    (start : Numbered chatId db) (final : System Db Write RowKey ChatError)
    (run : Run PostingCommand (fun _ _ => True) (System.idle db) final) :
    Numbered chatId final.db ∧
      ∀ seq, 1 ≤ seq →
        (∃ message ∈ final.db.messages.rows, message.chatId = chatId ∧ message.seq = seq + 1) →
        ∃ message ∈ final.db.messages.rows, message.chatId = chatId ∧ message.seq = seq := by
  have holds : (seqContract chatId).inv final.db :=
    Contract.run_inv (fun _ command => numbers_postingCommand chatId command)
      (Contract.sound_idle ⟨known, start⟩) run
  refine ⟨holds.2, fun seq positive later => ?_⟩
  rw [← mem_seqs_iff, holds.2.exact] at later ⊢
  omega

def emptyGroup : Db :=
  applyAll
    [.insertChat { id := 1, type := .group, createdBy := 1, memberCount := 2 },
      .insertMember 1 1 .owner, .insertMember 1 2 .member] {}

theorem emptyGroup_numbered : Numbered 1 emptyGroup := by
  have none : emptyGroup.seqs 1 = [] := by decide +kernel
  have zero : emptyGroup.seqCounter 1 = 0 := by decide +kernel
  refine ⟨?_, fun seq => ?_⟩
  · rw [none]
    exact List.nodup_nil
  · rw [none, zero]
    simp only [List.not_mem_nil, false_iff]
    omega

def sendBy (userId : UserId) (id : MessageId) : Handler Unit :=
  (sendMessage { id := userId } 0 1 { content := some "hi" } none id).void

def interleavedSends : List (Label Db Write RowKey ChatError) :=
  [Label.start (sendBy 1 10), Label.start (sendBy 2 11)] ++ List.replicate 6 (Label.exec 0) ++
    List.replicate 4 (Label.exec 1) ++ List.replicate 2 (Label.exec 0) ++
    List.replicate 4 (Label.exec 1)

theorem seqs_exact_after_sends :
    ∃ final, (System.idle emptyGroup).steps (fun _ _ => true) interleavedSends = some final ∧
      final.db.seqs 1 = [1, 2] ∧ Numbered 1 final.db := by
  have outcome : ((System.idle emptyGroup).steps (fun _ _ => true) interleavedSends).map
      (fun final => final.db.seqs 1) = some [1, 2] := by decide +kernel
  obtain ⟨final, reached, numbers⟩ := Option.map_eq_some_iff.mp outcome
  refine ⟨final, reached, numbers,
    (seqs_exact_in_run 1 emptyGroup (by decide +kernel) emptyGroup_numbered final ?_).1⟩
  refine run_of_steps (fun _ _ => true) (fun _ _ _ => trivial) interleavedSends _ _ _ ?_ .refl reached
  intro program started
  simp [interleavedSends] at started
  rcases started with rfl | rfl
  · exact .sendMessage _ _ _ _ _ _
  · exact .sendMessage _ _ _ _ _ _

end Messanger
