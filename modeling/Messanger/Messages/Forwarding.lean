import Messanger.Library.Evaluation
import Messanger.Messages.MessageSeq
import Messanger.Messages.Replies

/-!
One message forwarded by `ForwardMessage` and by `ForwardMessages`.  The two handlers share most of
their checks; they differ in what may be forwarded and in whom they name as its origin.
-/

namespace Messanger

open Relational

namespace Forwarding

variable {user : UserJWTData} {now : Nat} {sourceChatId targetChatId : ChatId} {messageId : MessageId}
  {slowTtl : Option Nat} {id : MessageId} {fresh : Nat → AttachmentId} {db committed seen final : Db}
  {Answer : Type} {rest : Unit → Handler Answer} {answer : Answer}

section Statements

def Free (db : Db) (copies : List MessageAttachment) : Prop :=
  (copies.map (·.id)).Nodup ∧ ∀ copy ∈ copies, db.attachment? copy.id = none

theorem free_cons {copy : MessageAttachment} {copies : List MessageAttachment} :
    Free db (copy :: copies) ↔ db.attachment? copy.id = none ∧
      Free (Storage.apply (.insertAttachment copy) db) copies := by
  have kept : ∀ other : MessageAttachment,
      (Storage.apply (.insertAttachment copy) db : Db).attachment? other.id = none ↔
        db.attachment? other.id = none ∧ copy.id ≠ other.id := by
    intro other
    rw [Db.apply_eq, Db.attachment_insertAttachment, Option.or_eq_none_iff]
    simp
  simp only [Free, kept, List.map_cons, List.nodup_cons, List.mem_map, List.forall_mem_cons, not_exists,
    not_and]
  constructor
  · rintro ⟨⟨apart, distinct⟩, free, others⟩
    exact ⟨free, distinct, fun other member => ⟨others other member, (apart other member ·.symm)⟩⟩
  · rintro ⟨free, distinct, others⟩
    exact ⟨⟨fun other member same => (others other member).2 same.symm, distinct⟩, free,
      fun other member => (others other member).1⟩

theorem gives_insertRow {key : RowKey} {taken : Db → Bool} {write : Write} :
    ((insertRow key taken write).bind rest).Gives committed seen answer final ↔
      taken seen = false ∧ (rest ()).Gives committed (Storage.apply write seen) answer final := by
  rw [insertRow, Tx.gives_statement]
  cases taken seen with
  | true => simp
  | false => exact ⟨fun ⟨_, _, gives⟩ => ⟨rfl, gives⟩, fun ⟨_, gives⟩ => ⟨(), rfl, gives⟩⟩

theorem gives_copies {copies : List MessageAttachment} :
    ((Tx.each insertAttachment copies).bind rest).Gives committed seen answer final ↔
      Free seen copies ∧
        (rest ()).Gives committed (applyAll (copies.map Write.insertAttachment) seen) answer final := by
  induction copies generalizing seen with
  | nil => simp [Tx.each, Free]
  | cons copy copies ih =>
      rw [Tx.each, Tx.bind_assoc, insertAttachment, gives_insertRow, ih, free_cons]
      simp [and_assoc]

theorem gives_saveMessage {created : Message × List MessageAttachment} :
    ((saveMessage created).bind rest).Gives committed seen answer final ↔
      (seen.message? created.1.id = none ∧ Free seen created.2) ∧
        (rest ()).Gives committed
          (applyAll (.insertMessage created.1 :: created.2.map Write.insertAttachment) seen) answer final := by
  have kept : Free (Storage.apply (.insertMessage created.1) seen) created.2 ↔ Free seen created.2 :=
    Iff.rfl
  rw [saveMessage, Tx.bind_eq, Tx.bind_assoc, insertMessage, gives_insertRow, gives_copies, kept,
    Option.isSome_eq_false_iff, Option.isNone_iff_eq_none, applyAll_cons, and_assoc]

theorem gives_saveOne {created : Message × List MessageAttachment} :
    ((Tx.each saveMessage [created]).bind rest).Gives committed seen answer final ↔
      (seen.message? created.1.id = none ∧ Free seen created.2) ∧
        (rest ()).Gives committed
          (applyAll (.insertMessage created.1 :: created.2.map Write.insertAttachment) seen) answer final := by
  rw [Tx.each, Tx.bind_assoc]
  exact gives_saveMessage

theorem gives_publish {events : List ChatEvent} :
    ((publish events).bind rest).Gives committed seen answer final ↔
      (rest ()).Gives committed (Storage.apply (.publish events) seen) answer final := by
  rw [publish, Tx.gives_statement]
  exact ⟨fun ⟨_, _, gives⟩ => gives, fun gives => ⟨(), rfl, gives⟩⟩

theorem gives_checked {check : Db → Except ChatError Unit} :
    ((checked check).bind rest).Gives committed seen answer final ↔
      check seen = .ok () ∧ (rest ()).Gives committed seen answer final := by
  rw [checked, Tx.gives_statement]
  exact ⟨fun ⟨_, passed, gives⟩ => ⟨passed, gives⟩, fun ⟨passed, gives⟩ => ⟨(), passed, gives⟩⟩

theorem gives_allocate {date count : Nat} {error : ChatError} {rest : Nat → Handler Answer} :
    ((allocateMessageSeq targetChatId date count).bind fun allocated =>
        (Tx.orRaise allocated error).bind rest).Gives committed seen answer final ↔
      ∃ chat, seen.openChat? targetChatId = some chat ∧
        (rest (chat.seqCounter + count)).Gives committed
          (Storage.apply (.allocateMessageSeq targetChatId count date) seen) answer final := by
  rw [allocateMessageSeq, Tx.gives_statement]
  cases seen.openChat? targetChatId with
  | none => simp [Tx.gives_orRaise]
  | some chat => simp [Tx.gives_orRaise]

end Statements

section Building

variable {draft : Message.Draft} {copies : List MessageAttachment} {seq : Nat}

/-- What `Message.create` makes of a draft that it accepts. -/
def built (draft : Message.Draft) (id : MessageId) (seq : Nat) :
    Message × List MessageAttachment :=
  ({ id := id, chatId := draft.chatId, seq := seq, authorId := draft.senderId
     type := draft.messageType, content := draft.content, replyToId := draft.replyToId
     forwardedFromChatId := draft.forwardedFromChatId
     forwardedFromMessageId := draft.forwardedFromMessageId
     forwardedFromAuthorId := draft.forwardedFromAuthorId, action := draft.action
     hasLinks := Message.containsLink draft.content },
    (draft.attachments.getD []).map (·.bindToMessage id seq))

theorem validateAttachments_bound (type : MessageType) (copies : List MessageAttachment) :
    Message.validateAttachments type (copies.map (·.bindToMessage id seq)) =
      Message.validateAttachments type copies := by
  simp only [Message.validateAttachments, Message.countType, List.countP_map, List.all_map]
  rfl

theorem create_attached_iff (answers : draft.messageType ≠ .reply)
    (attached : draft.attachments = some copies) (created : Message × List MessageAttachment) :
    Message.create draft id seq = .ok created ↔
      (Message.validateContent draft.content = .ok () ∧
        Message.validateAttachments draft.messageType copies = .ok ()) ∧ built draft id seq = created := by
  simp only [Message.create, answers, attached, Option.getD_some, Option.isSome_some, true_or, false_and,
    if_true, if_false, validateAttachments_bound, built]
  cases Message.validateContent draft.content with
  | error error => simp [bind, Except.bind]
  | ok _ =>
      cases Message.validateAttachments draft.messageType copies with
      | error error => simp [bind, Except.bind]
      | ok _ => simp [bind, Except.bind, pure, Except.pure]

theorem create_forward_iff (forward : draft.messageType = .forward)
    (attached : draft.attachments = some copies) (created : Message × List MessageAttachment) :
    Message.create draft id seq = .ok created ↔
      (Message.validateContent draft.content = .ok () ∧
        Message.validateAttachments .forward copies = .ok ()) ∧ built draft id seq = created := by
  have answers : draft.messageType ≠ .reply := by
    rw [forward]
    decide
  rw [create_attached_iff answers attached, forward]

theorem free_bound : Free db (copies.map (·.bindToMessage id seq)) ↔ Free db copies := by
  simp only [Free, List.map_map, List.forall_mem_map]
  rfl

theorem ensureSlowMode_one (chat : Chat) (member : ChatMember) :
    ensureSlowMode now chat member 1 slowTtl = isSlow now chat member slowTtl := by
  unfold ensureSlowMode isSlow
  split
  · rfl
  · rfl

end Building

/-- What both handlers check of a request that names one message. -/
structure Passes (user : UserJWTData) (now : Nat) (sourceChatId targetChatId : ChatId)
    (messageId : MessageId) (slowTtl : Option Nat) (id : MessageId) (fresh : Nat → AttachmentId)
    (db : Db) (source : LoadedMessage) (target : ChatAndMember) : Prop where
  reads : ∃ member, db.member? sourceChatId user.id = some member ∧
    hasPermissions user now (some member) [.messageRead] = true
  found : (db.liveMessage? messageId).map db.load = some source
  inChat : source.message.chatId = sourceChatId
  enters : db.chatAndMember targetChatId user.id = .ok target
  sends : canSendMessage user now target.chat (some target.member) = true
  allowed : db.ensureCanMessage target.chat user.id = .ok ()
  waited : isSlow now target.chat target.member slowTtl = .ok ()
  content : Message.validateContent source.message.content = .ok ()
  attachments : Message.validateAttachments .forward
    (forwardAttachments source.attachments targetChatId fresh) = .ok ()
  unused : db.message? id = none ∧ Free db (forwardAttachments source.attachments targetChatId fresh)

/-- The draft of `ForwardMessage`. -/
def singleDraft (senderId : UserId) (targetChatId : ChatId) (fresh : Nat → AttachmentId)
    (source : LoadedMessage) : Message.Draft :=
  { senderId := some senderId
    chatId := targetChatId
    content := source.message.content
    messageType := .forward
    forwardedFromChatId := source.message.forwardedFromChatId.or (some source.message.chatId)
    forwardedFromMessageId := source.message.forwardedFromMessageId.or (some source.message.id)
    forwardedFromAuthorId := source.message.forwardedFromAuthorId.or source.message.authorId
    attachments := some (forwardAttachments source.attachments targetChatId fresh) }

def copyOf (draft : Message.Draft) (id : MessageId) (target : ChatAndMember) : LoadedMessage :=
  ⟨(built draft id (target.chat.seqCounter + 1)).1, (built draft id (target.chat.seqCounter + 1)).2⟩

theorem forwardMessage_gives (dto : MessageDTO) :
    (∃ final, (forwardMessage user now ⟨sourceChatId, messageId⟩ targetChatId none slowTtl id fresh).Gives
        db db dto final) ↔
      ∃ source target, Passes user now sourceChatId targetChatId messageId slowTtl id fresh db source
          target ∧
        dto = { body := copyOf (singleDraft user.id targetChatId fresh source) id target } := by
  simp only [forwardMessage, Tx.bind_eq, getMemberChat, Tx.gives_read, Tx.gives_orRaise,
    getLoadedMessage, Tx.gives_require, getChatAndMember, Tx.gives_statement, gives_checked,
    Tx.gives_ofExcept, gives_allocate, gives_saveMessage, gives_publish, Tx.gives_commitNow,
    Tx.pure_eq, Tx.gives_done]
  constructor
  · rintro ⟨final, member, found, nested, loaded, inChat, reads, target, enters, sends, allowed, _, waited,
      chat, opened, created, made, ⟨unused, free⟩, rfl, _⟩
    obtain ⟨message, live, rfl⟩ := Option.map_eq_some_iff.mp loaded
    cases opened.symm.trans (Db.chatAndMember_ok enters).1
    rw [Db.openChat_id opened] at made
    obtain ⟨⟨content, attachments⟩, rfl⟩ := (create_forward_iff rfl rfl created).mp made
    exact ⟨db.load message, target, ⟨⟨member, found, reads⟩, by rw [live]; rfl, beq_iff_eq.mp inChat, enters,
      sends, allowed, waited, content, attachments, unused, free_bound.mp free⟩, rfl⟩
  · rintro ⟨source, target, passes, rfl⟩
    obtain ⟨member, found, reads⟩ := passes.reads
    obtain ⟨message, live, rfl⟩ := Option.map_eq_some_iff.mp passes.found
    have opened := (Db.chatAndMember_ok passes.enters).1
    refine ⟨_, member, found, db.loadNested message, by rw [live]; rfl, beq_iff_eq.mpr passes.inChat, reads,
      target, passes.enters, passes.sends, passes.allowed, (), passes.waited, target.chat, opened,
      built (singleDraft user.id targetChatId fresh (db.load message)) id (target.chat.seqCounter + 1),
      ?_, ⟨passes.unused.1, free_bound.mpr passes.unused.2⟩, rfl, rfl⟩
    rw [Db.openChat_id opened]
    exact (create_forward_iff rfl rfl _).mpr ⟨⟨passes.content, passes.attachments⟩, rfl⟩

theorem sources_one : ((db.liveMessages sourceChatId fun message =>
      [messageId].eraseDups.contains message.id).insertionSort fun left right =>
        left.seq ≤ right.seq).map db.load =
    (((db.liveMessage? messageId).filter fun message => message.chatId == sourceChatId).map
      db.load).toList := by
  have only : ∀ message : Message, (message.chatId == sourceChatId && !message.isDeleted &&
      [messageId].eraseDups.contains message.id) = true → message.id = messageId := by
    intro message wanted
    simp only [Bool.and_eq_true, List.contains_iff_mem, List.mem_eraseDups, List.mem_singleton] at wanted
    exact wanted.2
  rw [Db.liveMessages, Table.select_key _ messageId _ only, Db.liveMessage?, Db.message?,
    Option.filter_filter]
  cases found : db.messages.find? messageId with
  | none => rfl
  | some message =>
      have listed : [messageId].eraseDups.contains message.id = true := by
        rw [List.contains_iff_mem, List.mem_eraseDups, Table.key_of_find? found]
        exact List.mem_singleton_self messageId
      simp only [Option.filter_some, listed, Bool.and_true, Bool.and_comm (!message.isDeleted)]
      by_cases kept : (message.chatId == sourceChatId && !message.isDeleted) = true
      · rw [if_pos kept]
        rfl
      · rw [if_neg kept]
        rfl

theorem buildMessages_one {draft : Message.Draft} {seq : Nat}
    {created : List (Message × List MessageAttachment)} :
    buildMessages (fun _ => id) seq [draft] = .ok created ↔
      ∃ one, Message.create draft id seq = .ok one ∧ created = [one] := by
  simp only [buildMessages, List.mapIdx_cons, List.mapIdx_nil, List.mapM_cons, List.mapM_nil,
    Nat.add_zero, bind, Except.bind, pure, Except.pure]
  cases Message.create draft id seq with
  | error error => simp
  | ok one => simp [eq_comm]

theorem forwardMessages_gives (plain : hasGlobalChatAdmin user = false)
    (copies : List LoadedMessage) :
    (∃ final, (forwardMessages user now sourceChatId [messageId] targetChatId false none slowTtl
        (fun _ => id) fun _ => fresh).Gives db db copies final) ↔
      ∃ source target, Passes user now sourceChatId targetChatId messageId slowTtl id fresh db source
          target ∧ source.message.isForwardable source.attachments = true ∧
        copies = [copyOf (forwardDraft user.id targetChatId false true fresh source) id target] := by
  simp only [forwardMessages, Tx.bind_eq, getMemberChat, Tx.gives_read, Tx.gives_orRaise,
    Tx.gives_require, getChatAndMember, Tx.gives_statement, gives_checked, Tx.gives_ofExcept,
    gives_allocate, sources_one]
  cases named : ((db.liveMessage? messageId).filter fun message => message.chatId == sourceChatId) with
  | none =>
      simp only [Option.map_none, Option.toList_none, List.isEmpty_nil, Bool.not_true, Bool.false_eq_true,
        false_and, and_false, exists_false, false_iff, not_exists]
      rintro source target ⟨passes, _⟩
      obtain ⟨message, live, rfl⟩ := Option.map_eq_some_iff.mp passes.found
      rw [live, Option.filter_some, 
        if_pos (show (message.chatId == sourceChatId) = true from beq_iff_eq.mpr passes.inChat)] at named
      cases named
  | some message =>
      obtain ⟨live, inChat⟩ := Option.filter_eq_some_iff.mp named
      simp only [Option.map_some, Option.toList_some, List.isEmpty_cons, Bool.not_false, true_and]
      by_cases forwards : message.isForwardable (db.load message).attachments = true
      · have kept : ([db.load message].filter fun source =>
            source.message.isForwardable source.attachments) = [db.load message] :=
          List.filter_cons_of_pos forwards
        have drafts : forwardDrafts user.id targetChatId false (Message.cleaned none) (fun _ => fresh)
            [db.load message] = [forwardDraft user.id targetChatId false true fresh (db.load message)] :=
          rfl
        simp only [kept, drafts, List.isEmpty_cons, List.length_singleton, ensureSlowMode_one,
          Nat.add_sub_cancel, buildMessages_one]
        constructor
        · rintro ⟨final, member, found, _, reads, _, target, enters, sends, allowed, _, waited, chat, opened,
            _, ⟨created, made, rfl⟩, saved⟩
          rw [gives_saveOne, gives_publish, Tx.gives_commitNow, Tx.pure_eq, Tx.gives_done] at saved
          obtain ⟨⟨unused, free⟩, rfl, _⟩ := saved
          cases opened.symm.trans (Db.chatAndMember_ok enters).1
          obtain ⟨⟨content, attachments⟩, rfl⟩ := (create_forward_iff rfl rfl created).mp made
          exact ⟨db.load message, target, ⟨⟨member, found, reads⟩, by rw [live]; rfl, beq_iff_eq.mp inChat,
            enters, sends, allowed, waited, content, attachments, unused, free_bound.mp free⟩, forwards, rfl⟩
        · rintro ⟨source, target, passes, _, rfl⟩
          obtain ⟨member, found, reads⟩ := passes.reads
          have same := passes.found
          rw [live] at same
          cases same
          apply Exists.intro
          refine ⟨member, found, ?_, reads, rfl, target, passes.enters, passes.sends, passes.allowed, (),
            passes.waited, target.chat, (Db.chatAndMember_ok passes.enters).1, _,
            ⟨_, (create_forward_iff rfl rfl _).mpr ⟨⟨passes.content, passes.attachments⟩, rfl⟩, rfl⟩, ?_⟩
          · rcases unbanned_of_permissions reads with admin | unbanned
            · rw [plain] at admin
              cases admin
            · rw [unbanned]
              rfl
          · rw [gives_saveOne, gives_publish, Tx.gives_commitNow, Tx.pure_eq, Tx.gives_done]
            exact ⟨⟨passes.unused.1, free_bound.mpr passes.unused.2⟩, rfl, rfl⟩
      · have dropped : ([db.load message].filter fun source =>
            source.message.isForwardable source.attachments) = [] :=
          List.filter_cons_of_neg forwards
        simp only [dropped, List.isEmpty_nil, Bool.not_true, Bool.false_eq_true, false_and, and_false,
          exists_false, false_iff, not_exists]
        rintro source target ⟨passes, forwardable, _⟩
        have same := passes.found
        rw [live] at same
        cases same
        exact forwards forwardable

structure SameCopy (one many : LoadedMessage) : Prop where
  content : one.message.content = many.message.content
  type : one.message.type = many.message.type
  chat : one.message.forwardedFromChatId = many.message.forwardedFromChatId
  origin : one.message.forwardedFromMessageId = many.message.forwardedFromMessageId
  author : one.message.forwardedFromAuthorId = many.message.forwardedFromAuthorId
  seq : one.message.seq = many.message.seq
  keys : one.attachments.map (·.s3Key) = many.attachments.map (·.s3Key)

/-- Both accept, with the same copy, or both refuse. -/
def Agree : Except ChatError MessageDTO → Except ChatError (List LoadedMessage) → Prop
  | .ok one, .ok [many] => SameCopy one.body many
  | .error _, .error _ => True
  | _, _ => False

/-- A forward names its origin, and nothing else names another one than itself. -/
def NamesOrigin (message : Message) : Prop :=
  if message.type = .forward then
    message.forwardedFromChatId ≠ none ∧ message.forwardedFromMessageId ≠ none ∧
      (message.forwardedFromAuthorId = none → message.authorId = none)
  else
    (∀ chat, message.forwardedFromChatId = some chat → message.chatId = chat) ∧
      (∀ origin, message.forwardedFromMessageId = some origin → message.id = origin) ∧
      ∀ author, message.forwardedFromAuthorId = some author → message.authorId = some author

theorem or_eq_self_iff {Value : Type} (named : Option Value) (own : Option Value) :
    named.or own = named ↔ (named = none → own = none) := by
  cases named with
  | none => simp
  | some value => simp

theorem or_eq_own_iff {Value : Type} (named : Option Value) (own : Option Value) :
    named.or own = own ↔ ∀ value, named = some value → own = some value := by
  cases named with
  | none => simp
  | some value => simp [eq_comm]

theorem sameCopy_iff {source : LoadedMessage} {target : ChatAndMember} :
    SameCopy (copyOf (singleDraft user.id targetChatId fresh source) id target)
        (copyOf (forwardDraft user.id targetChatId false true fresh source) id target) ↔
      NamesOrigin source.message := by
  have origins : SameCopy (copyOf (singleDraft user.id targetChatId fresh source) id target)
      (copyOf (forwardDraft user.id targetChatId false true fresh source) id target) ↔
        (singleDraft user.id targetChatId fresh source).forwardedFromChatId =
            (forwardDraft user.id targetChatId false true fresh source).forwardedFromChatId ∧
          (singleDraft user.id targetChatId fresh source).forwardedFromMessageId =
            (forwardDraft user.id targetChatId false true fresh source).forwardedFromMessageId ∧
          (singleDraft user.id targetChatId fresh source).forwardedFromAuthorId =
            (forwardDraft user.id targetChatId false true fresh source).forwardedFromAuthorId :=
    ⟨fun same => ⟨same.chat, same.origin, same.author⟩, fun ⟨chat, origin, author⟩ =>
      ⟨rfl, rfl, chat, origin, author, rfl, rfl⟩⟩
  rw [origins]
  simp only [singleDraft, forwardDraft, Bool.false_eq_true, if_false, NamesOrigin]
  by_cases forward : source.message.type = .forward
  · simp only [if_pos forward, or_eq_self_iff, reduceCtorEq, imp_false, ne_eq]
  · simp only [if_neg forward, or_eq_own_iff, Option.some.injEq]

/-- The two handlers agree on every request exactly if what passes the checks that they share may be
forwarded and names its origin by its type. -/
theorem forwards_agree_iff (plain : hasGlobalChatAdmin user = false) (now : Nat)
    (sourceChatId targetChatId : ChatId) (messageId : MessageId) (slowTtl : Option Nat)
    (id : MessageId) (fresh : Nat → AttachmentId) (db : Db) :
    Agree ((forwardMessage user now ⟨sourceChatId, messageId⟩ targetChatId none slowTtl id fresh).exec db).1
        ((forwardMessages user now sourceChatId [messageId] targetChatId false none slowTtl (fun _ => id)
          fun _ => fresh).exec db).1 ↔
      ∀ source target, Passes user now sourceChatId targetChatId messageId slowTtl id fresh db source
        target → source.message.isForwardable source.attachments = true ∧ NamesOrigin source.message := by
  have single := @forwardMessage_gives user now sourceChatId targetChatId messageId slowTtl id fresh db
  have many := @forwardMessages_gives user now sourceChatId targetChatId messageId slowTtl id fresh db
    plain
  have ended : ∀ {Result : Type} (program : Handler Result) (result : Result),
      (∃ final, program.Gives db db result final) ↔ (program.run db db).1 = .ok result := by
    intro Result program result
    refine ⟨fun ⟨_, gives⟩ => congrArg Prod.fst gives, fun same => ⟨_, Tx.gives_run.mpr same⟩⟩
  simp only [ended] at single many
  simp only [Tx.exec]
  constructor
  · intro agree source target passes
    rw [(single _).mpr ⟨source, target, passes, rfl⟩] at agree
    cases batch : ((forwardMessages user now sourceChatId [messageId] targetChatId false none slowTtl
        (fun _ => id) fun _ => fresh).run db db).1 with
    | error error =>
        rw [batch] at agree
        exact agree.elim
    | ok copies =>
        obtain ⟨other, otherTarget, otherPasses, forwardable, rfl⟩ := (many copies).mp batch
        rw [batch] at agree
        cases Option.some.inj (passes.found.symm.trans otherPasses.found)
        cases Except.ok.inj (passes.enters.symm.trans otherPasses.enters)
        exact ⟨forwardable, sameCopy_iff.mp agree⟩
  · intro meets
    cases one : ((forwardMessage user now ⟨sourceChatId, messageId⟩ targetChatId none slowTtl id
        fresh).run db db).1 with
    | ok dto =>
        obtain ⟨source, target, passes, rfl⟩ := (single dto).mp one
        obtain ⟨forwardable, origin⟩ := meets source target passes
        rw [(many _).mpr ⟨source, target, passes, forwardable, rfl⟩]
        exact sameCopy_iff.mpr origin
    | error error =>
        cases batch : ((forwardMessages user now sourceChatId [messageId] targetChatId false none slowTtl
            (fun _ => id) fun _ => fresh).run db db).1 with
        | error _ => trivial
        | ok copies =>
            -- what the batch accepts passes the shared checks, so the single request is accepted
            obtain ⟨source, target, passes, _⟩ := (many copies).mp batch
            rw [(single _).mpr ⟨source, target, passes, rfl⟩] at one
            cases one

def noticedGroup : Db :=
  ((pinMessage { id := 1 } 0 1 10 11).exec
    ((sendMessage { id := 1 } 0 1 { content := some "hi" } none 10).exec emptyGroup).2).2

/-- What user 1 wrote is forwarded by user 2 in either way. -/
theorem message_forwarded_alike :
    Agree ((forwardMessage { id := 2 } 0 ⟨1, 10⟩ 1 none none 12 fun index => index).exec noticedGroup).1
      ((forwardMessages { id := 2 } 0 1 [10] 1 false none none (fun _ => 12)
        fun _ index => index).exec noticedGroup).1 := by
  refine (forwards_agree_iff rfl 0 1 1 10 none 12 _ noticedGroup).mpr fun source target passes => ?_
  have stored : ((noticedGroup.liveMessage? 10).map noticedGroup.load).all (fun source =>
      source.message.isForwardable source.attachments &&
        source.message.forwardedFromChatId.isNone && source.message.forwardedFromMessageId.isNone &&
        source.message.forwardedFromAuthorId.isNone && source.message.type != .forward) = true := by
    decide +kernel
  rw [passes.found] at stored
  simp only [Option.all_some, Bool.and_eq_true, Option.isNone_iff_eq_none, bne_iff_ne] at stored
  obtain ⟨⟨⟨⟨forwardable, chat⟩, origin⟩, author⟩, type⟩ := stored
  refine ⟨forwardable, ?_⟩
  rw [NamesOrigin, if_neg type, chat, origin, author]
  simp

/-- The notice is forwarded alone, but not in a list of one. -/
theorem notice_forwarded_alone :
    ¬Agree ((forwardMessage { id := 2 } 0 ⟨1, 11⟩ 1 none none 12 fun index => index).exec noticedGroup).1
      ((forwardMessages { id := 2 } 0 1 [11] 1 false none none (fun _ => 12)
        fun _ index => index).exec noticedGroup).1 := by
  have alone : (((forwardMessage { id := 2 } 0 ⟨1, 11⟩ 1 none none 12 fun index => index).exec
      noticedGroup).1.toOption.isSome) = true := by decide +kernel
  have listed : (((forwardMessages { id := 2 } 0 1 [11] 1 false none none (fun _ => 12)
      fun _ index => index).exec noticedGroup).1.toOption.isSome) = false := by decide +kernel
  intro agree
  generalize ((forwardMessage { id := 2 } 0 ⟨1, 11⟩ 1 none none 12 fun index => index).exec
    noticedGroup).1 = one at alone agree
  generalize ((forwardMessages { id := 2 } 0 1 [11] 1 false none none (fun _ => 12)
    fun _ index => index).exec noticedGroup).1 = many at listed agree
  cases one with
  | error _ => cases alone
  | ok _ =>
      cases many with
      | error _ => exact agree
      | ok _ => cases listed

end Forwarding

end Messanger
