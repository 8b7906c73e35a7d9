import Messanger.Statements
import Messanger.Messages.Posted
import Messanger.Messages.Rows

/-!
Whom a forwarded message names, while any requests of the module interleave.  A forward of a forward
names the message at the start of the chain, so what is named names nothing itself.
-/

namespace Messanger

open Relational

namespace Message

/-- The message names no origin. -/
structure Original (message : Message) : Prop where
  chat : message.forwardedFromChatId = none
  origin : message.forwardedFromMessageId = none
  author : message.forwardedFromAuthorId = none

/-- The message names another one, which names no origin. -/
structure Cites (message source : Message) : Prop where
  forward : message.type = .forward
  original : source.Original
  chat : message.forwardedFromChatId = some source.chatId
  origin : message.forwardedFromMessageId = some source.id
  author : message.forwardedFromAuthorId = source.authorId

/-- A forward names what it was made from, or what that names. -/
inductive Follows (db : Db) (message source : Message) : Prop
  | direct : message.Cites source → Follows db message source
  | chained {root : Message} : root ∈ db.messages.rows → source.Cites root → message.Cites root →
      Follows db message source

structure Echoes (message source : Message) : Prop where
  forward : source.type = .forward
  blank : source.Original
  type : message.type = .forward
  original : message.Original

structure Comments (message : Message) (comment : Option String) (id : MessageId) : Prop where
  first : message.id = id
  type : message.type = .text
  content : ∃ text, cleaned comment = some text ∧ message.content = some text
  original : message.Original

end Message

/-- What a request names in a message that it posts. -/
def Request.Names (request : Request) (db : Db) (message : Message) : Prop :=
  match request.command with
  | .forwardMessage source _ _ _ _ _ => ∃ row ∈ db.messages.rows, row.id = source.messageId ∧
      row.chatId = source.chatId ∧ message.Follows db row
  | .forwardMessages sourceChatId sourceIds _ hideAuthor comment _ ids _ =>
      if hideAuthor then message.Original ∧ message.type ≠ .forward
      else message.Comments comment (ids 0) ∨
        ∃ row ∈ db.messages.rows, row.id ∈ sourceIds ∧ row.chatId = sourceChatId ∧
          (message.Follows db row ∨ message.Echoes row)
  | _ => message.Original

/-- Every message has an author and names no origin, or one that names none. -/
def Credited (db : Db) : Prop :=
  ∀ message ∈ db.messages.rows, message.authorId.isSome ∧
    (message.Original ∨ ∃ source ∈ db.messages.rows, message.Cites source)

section Rows

variable {before after : Db} {message other source later : Message} {request : Request}

theorem original_sameAs (same : message.SameAs other) (original : message.Original) :
    other.Original :=
  ⟨same.fromChat.symm.trans original.chat, same.fromMessage.symm.trans original.origin,
    same.fromAuthor.symm.trans original.author⟩

theorem cites_later (same : source.SameAs later) (cites : message.Cites source) :
    message.Cites later where
  forward := cites.forward
  original := original_sameAs same cites.original
  chat := by rw [cites.chat, same.inChat]
  origin := by rw [cites.origin, same.id]
  author := by rw [cites.author, same.author]

theorem cites_sameAs (same : message.SameAs other) (cites : message.Cites source) :
    other.Cites source where
  forward := same.type.symm.trans cites.forward
  original := cites.original
  chat := same.fromChat.symm.trans cites.chat
  origin := same.fromMessage.symm.trans cites.origin
  author := same.fromAuthor.symm.trans cites.author

theorem follows_later (keeps : KeepsMessages before after) (same : source.SameAs later)
    (follows : message.Follows before source) : message.Follows after later := by
  cases follows with
  | direct cites => exact .direct (cites_later same cites)
  | chained stored sourceCites cites =>
      obtain ⟨root, present, still⟩ := keeps _ stored
      exact .chained present (cites_later still (cites_sameAs same sourceCites))
        (cites_later still cites)

theorem echoes_later (same : source.SameAs later) (echoes : message.Echoes source) :
    message.Echoes later where
  forward := same.type.symm.trans echoes.forward
  blank := original_sameAs same echoes.blank
  type := echoes.type
  original := echoes.original

theorem names_later (keeps : KeepsMessages before after) (names : request.Names before message) :
    request.Names after message := by
  obtain ⟨user, now, command⟩ := request
  cases command
  case forwardMessage =>
    obtain ⟨row, stored, id, inChat, follows⟩ := names
    obtain ⟨later, present, same⟩ := keeps row stored
    exact ⟨later, present, same.id.symm.trans id, same.inChat.symm.trans inChat,
      follows_later keeps same follows⟩
  case forwardMessages hideAuthor _ _ _ _ =>
    cases hideAuthor with
    | true => exact names
    | false =>
        rcases names with comments | ⟨row, stored, listed, inChat, made⟩
        · exact .inl comments
        · obtain ⟨later, present, same⟩ := keeps row stored
          exact .inr ⟨later, present, same.id ▸ listed, same.inChat.symm.trans inChat,
            made.imp (follows_later keeps same) (echoes_later same)⟩
  all_goals exact names

theorem credited_of_names (names : request.Names before message) :
    message.Original ∨ ∃ source ∈ before.messages.rows, message.Cites source := by
  have followed : ∀ row ∈ before.messages.rows, message.Follows before row →
      message.Original ∨ ∃ source ∈ before.messages.rows, message.Cites source := by
    intro row stored follows
    cases follows with
    | direct cites => exact .inr ⟨row, stored, cites⟩
    | chained present _ cites => exact .inr ⟨_, present, cites⟩
  obtain ⟨user, now, command⟩ := request
  cases command
  case forwardMessage =>
    obtain ⟨row, stored, _, _, follows⟩ := names
    exact followed row stored follows
  case forwardMessages hideAuthor _ _ _ _ =>
    cases hideAuthor with
    | true => exact .inl names.1
    | false =>
        rcases names with comments | ⟨row, stored, _, _, follows | echoes⟩
        · exact .inl comments.original
        · exact followed row stored follows
        · exact .inl echoes.original
  all_goals exact .inl names

end Rows

def originPact : Pact Db Write RowKey Request where
  Rely _ before after := KeepsMessages before after ∧ Credited after
  trans _ _ _ _ left right := ⟨left.1.trans right.1, right.2⟩
  fewer _ _ _ _ _ relied := relied
  Commits request _ log db := ∀ message, .insertMessage message ∈ log →
    message.authorId.isSome ∧ request.Names db message

section Copies

variable {db : Db} {source : LoadedMessage} {chatId : ChatId} {senderId : UserId} {id : MessageId}
  {seq : Nat} {hideAuthor notify : Bool} {fresh : Nat → AttachmentId}
  {created : Message × List MessageAttachment}

theorem single_follows (credited : Credited db) (stored : source.message ∈ db.messages.rows)
    {message : Message} (forward : message.type = .forward)
    (chat : message.forwardedFromChatId =
      source.message.forwardedFromChatId.or (some source.message.chatId))
    (origin : message.forwardedFromMessageId =
      source.message.forwardedFromMessageId.or (some source.message.id))
    (author : message.forwardedFromAuthorId =
      source.message.forwardedFromAuthorId.or source.message.authorId) :
    message.Follows db source.message := by
  rcases (credited _ stored).2 with plain | ⟨root, present, cites⟩
  · refine .direct ⟨forward, plain, ?_, ?_, ?_⟩
    · rw [chat, plain.chat, Option.none_or]
    · rw [origin, plain.origin, Option.none_or]
    · rw [author, plain.author, Option.none_or]
  · refine .chained present cites ⟨forward, cites.original, ?_, ?_, ?_⟩
    · rw [chat, cites.chat, Option.some_or]
    · rw [origin, cites.origin, Option.some_or]
    · obtain ⟨writer, wrote⟩ := Option.isSome_iff_exists.mp (credited _ present).1
      rw [author, cites.author, wrote, Option.some_or]

theorem typeForAttachments_listed (attachments : List MessageAttachment) :
    Message.typeForAttachments attachments ∈
      [MessageType.voice, .videoNote, .image, .file, .text] := by
  simp only [Message.typeForAttachments]
  repeat' split
  all_goals simp

theorem copyType_plain (message : Message) (attachments : List MessageAttachment) :
    message.copyType attachments ≠ .forward ∧ message.copyType attachments ≠ .reply := by
  unfold Message.copyType
  split
  · rename_i plain
    exact ⟨plain.2, plain.1⟩
  · have listed := typeForAttachments_listed (attachments.filter fun attachment =>
      attachment.attachmentStatus == .success)
    constructor
    · intro same
      simp [same] at listed
    · intro same
      simp [same] at listed

theorem copy_follows (credited : Credited db) (stored : source.message ∈ db.messages.rows)
    (made : Message.create (forwardDraft senderId chatId hideAuthor notify fresh source) id seq =
      .ok created) :
    created.1.authorId = some senderId ∧
      (hideAuthor = true → created.1.Original ∧ created.1.type ≠ .forward) ∧
      (hideAuthor = false → created.1.Follows db source.message ∨ created.1.Echoes source.message) := by
  rw [(Message.create_ok made).1]
  cases hideAuthor with
  | true => exact ⟨rfl, fun _ => ⟨⟨rfl, rfl, rfl⟩, (copyType_plain _ _).1⟩, by simp⟩
  | false =>
      refine ⟨rfl, by simp, fun _ => ?_⟩
      rcases (credited _ stored).2 with plain | ⟨root, present, cites⟩
      · by_cases forward : source.message.type = .forward
        · refine .inr ⟨forward, plain, rfl, ?_, ?_, ?_⟩
          · simp [forwardDraft, forward, plain.chat]
          · simp [forwardDraft, forward, plain.origin]
          · simp [forwardDraft, forward, plain.author]
        · refine .inl (.direct ⟨rfl, plain, ?_, ?_, ?_⟩)
          · simp [forwardDraft, forward]
          · simp [forwardDraft, forward]
          · simp [forwardDraft, forward]
      · refine .inl (.chained present cites ⟨rfl, cites.original, ?_, ?_, ?_⟩)
        · simp [forwardDraft, cites.forward, cites.chat]
        · simp [forwardDraft, cites.forward, cites.origin]
        · simp [forwardDraft, cites.forward, cites.author]

end Copies

section Handlers

variable (user : UserJWTData) (now : Nat) {db : Db}

theorem original_of_makes {draft : Message.Draft} {id : MessageId} {message : Message}
    (written : draft.senderId.isSome) (chat : draft.forwardedFromChatId = none)
    (origin : draft.forwardedFromMessageId = none) (author : draft.forwardedFromAuthorId = none)
    (makes : draft.Makes id message) : message.authorId.isSome ∧ message.Original := by
  obtain ⟨seq, rfl⟩ := Message.Draft.makes_eq makes
  exact ⟨written, chat, origin, author⟩

theorem obeys_original {request : Request} {held : List RowKey} {Answer : Type}
    {program : Handler Answer}
    (plain : ∀ message : Message, message.Original → ∀ seen, request.Names seen message)
    (emits : program.Emits fun write => ∀ message, write = .insertMessage message →
      message.authorId.isSome ∧ message.Original) :
    program.Obeys originPact request held [] db fun _ _ _ _ => True := by
  refine Tx.obeys_of_emits (fun _ log seen (only : ∀ write ∈ log, ∀ message,
    write = .insertMessage message → message.authorId.isSome ∧ message.Original) => ?_)
    emits (by simp)
  intro message member
  obtain ⟨written, original⟩ := only _ member message rfl
  exact ⟨written, plain message original seen⟩

theorem obeys_saving {request : Request} {held : List RowKey} {log : List Write} {save : Handler Unit}
    {created : List (Message × List MessageAttachment)} {events : List ChatEvent} {Answer : Type}
    {answer : Answer} (logged : ∀ message, .insertMessage message ∉ log) (commitless : save.Commitless)
    (emits : save.Emits fun write => ∀ message, write = .insertMessage message →
      message ∈ created.map (·.1))
    (named : ∀ entry ∈ created, entry.1.authorId.isSome ∧ request.Names db entry.1) :
    (save.bind fun _ => (publish events).bind fun _ => Tx.commitNow.bind fun _ =>
      .done answer).Obeys originPact request held log db fun _ _ _ _ => True := by
  refine Tx.obeys_emits emits commitless fun _ more written after only reached => ?_
  refine obeys_publish fun later moved _ => Tx.obeys_commit fun last moves _ => ?_
  obtain ⟨keeps, _⟩ := reached last (originPact.trans _ _ _ _ moved moves)
  intro message member
  have posted : .insertMessage message ∈ written := by
    rcases List.mem_append.mp member with earlier | published
    · exact (List.mem_append.mp earlier).resolve_left (logged message)
    · simp at published
  obtain ⟨entry, listed, rfl⟩ := List.mem_map.mp (only _ posted message rfl)
  exact ⟨(named entry listed).1, names_later keeps (named entry listed).2⟩

theorem forwardMessage_names (source : ForwardSource) (target : ChatId) (comment : Option String)
    (slowTtl : Option Nat) (id : MessageId) (fresh : Nat → AttachmentId) :
    (forwardMessage user now source target comment slowTtl id fresh).Obeys originPact
      ⟨user, now, .forwardMessage source target comment slowTtl id fresh⟩ [] [] db
        fun _ _ _ _ => True := by
  refine Tx.obeys_read fun _ _ => Tx.obeys_orRaise fun _ _ => ?_
  refine Tx.obeys_read fun seen first => Tx.obeys_orRaise fun loaded shown => ?_
  refine Tx.obeys_require fun inChat => Tx.obeys_require fun _ => ?_
  refine Tx.obeys_query fun second toSecond _ _ => Tx.obeys_require fun _ => ?_
  refine Tx.obeys_query fun third toThird _ _ => Tx.obeys_ofExcept fun _ _ => ?_
  refine Tx.obeys_statement fun fourth toFourth _ _ _ => Tx.obeys_orRaise fun seq _ => ?_
  refine Tx.obeys_ofExcept fun created built => ?_
  obtain ⟨message, live, rfl⟩ := Option.map_eq_some_iff.mp shown
  have found := (Option.filter_eq_some_iff.mp live).1
  have stored : message ∈ seen.messages.rows := mem_messages_of_found found
  have keeps := (toSecond.1.trans toThird.1).trans toFourth.1
  have posted := (Message.create_ok built).1
  refine @obeys_saving _ _ _ _ _ [created] _ _ _ allocated_posts_none saveMessage_commitless
    (saveMessage_posts (by simp)) fun entry member => ?_
  rw [List.mem_singleton.mp member]
  refine ⟨by rw [posted]; rfl, names_later keeps ?_⟩
  refine ⟨message, stored, Db.message_id found, beq_iff_eq.mp inChat, ?_⟩
  refine @single_follows _ (seen.load message) first.2 stored _ ?_ ?_ ?_ ?_
  all_goals rw [posted]
  all_goals rfl

theorem forwardMessages_names (sourceChatId : ChatId) (sourceIds : List MessageId)
    (target : ChatId) (hideAuthor : Bool) (comment : Option String) (slowTtl : Option Nat)
    (ids : Nat → MessageId) (fresh : Nat → Nat → AttachmentId) :
    (forwardMessages user now sourceChatId sourceIds target hideAuthor comment slowTtl ids fresh).Obeys
      originPact ⟨user, now,
        .forwardMessages sourceChatId sourceIds target hideAuthor comment slowTtl ids fresh⟩ [] [] db
        fun _ _ _ _ => True := by
  refine Tx.obeys_read fun _ _ => Tx.obeys_orRaise fun _ _ => Tx.obeys_require fun _ => ?_
  refine Tx.obeys_require fun _ => Tx.obeys_read fun seen first => Tx.obeys_require fun _ => ?_
  refine Tx.obeys_require fun _ => Tx.obeys_query fun second toSecond _ _ => ?_
  refine Tx.obeys_require fun _ => Tx.obeys_query fun third toThird _ _ => ?_
  refine Tx.obeys_ofExcept fun _ _ => ?_
  refine Tx.obeys_statement fun fourth toFourth _ _ _ => Tx.obeys_orRaise fun seq _ => ?_
  refine Tx.obeys_ofExcept fun created built => ?_
  have keeps := (toSecond.1.trans toThird.1).trans toFourth.1
  refine @obeys_saving _ _ _ _ _ created _ _ _ allocated_posts_none
    (Tx.commitless_each (fun _ => saveMessage_commitless) created)
    (Tx.emits_each_alone _ fun entry member => saveMessage_posts (List.mem_map_of_mem member))
    fun entry member => ?_
  obtain ⟨index, draft, drafted, made⟩ := buildMessages_at built entry member
  rcases forwardDrafts_at drafted with ⟨text, given, rfl, rfl⟩ | ⟨source, listed, notify, place,
    rfl⟩
  · have posted := (Message.create_ok made).1
    refine ⟨by rw [posted]; rfl, ?_⟩
    rw [posted]
    cases hideAuthor with
    | true => exact ⟨⟨rfl, rfl, rfl⟩, fun same => MessageType.noConfusion same⟩
    | false => exact .inl ⟨rfl, rfl, ⟨text, given, rfl⟩, rfl, rfl, rfl⟩
  · obtain ⟨message, sorted, rfl⟩ := List.mem_map.mp (List.mem_of_mem_filter listed)
    have chosen := List.mem_filter.mp ((List.mem_insertionSort _).mp sorted)
    simp only [Bool.and_eq_true, beq_iff_eq, List.contains_iff_mem, List.mem_eraseDups] at chosen
    obtain ⟨stored, ⟨inChat, _⟩, named⟩ := chosen
    obtain ⟨author, hidden, shown⟩ := copy_follows first.2 stored made
    refine ⟨by rw [author]; rfl, names_later keeps ?_⟩
    cases hideAuthor with
    | true => exact hidden rfl
    | false => exact .inr ⟨message, stored, named, inChat, shown rfl⟩

theorem handle_names (request : Request) :
    (handle request).Obeys originPact request [] [] db fun _ _ _ _ => True := by
  obtain ⟨user, now, command⟩ := request
  cases command
  case sendMessage chatId new slowTtl id =>
    refine Tx.obeys_answer _ (obeys_original (fun _ original _ => original) ?_)
    refine Tx.emits_mono (sendMessage_posts user now chatId new slowTtl id) ?_
    intro write posts message same
    obtain ⟨claimed, makes⟩ := posts message same
    exact original_of_makes rfl rfl rfl rfl makes
  case pinMessage chatId messageId noticeId =>
    refine Tx.obeys_answer _ (obeys_original (fun _ original _ => original) ?_)
    refine Tx.emits_mono (pinMessage_posts user now chatId messageId noticeId) ?_
    intro write posts message same
    obtain ⟨pinned, makes⟩ := posts message same
    exact original_of_makes rfl rfl rfl rfl makes
  case forwardMessage source target comment slowTtl id fresh =>
    exact Tx.obeys_answer _ (forwardMessage_names user now source target comment slowTtl id fresh)
  case forwardMessages sourceChatId sourceIds target hideAuthor comment slowTtl ids fresh =>
    exact Tx.obeys_answer _ (forwardMessages_names user now sourceChatId sourceIds target hideAuthor
      comment slowTtl ids fresh)
  all_goals
    refine Tx.obeys_of_emits (fun _ _ _ only message member => ?_) (handle_emits _) (by simp)
    exact (only _ member).2.2.elim

end Handlers

section Running

variable {initial : Db}

def OriginInv (db : Db) (history : List (Request × List Write)) : Prop :=
  Credited db ∧ ∀ entry ∈ history, ∀ message, .insertMessage message ∈ entry.2 →
    entry.1.Names db message

theorem credited_commit {request : Request} {held : List RowKey} {log : List Write} {db : Db}
    (credited : Credited db) (commits : originPact.Commits request held log db) :
    Credited (applyAll log db) := by
  intro message member
  have keeps := keepsMessages_applyAll log db
  obtain ⟨row, same, stored | inserted⟩ := mem_messages_applyAll log member
  · obtain ⟨written, plain | ⟨source, present, cites⟩⟩ := credited row stored
    · exact ⟨same.author ▸ written, .inl (original_sameAs same.symm plain)⟩
    · obtain ⟨later, there, still⟩ := keeps source present
      exact ⟨same.author ▸ written, .inr ⟨later, there,
        cites_later still (cites_sameAs same.symm cites)⟩⟩
  · obtain ⟨written, names⟩ := commits row inserted
    rcases credited_of_names names with plain | ⟨source, present, cites⟩
    · exact ⟨same.author ▸ written, .inl (original_sameAs same.symm plain)⟩
    · obtain ⟨later, there, still⟩ := keeps source present
      exact ⟨same.author ▸ written, .inr ⟨later, there,
        cites_later still (cites_sameAs same.symm cites)⟩⟩

theorem origins_governed :
    Governed (fun request => (handle request).void) originPact OriginInv where
  obeys request _ _ _ := Tx.obeys_void (handle_names request)
  refl _ db _ inv := ⟨keepsMessages_refl db, inv.1⟩
  commit request db history held log inv _ commits := by
    refine ⟨credited_commit inv.1 commits, fun entry listed message member => ?_⟩
    have keeps := keepsMessages_applyAll log db
    rcases List.mem_append.mp listed with earlier | last
    · exact names_later keeps (inv.2 entry earlier message member)
    · rw [List.mem_singleton.mp last] at member ⊢
      exact names_later keeps (commits message member).2
  others _ db _ _ log _ inv _ commits _ :=
    ⟨keepsMessages_applyAll log db, credited_commit inv.1 commits⟩

/-- In every run of any requests, what a message names as its origin is a message that names none
itself, and a forward names the start of the chain that it was made from. -/
theorem origins_in_run (credited : Credited initial) {journal : CommandJournal}
    (run : Journal.Runs (fun request => (handle request).void) (fun _ _ => True)
      (Journal.idle initial) journal) :
    (∀ message ∈ journal.system.db.messages.rows, message.Original ∨
      ∃ source ∈ journal.system.db.messages.rows, message.Cites source) ∧
    ∀ entry ∈ journal.history, ∀ message, .insertMessage message ∈ entry.2 →
      entry.1.Names journal.system.db message := by
  have asked : Journal.Runs (fun request => (handle request).void) (Journal.Asks originPact)
      (Journal.idle initial) journal :=
    Journal.runs_mono (fun journal action _ => Journal.asks_nothing (fun _ _ _ _ => trivial)
      (fun _ _ _ => trivial) journal action) run
  have start : OriginInv initial [] := ⟨credited, fun _ listed => (List.not_mem_nil listed).elim⟩
  obtain ⟨stands, named⟩ := runs_governed origins_governed start asked
  exact ⟨fun message member => (stands message member).2, named⟩

def spokenGroup : Db :=
  applyAll
    [.insertChat { id := 1, type := .group, createdBy := 1, memberCount := 2, seqCounter := 1 },
      .insertMember 1 1 .owner, .insertMember 1 2 .member,
      .insertMessage { id := 10, chatId := 1, seq := 1, authorId := some 1, content := some "one" }] {}

theorem spokenGroup_credited : Credited spokenGroup := by
  have plain : spokenGroup.messages.rows.all (fun message => message.authorId.isSome &&
      message.forwardedFromChatId.isNone && message.forwardedFromMessageId.isNone &&
      message.forwardedFromAuthorId.isNone) = true := by
    decide +kernel
  intro message member
  have checked := List.all_eq_true.mp plain message member
  simp only [Bool.and_eq_true, Option.isNone_iff_eq_none] at checked
  obtain ⟨⟨⟨written, chat⟩, origin⟩, author⟩ := checked
  exact ⟨written, .inl ⟨chat, origin, author⟩⟩

def forwardedTwice : List (Action Request) :=
  [Action.start ⟨{ id := 2 }, 5, .forwardMessage ⟨1, 10⟩ 1 none none 11 fun index => index⟩] ++
    List.replicate 8 (Action.exec 0) ++
    [Action.start ⟨{ id := 1 }, 5,
        .forwardMessages 1 [11] 1 false none none (fun _ => 12) fun _ index => index⟩,
      Action.exec 1, Action.exec 1, Action.start ⟨{ id := 1 }, 5, .deleteMessage 1 10⟩] ++
    List.replicate 6 (Action.exec 2) ++ List.replicate 6 (Action.exec 1)

theorem origins_forwarded_twice : ∃ journal : CommandJournal,
    journal.system.db.messages.rows.map (fun message =>
      (message.id, message.forwardedFromMessageId, message.isDeleted)) =
        [(10, none, true), (11, some 10, false), (12, some 10, false)] ∧
    ∀ message ∈ journal.system.db.messages.rows, message.Original ∨
      ∃ source ∈ journal.system.db.messages.rows, message.Cites source := by
  have outcome : (((Journal.idle spokenGroup : CommandJournal).steps
      (fun request => (handle request).void) (fun _ _ => true) forwardedTwice).any fun journal =>
        journal.system.db.messages.rows.map (fun message =>
          (message.id, message.forwardedFromMessageId, message.isDeleted)) ==
            [(10, none, true), (11, some 10, false), (12, some 10, false)]) = true := by
    decide +kernel
  obtain ⟨journal, stepped, checked⟩ := Option.any_eq_true _ _ |>.mp outcome
  have run := Journal.runs_of_steps (fun _ _ => true) (fun _ _ _ => trivial) forwardedTwice .refl stepped
  exact ⟨journal, beq_iff_eq.mp checked, (origins_in_run spokenGroup_credited run).1⟩

end Running

end Messanger
