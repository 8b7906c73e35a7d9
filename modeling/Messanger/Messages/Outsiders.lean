import Messanger.Messages.Deletion

/-!
What a user who does not belong to a chat learns of it and does to it: nothing, apart from the
originals that members forwarded into his chats, as they were then.  Several handlers leave a
check out; the runs below are those in which the missing checks would not have refused anything.
-/

namespace Messanger

open Relational

/-- The checks the handlers leave out: answers, claims and links stay within one chat, whoever
edits, deletes, downloads or joins a call is an active member, an original is not edited once it
was forwarded, and a copy is forwarded on only by those who can read its original. -/
def Guarded (db : Db) (request : Request) : Prop :=
  match request.command with
  | .sendMessage chatId new _ _ =>
      (∀ target answered, new.replyToId = some target → db.message? target = some answered →
        answered.chatId = chatId) ∧
      ∀ token ∈ new.uploadTokens, ∀ attachment, db.attachment? token = some attachment →
        attachment.chatId = chatId
  | .editMessage chatId messageId _ => request.Active db chatId ∧
      ∀ id copy, db.liveMessage? id = some copy → copy.forwardedFromMessageId ≠ some messageId
  | .deleteMessage chatId _ => request.Active db chatId
  | .getAttachmentDownloadUrl chatId _ _ => request.Active db chatId
  | .joinCall chatId => request.Active db chatId
  | .forwardMessage _ _ _ _ _ _ => ∀ source root rootId, request.Forwards source.id →
      db.liveMessage? source.id = some source → source.forwardedFromMessageId = some rootId →
      db.message? rootId = some root → request.Active db root.chatId
  | .forwardMessages _ _ _ _ _ _ _ _ => ∀ source root rootId, request.Forwards source.id →
      db.liveMessage? source.id = some source → source.forwardedFromMessageId = some rootId →
      db.message? rootId = some root → request.Active db root.chatId
  | _ => True

/-- Before the first message. -/
structure Fresh (db : Db) : Prop where
  messages : ∀ id, db.message? id = none
  attachments : ∀ id, db.attachment? id = none
  pins : db.pins.rows = []

/-- Messages answer within their chat, files lie in the chat of their message, and an original
is still stored. -/
structure Confined (db : Db) : Prop where
  pinned : PinsStored db
  replies : ∀ id message target, db.message? id = some message → message.replyToId = some target →
    ∃ answered, db.message? target = some answered ∧ answered.chatId = message.chatId
  files : ∀ id attachment messageId, db.attachment? id = some attachment →
    attachment.messageId = some messageId →
      ∃ message, db.message? messageId = some message ∧ message.chatId = attachment.chatId
  copies : ∀ id copy rootId, db.message? id = some copy →
    copy.forwardedFromMessageId = some rootId → (db.message? rootId).isSome

theorem confined_fresh {db : Db} (fresh : Fresh db) : Confined db := by
  refine ⟨fun pin listed => ?_, fun id _ _ found => ?_, fun id _ _ found => ?_,
    fun id _ _ found => ?_⟩
  · rw [fresh.pins] at listed
    cases listed
  · rw [fresh.messages] at found
    cases found
  · rw [fresh.attachments] at found
    cases found
  · rw [fresh.messages] at found
    cases found

section Step

variable {request : Request} {db final : Db}

theorem stays_stored (evolved : Evolved request db final) {id : MessageId} {message : Message}
    (found : db.message? id = some message) :
    ∃ later, final.message? id = some later ∧ message.Succeeds later := by
  obtain ⟨later, stored, revised⟩ := evolved.kept id message found
  exact ⟨later, stored, revised.succeeds⟩

def Request.StoresFor (request : Request) (chatId : ChatId) : Prop :=
  match request.command with
  | .requestAttachmentUpload target _ _ => chatId = target
  | .forwardMessage _ target _ _ _ _ => chatId = target
  | .forwardMessages _ _ target _ _ _ _ _ => chatId = target
  | _ => False

theorem storesFor_of_stores {attachment : MessageAttachment} (stores : request.Stores attachment) :
    request.StoresFor attachment.chatId := by
  obtain ⟨user, now, command⟩ := request
  cases command
  case requestAttachmentUpload => exact stores.1
  case forwardMessage => exact stores.1
  case forwardMessages => exact stores.1
  all_goals exact stores.elim

theorem perform_storesFor (request : Request) (db : Db) {id : AttachmentId}
    {attachment : MessageAttachment} (absent : db.attachment? id = none)
    (stored : (perform request db).2.attachment? id = some attachment) :
    request.StoresFor attachment.chatId := by
  have kept : ∀ write seen, request.Footprint write →
      (∀ row, seen.attachment? id = some row → request.StoresFor row.chatId) →
      ∀ row, (Db.apply write seen).attachment? id = some row → request.StoresFor row.chatId := by
    intro write seen allowed inside row found
    cases write
    case insertAttachment new =>
      rw [Db.attachment_insertAttachment] at found
      rcases Option.or_eq_some_iff.mp found with old | ⟨_, here⟩
      · exact inside row old
      · obtain ⟨_, same⟩ := Option.ite_none_right_eq_some.mp here
        cases same
        exact storesFor_of_stores allowed
    case bindAttachment target messageId seq =>
      rw [Db.attachment_bindAttachment] at found
      obtain ⟨before, there, rfl⟩ := Option.map_eq_some_iff.mp found
      split
      · exact inside before there
      · exact inside before there
    case processAttachment processed =>
      rw [Db.attachment_processAttachment] at found
      obtain ⟨before, there, rfl⟩ := Option.map_eq_some_iff.mp found
      split
      · exact inside before there
      · exact inside before there
    all_goals exact inside row found
  refine perform_preserves request kept ?_ attachment stored
  intro row found
  rw [absent] at found
  cases found

theorem chat_of_stores {chatId : ChatId} {message : Message} (stores : request.StoresFor chatId)
    (posts : request.Posts message) : message.chatId = chatId := by
  obtain ⟨user, now, command⟩ := request
  cases command
  case requestAttachmentUpload => exact posts.2.2.elim
  case forwardMessage => exact posts.2.2.1.trans stores.symm
  case forwardMessages => exact posts.2.2.1.trans stores.symm
  all_goals exact stores.elim

theorem claimed_chat {id : AttachmentId} {attachment : MessageAttachment} {message : Message}
    (guarded : Guarded db request) (claims : request.Claims id)
    (found : db.attachment? id = some attachment) (posts : request.Posts message) :
    message.chatId = attachment.chatId := by
  obtain ⟨user, now, command⟩ := request
  cases command
  case sendMessage => exact posts.2.2.1.trans (guarded.2 id claims attachment found).symm
  all_goals exact claims.elim

theorem answered_chat (guarded : Guarded db request) {target : MessageId}
    {message answered : Message} (posts : request.Posts message)
    (live : db.liveMessage? target = some answered)
    (traced : answered.chatId = message.chatId ∨ request.Answers target) :
    answered.chatId = message.chatId := by
  rcases traced with same | answers
  · exact same
  · obtain ⟨user, now, command⟩ := request
    cases command
    case sendMessage =>
      exact (guarded.1 target answered answers (live_message live).1).trans posts.2.2.1.symm
    all_goals exact answers.elim

theorem confined_step (guarded : Guarded db request) (confined : Confined db) :
    Confined (perform request db).2 := by
  have evolved := perform_evolved request db
  refine ⟨pinsStored_step confined.pinned evolved, fun id message target stored answers => ?_,
    fun id attachment messageId stored bound => ?_, fun id copy rootId stored names => ?_⟩
  · have known : ∃ answered, db.message? target = some answered ∧
        answered.chatId = message.chatId := by
      cases found : db.message? id with
      | none =>
          have sourced := evolved.added id message found stored
          obtain ⟨answered, live, traced⟩ := sourced.reply target answers
          exact ⟨answered, (live_message live).1, answered_chat guarded sourced.posts live traced⟩
      | some before =>
          obtain ⟨later, there, same⟩ := stays_stored evolved found
          cases there.symm.trans stored
          rw [same.chatId]
          exact confined.replies id before target found (same.replyToId.symm.trans answers)
    obtain ⟨answered, there, inChat⟩ := known
    obtain ⟨later, reached, same⟩ := stays_stored evolved there
    exact ⟨later, reached, same.chatId.trans inChat⟩
  · cases found : db.attachment? id with
    | none =>
        obtain ⟨_, added⟩ := evolved.stored id attachment found stored messageId bound
        obtain ⟨message, posted⟩ := Option.isSome_iff_exists.mp added.2
        have sourced := evolved.added messageId message added.1 posted
        exact ⟨message, posted,
          chat_of_stores (perform_storesFor request db found stored) sourced.posts⟩
    | some before =>
        obtain ⟨later, there, file, moved⟩ := evolved.files id before found
        cases there.symm.trans stored
        rw [file.chatId]
        rcases moved with same | ⟨claims, other, boundTo, added⟩
        · obtain ⟨message, known, inChat⟩ :=
            confined.files id before messageId found (same.symm.trans bound)
          obtain ⟨now, reached, succeeds⟩ := stays_stored evolved known
          exact ⟨now, reached, succeeds.chatId.trans inChat⟩
        · cases boundTo.symm.trans bound
          obtain ⟨message, posted⟩ := Option.isSome_iff_exists.mp added.2
          have sourced := evolved.added messageId message added.1 posted
          exact ⟨message, posted, claimed_chat guarded claims found sourced.posts⟩
  · have known : (db.message? rootId).isSome := by
      cases found : db.message? id with
      | none =>
          obtain ⟨source, live, _, _, chained | same⟩ :=
            (evolved.added id copy found stored).origin rootId names
          · exact confined.copies _ source rootId (live_message live).1 chained
          · rw [← same, (live_message live).1]
            rfl
      | some before =>
          obtain ⟨later, there, same⟩ := stays_stored evolved found
          cases there.symm.trans stored
          exact confined.copies id before rootId found
            (same.forwardedFromMessageId.symm.trans names)
    obtain ⟨root, there⟩ := Option.isSome_iff_exists.mp known
    obtain ⟨later, reached, _⟩ := stays_stored evolved there
    rw [reached]
    rfl

end Step

/-- The copy was made in this run by a user active in the chat of the original, which had this
content and these files, perhaps among others, when he forwarded it. -/
def ForwardedAs (initial db : Db) (copyId : MessageId) (original : LoadedMessage) : Prop :=
  ∃ earlier request before, Reaches Guarded initial earlier ∧ Guarded earlier request ∧
    Reaches Guarded (perform request earlier).2 db ∧
    AddedTo earlier (perform request earlier).2 copyId ∧
    request.Active earlier original.message.chatId ∧
    earlier.message? original.message.id = some before ∧
    before.content = original.message.content ∧
    ∀ attachment ∈ original.attachments, ∃ file ∈ earlier.attachmentsOf original.message.id,
      file.id = attachment.id ∧ file.s3Key = attachment.s3Key

section Originals

variable {request : Request} {initial db : Db}

theorem files_before (evolved : Evolved request db (perform request db).2) {messageId : MessageId}
    {message : Message} (known : db.message? messageId = some message)
    {attachment : MessageAttachment}
    (member : attachment ∈ (perform request db).2.attachmentsOf messageId) :
    ∃ file ∈ db.attachmentsOf messageId, file.id = attachment.id ∧
      file.s3Key = attachment.s3Key := by
  obtain ⟨stored, bound⟩ := mem_attachmentsOf member
  have old : ¬ AddedTo db (perform request db).2 messageId := by
    intro added
    rw [added.1] at known
    cases known
  cases found : db.attachment? attachment.id with
  | none => exact absurd (evolved.stored _ attachment found stored messageId bound).2 old
  | some before =>
      obtain ⟨later, there, file, same | ⟨_, other, boundTo, added⟩⟩ := evolved.files _ before found
      · cases there.symm.trans stored
        refine ⟨before, ?_, Db.attachment_id found, file.s3Key.symm⟩
        have listed : before ∈ db.attachments.rows := by
          rw [Table.mem_rows_iff, Db.attachment_id found]
          exact found
        rw [Db.attachmentsOf, List.mem_insertionSort]
        exact List.mem_filter.mpr ⟨listed, beq_iff_eq.mpr (same.symm.trans bound)⟩
      · cases there.symm.trans stored
        cases boundTo.symm.trans bound
        exact absurd added old

theorem original_unedited (guarded : Guarded db request) {id rootId : MessageId}
    {copy : Message} (live : db.liveMessage? id = some copy)
    (names : copy.forwardedFromMessageId = some rootId) : ¬ request.Edits rootId := by
  intro edits
  obtain ⟨user, now, command⟩ := request
  cases command
  case editMessage chatId messageId content =>
    have target : messageId = rootId := edits
    exact guarded.2 id copy live (target ▸ names)
  all_goals exact edits.elim

theorem forwards_unedited {id rootId : MessageId} (forwards : request.Forwards id) :
    ¬ request.Edits rootId := by
  obtain ⟨user, now, command⟩ := request
  cases command
  case forwardMessage => exact fun edits => edits
  case forwardMessages => exact fun edits => edits
  all_goals exact forwards.elim

theorem forwards_active (guarded : Guarded db request) {source root : Message}
    {rootId : MessageId} (forwards : request.Forwards source.id)
    (live : db.liveMessage? source.id = some source)
    (names : source.forwardedFromMessageId = some rootId) (found : db.message? rootId = some root) :
    request.Active db root.chatId := by
  obtain ⟨user, now, command⟩ := request
  cases command
  case forwardMessage => exact guarded source root rootId forwards live names found
  case forwardMessages => exact guarded source root rootId forwards live names found
  all_goals exact forwards.elim

theorem forwarded_now (run : Reaches Guarded initial db) (guarded : Guarded db request)
    (confined : Confined db) {id rootId : MessageId} {copy original : Message}
    (absent : db.message? id = none)
    (stored : (perform request db).2.message? id = some copy)
    (names : copy.forwardedFromMessageId = some rootId)
    (found : (perform request db).2.message? rootId = some original) :
    ForwardedAs initial (perform request db).2 id ((perform request db).2.load original) := by
  have evolved := perform_evolved request db
  obtain ⟨source, live, forwards, active, traced⟩ :=
    (evolved.added id copy absent stored).origin rootId names
  have known : ∃ root, db.message? rootId = some root ∧ request.Active db root.chatId := by
    rcases traced with chained | same
    · obtain ⟨root, there⟩ := Option.isSome_iff_exists.mp
        (confined.copies _ source rootId (live_message live).1 chained)
      exact ⟨root, there, forwards_active guarded forwards live chained there⟩
    · exact ⟨source, same ▸ (live_message live).1, active⟩
  obtain ⟨root, there, canRead⟩ := known
  obtain ⟨later, reached, revised⟩ := evolved.kept rootId root there
  cases reached.symm.trans found
  have key : original.id = rootId := Db.message_id found
  have unedited : ¬ request.Edits root.id := forwards_unedited forwards
  refine ⟨db, request, root, run, guarded, .refl, ⟨absent, by rw [stored]; rfl⟩, ?_, ?_,
    (revised.content unedited).symm, fun attachment member => ?_⟩
  · rw [Db.load, revised.succeeds.chatId]
    exact canRead
  · rw [Db.load, key]
    exact there
  · rw [Db.load] at member ⊢
    dsimp only at member ⊢
    rw [key] at member ⊢
    exact files_before evolved there member

theorem forwarded_step (guarded : Guarded db request) {id rootId : MessageId}
    {copy original later : Message} (live : db.liveMessage? id = some copy)
    (names : copy.forwardedFromMessageId = some rootId)
    (found : db.message? rootId = some original)
    (reached : (perform request db).2.message? rootId = some later)
    (forwarded : ForwardedAs initial db id (db.load original)) :
    ForwardedAs initial (perform request db).2 id ((perform request db).2.load later) := by
  have evolved := perform_evolved request db
  obtain ⟨earlier, first, before, run, met, onwards, added, active, there, content, files⟩ :=
    forwarded
  obtain ⟨now, stored, revised⟩ := evolved.kept rootId original found
  cases stored.symm.trans reached
  have key : original.id = rootId := Db.message_id found
  have keyNow : later.id = rootId := Db.message_id reached
  have unedited : ¬ request.Edits original.id := key ▸ original_unedited guarded live names
  refine ⟨earlier, first, before, run, met, .step onwards guarded, added, ?_, ?_, ?_,
    fun attachment member => ?_⟩
  · rw [Db.load, revised.succeeds.chatId]
    exact active
  · rw [Db.load, revised.succeeds.id]
    exact there
  · rw [Db.load, revised.content unedited]
    exact content
  · have listed : attachment ∈ (perform request db).2.attachmentsOf rootId := keyNow ▸ member
    obtain ⟨file, inDb, sameId, sameKey⟩ := files_before evolved found listed
    obtain ⟨old, inEarlier, oldId, oldKey⟩ := files file (by rw [Db.load, key]; exact inDb)
    refine ⟨old, ?_, oldId.trans sameId, oldKey.trans sameKey⟩
    rw [Db.load, revised.succeeds.id]
    exact inEarlier

end Originals

theorem confined_run {initial db : Db} (fresh : Fresh initial) (run : Reaches Guarded initial db) :
    Confined db :=
  reaches_invariant Confined (confined_fresh fresh)
    (fun _ _ guarded confined => confined_step guarded confined) run

theorem originals_run {initial db : Db} (fresh : Fresh initial) (run : Reaches Guarded initial db)
    {id rootId : MessageId} {copy original : Message} (live : db.liveMessage? id = some copy)
    (names : copy.forwardedFromMessageId = some rootId)
    (found : db.message? rootId = some original) :
    ForwardedAs initial db id (db.load original) := by
  induction run generalizing copy original with
  | refl =>
      rw [fresh.messages] at found
      cases found
  | @step db request before guarded ih =>
      have evolved := perform_evolved request db
      cases known : db.message? id with
      | none =>
          exact forwarded_now before guarded (confined_run fresh before) known (live_message live).1
            names found
      | some old =>
          obtain ⟨liveBefore, same⟩ := live_before evolved known live
          have namesBefore := same.forwardedFromMessageId.symm.trans names
          obtain ⟨root, there⟩ := Option.isSome_iff_exists.mp
            ((confined_run fresh before).copies id old rootId known namesBefore)
          exact forwarded_step guarded liveBefore namesBefore there found
            (ih liveBefore namesBefore there)

def LoadedMessage.OfChat (chatId : ChatId) (loaded : LoadedMessage) : Prop :=
  loaded.message.chatId = chatId ∨ ∃ attachment ∈ loaded.attachments, attachment.chatId = chatId

section Answers

variable (initial db : Db) (request : Request) (chatId : ChatId)

structure KeepsDTO (dto : MessageDTO) : Prop where
  body : ¬ dto.body.OfChat chatId
  reply : ∀ loaded, dto.replyTo = some loaded → ¬ loaded.OfChat chatId
  original : ∀ loaded, dto.forwardedFrom = some loaded → loaded.OfChat chatId →
    request.Active db dto.body.message.chatId ∧
      ForwardedAs initial db dto.body.message.id loaded

def KeepsReply : Reply → Prop
  | .done => True
  | .message dto => KeepsDTO initial db request chatId dto
  | .messages dtos => ∀ dto ∈ dtos, KeepsDTO initial db request chatId dto
  | .bodies loaded => ∀ one ∈ loaded, ¬ one.OfChat chatId
  | .rows messages => ∀ message ∈ messages, message.chatId ≠ chatId
  | .media items => ∀ item ∈ items, item.message.chatId ≠ chatId ∧
      ∀ attachment, item.attachment = some attachment → attachment.chatId ≠ chatId
  | .downloadUrl attachment => attachment.chatId ≠ chatId
  | .callToken token => token.slug ≠ chatId

variable {initial db request chatId}

theorem file_chat (confined : Confined db) {messageId : MessageId} {message : Message}
    {attachment : MessageAttachment} (found : db.attachment? attachment.id = some attachment)
    (bound : attachment.messageId = some messageId)
    (stored : db.message? messageId = some message) : attachment.chatId = message.chatId := by
  obtain ⟨row, there, inChat⟩ := confined.files _ attachment messageId found bound
  cases there.symm.trans stored
  exact inChat.symm

theorem load_ofChat (confined : Confined db) {message : Message} {id : MessageId}
    (stored : db.message? id = some message) :
    (db.load message).OfChat chatId ↔ message.chatId = chatId := by
  refine ⟨?_, .inl⟩
  rintro (own | ⟨attachment, member, inChat⟩)
  · exact own
  · obtain ⟨found, bound⟩ := mem_attachmentsOf member
    rw [Db.message_id stored] at bound
    rw [← file_chat confined found bound stored]
    exact inChat

theorem readable_apart (outside : ¬ request.Active db chatId) {message : Message}
    (readable : Readable request db message) : message.chatId ≠ chatId := by
  intro same
  exact outside (same ▸ readable.active)

theorem keeps_nested (fresh : Fresh initial) (run : Reaches Guarded initial db)
    (outside : ¬ request.Active db chatId) {message : Message}
    (readable : Readable request db message) :
    KeepsDTO initial db request chatId (db.loadNested message) := by
  have confined := confined_run fresh run
  have stored := (live_message readable.live).1
  have apart := readable_apart outside readable
  refine ⟨fun shown => apart ((load_ofChat confined stored).mp shown), fun loaded nested => ?_,
    fun loaded nested _ => ⟨readable.active, ?_⟩⟩
  · obtain ⟨target, found, rfl⟩ := Option.map_eq_some_iff.mp nested
    obtain ⟨id, named, there⟩ := Option.bind_eq_some_iff.mp found
    obtain ⟨answered, reached, inChat⟩ := confined.replies _ message id stored named
    cases reached.symm.trans there
    intro shown
    exact apart (inChat.symm.trans ((load_ofChat confined there).mp shown))
  · obtain ⟨root, found, rfl⟩ := Option.map_eq_some_iff.mp nested
    obtain ⟨id, named, there⟩ := Option.bind_eq_some_iff.mp found
    exact originals_run fresh run readable.live named there

theorem posted_apart (guarded : Guarded db request) (outside : ¬ request.Active db chatId)
    {final : Db} {loaded : LoadedMessage} (posted : Posted request db final loaded) :
    ¬ loaded.OfChat chatId := by
  have apart : loaded.message.chatId ≠ chatId := by
    intro same
    exact outside (same ▸ posted.sourced.sender)
  rintro (own | ⟨attachment, member, inChat⟩)
  · exact apart own
  · rcases posted.filed attachment member with ⟨claims, before, found, same⟩ | same
    · have target := claimed_chat guarded claims found posted.sourced.posts
      exact apart (target.trans (same.symm.trans inChat))
    · exact apart (same.symm.trans inChat)

theorem keeps_told (fresh : Fresh initial) (run : Reaches Guarded initial db)
    (guarded : Guarded db request) (outside : ¬ request.Active db chatId) {final : Db}
    {reply : Reply} (told : Told request db final reply) :
    KeepsReply initial db request chatId reply := by
  have confined := confined_run fresh run
  cases told with
  | done => trivial
  | shown readable => exact keeps_nested fresh run outside readable
  | posted posted =>
      refine ⟨posted_apart guarded outside posted, fun _ nested => ?_, fun _ nested => ?_⟩
      · cases nested
      · cases nested
  | listed all =>
      intro dto member
      obtain ⟨message, readable, rfl⟩ := all dto member
      exact keeps_nested fresh run outside readable
  | bodies all => exact fun one member => posted_apart guarded outside (all one member)
  | edited asked live same =>
      intro one member
      rw [List.mem_singleton.mp member]
      unfold Guarded at guarded
      rw [asked] at guarded
      rintro (own | ⟨_, none, _⟩)
      · exact outside (same.chatId.symm.trans own ▸ guarded.1)
      · cases none
  | rows all => exact fun message member => readable_apart outside (all message member)
  | media all =>
      intro item member
      obtain ⟨readable, carried⟩ := all item member
      refine ⟨readable_apart outside readable, fun attachment listed inChat => ?_⟩
      obtain ⟨found, bound⟩ := carried attachment listed
      have own := file_chat confined found bound (live_message readable.live).1
      exact readable_apart outside readable (own.symm.trans inChat)
  | downloadUrl asked found bound =>
      intro inChat
      unfold Guarded at guarded
      rw [asked] at guarded
      exact outside (inChat ▸ guarded)
  | callToken asked =>
      intro here
      unfold Guarded at guarded
      rw [asked] at guarded
      exact outside (here ▸ guarded)

theorem outsider_changes_none (guarded : Guarded db request)
    (outside : ¬ request.Active db chatId) {id : MessageId} {message : Message}
    (stored : (perform request db).2.message? id = some message) (inChat : message.chatId = chatId) :
    db.message? id = some message := by
  have evolved := perform_evolved request db
  cases found : db.message? id with
  | none => exact absurd (inChat ▸ (evolved.added id message found stored).sender) outside
  | some before =>
      rcases perform_touches request db found stored with same | touches
      · rw [same]
      · obtain ⟨later, there, same⟩ := stays_stored evolved found
        cases there.symm.trans stored
        have own : before.chatId = chatId := same.chatId.symm.trans inChat
        obtain ⟨user, now, command⟩ := request
        cases command
        case editMessage =>
          exact absurd (own ▸ touches.2 ▸ guarded.1) outside
        case deleteMessage =>
          exact absurd (own ▸ touches.2 ▸ guarded) outside
        all_goals exact touches.elim

end Answers

/-- In every run whose requests would pass the checks the handlers leave out, a request of a user
without an unbanned membership row in a chat shows nothing of the chat but originals that were
forwarded into his own chats, as they were then, and adds or changes no message of the chat. -/
theorem outsider_confined_in_run (initial db : Db) (fresh : Fresh initial)
    (run : Reaches Guarded initial db) (request : Request) (guarded : Guarded db request)
    (chatId : ChatId) (outside : ¬ request.Active db chatId) :
    (∀ reply, (perform request db).1 = .ok reply → KeepsReply initial db request chatId reply) ∧
    (∀ id message, (perform request db).2.message? id = some message → message.chatId = chatId →
      db.message? id = some message) ∧
    ∀ id attachment messageId message, db.attachment? id = some attachment →
      attachment.messageId = some messageId → db.message? messageId = some message →
        attachment.chatId = message.chatId := by
  have confined := confined_run fresh run
  refine ⟨fun reply answered => ?_, fun id message stored inChat => ?_, ?_⟩
  · exact keeps_told fresh run guarded outside
      (perform_told request db (pinsInChat_of_stored confined.pinned) answered)
  · exact outsider_changes_none guarded outside stored inChat
  · intro id attachment messageId message found bound stored
    have key := Db.attachment_id found
    exact file_chat confined (key ▸ found) bound stored

theorem emptyGroup_fresh : Fresh emptyGroup := ⟨fun _ => rfl, fun _ => rfl, rfl⟩

def searchByThree : Request := ⟨{ id := 3 }, 0, .searchMessages (fun _ => true) 50 none none⟩

theorem search_keeps_chat :
    (perform searchByThree (twoTexts (some 10))).1.isOk = true ∧
      ∀ reply, (perform searchByThree (twoTexts (some 10))).1 = .ok reply →
        KeepsReply emptyGroup (twoTexts (some 10)) searchByThree 1 reply := by
  have first : Guarded emptyGroup (textSentBy 1 10 none) := by
    refine ⟨fun _ _ named => ?_, fun _ member => ?_⟩
    · cases named
    · cases member
  have second : Guarded (perform (textSentBy 1 10 none) emptyGroup).2 (textSentBy 2 11 (some 10)) := by
    refine ⟨fun target answered named stored => ?_, fun _ member => ?_⟩
    · cases Option.some.inj named
      have inGroup : ((perform (textSentBy 1 10 none) emptyGroup).2.message? 10).map (·.chatId) =
          some 1 := by decide +kernel
      rw [stored, Option.map_some, Option.some.injEq] at inGroup
      exact inGroup
    · cases member
  have outside : ¬ searchByThree.Active (twoTexts (some 10)) 1 := by
    rintro (admin | ⟨row, found, _⟩)
    · cases admin
    · have none : (twoTexts (some 10)).member? 1 3 = none := by decide +kernel
      cases none.symm.trans found
  exact ⟨by decide +kernel, (outsider_confined_in_run emptyGroup (twoTexts (some 10))
    emptyGroup_fresh (.step (.step .refl first) second) searchByThree trivial 1 outside).1⟩

def kickOfTwo : Request := ⟨{ id := 1 }, 0, .kickMember 1 2⟩

def kickedAuthor : Db := (perform kickOfTwo (perform (textSentBy 2 10 none) emptyGroup).2).2

def editByTwo : Request := ⟨{ id := 2 }, 0, .editMessage 1 10 "changed"⟩

/-- A kicked author still edits his messages. -/
theorem kicked_author_edits :
    ¬ ∀ (initial db : Db) (request : Request) (chatId : ChatId), Fresh initial →
      Reaches (fun _ _ => True) initial db → ¬ request.Active db chatId →
      ∀ id message, (perform request db).2.message? id = some message → message.chatId = chatId →
        db.message? id = some message := by
  intro claimed
  have outside : ¬ editByTwo.Active kickedAuthor 1 := by
    rintro (admin | ⟨row, found, _⟩)
    · cases admin
    · have none : kickedAuthor.member? 1 2 = none := by decide +kernel
      cases none.symm.trans found
  have edited : ((perform editByTwo kickedAuthor).2.message? 10).map
      (fun message => (message.chatId, message.content)) = some (1, some "changed") := by
    decide +kernel
  have before : (kickedAuthor.message? 10).map (·.content) = some (some "hi") := by decide +kernel
  obtain ⟨message, stored, columns⟩ := Option.map_eq_some_iff.mp edited
  have same := claimed emptyGroup kickedAuthor editByTwo 1 emptyGroup_fresh
    (.step (.step .refl trivial) trivial) outside 10 message stored (congrArg Prod.fst columns)
  have content : message.content = some "changed" := congrArg Prod.snd columns
  rw [same, Option.map_some, content] at before
  exact absurd before (by decide)

end Messanger
