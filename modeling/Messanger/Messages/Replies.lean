import Messanger.Messages.Posting

/-!
What the module tells its callers.  Every message in an answer is one the caller may read in the
state the request found, or one the request has posted or edited itself.
-/

namespace Messanger

open Relational

structure Readable (request : Request) (db : Db) (message : Message) : Prop where
  live : db.liveMessage? message.id = some message
  active : request.Active db message.chatId

inductive Told (request : Request) (db final : Db) : Reply → Prop
  | done : Told request db final .done
  | shown {message : Message} : Readable request db message →
      Told request db final (.message (db.loadNested message))
  | posted {loaded : LoadedMessage} : Posted request db final loaded →
      Told request db final (.message { body := loaded })
  | listed {dtos : List MessageDTO} :
      (∀ dto ∈ dtos, ∃ message, Readable request db message ∧ dto = db.loadNested message) →
      Told request db final (.messages dtos)
  | bodies {loaded : List LoadedMessage} : (∀ one ∈ loaded, Posted request db final one) →
      Told request db final (.bodies loaded)
  | edited {before later : Message} {content : String} :
      request.command = .editMessage before.chatId before.id content →
      db.liveMessage? before.id = some before → before.Succeeds later →
      Told request db final (.bodies [⟨later, []⟩])
  | rows {messages : List Message} : (∀ message ∈ messages, Readable request db message) →
      Told request db final (.rows messages)
  | media {items : List SharedMediaItem} :
      (∀ item ∈ items, Readable request db item.message ∧
        ∀ attachment, item.attachment = some attachment →
          db.attachment? attachment.id = some attachment ∧
            attachment.messageId = some item.message.id) →
      Told request db final (.media items)
  | downloadUrl {attachment : MessageAttachment} {messageId : MessageId} :
      request.command = .getAttachmentDownloadUrl attachment.chatId messageId attachment.id →
      db.attachment? attachment.id = some attachment → attachment.messageId = some messageId →
      Told request db final (.downloadUrl attachment)
  | callToken {token : JoinToken} : request.command = .joinCall token.slug →
      Told request db final (.callToken token)

def ListsReadable (request : Request) (db : Db) (dtos : List MessageDTO) : Prop :=
  ∀ dto ∈ dtos, ∃ message, Readable request db message ∧ dto = db.loadNested message

section Lists

variable {request : Request} {db : Db} {chatId : ChatId} {wanted : Message → Bool}

theorem readable_of_live {message : Message} (active : request.Active db chatId)
    (member : message ∈ db.liveMessages chatId wanted) : Readable request db message := by
  obtain ⟨live, _, inChat⟩ := liveMessages_live member
  exact ⟨live, inChat ▸ active⟩

theorem lists_loaded {messages : List Message} (active : request.Active db chatId)
    (sublist : ∀ message ∈ messages, message ∈ db.liveMessages chatId wanted) :
    ListsReadable request db (messages.map db.loadNested) := by
  intro dto member
  obtain ⟨message, listed, rfl⟩ := List.mem_map.mp member
  exact ⟨message, readable_of_live active (sublist message listed), rfl⟩

theorem mem_newestFirst {messages : List Message} {message : Message} {count : Nat}
    (member : message ∈ (newestFirst messages).take count) : message ∈ messages := by
  have sorted := List.mem_of_mem_take member
  rwa [newestFirst, List.mem_insertionSort] at sorted

theorem mem_oldestFirst {messages : List Message} {message : Message} {count : Nat}
    (member : message ∈ (oldestFirst messages).take count) : message ∈ messages := by
  have sorted := List.mem_of_mem_take member
  rwa [oldestFirst, List.mem_insertionSort] at sorted

end Lists

section Queries

variable (request : Request) (db : Db)

theorem ends_requireActiveMember {Result : Type} {Post : Result → Db → Prop} {chatId : ChatId}
    {rest : Unit → Handler Result}
    (next : request.Active db chatId → (rest ()).Ends db db Post) :
    ((requireActiveMember request.user request.now chatId).bind rest).Ends db db Post := by
  unfold requireActiveMember
  simp only [Tx.bind_eq, Tx.bind_assoc]
  refine Tx.ends_read (Tx.ends_orRaise fun member found => Tx.ends_require fun free => ?_)
  exact next (.inr ⟨member, found, by simpa using free⟩)

theorem getMessages_ends (chatId : ChatId) (limit : Int) (cursorSeq : Option Nat) :
    (getMessages request.user request.now chatId limit cursorSeq).Ends db db fun page _ =>
      ListsReadable request db page.messages := by
  unfold getMessages
  simp only [Tx.bind_eq]
  refine ends_requireActiveMember request db fun active => Tx.ends_read_last ?_
  exact lists_loaded active fun message member => mem_newestFirst (List.mem_of_mem_take member)

theorem getMessageDetail_ends (chatId : ChatId) (messageId : MessageId) :
    (getMessageDetail request.user request.now chatId messageId).Ends db db fun dto _ =>
      ∃ message, Readable request db message ∧ dto = db.loadNested message := by
  unfold getMessageDetail
  simp only [Tx.bind_eq, Tx.pure_eq]
  refine ends_requireActiveMember request db fun active => Tx.ends_read ?_
  refine Tx.ends_orRaise fun dto loaded => Tx.ends_require fun inChat => Tx.ends_done ?_
  obtain ⟨message, live, rfl⟩ := Option.map_eq_some_iff.mp loaded
  have same : message.chatId = chatId := beq_iff_eq.mp inChat
  exact ⟨message, ⟨by rw [Db.liveMessage_id live]; exact live, same ▸ active⟩, rfl⟩

theorem getMessageContext_ends (chatId : ChatId) (targetSeq : Nat) (limit : Int) :
    (getMessageContext request.user request.now chatId targetSeq limit).Ends db db fun page _ =>
      ListsReadable request db page.messages := by
  unfold getMessageContext
  simp only [Tx.bind_eq, Tx.pure_eq]
  refine ends_requireActiveMember request db fun active => ?_
  refine Tx.ends_read (Tx.ends_read (Tx.ends_done fun dto member => ?_))
  rw [List.mem_insertionSort] at member
  rcases List.mem_append.mp member with older | newer
  · exact lists_loaded active (fun message listed => mem_newestFirst listed) dto older
  · exact lists_loaded active (fun message listed => mem_oldestFirst listed) dto newer

theorem resumeChat_ends (chatId : ChatId) (cursorSeq : Int) :
    (resumeChat request.user request.now chatId cursorSeq).Ends db db fun replay _ =>
      ListsReadable request db replay.messages := by
  unfold resumeChat
  simp only [Tx.bind_eq]
  refine ends_requireActiveMember request db fun active => Tx.ends_read_last ?_
  exact lists_loaded active fun message member => mem_oldestFirst (List.mem_of_mem_take member)

theorem searchMessages_ends («matches» : Option String → Bool) (limit : Int)
    (chatId : Option ChatId) (lastMessageId : Option MessageId) :
    (searchMessages request.user request.now «matches» limit chatId lastMessageId).Ends db db
      fun found _ => ∀ message ∈ found.items.map Prod.fst, Readable request db message := by
  unfold searchMessages
  refine Tx.ends_read_last fun message member => ?_
  obtain ⟨item, listed, rfl⟩ := List.mem_map.mp member
  have taken := List.mem_of_mem_take listed
  rw [List.mem_insertionSort] at taken
  obtain ⟨row, stored, chosen⟩ := List.mem_filterMap.mp taken
  split at chosen
  · rename_i chat joined _ found
    obtain ⟨passed, same⟩ := Option.ite_none_right_eq_some.mp chosen
    cases same
    simp only [Bool.and_eq_true, Bool.not_eq_true'] at passed
    exact ⟨live_of_rows stored passed.1.1.1.2, .inr ⟨joined, found, passed.1.1.1.1⟩⟩
  · cases chosen

def PinsInChat (db : Db) : Prop :=
  ∀ pin ∈ db.pins.rows, ∀ message, db.message? pin.messageId = some message →
    message.chatId = pin.chatId

theorem getPinnedMessages_ends (pinned : PinsInChat db) (chatId : ChatId) (limit : Int)
    (beforeSeq : Option Nat) :
    (getPinnedMessages request.user request.now chatId limit beforeSeq).Ends db db fun page _ =>
      ListsReadable request db (page.items.map (·.message)) := by
  unfold getPinnedMessages
  simp only [Tx.bind_eq]
  refine ends_requireActiveMember request db fun active => Tx.ends_read_last fun dto member => ?_
  simp only [List.map_map] at member
  obtain ⟨⟨pin, message⟩, listed, rfl⟩ := List.mem_map.mp member
  obtain ⟨row, stored, chosen⟩ := List.mem_filterMap.mp (List.mem_of_mem_take listed)
  obtain ⟨found, live, same⟩ := Option.map_eq_some_iff.mp chosen
  cases same
  rw [List.mem_insertionSort] at stored
  obtain ⟨kept, passed⟩ := List.mem_filter.mp stored
  simp only [Bool.and_eq_true, beq_iff_eq] at passed
  have inChat : message.chatId = chatId := by
    rw [pinned pin kept message (Option.filter_eq_some_iff.mp live).1, passed.1]
  exact ⟨message, ⟨by rw [Db.liveMessage_id live]; exact live, inChat ▸ active⟩, rfl⟩

theorem getSharedMedia_ends (chatId : ChatId) (mediaType : SharedMediaType) (limit : Int)
    (before : Option (Nat × AttachmentId)) :
    (getSharedMedia request.user request.now chatId mediaType limit before).Ends db db
      fun items _ => ∀ item ∈ items, Readable request db item.message ∧
        ∀ attachment, item.attachment = some attachment →
          db.attachment? attachment.id = some attachment ∧
            attachment.messageId = some item.message.id := by
  unfold getSharedMedia
  simp only [Tx.bind_eq]
  refine ends_requireActiveMember request db fun active => ?_
  split
  · refine Tx.ends_read_last fun item member => ?_
    obtain ⟨message, listed, rfl⟩ := List.mem_map.mp member
    have shown := mem_newestFirst (List.mem_of_mem_take listed)
    refine ⟨readable_of_live active shown, fun attachment none => ?_⟩
    cases none
  · refine Tx.ends_read_last fun item member => ?_
    have sorted := List.mem_of_mem_take (List.mem_of_mem_take member)
    rw [List.mem_insertionSort] at sorted
    obtain ⟨row, stored, chosen⟩ := List.mem_filterMap.mp sorted
    split at chosen
    · rename_i message seq live _
      obtain ⟨passed, same⟩ := Option.ite_none_right_eq_some.mp chosen
      cases same
      simp only [Bool.and_eq_true, beq_iff_eq] at passed
      obtain ⟨messageId, bound, found⟩ := Option.bind_eq_some_iff.mp live
      have key := Db.liveMessage_id found
      refine ⟨⟨by rw [key]; exact found, passed.1.1.1.2 ▸ active⟩, fun attachment same => ?_⟩
      cases same
      exact ⟨(Table.mem_rows_iff _ row).mp stored, by rw [bound, key]⟩
    · cases chosen

theorem getListChats_ends :
    (getListChats request.user request.now).Ends db db fun listed _ =>
      ∀ message ∈ listed.filterMap Prod.snd, Readable request db message := by
  unfold getListChats
  refine Tx.ends_read_last fun message member => ?_
  obtain ⟨⟨chat, last⟩, listed, shown⟩ := List.mem_filterMap.mp member
  obtain ⟨row, _, chosen⟩ := List.mem_filterMap.mp listed
  split at chosen
  · rename_i joined found
    obtain ⟨passed, same⟩ := Option.ite_none_right_eq_some.mp chosen
    cases same
    simp only [Bool.and_eq_true, Bool.not_eq_true'] at passed
    have stored := List.mem_of_find?_eq_some shown
    have matched := List.find?_some shown
    simp only [Bool.and_eq_true, Bool.not_eq_true', beq_iff_eq] at matched
    refine ⟨live_of_rows stored matched.2, ?_⟩
    rw [matched.1.1]
    exact .inr ⟨joined, found, passed.1⟩
  · cases chosen

theorem getAttachmentDownloadUrl_ends (chatId : ChatId) (messageId : MessageId)
    (attachmentId : AttachmentId) :
    (getAttachmentDownloadUrl request.user chatId messageId attachmentId).Ends db db
      fun attachment _ => db.attachment? attachmentId = some attachment ∧
        attachment.messageId = some messageId ∧ attachment.chatId = chatId := by
  unfold getAttachmentDownloadUrl
  simp only [Tx.bind_eq, Tx.pure_eq]
  refine Tx.ends_read (Tx.ends_orRaise fun _ _ => Tx.ends_read ?_)
  refine Tx.ends_orRaise fun attachment found => Tx.ends_require fun matched => Tx.ends_done ?_
  simp only [Bool.and_eq_true, beq_iff_eq] at matched
  exact ⟨found, matched.1, matched.2⟩

theorem joinCall_ends (chatId : ChatId) :
    (joinCall request.user chatId).Ends db db fun token _ => token.slug = chatId := by
  unfold joinCall
  simp only [Tx.bind_eq, Tx.pure_eq]
  refine Tx.ends_read (Tx.ends_orRaise fun _ _ => Tx.ends_read ?_)
  refine Tx.ends_orRaise fun chat found => Tx.ends_require fun _ => Tx.ends_statement fun _ _ => ?_
  refine Tx.ends_statement fun _ _ => Tx.ends_commit ?_
  exact Db.openChat_id found

theorem editMessage_ends (chatId : ChatId) (messageId : MessageId) (newContent : String) :
    (editMessage request.user chatId messageId newContent).Ends db db fun loaded _ =>
      ∃ before later, loaded = ⟨later, []⟩ ∧ db.liveMessage? messageId = some before ∧
        before.chatId = chatId ∧ before.authorId = some request.user.id ∧
        before.Succeeds later := by
  unfold editMessage
  simp only [Tx.bind_eq, Tx.pure_eq]
  refine Tx.ends_read (Tx.ends_orRaise fun before found => Tx.ends_require fun inChat => ?_)
  refine Tx.ends_require fun own => Tx.ends_ofExcept fun _ _ => Tx.ends_statement fun _ _ => ?_
  refine Tx.ends_statement fun _ _ => Tx.ends_commit ⟨before, _, rfl, found, ?_, ?_, ?_⟩
  · exact beq_iff_eq.mp inChat
  · exact beq_iff_eq.mp own
  · exact ⟨rfl, rfl, rfl, rfl, rfl, fun gone => gone⟩

theorem deleteMessage_ends (chatId : ChatId) (messageId : MessageId) :
    (deleteMessage request.user request.now chatId messageId).Ends db db fun _ _ =>
      ∃ before, db.liveMessage? messageId = some before ∧ before.chatId = chatId := by
  unfold deleteMessage
  simp only [Tx.bind_eq, Tx.pure_eq]
  refine Tx.ends_read (Tx.ends_orRaise fun before found => Tx.ends_require fun inChat => ?_)
  refine Tx.ends_read (Tx.ends_orRaise fun _ _ => Tx.ends_require fun _ => ?_)
  refine Tx.ends_statement fun _ _ => Tx.ends_statement fun _ _ => Tx.ends_statement fun _ _ => ?_
  exact Tx.ends_commit ⟨before, found, beq_iff_eq.mp inChat⟩

end Queries

def Command.posts : Command → Bool
  | .sendMessage _ _ _ _ => true
  | .forwardMessage _ _ _ _ _ _ => true
  | .forwardMessages _ _ _ _ _ _ _ _ => true
  | .pinMessage _ _ _ => true
  | _ => false

theorem plain_of_footprint {request : Request} {write : Write} (allowed : request.Footprint write)
    (quiet : request.command.posts = false) : write.Plain := by
  obtain ⟨user, now, command⟩ := request
  cases write
  case insertMessage message => cases command <;> first | exact allowed.2.2.elim | cases quiet
  case insertAttachment attachment =>
    cases command <;> first | exact allowed.elim | exact allowed.2.2.1 | cases quiet
  case bindAttachment => cases command <;> first | exact allowed.elim | cases quiet
  case insertPin => cases command <;> first | exact allowed.elim | cases quiet
  all_goals trivial

theorem evolved_of_ends {Answer : Type} {request : Request} {db : Db} {program : Handler Answer}
    {wrap : Answer → Reply} {Post : Answer → Db → Prop} (ends : program.Ends db db Post)
    (evolved : ∀ answer final, Post answer final → Evolved request db final) :
    Evolved request db ((program.bind fun answer => .done (wrap answer)).exec db).2 := by
  refine Tx.ends_final (Tx.ends_mono (Tx.ends_answered ends) fun _ final reached => ?_)
    (evolved_refl request db)
  obtain ⟨answer, post⟩ := reached
  exact evolved answer final post

theorem perform_evolved (request : Request) (db : Db) :
    Evolved request db (perform request db).2 := by
  cases quiet : request.command.posts with
  | false =>
      exact perform_preserves request (fun write seen allowed evolved =>
        evolved_footprint evolved allowed (plain_of_footprint allowed quiet)) (evolved_refl request db)
  | true =>
      obtain ⟨user, now, command⟩ := request
      cases command
      case sendMessage chatId new slowTtl id =>
        exact evolved_of_ends (sendMessage_ends user now db chatId new slowTtl id)
          fun _ _ ⟨_, _, sent⟩ => sent.evolved
      case forwardMessage source target comment slowTtl id fresh =>
        exact evolved_of_ends (forwardMessage_ends user now db source target comment slowTtl id fresh)
          fun _ _ post => post.1
      case forwardMessages source ids target hideAuthor comment slowTtl newIds fresh =>
        exact evolved_of_ends (forwardMessages_ends user now db source ids target hideAuthor comment
          slowTtl newIds fresh) fun _ _ post => post.1
      case pinMessage chatId messageId noticeId =>
        exact evolved_of_ends (pinMessage_ends user now db chatId messageId noticeId)
          fun _ _ post => post.1
      all_goals cases quiet

theorem reply_of_ends {Answer : Type} {db : Db} {program : Handler Answer} {wrap : Answer → Reply}
    {Post : Answer → Db → Prop} {reply : Reply} (ends : program.Ends db db Post)
    (answered : ((program.bind fun answer => .done (wrap answer)).exec db).1 = .ok reply) :
    ∃ answer, reply = wrap answer ∧
      Post answer ((program.bind fun answer => .done (wrap answer)).exec db).2 := by
  unfold Tx.exec at answered ⊢
  rw [Tx.run_answered] at answered ⊢
  rcases outcome : program.run db db with ⟨error | answer, final⟩
  · rw [outcome] at answered
    cases answered
  · rw [outcome] at answered
    exact ⟨answer, (Except.ok.inj answered).symm, Tx.ends_ok ends outcome⟩

theorem told_done {Answer : Type} {request : Request} {db final : Db} {program : Handler Answer}
    {reply : Reply}
    (answered : ((program.bind fun _ => .done Reply.done).exec db).1 = .ok reply) :
    Told request db final reply := by
  unfold Tx.exec at answered
  rw [Tx.run_answered] at answered
  rcases outcome : program.run db db with ⟨error | answer, ended⟩
  · rw [outcome] at answered
    cases answered
  · rw [outcome] at answered
    cases answered
    exact .done

theorem perform_told (request : Request) (db : Db) (pinned : PinsInChat db) {reply : Reply}
    (answered : (perform request db).1 = .ok reply) :
    Told request db (perform request db).2 reply := by
  obtain ⟨user, now, command⟩ := request
  cases command
  case sendMessage chatId new slowTtl id =>
    obtain ⟨dto, rfl, loaded, rfl, sent⟩ :=
      reply_of_ends (sendMessage_ends user now db chatId new slowTtl id) answered
    exact .posted sent.posted
  case forwardMessage source target comment slowTtl id fresh =>
    obtain ⟨dto, rfl, _, loaded, rfl, posted⟩ := reply_of_ends
      (forwardMessage_ends user now db source target comment slowTtl id fresh) answered
    exact .posted posted
  case forwardMessages source ids target hideAuthor comment slowTtl newIds fresh =>
    obtain ⟨bodies, rfl, _, posted⟩ := reply_of_ends (forwardMessages_ends user now db source ids
      target hideAuthor comment slowTtl newIds fresh) answered
    exact .bodies posted
  case editMessage chatId messageId newContent =>
    obtain ⟨loaded, rfl, before, later, rfl, live, inChat, _, same⟩ := reply_of_ends
      (editMessage_ends ⟨user, now, .editMessage chatId messageId newContent⟩ db chatId messageId
        newContent) answered
    have key := Db.liveMessage_id live
    rw [← inChat, ← key]
    exact .edited rfl (by rw [key]; exact live) same
  case pinMessage chatId messageId noticeId =>
    obtain ⟨pinned, rfl, _, message, live, active, shown⟩ :=
      reply_of_ends (pinMessage_ends user now db chatId messageId noticeId) answered
    rw [shown]
    exact .shown ⟨live, active⟩
  case joinCall chatId =>
    obtain ⟨token, rfl, slug⟩ :=
      reply_of_ends (joinCall_ends ⟨user, now, .joinCall chatId⟩ db chatId) answered
    rw [← slug]
    exact .callToken rfl
  case getMessages chatId limit cursorSeq =>
    obtain ⟨page, rfl, listed⟩ := reply_of_ends
      (getMessages_ends ⟨user, now, .getMessages chatId limit cursorSeq⟩ db chatId limit cursorSeq)
      answered
    exact .listed listed
  case getMessageDetail chatId messageId =>
    obtain ⟨dto, rfl, message, readable, rfl⟩ := reply_of_ends
      (getMessageDetail_ends ⟨user, now, .getMessageDetail chatId messageId⟩ db chatId messageId)
      answered
    exact .shown readable
  case getMessageContext chatId targetSeq limit =>
    obtain ⟨page, rfl, listed⟩ := reply_of_ends (getMessageContext_ends
      ⟨user, now, .getMessageContext chatId targetSeq limit⟩ db chatId targetSeq limit) answered
    exact .listed listed
  case resumeChat chatId cursorSeq =>
    obtain ⟨replay, rfl, listed⟩ := reply_of_ends
      (resumeChat_ends ⟨user, now, .resumeChat chatId cursorSeq⟩ db chatId cursorSeq) answered
    exact .listed listed
  case searchMessages «matches» limit chatId lastMessageId =>
    obtain ⟨found, rfl, readable⟩ := reply_of_ends
      (searchMessages_ends ⟨user, now, .searchMessages «matches» limit chatId lastMessageId⟩ db
        «matches» limit chatId lastMessageId) answered
    exact .rows readable
  case getPinnedMessages chatId limit beforeSeq =>
    obtain ⟨page, rfl, listed⟩ := reply_of_ends (getPinnedMessages_ends
      ⟨user, now, .getPinnedMessages chatId limit beforeSeq⟩ db pinned chatId limit beforeSeq)
      answered
    exact .listed listed
  case getSharedMedia chatId mediaType limit before =>
    obtain ⟨items, rfl, readable⟩ := reply_of_ends (getSharedMedia_ends
      ⟨user, now, .getSharedMedia chatId mediaType limit before⟩ db chatId mediaType limit before)
      answered
    exact .media readable
  case getListChats =>
    obtain ⟨listed, rfl, readable⟩ :=
      reply_of_ends (getListChats_ends ⟨user, now, .getListChats⟩ db) answered
    exact .rows readable
  case getAttachmentDownloadUrl chatId messageId attachmentId =>
    obtain ⟨attachment, rfl, found, bound, inChat⟩ := reply_of_ends (getAttachmentDownloadUrl_ends
      ⟨user, now, .getAttachmentDownloadUrl chatId messageId attachmentId⟩ db chatId messageId
      attachmentId) answered
    have key := Db.attachment_id found
    rw [← inChat, ← key]
    exact .downloadUrl rfl (by rw [key]; exact found) bound
  all_goals exact told_done answered

def Request.Touches (request : Request) (message : Message) : Prop :=
  match request.command with
  | .editMessage chatId messageId _ => messageId = message.id ∧ chatId = message.chatId
  | .deleteMessage chatId messageId => messageId = message.id ∧ chatId = message.chatId
  | _ => False

theorem settled_of_ends {Answer : Type} {request : Request} {db : Db} {program : Handler Answer}
    {wrap : Answer → Reply} {Post : Prop}
    (handled : handle request = program.bind fun answer => .done (wrap answer))
    (ends : program.Ends db db fun _ _ => Post) : (perform request db).2 = db ∨ Post := by
  have either : program.Ends db db fun _ final => final = db ∨ Post :=
    Tx.ends_mono ends fun _ _ post => .inr post
  rw [perform, handled, Tx.exec, Tx.run_answered]
  exact @Tx.ends_final _ _ _ _ _ _ db db program (fun final => final = db ∨ Post) either (.inl rfl)

theorem perform_touches (request : Request) (db : Db) {id : MessageId} {before later : Message}
    (found : db.message? id = some before)
    (stored : (perform request db).2.message? id = some later) :
    later = before ∨ request.Touches before := by
  obtain ⟨reached, there, revised⟩ := (perform_evolved request db).kept id before found
  cases there.symm.trans stored
  obtain ⟨user, now, command⟩ := request
  have same : ∀ {messageId : MessageId} {chatId : ChatId}, messageId = before.id →
      (∃ message, db.liveMessage? messageId = some message ∧ message.chatId = chatId) →
        chatId = before.chatId := by
    rintro messageId chatId rfl ⟨message, live, rfl⟩
    have known := (Option.filter_eq_some_iff.mp live).1
    rw [Db.message_id found, found] at known
    cases known
    rfl
  cases command
  case editMessage chatId messageId newContent =>
    have flow : (editMessage user chatId messageId newContent).Ends db db fun _ _ =>
        ∃ message, db.liveMessage? messageId = some message ∧ message.chatId = chatId :=
      Tx.ends_mono (editMessage_ends ⟨user, now, .editMessage chatId messageId newContent⟩ db chatId
        messageId newContent) fun _ _ ⟨message, _, _, live, inChat, _⟩ => ⟨message, live, inChat⟩
    have outcome : (perform ⟨user, now, .editMessage chatId messageId newContent⟩ db).2 = db ∨
        ∃ message, db.liveMessage? messageId = some message ∧ message.chatId = chatId :=
      settled_of_ends rfl flow
    by_cases here : messageId = before.id
    · rcases outcome with unchanged | facts
      · rw [unchanged, found] at stored
        exact .inl (Option.some.inj stored).symm
      · exact .inr ⟨here, same here facts⟩
    · exact .inl (revised.untouched here fun erases => erases)
  case deleteMessage chatId messageId =>
    have flow := deleteMessage_ends ⟨user, now, .deleteMessage chatId messageId⟩ db chatId messageId
    have outcome : (perform ⟨user, now, .deleteMessage chatId messageId⟩ db).2 = db ∨
        ∃ message, db.liveMessage? messageId = some message ∧ message.chatId = chatId :=
      settled_of_ends rfl flow
    by_cases here : messageId = before.id
    · rcases outcome with unchanged | facts
      · rw [unchanged, found] at stored
        exact .inl (Option.some.inj stored).symm
      · exact .inr ⟨here, same here facts⟩
    · exact .inl (revised.untouched (fun edits => edits) here)
  all_goals exact .inl (revised.untouched (fun edits => edits) fun erases => erases)

theorem live_message {db : Db} {id : MessageId} {message : Message}
    (live : db.liveMessage? id = some message) :
    db.message? id = some message ∧ message.isDeleted = false := by
  obtain ⟨found, kept⟩ := Option.filter_eq_some_iff.mp live
  exact ⟨found, by simpa using kept⟩

theorem live_of_message {db : Db} {id : MessageId} {message : Message}
    (found : db.message? id = some message) (kept : message.isDeleted = false) :
    db.liveMessage? id = some message := by simp [Db.liveMessage?, found, kept]

theorem mem_attachmentsOf {db : Db} {messageId : MessageId} {attachment : MessageAttachment}
    (member : attachment ∈ db.attachmentsOf messageId) :
    db.attachment? attachment.id = some attachment ∧ attachment.messageId = some messageId := by
  rw [Db.attachmentsOf, List.mem_insertionSort] at member
  obtain ⟨stored, bound⟩ := List.mem_filter.mp member
  exact ⟨(Table.mem_rows_iff _ attachment).mp stored, beq_iff_eq.mp bound⟩

/-- The foreign key of a pin, and that a message is pinned in its own chat. -/
def PinsStored (db : Db) : Prop :=
  ∀ pin ∈ db.pins.rows, ∃ message, db.message? pin.messageId = some message ∧
    message.chatId = pin.chatId

theorem pinsInChat_of_stored {db : Db} (stored : PinsStored db) : PinsInChat db := by
  intro pin listed message found
  obtain ⟨target, there, inChat⟩ := stored pin listed
  cases there.symm.trans found
  exact inChat

theorem pinsStored_step {request : Request} {db final : Db} (pinned : PinsStored db)
    (evolved : Evolved request db final) : PinsStored final := by
  intro pin listed
  have known : ∃ message, db.message? pin.messageId = some message ∧
      message.chatId = pin.chatId := by
    rcases evolved.pins pin listed with there | ⟨target, live, inChat⟩
    · exact pinned pin there
    · exact ⟨target, (live_message live).1, inChat⟩
  obtain ⟨before, found, inChat⟩ := known
  obtain ⟨later, stored, revised⟩ := evolved.kept _ before found
  exact ⟨later, stored, revised.succeeds.chatId.trans inChat⟩

theorem pinsStored_run {Meets : Db → Request → Prop} {initial final : Db}
    (start : PinsStored initial) (run : Reaches Meets initial final) : PinsStored final :=
  reaches_invariant PinsStored start
    (fun db request _ pinned => pinsStored_step pinned (perform_evolved request db)) run

end Messanger
