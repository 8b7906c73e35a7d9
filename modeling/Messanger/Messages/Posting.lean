import Messanger.Messages.MessageEffects

/-!
The commands that post messages, run alone: where the new messages come from, which files they
carry and what the command answers.
-/

namespace Messanger

open Relational

theorem Db.message_stays (db : Db) (write : Write) {id : MessageId}
    (there : (db.message? id).isSome) : ((Db.apply write db).message? id).isSome := by
  cases write
  case insertMessage message =>
    rw [Db.message_insertMessage, Option.isSome_or, there]
    rfl
  case editMessage => rwa [Db.message_editMessage, Option.isSome_map]
  case deleteMessage => rwa [Db.message_deleteMessage, Option.isSome_map]
  all_goals exact there

structure Standing (request : Request) (db : Db) (ids : List MessageId) (seen : Db) : Prop where
  evolved : Evolved request db seen
  added : ∀ id ∈ ids, AddedTo db seen id

structure Posted (request : Request) (db final : Db) (loaded : LoadedMessage) : Prop where
  added : AddedTo db final loaded.message.id
  sourced : Sourced request db loaded.message
  files : ∀ attachment ∈ loaded.attachments, request.Claims attachment.id ∨
    db.attachment? attachment.id = none
  filed : ∀ attachment ∈ loaded.attachments,
    (request.Claims attachment.id ∧ ∃ before, db.attachment? attachment.id = some before ∧
      attachment.chatId = before.chatId) ∨ attachment.chatId = loaded.message.chatId

section Rules

variable {request : Request} {db seen : Db} {ids : List MessageId} {Answer Result : Type}
  {Post : Result → Db → Prop}

theorem standing_write {write : Write} (standing : Standing request db ids seen)
    (evolved : Evolved request db (Db.apply write seen)) :
    Standing request db ids (Db.apply write seen) :=
  ⟨evolved, fun id member => ⟨(standing.added id member).1,
    seen.message_stays write (standing.added id member).2⟩⟩

theorem ends_plain {locks : Db → List RowKey} {writes : Db → List Write}
    {answer : Db → Except ChatError Answer} {rest : Answer → Handler Result}
    (standing : Standing request db ids seen)
    (plain : ∀ write ∈ writes seen, request.Footprint write ∧ write.Plain)
    (next : ∀ result after, answer seen = .ok result → Standing request db ids after →
      (rest result).Ends db after Post) :
    ((Tx.statement locks writes answer).bind rest).Ends db seen Post := by
  refine Tx.ends_statement fun result answered => next result _ answered ?_
  refine applyAll_preserves (Standing request db ids) (writes seen) (fun write member db inside => ?_)
    seen standing
  exact standing_write inside
    (evolved_footprint inside.evolved (plain write member).1 (plain write member).2)

theorem ends_insertMessage {message : Message} {rest : Unit → Handler Result}
    (standing : Standing request db ids seen) (sourced : Sourced request db message)
    (next : ∀ after, Standing request db (message.id :: ids) after → (rest ()).Ends db after Post) :
    ((insertMessage message).bind rest).Ends db seen Post := by
  refine Tx.ends_statement fun _ answered => next _ ?_
  split at answered
  · cases answered
  · rename_i free
    rw [if_neg free, applyAll_cons, applyAll_nil, Db.apply_eq]
    have evolved := evolved_insertMessage standing.evolved sourced
    refine ⟨evolved, fun id member => ?_⟩
    rcases List.mem_cons.mp member with rfl | earlier
    · refine ⟨?_, ?_⟩
      · by_contra known
        obtain ⟨before, found⟩ := Option.ne_none_iff_exists'.mp known
        obtain ⟨later, stored, _⟩ := standing.evolved.kept _ before found
        exact free (by simp [stored])
      · rw [Db.message_insertMessage]
        simp
    · exact (standing_write standing evolved).added id earlier

theorem ends_insertAttachment {copy : MessageAttachment} {messageId : MessageId}
    {rest : Unit → Handler Result} (standing : Standing request db ids seen)
    (copied : copy.sourceAttachmentId.isSome) (bound : copy.messageId = some messageId)
    (posted : messageId ∈ ids)
    (next : ∀ after, Standing request db ids after → db.attachment? copy.id = none →
      (rest ()).Ends db after Post) :
    ((insertAttachment copy).bind rest).Ends db seen Post := by
  refine Tx.ends_statement fun _ answered => ?_
  split at answered
  · cases answered
  · rename_i free
    rw [if_neg free, applyAll_cons, applyAll_nil, Db.apply_eq]
    refine next _ (standing_write standing (evolved_insertAttachment standing.evolved ?_)) ?_
    · intro other same
      rw [bound, Option.some.injEq] at same
      exact ⟨copied, same ▸ standing.added messageId posted⟩
    · by_contra known
      obtain ⟨before, found⟩ := Option.ne_none_iff_exists'.mp known
      obtain ⟨later, stored, _⟩ := standing.evolved.files _ before found
      exact free (by simp [stored])

theorem ends_postedEvent {events : List ChatEvent} {rest : Unit → Handler Result}
    (standing : Standing request db ids seen)
    (next : ∀ after, Standing request db ids after → after.attachments = seen.attachments →
      (rest ()).Ends db after Post) :
    ((publish events).bind rest).Ends db seen Post := by
  have evolved : Evolved request db (Db.apply (.publish events) seen) :=
    evolved_footprint standing.evolved trivial trivial
  exact Tx.ends_statement fun _ _ => next _ (standing_write standing evolved) rfl

theorem ends_bindAttachment {attachment : MessageAttachment} {messageId : MessageId} {seq : Nat}
    {rest : Unit → Handler Result} (standing : Standing request db ids seen)
    (claims : request.Claims attachment.id) (known : (db.attachment? attachment.id).isSome)
    (posted : messageId ∈ ids)
    (next : (after : Db) → Standing request db ids after →
      (∀ id, after.attachment? id = (seen.attachment? id).map fun row =>
        if row.id = attachment.id then row.bindToMessage messageId seq else row) →
      (rest ()).Ends db after Post) :
    ((bindAttachment messageId seq attachment).bind rest).Ends db seen Post := by
  refine Tx.ends_statement fun _ answered => ?_
  split at answered
  · rename_i present
    rw [if_pos present, applyAll_cons, applyAll_nil, Db.apply_eq]
    refine next _ (standing_write standing (evolved_bind standing.evolved claims known
      (standing.added messageId posted))) fun id => ?_
    exact seen.attachment_bindAttachment attachment.id messageId seq id
  · cases answered

theorem ends_allocate {target : ChatId} {date count : Nat} {error : ChatError}
    {rest : Nat → Handler Result} (standing : Standing request db ids seen)
    (next : ∀ seq after, Standing request db ids after → (rest seq).Ends db after Post) :
    ((allocateMessageSeq target date count).bind fun allocated =>
      (Tx.orRaise allocated error).bind rest).Ends db seen Post := by
  refine ends_plain standing (fun write member => ?_) fun _ after _ still =>
    Tx.ends_orRaise fun seq _ => next seq after still
  split at member
  · rw [List.mem_singleton.mp member]
    exact ⟨trivial, trivial⟩
  · cases member

theorem ends_insertCopies {copies : List MessageAttachment} {messageId : MessageId}
    {rest : Unit → Handler Result} (standing : Standing request db ids seen)
    (copied : ∀ copy ∈ copies, copy.sourceAttachmentId.isSome ∧ copy.messageId = some messageId)
    (posted : messageId ∈ ids)
    (next : ∀ after, Standing request db ids after →
      (∀ copy ∈ copies, db.attachment? copy.id = none) → (rest ()).Ends db after Post) :
    ((Tx.each insertAttachment copies).bind rest).Ends db seen Post := by
  refine Tx.ends_rounds (fun todo after => Standing request db ids after ∧
      (∀ copy ∈ todo, copy ∈ copies) ∧
      ∀ copy ∈ copies, copy ∈ todo ∨ db.attachment? copy.id = none)
    (fun copy others after rest inside onwards => ?_) (fun after inside => ?_) copies seen
    ⟨standing, fun _ member => member, fun _ member => .inl member⟩
  · obtain ⟨here, todo, waiting⟩ := inside
    obtain ⟨source, bound⟩ := copied copy (todo copy List.mem_cons_self)
    refine ends_insertAttachment here source bound posted fun final still fresh => ?_
    refine onwards final ⟨still, fun other member => todo other (List.mem_cons_of_mem _ member),
      fun other member => ?_⟩
    rcases waiting other member with queued | done
    · rcases List.mem_cons.mp queued with rfl | later
      · exact .inr fresh
      · exact .inl later
    · exact .inr done
  · refine next after inside.1 fun copy member => ?_
    rcases inside.2.2 copy member with impossible | fresh
    · cases impossible
    · exact fresh

theorem ends_saveMessage {created : Message × List MessageAttachment} {rest : Unit → Handler Result}
    (standing : Standing request db ids seen) (sourced : Sourced request db created.1)
    (copied : ∀ copy ∈ created.2, copy.sourceAttachmentId.isSome ∧
      copy.messageId = some created.1.id)
    (next : ∀ after, Standing request db (created.1.id :: ids) after →
      (∀ copy ∈ created.2, db.attachment? copy.id = none) → (rest ()).Ends db after Post) :
    ((saveMessage created).bind rest).Ends db seen Post := by
  unfold saveMessage
  rw [Tx.bind_eq, Tx.bind_assoc]
  refine ends_insertMessage standing sourced fun after inserted => ?_
  exact ends_insertCopies inserted copied List.mem_cons_self next

end Rules

section Access

variable {user : UserJWTData} {now : Nat} {member : ChatMember}

theorem unbanned_of_permissions {must : List Permission}
    (allowed : hasPermissions user now (some member) must = true) :
    hasGlobalChatAdmin user = true ∨ member.isBanned now = false := by
  simp only [hasPermissions, Bool.or_eq_true, Bool.and_eq_true, Bool.not_eq_true'] at allowed
  exact allowed.imp_right fun checks => checks.1.1

theorem unbanned_of_send {chat : Chat}
    (allowed : canSendMessage user now chat (some member) = true) :
    hasGlobalChatAdmin user = true ∨ member.isBanned now = false := by
  simp only [canSendMessage, memberCanSend, Bool.or_eq_true, Bool.and_eq_true,
    Bool.not_eq_true'] at allowed
  exact allowed.imp_right fun checks => checks.1.1.1.1

theorem active_of_row {request : Request} {db : Db} {chatId : ChatId}
    (found : db.member? chatId request.user.id = some member)
    (free : hasGlobalChatAdmin request.user = true ∨ member.isBanned request.now = false) :
    request.Active db chatId := free.imp_right fun unbanned => ⟨member, found, unbanned⟩

theorem active_of_pin {db : Db} {chatId : ChatId} {command : Command}
    (allowed : ensureCanPin user now (db.member? chatId user.id) chatId = .ok ()) :
    Request.Active ⟨user, now, command⟩ db chatId := by
  unfold ensureCanPin at allowed
  split at allowed
  · rename_i permitted
    cases found : db.member? chatId user.id with
    | none =>
        rw [found] at permitted
        exact .inl (by simpa [hasPermissions] using permitted)
    | some row =>
        rw [found] at permitted
        exact active_of_row found (unbanned_of_permissions permitted)
  · repeat' split at allowed
    all_goals cases allowed

theorem Chat.pinMessage_ok {chat : Chat} {message : Message} {pinnedBy : UserId}
    {pinnedCount : Nat} {pin : ChatPinnedMessage}
    (pinned : chat.pinMessage message pinnedBy pinnedCount now = .ok pin) :
    pin.chatId = message.chatId ∧ pin.messageId = message.id := by
  unfold Chat.pinMessage at pinned
  split at pinned
  · cases pinned
  · rename_i fine
    repeat' split at pinned
    all_goals cases pinned
    exact ⟨(not_not.mp fun other => fine (.inl other)).symm, rfl⟩

end Access

theorem ends_bindClaimed {request : Request} {db seen : Db} {ids : List MessageId} {Result : Type}
    {Post : Result → Db → Prop} {claimed : List MessageAttachment} {messageId : MessageId}
    {seq : Nat} {rest : Unit → Handler Result} (standing : Standing request db ids seen)
    (known : ∀ attachment ∈ claimed, request.Claims attachment.id ∧
      (db.attachment? attachment.id).isSome) (posted : messageId ∈ ids)
    (next : ∀ after, Standing request db ids after →
      (∀ attachment ∈ claimed, ∃ later, after.attachment? attachment.id = some later ∧
        later.messageId = some messageId) → (rest ()).Ends db after Post) :
    ((Tx.each (bindAttachment messageId seq)
      (claimed.map (·.bindToMessage messageId seq))).bind rest).Ends db seen Post := by
  refine Tx.ends_rounds (fun todo after => Standing request db ids after ∧
      (∀ row ∈ todo, ∃ attachment ∈ claimed, row.id = attachment.id) ∧
      ∀ attachment ∈ claimed, attachment.id ∈ todo.map (·.id) ∨
        ∃ later, after.attachment? attachment.id = some later ∧ later.messageId = some messageId)
    (fun row others after rest inside onwards => ?_) (fun after inside => ?_) _ seen
    ⟨standing, fun row member => ?_, fun attachment member => .inl ?_⟩
  · obtain ⟨here, todo, waiting⟩ := inside
    obtain ⟨attachment, member, same⟩ := todo row List.mem_cons_self
    obtain ⟨claims, stored⟩ := known attachment member
    refine ends_bindAttachment here (same ▸ claims) (same ▸ stored) posted
      fun final still moved => onwards final ⟨still, fun other queued =>
        todo other (List.mem_cons_of_mem _ queued), fun other listed => ?_⟩
    have now := (known other listed).2
    obtain ⟨before, found⟩ := Option.isSome_iff_exists.mp now
    obtain ⟨middle, stored, _⟩ := here.evolved.files _ before found
    have key := Db.attachment_id stored
    by_cases target : other.id = row.id
    · refine .inr ⟨middle.bindToMessage messageId seq, ?_, rfl⟩
      rw [moved, stored, Option.map_some, key, if_pos target]
    · rcases waiting other listed with queued | ⟨later, there, bound⟩
      · rcases List.mem_cons.mp queued with same | later
        · exact absurd same target
        · exact .inl later
      · refine .inr ⟨later, ?_, bound⟩
        rw [moved, there, Option.map_some, Db.attachment_id there, if_neg target]
  · refine next after inside.1 fun attachment member => ?_
    rcases inside.2.2 attachment member with impossible | bound
    · cases impossible
    · exact bound
  · obtain ⟨attachment, listed, rfl⟩ := List.mem_map.mp member
    exact ⟨attachment, listed, rfl⟩
  · rw [List.map_map]
    exact List.mem_map.mpr ⟨attachment, member, rfl⟩

section Handlers

variable (user : UserJWTData) (now : Nat) (db : Db)

/-- What a `SendMessage` that ends well has done. -/
structure Sent (request : Request) (new : NewMessage) (id : MessageId) (db : Db)
    (loaded : LoadedMessage) (final : Db) : Prop where
  evolved : Evolved request db final
  posted : Posted request db final loaded
  named : loaded.message.id = id
  counted : db.attachmentsByIds new.uploadTokens = [] ∨
    new.uploadTokens.length = (db.attachmentsByIds new.uploadTokens).length
  listed : loaded.attachments.map (·.id) = (db.attachmentsByIds new.uploadTokens).map (·.id)
  bound : ∀ attachment ∈ db.attachmentsByIds new.uploadTokens,
    ∃ later, final.attachment? attachment.id = some later ∧ later.messageId = some id

theorem sendMessage_ends (chatId : ChatId) (new : NewMessage) (slowTtl : Option Nat)
    (id : MessageId) :
    (sendMessage user now chatId new slowTtl id).Ends db db fun dto final =>
      ∃ loaded, dto = { body := loaded } ∧
        Sent ⟨user, now, .sendMessage chatId new slowTtl id⟩ new id db loaded final := by
  unfold sendMessage
  simp only [Tx.bind_eq, Tx.pure_eq]
  refine Tx.ends_statement fun found answered => Tx.ends_require fun allowed => ?_
  obtain ⟨_, memberFound⟩ := Db.chatAndMember_ok answered
  rw [applyAll_nil]
  refine Tx.ends_statement fun _ _ => Tx.ends_ofExcept fun _ _ => Tx.ends_read ?_
  rw [applyAll_nil]
  refine Tx.ends_require fun counted => Tx.ends_statement fun _ replied => ?_
  rw [applyAll_nil]
  have start : Standing ⟨user, now, .sendMessage chatId new slowTtl id⟩ db [] db :=
    ⟨evolved_refl _ db, fun _ member => nomatch member⟩
  refine ends_allocate start fun seq reserved standing => Tx.ends_ofExcept fun created built => ?_
  obtain ⟨message, files⟩ := Message.create_ok built
  have sourced : Sourced ⟨user, now, .sendMessage chatId new slowTtl id⟩ db created.1 := by
    rw [message]
    refine ⟨by simp [Request.Posts], active_of_row memberFound (unbanned_of_send allowed),
      fun target named => ?_, nofun⟩
    have wanted : new.replyToId = some target := named
    simp only [wanted] at replied
    split at replied
    · rename_i there
      obtain ⟨answered, live⟩ := Option.isSome_iff_exists.mp there
      exact ⟨answered, live, .inr wanted⟩
    · cases replied
  have sameId : created.1.id = id := by rw [message]
  refine ends_insertMessage standing sourced fun after inserted => ?_
  rw [sameId] at inserted
  simp only [files, Option.getD_some]
  refine ends_bindClaimed inserted (fun attachment member => ?_) (by simp) fun final still bound => ?_
  · refine ⟨Db.attachmentsByIds_wanted member, ?_⟩
    rw [Db.attachment?, (Table.mem_rows_iff _ attachment).mp (List.mem_of_mem_filter member)]
    rfl
  · refine ends_postedEvent still fun last ended attachments =>
      Tx.ends_commit ⟨_, rfl, ended.evolved, ⟨?_, sourced, ?_, ?_⟩, sameId, ?_, ?_, ?_⟩
    · rw [sameId]
      exact ended.added id (by simp)
    · intro attachment member
      obtain ⟨row, listed, rfl⟩ := List.mem_map.mp member
      have wanted : row.id ∈ new.uploadTokens := Db.attachmentsByIds_wanted listed
      exact .inl wanted
    · intro attachment member
      obtain ⟨row, listed, rfl⟩ := List.mem_map.mp member
      have wanted : row.id ∈ new.uploadTokens := Db.attachmentsByIds_wanted listed
      have stored : db.attachment? row.id = some row :=
        (Table.mem_rows_iff _ row).mp (List.mem_of_mem_filter listed)
      exact .inl ⟨wanted, row, stored, rfl⟩
    · simpa [Bool.or_eq_true, List.isEmpty_iff] using counted
    · simp only [List.map_map]
      rfl
    · intro attachment member
      rw [Db.attachment?, attachments]
      exact bound attachment member

theorem forwardMessage_ends (source : ForwardSource) (target : ChatId) (comment : Option String)
    (slowTtl : Option Nat) (id : MessageId) (fresh : Nat → AttachmentId) :
    (forwardMessage user now source target comment slowTtl id fresh).Ends db db fun dto final =>
      Evolved ⟨user, now, .forwardMessage source target comment slowTtl id fresh⟩ db final ∧
        ∃ loaded, dto = { body := loaded } ∧
          Posted ⟨user, now, .forwardMessage source target comment slowTtl id fresh⟩ db final
            loaded := by
  unfold forwardMessage
  simp only [Tx.bind_eq, Tx.pure_eq]
  refine Tx.ends_read (Tx.ends_orRaise fun sourceMember sourceFound => Tx.ends_read ?_)
  refine Tx.ends_orRaise fun original loaded => Tx.ends_require fun inSource => ?_
  refine Tx.ends_require fun readable => Tx.ends_statement fun found answered => ?_
  obtain ⟨targetFound, memberFound⟩ := Db.chatAndMember_ok answered
  rw [applyAll_nil]
  refine Tx.ends_require fun allowed => Tx.ends_statement fun _ _ => ?_
  rw [applyAll_nil]
  refine Tx.ends_ofExcept fun _ _ => ?_
  have start : Standing ⟨user, now, .forwardMessage source target comment slowTtl id fresh⟩ db [] db :=
    ⟨evolved_refl _ db, fun _ member => nomatch member⟩
  refine ends_allocate start fun seq reserved standing => Tx.ends_ofExcept fun created built => ?_
  obtain ⟨message, files⟩ := Message.create_ok built
  obtain ⟨root, live, rfl⟩ := Option.map_eq_some_iff.mp loaded
  have sourced : Sourced ⟨user, now, .forwardMessage source target comment slowTtl id fresh⟩ db
      created.1 := by
    rw [message]
    refine ⟨by simp [Request.Posts], active_of_row memberFound (unbanned_of_send allowed), nofun,
      fun named origin => ⟨root, ?_, ?_, ?_, ?_⟩⟩
    · rw [Db.liveMessage_id live]
      exact live
    · exact (Db.liveMessage_id live).symm
    · have inChat : root.chatId = source.chatId := beq_iff_eq.mp inSource
      rw [inChat]
      exact active_of_row sourceFound (unbanned_of_permissions readable)
    · have given : root.forwardedFromMessageId.or (some root.id) = some named := origin
      cases chained : root.forwardedFromMessageId with
      | none =>
          rw [chained, Option.none_or, Option.some.injEq] at given
          exact .inr given
      | some first =>
          rw [chained, Option.some_or] at given
          exact .inl given
  have sameId : created.1.id = id := by rw [message]
  refine ends_saveMessage standing sourced (fun copy member => ?_) fun final still untaken => ?_
  · rw [files, Option.getD_some] at member
    obtain ⟨row, listed, rfl⟩ := List.mem_map.mp member
    exact ⟨(forwardAttachments_ok row listed).2, congrArg some sameId.symm⟩
  · refine ends_postedEvent still fun last ended _ => Tx.ends_commit
      ⟨ended.evolved, _, rfl, ended.added _ List.mem_cons_self, sourced,
        fun attachment member => .inr (untaken _ member), fun attachment member => .inr ?_⟩
    rw [files, Option.getD_some] at member
    obtain ⟨row, listed, rfl⟩ := List.mem_map.mp member
    have inTarget : row.chatId = found.chat.id := (forwardAttachments_ok row listed).1
    rw [message]
    exact inTarget.trans (Db.openChat_id targetFound)

theorem pinMessage_ends (chatId : ChatId) (messageId noticeId : MessageId) :
    (pinMessage user now chatId messageId noticeId).Ends db db fun pinned final =>
      Evolved ⟨user, now, .pinMessage chatId messageId noticeId⟩ db final ∧
        ∃ message, db.liveMessage? message.id = some message ∧
          Request.Active ⟨user, now, .pinMessage chatId messageId noticeId⟩ db message.chatId ∧
          pinned.message = db.loadNested message := by
  unfold pinMessage
  simp only [Tx.bind_eq, Tx.pure_eq]
  refine Tx.ends_statement fun found answered => Tx.ends_orRaise fun chat chatFound => ?_
  rw [applyAll_nil]
  refine Tx.ends_read (Tx.ends_ofExcept fun _ allowed => Tx.ends_read ?_)
  refine Tx.ends_orRaise fun loaded loadedFound => Tx.ends_require fun inChat => Tx.ends_read ?_
  obtain ⟨message, live, rfl⟩ := Option.map_eq_some_iff.mp loadedFound
  have sameChat : message.chatId = chatId := beq_iff_eq.mp inChat
  have sameId := Db.liveMessage_id live
  have active : Request.Active ⟨user, now, .pinMessage chatId messageId noticeId⟩ db
      message.chatId := by
    rw [sameChat]
    exact active_of_pin allowed
  have told : ∃ shown, db.liveMessage? shown.id = some shown ∧
      Request.Active ⟨user, now, .pinMessage chatId messageId noticeId⟩ db shown.chatId ∧
      db.loadNested message = db.loadNested shown :=
    ⟨message, by rw [sameId]; exact live, active, rfl⟩
  split
  · exact Tx.ends_done ⟨evolved_refl _ db, told⟩
  · refine Tx.ends_read (Tx.ends_ofExcept fun pin pinned => ?_)
    have start : Standing ⟨user, now, .pinMessage chatId messageId noticeId⟩ db [] db :=
      ⟨evolved_refl _ db, fun _ member => nomatch member⟩
    refine ends_allocate start fun seq reserved standing => Tx.ends_ofExcept fun notice built => ?_
    obtain ⟨made, _⟩ := Message.create_ok built
    have sourced : Sourced ⟨user, now, .pinMessage chatId messageId noticeId⟩ db notice.1 := by
      rw [made]
      refine ⟨?_, sameChat ▸ active, fun target named => ⟨message, ?_, .inl sameChat⟩, nofun⟩
      · exact ⟨rfl, rfl, rfl, rfl, congrArg some sameId, rfl⟩
      · have same : message.id = target := Option.some.inj named
        rw [← same, sameId]
        exact live
    refine ends_insertMessage standing sourced fun after inserted => ?_
    obtain ⟨pinChat, pinMessage⟩ := Chat.pinMessage_ok pinned
    refine Tx.ends_statement fun _ stored => ?_
    split at stored
    · cases stored
    · rename_i free
      rw [if_neg free, applyAll_cons, applyAll_nil, Db.apply_eq]
      have pinned : db.liveMessage? pin.messageId = some message := by
        rw [pinMessage]
        exact sameId ▸ live
      have evolved := evolved_insertPin inserted.evolved pinned pinChat.symm
      refine ends_postedEvent (standing_write inserted evolved) fun last ended _ => ?_
      exact Tx.ends_commit ⟨ended.evolved, told⟩

theorem forwardDraft_origin {senderId : UserId} {chatId : ChatId} {hideAuthor notify : Bool}
    {fresh : Nat → AttachmentId} {source : LoadedMessage} {root : MessageId}
    (named : (forwardDraft senderId chatId hideAuthor notify fresh source).forwardedFromMessageId =
      some root) :
    source.message.forwardedFromMessageId = some root ∨ source.message.id = root := by
  unfold forwardDraft at named
  split at named
  · cases named
  · dsimp only at named
    split at named
    · exact .inl named
    · exact .inr (Option.some.inj named)

theorem forwardDrafts_origin {senderId : UserId} {chatId : ChatId} {hideAuthor : Bool}
    {comment : Option String} {fresh : Nat → Nat → AttachmentId} {sources : List LoadedMessage}
    {draft : Message.Draft} {root : MessageId}
    (member : draft ∈ forwardDrafts senderId chatId hideAuthor comment fresh sources)
    (named : draft.forwardedFromMessageId = some root) :
    ∃ source ∈ sources,
      source.message.forwardedFromMessageId = some root ∨ source.message.id = root := by
  rcases List.mem_append.mp member with commented | copied
  · cases comment with
    | none => cases commented
    | some text =>
        rw [List.mem_singleton.mp commented] at named
        cases named
  · obtain ⟨index, bound, rfl⟩ := List.mem_mapIdx.mp copied
    exact ⟨_, List.getElem_mem _, forwardDraft_origin named⟩

theorem live_of_rows {db : Db} {message : Message} (stored : message ∈ db.messages.rows)
    (kept : message.isDeleted = false) : db.liveMessage? message.id = some message := by
  have found : db.message? message.id = some message := (Table.mem_rows_iff _ message).mp stored
  simp [Db.liveMessage?, found, kept]

theorem liveMessages_live {db : Db} {chatId : ChatId} {wanted : Message → Bool} {message : Message}
    (member : message ∈ db.liveMessages chatId wanted) :
    db.liveMessage? message.id = some message ∧ wanted message = true ∧ message.chatId = chatId := by
  obtain ⟨stored, passed⟩ := List.mem_filter.mp member
  simp only [Bool.and_eq_true, Bool.not_eq_true', beq_iff_eq] at passed
  exact ⟨live_of_rows stored passed.1.2, passed.2, passed.1.1⟩

theorem forwardMessages_ends (source : ChatId) (sourceIds : List MessageId) (target : ChatId)
    (hideAuthor : Bool) (comment : Option String) (slowTtl : Option Nat) (newIds : Nat → MessageId)
    (fresh : Nat → Nat → AttachmentId) :
    (forwardMessages user now source sourceIds target hideAuthor comment slowTtl newIds fresh).Ends
      db db fun bodies final =>
        Evolved ⟨user, now, .forwardMessages source sourceIds target hideAuthor comment slowTtl newIds
          fresh⟩ db final ∧
        ∀ loaded ∈ bodies, Posted ⟨user, now, .forwardMessages source sourceIds target hideAuthor
          comment slowTtl newIds fresh⟩ db final loaded := by
  unfold forwardMessages
  simp only [Tx.bind_eq, Tx.pure_eq]
  refine Tx.ends_read (Tx.ends_orRaise fun sourceMember sourceFound => ?_)
  refine Tx.ends_require fun unbanned => Tx.ends_require fun readable => Tx.ends_read ?_
  refine Tx.ends_require fun _ => Tx.ends_require fun _ => Tx.ends_statement fun found answered => ?_
  obtain ⟨_, memberFound⟩ := Db.chatAndMember_ok answered
  rw [applyAll_nil]
  refine Tx.ends_require fun allowed => Tx.ends_statement fun _ _ => Tx.ends_ofExcept fun _ _ => ?_
  rw [applyAll_nil]
  have start : Standing ⟨user, now, .forwardMessages source sourceIds target hideAuthor comment
      slowTtl newIds fresh⟩ db [] db := ⟨evolved_refl _ db, fun _ member => nomatch member⟩
  refine ends_allocate start fun seq reserved standing => Tx.ends_ofExcept fun created built => ?_
  have entries : ∀ entry ∈ created, Sourced ⟨user, now, .forwardMessages source sourceIds target
      hideAuthor comment slowTtl newIds fresh⟩ db entry.1 ∧
      (∀ copy ∈ entry.2, copy.sourceAttachmentId.isSome ∧ copy.messageId = some entry.1.id) ∧
      ∀ copy ∈ entry.2, copy.chatId = entry.1.chatId := by
    intro entry member
    obtain ⟨index, draft, drafted, made⟩ := buildMessages_ok built entry member
    obtain ⟨message, files⟩ := Message.create_ok made
    obtain ⟨sender, inChat, noReply, copies⟩ := forwardDrafts_ok draft drafted
    rw [message, files]
    refine ⟨⟨?_, ?_, fun answered named => ?_, fun root named => ?_⟩, fun copy listed => ?_,
      fun copy listed => ?_⟩
    · exact ⟨sender, rfl, inChat, ⟨index, rfl⟩, noReply⟩
    · dsimp only
      rw [inChat]
      exact active_of_row memberFound (unbanned_of_send allowed)
    · dsimp only at named
      rw [noReply] at named
      cases named
    · obtain ⟨origin, listed, traced⟩ := forwardDrafts_origin drafted named
      obtain ⟨message, sorted, rfl⟩ := List.mem_map.mp (List.mem_of_mem_filter listed)
      obtain ⟨live, wanted, inSource⟩ :=
        liveMessages_live ((List.mem_insertionSort _).mp sorted)
      refine ⟨message, live, ?_, ?_, traced⟩
      · exact List.mem_eraseDups.mp (by simpa using wanted)
      · rw [inSource]
        exact active_of_row sourceFound (unbanned_of_permissions readable)
    · obtain ⟨row, copied, rfl⟩ := List.mem_map.mp listed
      exact ⟨(copies row copied).2, rfl⟩
    · obtain ⟨row, copied, rfl⟩ := List.mem_map.mp listed
      exact (copies row copied).1.trans inChat.symm
  refine Tx.ends_rounds (fun todo seen => ∃ ids, Standing _ db ids seen ∧
      (∀ entry ∈ todo, entry ∈ created) ∧
      ∀ entry ∈ created, entry ∈ todo ∨
        entry.1.id ∈ ids ∧ ∀ copy ∈ entry.2, db.attachment? copy.id = none)
    (fun entry others seen rest inside onwards => ?_) (fun seen inside => ?_) created reserved
    ⟨[], standing, fun _ member => member, fun _ member => .inl member⟩
  · obtain ⟨ids, here, todo, waiting⟩ := inside
    obtain ⟨sourced, copied, _⟩ := entries entry (todo entry List.mem_cons_self)
    refine ends_saveMessage here sourced copied fun after still untaken => onwards after
      ⟨entry.1.id :: ids, still, fun other member => todo other (List.mem_cons_of_mem _ member),
        fun other member => ?_⟩
    rcases waiting other member with queued | ⟨saved, fresh⟩
    · rcases List.mem_cons.mp queued with rfl | later
      · exact .inr ⟨List.mem_cons_self, untaken⟩
      · exact .inl later
    · exact .inr ⟨List.mem_cons_of_mem _ saved, fresh⟩
  · obtain ⟨ids, here, _, finished⟩ := inside
    refine ends_postedEvent here fun last ended _ => Tx.ends_commit ⟨ended.evolved, ?_⟩
    intro loaded member
    obtain ⟨entry, listed, rfl⟩ := List.mem_map.mp member
    rcases finished entry listed with impossible | ⟨saved, fresh⟩
    · cases impossible
    · exact ⟨ended.added _ saved, (entries entry listed).1,
        fun attachment copied => .inr (fresh attachment copied),
        fun attachment copied => .inr ((entries entry listed).2.2 attachment copied)⟩

end Handlers

end Messanger
