import Messanger.Messages.Replies
import Messanger.Messages.MessageSeq
import Messanger.Messages.AttachmentStatus

/-!
Which message an upload belongs to.  As long as senders name their own unused uploads of the
chat, an upload is bound once, to a message of its uploader in its own chat.
-/

namespace Messanger

open Relational

/-- An attachment that names a message names a stored one; that of an upload was written by its
uploader and lies in the upload's chat. -/
structure Attached (db : Db) : Prop where
  linked : ∀ id attachment messageId, db.attachment? id = some attachment →
    attachment.messageId = some messageId → (db.message? messageId).isSome
  owned : ∀ id attachment messageId message, db.attachment? id = some attachment →
    attachment.sourceAttachmentId = none → attachment.messageId = some messageId →
    db.message? messageId = some message →
      message.authorId = some attachment.uploaderId ∧ message.chatId = attachment.chatId

/-- The tokens of a `SendMessage` name uploads of the sender for this chat that are not attached
to a message yet, and not only unknown ones. -/
def SendsOwn (db : Db) (request : Request) : Prop :=
  match request.command with
  | .sendMessage chatId new _ _ =>
      (new.uploadTokens = [] ∨ ∃ token ∈ new.uploadTokens, (db.attachment? token).isSome) ∧
        ∀ token ∈ new.uploadTokens, ∀ attachment, db.attachment? token = some attachment →
          attachment.uploaderId = request.user.id ∧ attachment.chatId = chatId ∧
            attachment.messageId = none
  | _ => True

section Step

variable {request : Request} {db final : Db}

theorem claimed_unbound {id : AttachmentId} {attachment : MessageAttachment}
    (own : SendsOwn db request) (claims : request.Claims id)
    (found : db.attachment? id = some attachment) : attachment.messageId = none := by
  obtain ⟨user, now, command⟩ := request
  cases command
  case sendMessage => exact (own.2 id claims attachment found).2.2
  all_goals exact claims.elim

theorem claimed_owned {id : AttachmentId} {attachment : MessageAttachment} {message : Message}
    (own : SendsOwn db request) (claims : request.Claims id)
    (found : db.attachment? id = some attachment) (posts : request.Posts message) :
    message.authorId = some attachment.uploaderId ∧ message.chatId = attachment.chatId := by
  obtain ⟨user, now, command⟩ := request
  cases command
  case sendMessage =>
    obtain ⟨uploader, inChat, _⟩ := own.2 id claims attachment found
    rw [uploader, inChat]
    exact ⟨posts.1, posts.2.2.1⟩
  all_goals exact claims.elim

theorem binding_stays (own : SendsOwn db request) (evolved : Evolved request db final)
    {id : AttachmentId} {attachment : MessageAttachment} {messageId : MessageId}
    (found : db.attachment? id = some attachment)
    (bound : attachment.messageId = some messageId) :
    ∃ later, final.attachment? id = some later ∧ later.messageId = some messageId := by
  obtain ⟨later, stored, _, same | ⟨claims, _⟩⟩ := evolved.files id attachment found
  · exact ⟨later, stored, same.trans bound⟩
  · rw [claimed_unbound own claims found] at bound
    cases bound

theorem attached_step (own : SendsOwn db request) (attached : Attached db)
    (evolved : Evolved request db final) : Attached final := by
  have present : ∀ {messageId}, (db.message? messageId).isSome →
      (final.message? messageId).isSome := by
    intro messageId there
    obtain ⟨before, found⟩ := Option.isSome_iff_exists.mp there
    obtain ⟨later, stored, _⟩ := evolved.kept messageId before found
    rw [stored]
    rfl
  refine ⟨fun id attachment messageId stored bound => ?_,
    fun id attachment messageId message stored uploaded bound posted => ?_⟩
  · cases found : db.attachment? id with
    | none => exact (evolved.stored id attachment found stored messageId bound).2.2
    | some before =>
        obtain ⟨later, there, _, same | ⟨_, other, boundTo, added⟩⟩ := evolved.files id before found
        · cases there.symm.trans stored
          exact present (attached.linked id before messageId found (same.symm.trans bound))
        · cases there.symm.trans stored
          cases boundTo.symm.trans bound
          exact added.2
  · cases found : db.attachment? id with
    | none =>
        have copied := (evolved.stored id attachment found stored messageId bound).1
        rw [uploaded] at copied
        cases copied
    | some before =>
        obtain ⟨later, there, file, moved⟩ := evolved.files id before found
        cases there.symm.trans stored
        rw [file.uploaderId, file.chatId]
        rcases moved with same | ⟨claims, other, boundTo, added⟩
        · have boundBefore := same.symm.trans bound
          obtain ⟨old, known⟩ := Option.isSome_iff_exists.mp
            (attached.linked id before messageId found boundBefore)
          obtain ⟨now, reached, revised⟩ := evolved.kept messageId old known
          cases reached.symm.trans posted
          rw [revised.succeeds.authorId, revised.succeeds.chatId]
          have uploadedBefore := file.sourceAttachmentId.symm.trans uploaded
          exact attached.owned id before messageId old found uploadedBefore boundBefore known
        · cases boundTo.symm.trans bound
          have sourced := evolved.added messageId message added.1 posted
          exact claimed_owned own claims found sourced.posts

end Step

theorem attached_run {initial final : Db} (start : Attached initial)
    (run : Reaches SendsOwn initial final) : Attached final :=
  reaches_invariant Attached start
    (fun db request own attached => attached_step own attached (perform_evolved request db)) run

theorem binding_run {middle final : Db} (run : Reaches SendsOwn middle final) {id : AttachmentId}
    {attachment : MessageAttachment} {messageId : MessageId}
    (found : middle.attachment? id = some attachment)
    (bound : attachment.messageId = some messageId) :
    ∃ later, final.attachment? id = some later ∧ later.messageId = some messageId := by
  induction run with
  | refl => exact ⟨attachment, found, bound⟩
  | @step db request _ own ih =>
      obtain ⟨later, stored, same⟩ := ih
      exact binding_stays own (perform_evolved request db) stored same

section Sends

variable {db : Db} {user : UserJWTData} {now : Nat} {chatId : ChatId} {new : NewMessage}
  {slowTtl : Option Nat} {messageId : MessageId}

theorem claimed_covers (counted : new.uploadTokens.length = (db.attachmentsByIds
    new.uploadTokens).length) (token : AttachmentId) :
    token ∈ new.uploadTokens ↔ token ∈ (db.attachmentsByIds new.uploadTokens).map (·.id) := by
  have unique : ((db.attachmentsByIds new.uploadTokens).map (·.id)).Nodup :=
    db.attachments.unique.sublist (List.filter_sublist.map _)
  have named : (db.attachmentsByIds new.uploadTokens).map (·.id) ⊆ new.uploadTokens := by
    intro id member
    obtain ⟨row, listed, rfl⟩ := List.mem_map.mp member
    exact Db.attachmentsByIds_wanted listed
  have shorter : new.uploadTokens.length ≤
      ((db.attachmentsByIds new.uploadTokens).map (·.id)).length := by
    rw [List.length_map, counted]
  exact ((List.subperm_of_subset unique named).perm_of_length_le shorter).mem_iff.symm

theorem claimed_found {token : AttachmentId} (named : token ∈ new.uploadTokens)
    (known : (db.attachment? token).isSome) : db.attachmentsByIds new.uploadTokens ≠ [] := by
  obtain ⟨row, found⟩ := Option.isSome_iff_exists.mp known
  have key := Db.attachment_id found
  have stored : row ∈ db.attachments.rows := by
    rw [Table.mem_rows_iff, key]
    exact found
  exact List.ne_nil_of_mem (List.mem_filter.mpr ⟨stored, by simpa [key] using named⟩)

theorem sendMessage_stores_none {id : AttachmentId} (absent : db.attachment? id = none) :
    (perform ⟨user, now, .sendMessage chatId new slowTtl messageId⟩ db).2.attachment? id = none := by
  have kept : ∀ write seen,
      Request.Footprint ⟨user, now, .sendMessage chatId new slowTtl messageId⟩ write →
        seen.attachment? id = none → (Db.apply write seen).attachment? id = none := by
    intro write seen allowed still
    cases write
    case insertAttachment => exact allowed.elim
    case bindAttachment => rw [Db.attachment_bindAttachment, still, Option.map_none]
    case processAttachment => rw [Db.attachment_processAttachment, still, Option.map_none]
    all_goals exact still
  exact perform_preserves _ kept absent

theorem sent_carries (attached : Attached db)
    (own : SendsOwn db ⟨user, now, .sendMessage chatId new slowTtl messageId⟩)
    (tokens : new.uploadTokens ≠ []) {reply : Reply}
    (answered : (perform ⟨user, now, .sendMessage chatId new slowTtl messageId⟩ db).1 = .ok reply) :
    ∃ loaded, reply = .message { body := loaded } ∧ loaded.message.id = messageId ∧
      AddedTo db (perform ⟨user, now, .sendMessage chatId new slowTtl messageId⟩ db).2 messageId ∧
      (∀ token, token ∈ new.uploadTokens ↔ token ∈ loaded.attachments.map (·.id)) ∧
      ∀ token, token ∈ new.uploadTokens ↔ ∃ later,
        (perform ⟨user, now, .sendMessage chatId new slowTtl messageId⟩ db).2.attachment? token =
          some later ∧ later.messageId = some messageId := by
  obtain ⟨dto, rfl, loaded, rfl, sent⟩ :=
    reply_of_ends (sendMessage_ends user now db chatId new slowTtl messageId) answered
  obtain ⟨token, named, known⟩ := own.1.resolve_left tokens
  have counted := sent.counted.resolve_left (claimed_found named known)
  have added : AddedTo db (perform ⟨user, now, .sendMessage chatId new slowTtl messageId⟩ db).2
      messageId := sent.named ▸ sent.posted.added
  refine ⟨loaded, rfl, sent.named, added, fun token => ?_, fun token => ⟨fun named => ?_, ?_⟩⟩
  · rw [sent.listed]
    exact claimed_covers counted token
  · obtain ⟨row, listed, rfl⟩ := List.mem_map.mp ((claimed_covers counted token).mp named)
    exact sent.bound row listed
  · rintro ⟨later, stored, bound⟩
    cases found : db.attachment? token with
    | none =>
        rw [sendMessage_stores_none found] at stored
        cases stored
    | some before =>
        obtain ⟨row, there, _, same | ⟨claims, _⟩⟩ := sent.evolved.files token before found
        · cases there.symm.trans stored
          have linked := attached.linked token before messageId found (same.symm.trans bound)
          rw [added.1] at linked
          cases linked
        · exact claims

end Sends

/-- In every run whose senders claim their own unused uploads, an upload stays with the first
message it was attached to, a message of its uploader in its chat, and a message sent with tokens
carries exactly the uploads they name. -/
theorem attachments_claimed_in_run (initial db : Db) (start : Attached initial)
    (run : Reaches SendsOwn initial db) :
    (∀ id attachment messageId, db.attachment? id = some attachment →
      attachment.sourceAttachmentId = none → attachment.messageId = some messageId →
      (∃ message, db.message? messageId = some message ∧
        message.authorId = some attachment.uploaderId ∧ message.chatId = attachment.chatId) ∧
      ∀ final, Reaches SendsOwn db final →
        ∃ later, final.attachment? id = some later ∧ later.messageId = some messageId) ∧
    ∀ user now chatId new slowTtl messageId reply,
      SendsOwn db ⟨user, now, .sendMessage chatId new slowTtl messageId⟩ →
      new.uploadTokens ≠ [] →
      (perform ⟨user, now, .sendMessage chatId new slowTtl messageId⟩ db).1 = .ok reply →
      ∃ loaded, reply = .message { body := loaded } ∧ loaded.message.id = messageId ∧
        AddedTo db (perform ⟨user, now, .sendMessage chatId new slowTtl messageId⟩ db).2
          messageId ∧
        (∀ token, token ∈ new.uploadTokens ↔ token ∈ loaded.attachments.map (·.id)) ∧
        ∀ token, token ∈ new.uploadTokens ↔ ∃ later,
          (perform ⟨user, now, .sendMessage chatId new slowTtl messageId⟩ db).2.attachment? token =
            some later ∧ later.messageId = some messageId := by
  have attached := attached_run start run
  refine ⟨fun id attachment messageId found uploaded bound => ⟨?_, fun final onwards => ?_⟩, ?_⟩
  · obtain ⟨message, stored⟩ := Option.isSome_iff_exists.mp
      (attached.linked id attachment messageId found bound)
    exact ⟨message, stored, attached.owned id attachment messageId message found uploaded bound stored⟩
  · exact binding_run onwards found bound
  · intro user now chatId new slowTtl messageId reply own tokens answered
    exact sent_carries attached own tokens answered

def Command.handlesAttachments : Command → Bool
  | .requestAttachmentUpload _ _ _ => true
  | .proccessAttachments _ _ => true
  | .sendMessage _ _ _ _ => true
  | .forwardMessage _ _ _ _ _ _ => true
  | .forwardMessages _ _ _ _ _ _ _ _ => true
  | _ => false

def photoSlot : Request :=
  ⟨{ id := 1 }, 0, .requestAttachmentUpload 1
    [{ filename := "photo.png", mimeType := "image/png", fileSize := 100 }]
    fun index => (index + 7, "1/7.png")⟩

def photoConfirmed : Request := ⟨{ id := 1 }, 0, .proccessAttachments [7] fun _ => goodUpload⟩

def photoGroup : Db := (perform photoConfirmed (perform photoSlot emptyGroup).2).2

def photoSentBy (userId : UserId) (messageId : MessageId) : Request :=
  ⟨{ id := userId }, 0, .sendMessage 1 { content := none, uploadTokens := [7] } none messageId⟩

theorem emptyGroup_attached : Attached emptyGroup where
  linked _ _ _ found := nomatch found
  owned _ _ _ _ found := nomatch found

theorem photo_claimed_once :
    (perform (photoSentBy 1 10) photoGroup).1.isOk = true ∧
      ∃ later, (perform (photoSentBy 1 10) photoGroup).2.attachment? 7 = some later ∧
        later.messageId = some 10 := by
  have fine : (perform (photoSentBy 1 10) photoGroup).1.isOk = true := by decide +kernel
  obtain ⟨reply, answered⟩ := perform_ok fine
  have run : Reaches SendsOwn emptyGroup photoGroup := .step (.step .refl trivial) trivial
  have own : SendsOwn photoGroup (photoSentBy 1 10) := by
    have slot : (photoGroup.attachment? 7).map (fun row => (row.uploaderId, row.chatId,
        row.messageId)) = some (1, 1, none) := by decide +kernel
    obtain ⟨row, found, same⟩ := Option.map_eq_some_iff.mp slot
    refine ⟨.inr ⟨7, by decide, by rw [found]; rfl⟩, fun token named attachment stored => ?_⟩
    cases List.mem_singleton.mp named
    cases found.symm.trans stored
    exact ⟨congrArg Prod.fst same, congrArg (·.2.1) same, congrArg (·.2.2) same⟩
  have carried := (attachments_claimed_in_run emptyGroup photoGroup emptyGroup_attached run).2
    { id := 1 } 0 1 { content := none, uploadTokens := [7] } none 10 reply own (by decide)
    (congrArg Prod.fst answered)
  obtain ⟨_, _, _, _, _, listed⟩ := carried
  exact ⟨fine, (listed 7).mp (by decide)⟩

/-- Another member can move an upload that is already attached to a message of his own. -/
theorem photo_claimed_twice :
    ¬ ∀ (initial middle final : Db) (id : AttachmentId) (attachment : MessageAttachment)
      (messageId : MessageId), Attached initial →
      Reaches (fun _ request => request.command.handlesAttachments = true) initial middle →
      Reaches (fun _ request => request.command.handlesAttachments = true) middle final →
      middle.attachment? id = some attachment → attachment.sourceAttachmentId = none →
      attachment.messageId = some messageId →
        ∃ later, final.attachment? id = some later ∧ later.messageId = some messageId := by
  intro claimed
  have bound : ((perform (photoSentBy 1 10) photoGroup).2.attachment? 7).map
      (fun row => (row.sourceAttachmentId, row.messageId)) = some (none, some 10) := by
    decide +kernel
  have moved : ((perform (photoSentBy 2 11) (perform (photoSentBy 1 10) photoGroup).2).2.attachment?
      7).map (·.messageId) = some (some 11) := by decide +kernel
  obtain ⟨row, found, same⟩ := Option.map_eq_some_iff.mp bound
  simp only [Prod.mk.injEq] at same
  obtain ⟨later, stored, still⟩ := claimed emptyGroup _
    (perform (photoSentBy 2 11) (perform (photoSentBy 1 10) photoGroup).2).2 7 row 10
    emptyGroup_attached (.step (.step (.step .refl rfl) rfl) rfl) (.step .refl rfl) found same.1
    same.2
  rw [stored, Option.map_some, still] at moved
  cases moved

end Messanger
