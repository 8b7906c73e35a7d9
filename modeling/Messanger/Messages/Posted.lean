import Messanger.Footprint
import Messanger.Library.Isolation
import Messanger.Library.Journal

/-!
What the handlers post: each message that is inserted was made of the draft of its handler.
-/

namespace Messanger

open Relational

/-- The requests under way, and those that have committed with their writes. -/
abbrev CommandJournal := Journal Db Write RowKey ChatError Request

/-- `Message.create` makes the message of the draft. -/
def Message.Draft.Makes (draft : Message.Draft) (id : MessageId) (message : Message) : Prop :=
  ∃ seq files, Message.create draft id seq = .ok (message, files)

theorem Message.Draft.makes_eq {draft : Message.Draft} {id : MessageId} {message : Message}
    (makes : draft.Makes id message) : ∃ seq, message =
      { id := id, chatId := draft.chatId, seq := seq, authorId := draft.senderId
        type := draft.messageType, content := draft.content, replyToId := draft.replyToId
        forwardedFromChatId := draft.forwardedFromChatId
        forwardedFromMessageId := draft.forwardedFromMessageId
        forwardedFromAuthorId := draft.forwardedFromAuthorId, action := draft.action
        hasLinks := Message.containsLink draft.content } := by
  obtain ⟨seq, files, made⟩ := makes
  exact ⟨seq, (Message.create_ok made).1⟩

section Handlers

variable (user : UserJWTData) (now : Nat)

/-- The message of `SendMessage`, but for the attachments. -/
def NewMessage.draft (new : NewMessage) (senderId : UserId) (chatId : ChatId)
    (claimed : List MessageAttachment) : Message.Draft :=
  { senderId := some senderId
    chatId := chatId
    content := new.content
    replyToId := new.replyToId
    messageType := new.messageType
    attachments := some claimed }

theorem sendMessage_posts (chatId : ChatId) (new : NewMessage) (slowTtl : Option Nat)
    (id : MessageId) : (sendMessage user now chatId new slowTtl id).Emits fun write =>
      ∀ message, write = .insertMessage message →
        ∃ claimed, (new.draft user.id chatId claimed).Makes id message := by
  simp only [sendMessage, getChatAndMember, checked, allocateMessageSeq, insertMessage, Tx.bind_eq,
    Tx.emits_statement_iff, Tx.emits_read_iff, Tx.emits_orRaise_iff, Tx.emits_ofExcept_iff,
    Tx.emits_require_iff]
  refine ⟨by simp, fun _ _ _ _ => ⟨by simp, fun _ _ _ _ _ _ _ => ⟨by simp, fun _ _ _ =>
    ⟨by simp, fun _ _ _ seq _ created built => ?_⟩⟩⟩⟩
  refine Tx.emits_bind (insertRow_emits fun message same => ?_) fun _ => ?_
  · cases same
    exact ⟨_, seq, created.2, built⟩
  · exact Tx.emits_each _ (fun _ _ => updateRow_emits fun _ same => by cases same) (by simp [publish])

def noticeDraft (senderId : UserId) (chatId : ChatId) (messageId : MessageId) : Message.Draft :=
  { senderId := some senderId
    chatId := chatId
    content := none
    replyToId := some messageId
    messageType := .system
    action := some .messagePinned }

theorem pinMessage_posts (chatId : ChatId) (messageId noticeId : MessageId) :
    (pinMessage user now chatId messageId noticeId).Emits fun write =>
      ∀ message, write = .insertMessage message →
        ∃ pinned, (noticeDraft user.id chatId pinned).Makes noticeId message := by
  simp only [pinMessage, getByIdForUpdate, getMemberChat, getLoadedMessage, Tx.bind_eq,
    Tx.emits_statement_iff, Tx.emits_read_iff, Tx.emits_orRaise_iff, Tx.emits_ofExcept_iff,
    Tx.emits_require_iff]
  refine ⟨by simp, fun _ _ _ chat _ _ _ _ seen loaded found _ pins => ?_⟩
  split
  · trivial
  · simp only [allocateMessageSeq, insertMessage, Tx.emits_statement_iff, Tx.emits_read_iff,
      Tx.emits_orRaise_iff, Tx.emits_ofExcept_iff]
    refine fun _ _ _ => ⟨by simp, fun _ _ _ seq _ created built => ?_⟩
    refine Tx.emits_bind (insertRow_emits fun message same => ?_) fun _ => ?_
    · cases same
      exact ⟨_, seq, created.2, built⟩
    · exact Tx.emits_bind (insertRow_emits fun _ same => by cases same) fun _ => by simp [publish]

variable {created : Message × List MessageAttachment}

theorem allocated_posts_none {opened : Prop} [Decidable opened] {chatId : ChatId} {count date : Nat}
    (message : Message) : Write.insertMessage message ∉
      [] ++ if opened then [Write.allocateMessageSeq chatId count date] else [] := by
  split
  · simp
  · simp

theorem saveMessage_posts {Posted : Message → Prop} (posted : Posted created.1) :
    (saveMessage created).Emits fun write =>
      ∀ message, write = .insertMessage message → Posted message := by
  refine Tx.emits_bind (insertRow_emits fun message same => ?_) fun _ => ?_
  · cases same
    exact posted
  · exact Tx.emits_each_alone _ fun copy _ => insertRow_emits fun message same => by cases same

theorem saveMessage_commitless : (saveMessage created).Commitless :=
  Tx.commitless_bind (Tx.commitless_statement _ _ _) fun _ =>
    Tx.commitless_each (fun _ => Tx.commitless_statement _ _ _) _

end Handlers

section Drafts

variable {senderId : UserId} {chatId : ChatId} {hideAuthor : Bool} {comment : Option String}
  {fresh : Nat → Nat → AttachmentId} {sources : List LoadedMessage}

theorem copies_of_mapIdx {draft : Message.Draft}
    (member : draft ∈ sources.mapIdx fun index source =>
      forwardDraft senderId chatId hideAuthor (index + 1 == sources.length) (fresh index) source) :
    ∃ source ∈ sources, ∃ notify index,
      draft = forwardDraft senderId chatId hideAuthor notify (fresh index) source := by
  obtain ⟨index, bound, rfl⟩ := List.mem_mapIdx.mp member
  exact ⟨_, List.getElem_mem bound, _, index, rfl⟩

theorem forwardDrafts_at {draft : Message.Draft} {index : Nat}
    (placed : (forwardDrafts senderId chatId hideAuthor comment fresh sources)[index]? = some draft) :
    (∃ text, comment = some text ∧ index = 0 ∧
      draft = { senderId := some senderId, chatId := chatId, content := some text
                messageType := .text, notify := false }) ∨
      ∃ source ∈ sources, ∃ notify index,
        draft = forwardDraft senderId chatId hideAuthor notify (fresh index) source := by
  cases comment with
  | none => exact .inr (copies_of_mapIdx (List.mem_of_getElem? placed))
  | some text =>
      cases index with
      | zero => exact .inl ⟨text, rfl, rfl, (Option.some.inj placed).symm⟩
      | succ index => exact .inr (copies_of_mapIdx (List.mem_of_getElem? placed))

end Drafts

end Messanger
