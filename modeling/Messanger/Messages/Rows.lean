import Messanger.Store

/-!
What no write changes of a stored message: where and by whom it was written, what it is and
what it names as its origin.
-/

namespace Messanger

open Relational

structure Message.SameAs (message other : Message) : Prop where
  id : message.id = other.id
  inChat : message.chatId = other.chatId
  author : message.authorId = other.authorId
  type : message.type = other.type
  fromChat : message.forwardedFromChatId = other.forwardedFromChatId
  fromMessage : message.forwardedFromMessageId = other.forwardedFromMessageId
  fromAuthor : message.forwardedFromAuthorId = other.forwardedFromAuthorId

theorem Message.sameAs_refl (message : Message) : message.SameAs message :=
  ⟨rfl, rfl, rfl, rfl, rfl, rfl, rfl⟩

theorem Message.SameAs.symm {first second : Message} (same : first.SameAs second) :
    second.SameAs first :=
  ⟨same.id.symm, same.inChat.symm, same.author.symm, same.type.symm, same.fromChat.symm,
    same.fromMessage.symm, same.fromAuthor.symm⟩

theorem Message.SameAs.trans {first second third : Message} (left : first.SameAs second)
    (right : second.SameAs third) : first.SameAs third :=
  ⟨left.id.trans right.id, left.inChat.trans right.inChat, left.author.trans right.author,
    left.type.trans right.type, left.fromChat.trans right.fromChat,
    left.fromMessage.trans right.fromMessage, left.fromAuthor.trans right.fromAuthor⟩

def KeepsMessages (before after : Db) : Prop :=
  ∀ message ∈ before.messages.rows, ∃ later ∈ after.messages.rows, message.SameAs later

theorem keepsMessages_refl (db : Db) : KeepsMessages db db :=
  fun message member => ⟨message, member, message.sameAs_refl⟩

theorem KeepsMessages.trans {first second third : Db} (left : KeepsMessages first second)
    (right : KeepsMessages second third) : KeepsMessages first third := by
  intro message member
  obtain ⟨middle, between, same⟩ := left message member
  obtain ⟨later, last, still⟩ := right middle between
  exact ⟨later, last, same.trans still⟩

theorem mem_messages_of_found {db : Db} {id : MessageId} {message : Message}
    (found : db.message? id = some message) : message ∈ db.messages.rows := by
  rw [Table.mem_rows_iff, Db.message_id found]
  exact found

section Updates

variable {db : Db}

theorem sameAs_updated {changes : Prop} [Decidable changes] {message changed : Message}
    (same : message.SameAs changed) : message.SameAs (if changes then changed else message) := by
  split
  · exact same
  · exact message.sameAs_refl

theorem keepsMessages_apply (write : Write) (db : Db) : KeepsMessages db (Db.apply write db) := by
  intro message member
  cases write
  case insertMessage new =>
    refine ⟨message, (Table.mem_rows_iff _ _).mpr ?_, message.sameAs_refl⟩
    have stored : db.messages.find? message.id = some message := (Table.mem_rows_iff _ _).mp member
    exact (Db.message_insertMessage db new message.id).trans
      (by rw [Db.message?, stored, Option.some_or])
  case editMessage target content =>
    exact ⟨_, List.mem_map_of_mem member, sameAs_updated ⟨rfl, rfl, rfl, rfl, rfl, rfl, rfl⟩⟩
  case deleteMessage target =>
    exact ⟨_, List.mem_map_of_mem member, sameAs_updated ⟨rfl, rfl, rfl, rfl, rfl, rfl, rfl⟩⟩
  all_goals exact ⟨message, member, message.sameAs_refl⟩

theorem keepsMessages_applyAll (log : List Write) (db : Db) :
    KeepsMessages db (applyAll log db) := by
  induction log generalizing db with
  | nil => exact keepsMessages_refl db
  | cons write rest ih =>
      rw [applyAll_cons, Db.apply_eq]
      exact (keepsMessages_apply write db).trans (ih _)

theorem mem_messages_apply (write : Write) {message : Message}
    (member : message ∈ (Db.apply write db).messages.rows) :
    ∃ other, message.SameAs other ∧ (other ∈ db.messages.rows ∨ write = .insertMessage other) := by
  cases write
  case insertMessage new =>
    rcases Table.mem_insert member with old | rfl
    · exact ⟨message, message.sameAs_refl, .inl old⟩
    · exact ⟨message, message.sameAs_refl, .inr rfl⟩
  case editMessage =>
    obtain ⟨row, stored, rfl⟩ := List.mem_map.mp member
    refine ⟨row, .symm (sameAs_updated ?_), .inl stored⟩
    exact ⟨rfl, rfl, rfl, rfl, rfl, rfl, rfl⟩
  case deleteMessage =>
    obtain ⟨row, stored, rfl⟩ := List.mem_map.mp member
    refine ⟨row, .symm (sameAs_updated ?_), .inl stored⟩
    exact ⟨rfl, rfl, rfl, rfl, rfl, rfl, rfl⟩
  all_goals exact ⟨message, message.sameAs_refl, .inl member⟩

theorem mem_messages_applyAll (log : List Write) {message : Message}
    (member : message ∈ (applyAll log db).messages.rows) :
    ∃ other, message.SameAs other ∧
      (other ∈ db.messages.rows ∨ .insertMessage other ∈ log) := by
  induction log generalizing db with
  | nil => exact ⟨message, message.sameAs_refl, .inl member⟩
  | cons write rest ih =>
      rw [applyAll_cons, Db.apply_eq] at member
      obtain ⟨middle, first, stored | inserted⟩ := ih member
      · obtain ⟨other, second, before | rfl⟩ := mem_messages_apply write stored
        · exact ⟨other, first.trans second, .inl before⟩
        · exact ⟨other, first.trans second, .inr List.mem_cons_self⟩
      · exact ⟨middle, first, .inr (List.mem_cons_of_mem _ inserted)⟩

end Updates

end Messanger
