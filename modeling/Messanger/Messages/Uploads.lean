import Mathlib.Data.List.Perm.Basic
import Messanger.Library.Evaluation
import Messanger.Messages.AttachmentsCore
import Messanger.Messages.MessageSeq

/-!
Upload slots that a message can be sent with.  The limits are checked once on the requested uploads
and once on the stored attachments; in between any writes may happen.
-/

namespace Messanger

open Relational

section Limits

/-- `MAX_MEDIA_SIZE`, `MAX_FILE_SIZE`, `MAX_VOICE_SIZE` and `MAX_VIDEO_NOTE_SIZE`. -/
def AttachmentType.maxSize : AttachmentType → Nat
  | .image => 50 * mebibyte
  | .video => 50 * mebibyte
  | .file => 100 * mebibyte
  | .voice => 20 * mebibyte
  | .videoNote => 40 * mebibyte

theorem slotType_bound {request : UploadRequest} {type : AttachmentType}
    (given : slotType request = .ok type) (size : Nat) :
    slotType { request with fileSize := size } = .ok type ↔ size ≤ type.maxSize := by
  have held : ∀ (most : Nat) (kind : AttachmentType), most = kind.maxSize →
      (if most < request.fileSize then Except.error (ChatError.attachmentValidation request.mimeType)
        else .ok kind) = .ok type →
      ((if most < size then Except.error (ChatError.attachmentValidation request.mimeType)
        else .ok kind) = .ok type ↔ size ≤ type.maxSize) := by
    intro most kind same accepted
    split at accepted
    · cases accepted
    · cases accepted
      rw [← same]
      split
      · rename_i large
        constructor
        · intro refused
          cases refused
        · intro fits
          omega
      · rename_i fits
        exact ⟨fun _ => Nat.le_of_not_lt fits, fun _ => rfl⟩
  simp only [slotType] at given ⊢
  split at given
  · cases given
  · rename_i allowed
    rw [if_neg allowed]
    split at given
    · rename_i voice
      rw [if_pos voice]
      split at given
      · cases given
      · rename_i fits
        rw [if_neg fits]
        exact held _ .voice rfl given
    · rename_i noVoice
      rw [if_neg noVoice]
      split at given
      · rename_i note
        rw [if_pos note]
        split at given
        · cases given
        · rename_i fits
          rw [if_neg fits]
          exact held _ .videoNote rfl given
      · rename_i noNote
        rw [if_neg noNote]
        split at given
        · rename_i image
          rw [if_pos image]
          exact held _ .image rfl given
        · rename_i noImage
          rw [if_neg noImage]
          split at given
          · rename_i video
            rw [if_pos video]
            exact held _ .video rfl given
          · rename_i noVideo
            rw [if_neg noVideo]
            exact held _ .file rfl given

end Limits

section Checks

variable {attachments : List MessageAttachment} {types : List AttachmentType}

theorem countType_perm (same : (attachments.map (·.attachmentType)).Perm types)
    (wanted : List AttachmentType) :
    Message.countType attachments wanted = types.countP fun type => wanted.contains type := by
  rw [← same.countP_eq, List.countP_map]
  rfl

theorem typeForAttachments_perm {others : List MessageAttachment}
    (same : (attachments.map (·.attachmentType)).Perm (others.map (·.attachmentType))) :
    Message.typeForAttachments attachments = Message.typeForAttachments others := by
  have contains : ∀ type, (attachments.map (·.attachmentType)).contains type =
      (others.map (·.attachmentType)).contains type := fun type => by
    rw [Bool.eq_iff_iff, List.contains_iff_mem, List.contains_iff_mem]
    exact same.mem_iff
  simp only [Message.typeForAttachments, contains]

theorem typeForAttachments_counts :
    (Message.typeForAttachments attachments = .voice ↔
      0 < Message.countType attachments [.voice]) ∧
    (Message.typeForAttachments attachments = .videoNote →
      0 < Message.countType attachments [.videoNote]) ∧
    (0 < Message.countType attachments [.videoNote] →
      Message.typeForAttachments attachments = .voice ∨
        Message.typeForAttachments attachments = .videoNote) := by
  have counted : ∀ type, (attachments.map (·.attachmentType)).contains type = true ↔
      0 < Message.countType attachments [type] := by
    intro type
    simp only [Message.countType, List.countP_pos_iff, List.contains_iff_mem, List.mem_map,
      List.mem_singleton]
  simp only [Message.typeForAttachments, counted]
  split
  · simp [*]
  · split
    · simp [*]
    · refine ⟨⟨fun voice => ?_, fun voice => absurd voice ‹_›⟩, fun note => ?_,
        fun note => absurd note ‹_›⟩
      · split at voice
        · cases voice
        · split at voice
          · cases voice
          · cases voice
      · split at note
        · cases note
        · split at note
          · cases note
          · cases note

theorem validateAttachments_granted (granted : checkSlotCounts types = .ok ())
    (same : (attachments.map (·.attachmentType)).Perm types)
    (processed : ∀ attachment ∈ attachments, attachment.attachmentStatus = .success) :
    Message.validateAttachments (Message.typeForAttachments attachments) attachments = .ok () := by
  have media : types.countP (fun type => type == .image || type == .video) =
      Message.countType attachments [.image, .video] := by
    rw [countType_perm same]
    exact List.countP_congr fun type _ => by simp
  have files : types.countP (fun type => type == .file) =
      Message.countType attachments [.file] := by
    rw [countType_perm same]
    exact List.countP_congr fun type _ => by simp
  have exclusive : types.countP (fun type => type == .voice || type == .videoNote) =
      Message.countType attachments [.voice] + Message.countType attachments [.videoNote] := by
    rw [countType_perm same, countType_perm same]
    clear granted same media files
    induction types with
    | nil => rfl
    | cons type types ih =>
        simp only [List.countP_cons, ih]
        cases type <;> simp <;> omega
  obtain ⟨voice, note, exclusiveType⟩ :
      (Message.typeForAttachments attachments = .voice ↔
        0 < Message.countType attachments [.voice]) ∧ _ ∧ _ := typeForAttachments_counts
  have success : attachments.all
      (fun attachment => attachment.attachmentStatus == .success) = true :=
    List.all_eq_true.mpr fun attachment member => beq_iff_eq.mpr (processed attachment member)
  simp only [checkSlotCounts, media, files, exclusive] at granted
  simp only [Message.validateAttachments, success, if_true]
  split at granted
  · cases granted
  · rename_i fewMedia
    rw [if_neg fewMedia]
    split at granted
    · cases granted
    · rename_i fewFiles
      rw [if_neg fewFiles]
      split at granted
      · cases granted
      · rename_i atMostOne
        rw [if_neg atMostOne]
        split at granted
        · cases granted
        · rename_i alone
          rw [if_neg alone, if_neg, if_neg, if_neg]
          · rintro ⟨some, noVoice, noNote, _⟩
            have counted := voice.not.mp noVoice
            rcases exclusiveType (by omega) with isVoice | isNote
            · exact noVoice isVoice
            · exact noNote isNote
          · rintro ⟨isNote, notOne⟩
            have counted := note isNote
            omega
          · rintro ⟨isVoice, notOne⟩
            have counted := voice.mp isVoice
            omega

end Checks

section Requesting

variable {db : Db} {user : UserJWTData} {now : Nat} {chatId : ChatId} {uploads : List UploadRequest}
  {fresh : Nat → AttachmentId × String}

theorem slots_types {types : List AttachmentType}
    {slot : Nat → UploadRequest × AttachmentType → MessageAttachment}
    (count : uploads.length = types.length)
    (keeps : ∀ index pair, (slot index pair).attachmentType = pair.2) :
    ((uploads.zip types).mapIdx slot).map (·.attachmentType) = types := by
  refine Eq.trans ?_ (List.map_snd_zip (le_of_eq count.symm))
  refine List.ext_getElem? fun index => ?_
  rw [List.getElem?_map, List.getElem?_mapIdx, List.getElem?_map, Option.map_map]
  exact congrArg (Option.map · _) (funext fun pair => keeps index pair)

theorem uploadSlots_types {uploaderId : UserId} {slots : List MessageAttachment}
    (built : uploadSlots chatId uploaderId fresh uploads = .ok slots) :
    checkSlotCounts (slots.map (·.attachmentType)) = .ok () ∧
      (∀ slot ∈ slots, slot.size ≤ slot.attachmentType.maxSize) ∧
      ∀ request ∈ uploads, ∃ type, slotType request = .ok type := by
  simp only [uploadSlots, bind, Except.bind, pure, Except.pure] at built
  split at built
  · cases built
  · rename_i types typed
    split at built
    · cases built
    · rename_i granted
      cases built
      have given := mapM_ok typed
      refine ⟨?_, fun slot member => ?_, fun request member => ?_⟩
      · rw [slots_types given.length_eq fun _ _ => rfl]
        exact granted
      · obtain ⟨index, bound, rfl⟩ := List.mem_mapIdx.mp member
        have pair := (List.forall₂_iff_zip.mp given).2 (List.getElem_mem bound)
        exact (slotType_bound pair _).mp pair
      · obtain ⟨index, here, rfl⟩ := List.mem_iff_getElem.mp member
        have there : index < types.length := given.length_eq ▸ here
        exact ⟨_, given.get here there⟩

theorem run_inserts {Answer : Type} {rest : Unit → Handler Answer} {committed : Db}
    {answer : Answer} {slots : List MessageAttachment} {seen : Db}
    (ended : (((Tx.each insertAttachment slots).bind rest).run committed seen).1 = .ok answer) :
    (∀ slot ∈ slots, seen.attachment? slot.id = none) ∧ (slots.map (·.id)).Nodup ∧
      ((Tx.each insertAttachment slots).bind rest).run committed seen =
        (rest ()).run committed (applyAll (slots.map Write.insertAttachment) seen) := by
  induction slots generalizing seen with
  | nil =>
      refine ⟨?_, List.nodup_nil, rfl⟩
      intro slot member
      cases member
  | cons slot slots ih =>
      rw [Tx.each, Tx.bind_assoc, insertAttachment, insertRow, Tx.run_statement] at ended ⊢
      cases taken : (seen.attachment? slot.id).isSome with
      | true =>
          rw [taken] at ended
          cases ended
      | false =>
          rw [taken] at ended
          simp only [Bool.false_eq_true, if_false] at ended ⊢
          obtain ⟨absent, distinct, runs⟩ := ih ended
          have free : seen.attachment? slot.id = none := by
            rw [← Option.not_isSome_iff_eq_none, taken]
            exact Bool.false_ne_true
          have kept : ∀ other ∈ slots, seen.attachment? other.id = none ∧ slot.id ≠ other.id := by
            intro other member
            have none := absent other member
            rw [applyAll_cons, applyAll_nil, Db.apply_eq, Db.attachment_insertAttachment,
              Option.or_eq_none_iff] at none
            refine ⟨none.1, fun same => ?_⟩
            rw [if_pos same] at none
            cases none.2
          refine ⟨?_, ?_, runs⟩
          · intro other member
            rcases List.mem_cons.mp member with rfl | later
            · exact free
            · exact (kept other later).1
          · rw [List.map_cons, List.nodup_cons]
            refine ⟨fun again => ?_, distinct⟩
            obtain ⟨other, member, same⟩ := List.mem_map.mp again
            exact (kept other member).2 same.symm

theorem attachments_inserts (slots : List MessageAttachment) (db : Db) :
    (applyAll (slots.map Write.insertAttachment) db).attachments =
      slots.foldl (fun table row => table.insert row) db.attachments := by
  induction slots generalizing db with
  | nil => rfl
  | cons slot slots ih =>
      rw [List.map_cons, applyAll_cons, ih]
      rfl

theorem request_granted {tokens : List AttachmentId} {after : Db}
    (granted : (requestAttachmentUpload user now chatId uploads fresh).exec db = (.ok tokens, after)) :
    ∃ slots, uploadSlots chatId user.id fresh uploads = .ok slots ∧ tokens = slots.map (·.id) ∧
      tokens.Nodup ∧ ∀ slot ∈ slots, after.attachment? slot.id = some slot := by
  simp only [Tx.exec, requestAttachmentUpload, getById, getMemberChat, Tx.bind_eq, Tx.run_read,
    Tx.run_orRaise, Tx.run_require, Tx.run_ofExcept] at granted
  split at granted
  · split at granted
    · split at granted
      · split at granted
        · split at granted
          · rename_i slots built
            obtain ⟨absent, distinct, runs⟩ := run_inserts (congrArg Prod.fst granted)
            rw [runs] at granted
            cases granted
            refine ⟨slots, built, rfl, distinct, fun slot member => ?_⟩
            have stored : db.attachments.find? slot.id = none := absent slot member
            have listed : (slots.find? fun row => decide (row.id = slot.id)).isSome :=
              List.find?_isSome.mpr ⟨slot, member, decide_eq_true rfl⟩
            obtain ⟨row, found⟩ := Option.isSome_iff_exists.mp listed
            have same : row.id = slot.id := by simpa using List.find?_some found
            rw [Db.attachment?, attachments_inserts, Table.find?_foldl_insert, stored,
              Option.none_or, found,
              List.inj_on_of_nodup_map distinct (List.mem_of_find?_eq_some found) member same]
          · cases granted
        · cases granted
      · cases granted
    · cases granted
  · cases granted

end Requesting

section Sending

/-- The errors that speak of the content or the attachments of a message. -/
def ChatError.ofMessage : ChatError → Bool
  | .messageTooLong _ _ => true
  | .invalidMessage _ => true
  | .attachmentLimitExceeded _ => true
  | .attachmentNotFound _ => true
  | _ => false

theorem attachmentType_kept {id : AttachmentId} {type : AttachmentType} (write : Write) {db : Db}
    (stored : ∃ row, db.attachment? id = some row ∧ row.attachmentType = type) :
    ∃ row, (Db.apply write db).attachment? id = some row ∧ row.attachmentType = type := by
  obtain ⟨row, found, typed⟩ := stored
  cases write
  case insertAttachment other =>
    exact ⟨row, by rw [Db.attachment_insertAttachment, found, Option.some_or], typed⟩
  case bindAttachment target messageId seq =>
    rw [Db.attachment_bindAttachment, found]
    refine ⟨_, rfl, ?_⟩
    dsimp only
    split
    · exact typed
    · exact typed
  case processAttachment processed =>
    rw [Db.attachment_processAttachment, found]
    refine ⟨_, rfl, ?_⟩
    dsimp only
    split
    · exact typed
    · exact typed
  all_goals exact ⟨row, found, typed⟩

theorem attachmentsByIds_perm {db : Db} {slots : List MessageAttachment}
    (distinct : (slots.map (·.id)).Nodup)
    (stored : ∀ slot ∈ slots, ∃ row, db.attachment? slot.id = some row ∧
      row.attachmentType = slot.attachmentType) :
    ((db.attachmentsByIds (slots.map (·.id))).map (·.attachmentType)).Perm
      (slots.map (·.attachmentType)) := by
  let typeOf := fun id => (db.attachment? id).map (·.attachmentType)
  have found : ∀ row ∈ db.attachmentsByIds (slots.map (·.id)), db.attachment? row.id = some row :=
    fun row member => (Table.mem_rows_iff _ _).mp (List.mem_of_mem_filter member)
  have ids : ((db.attachmentsByIds (slots.map (·.id))).map (·.id)).Perm (slots.map (·.id)) := by
    have unique : ((db.attachmentsByIds (slots.map (·.id))).map (·.id)).Nodup :=
      db.attachments.unique.sublist (List.filter_sublist.map _)
    refine (List.perm_ext_iff_of_nodup unique distinct).mpr fun id => ⟨fun member => ?_, fun member => ?_⟩
    · obtain ⟨row, listed, rfl⟩ := List.mem_map.mp member
      exact Db.attachmentsByIds_wanted listed
    · obtain ⟨slot, listed, rfl⟩ := List.mem_map.mp member
      obtain ⟨row, here, _⟩ := stored slot listed
      have key : row.id = slot.id := Db.attachment_id here
      have file : row ∈ db.attachments.rows := by
        rw [Table.mem_rows_iff, key]
        exact here
      refine List.mem_map.mpr ⟨row, List.mem_filter.mpr ⟨file, ?_⟩, key⟩
      rw [List.contains_iff_mem, key]
      exact member
  have left : (db.attachmentsByIds (slots.map (·.id))).map (fun row => some row.attachmentType) =
      ((db.attachmentsByIds (slots.map (·.id))).map (·.id)).map typeOf := by
    rw [List.map_map]
    refine List.map_congr_left fun row member => ?_
    simp only [Function.comp_apply, typeOf, found row member, Option.map_some]
  have right : slots.map (fun slot => some slot.attachmentType) =
      (slots.map (·.id)).map typeOf := by
    rw [List.map_map]
    refine List.map_congr_left fun slot member => ?_
    obtain ⟨row, here, typed⟩ := stored slot member
    simp only [Function.comp_apply, typeOf, here, Option.map_some, typed]
  have types := ids.map typeOf
  rw [← left, ← right] at types
  have paired : (((db.attachmentsByIds (slots.map (·.id))).map (·.attachmentType)).map some).Perm
      ((slots.map (·.attachmentType)).map some) := by
    rw [List.map_map, List.map_map]
    exact types
  exact (List.map_perm_map_iff (Option.some_injective _)).mp paired

theorem create_granted {draft : Message.Draft} {claimed : List MessageAttachment}
    {types : List AttachmentType} (granted : checkSlotCounts types = .ok ())
    (same : (claimed.map (·.attachmentType)).Perm types)
    (processed : ∀ attachment ∈ claimed, attachment.attachmentStatus = .success)
    (named : draft.attachments = some claimed)
    (typed : draft.messageType = Message.typeForAttachments claimed)
    (content : Message.validateContent draft.content = .ok ()) (id : MessageId) (seq : Nat) :
    ∃ created, Message.create draft id seq = .ok created := by
  have bound : ((claimed.map (·.bindToMessage id seq)).map (·.attachmentType)).Perm types := by
    rw [List.map_map]
    exact same
  have valid := validateAttachments_granted granted bound (by
    intro attachment member
    obtain ⟨source, listed, rfl⟩ := List.mem_map.mp member
    exact processed source listed)
  have sameType : Message.typeForAttachments (claimed.map (·.bindToMessage id seq)) =
      Message.typeForAttachments claimed := typeForAttachments_perm (by rw [List.map_map]; rfl)
  have noReply : ¬(draft.messageType = .reply ∧ draft.replyToId = none) := by
    rw [typed, Message.typeForAttachments]
    rintro ⟨reply, _⟩
    repeat' split at reply
    all_goals cases reply
  rw [sameType, ← typed] at valid
  simp only [Message.create, bind, Except.bind, pure, Except.pure, if_neg noReply, content, named,
    Option.getD_some, Option.isSome_some, true_or, if_true, valid]
  exact ⟨_, rfl⟩

theorem sendMessage_fails {db : Db} {user : UserJWTData} {now : Nat} {chatId : ChatId}
    {new : NewMessage} {slowTtl : Option Nat} {id : MessageId} {error : ChatError}
    (counted : (db.attachmentsByIds new.uploadTokens).length = new.uploadTokens.length)
    (created : ∀ seq, ∃ made, Message.create
      { senderId := some user.id, chatId := chatId, content := new.content
        replyToId := new.replyToId, messageType := new.messageType
        attachments := some (db.attachmentsByIds new.uploadTokens) } id seq = .ok made)
    (failed : ((sendMessage user now chatId new slowTtl id).exec db).1 = .error error) :
    error.ofMessage = false := by
  simp only [Tx.exec, sendMessage, getChatAndMember, checked, Tx.bind_eq] at failed
  rcases Tx.failed_statement failed with refused | ⟨found, _, failed⟩
  · unfold Db.chatAndMember at refused
    split at refused
    · cases refused
    · cases refused
      rfl
  rcases Tx.failed_require failed with ⟨_, rfl⟩ | ⟨_, failed⟩
  · rfl
  rcases Tx.failed_statement failed with refused | ⟨_, _, failed⟩
  · unfold Db.ensureCanMessage Db.ensurePeer at refused
    repeat' split at refused
    all_goals cases refused
    all_goals rfl
  rcases Tx.failed_ofExcept failed with refused | ⟨_, _, failed⟩
  · unfold isSlow at refused
    repeat' split at refused
    all_goals cases refused
    rfl
  rw [Tx.run_read] at failed
  rcases Tx.failed_require failed with ⟨refused, _⟩ | ⟨_, failed⟩
  · rw [applyAll_nil, applyAll_nil, counted, beq_self_eq_true, Bool.or_true] at refused
    cases refused
  rcases Tx.failed_statement failed with refused | ⟨_, _, failed⟩
  · repeat' split at refused
    all_goals cases refused
    rfl
  refine (?_ : Tx.Raises (fun error : ChatError => error.ofMessage = false) _).error failed
  refine Tx.raises_bind (Tx.raises_statement fun _ _ none => nomatch none) fun allocated => ?_
  refine Tx.raises_bind (Tx.raises_orRaise rfl) fun seq => ?_
  refine Tx.raises_bind (Tx.raises_ofExcept fun raised refused => ?_) fun made => ?_
  · obtain ⟨made, built⟩ := created seq
    cases built.symm.trans refused
  refine Tx.raises_bind (Tx.raises_statement fun seen raised taken => ?_) fun _ => ?_
  · split at taken
    · cases taken
      rfl
    · cases taken
  refine Tx.raises_bind (Tx.raises_each fun slot _ =>
    Tx.raises_statement fun seen raised gone => ?_) fun _ => ?_
  · split at gone
    · cases gone
    · cases gone
      rfl
  exact Tx.raises_bind (Tx.raises_statement fun _ _ none => nomatch none) fun _ => trivial

/-- A granted upload can be sent: when all its slots are processed, a message of the type that they
ask for passes the checks, whatever has been written meanwhile and whoever sends it; and every
upload is held to the maximum of the type that its slot was given. -/
theorem granted_uploads_sendable {db after : Db} {user : UserJWTData} {now : Nat} {chatId : ChatId}
    {uploads : List UploadRequest} {fresh : Nat → AttachmentId × String}
    {tokens : List AttachmentId}
    (granted : (requestAttachmentUpload user now chatId uploads fresh).exec db =
      (.ok tokens, after)) :
    (∀ log : List Write, (∀ token ∈ tokens, ∃ slot, (applyAll log after).attachment? token =
        some slot ∧ slot.attachmentStatus = .success) →
      ((applyAll log after).attachmentsByIds tokens).length = tokens.length ∧
      ∀ new : NewMessage, new.uploadTokens = tokens →
        new.messageType =
          Message.typeForAttachments ((applyAll log after).attachmentsByIds tokens) →
        Message.validateContent new.content = .ok () →
          Message.validateAttachments new.messageType
            ((applyAll log after).attachmentsByIds tokens) = .ok () ∧
          ∀ sender time target slowTtl id error,
            ((sendMessage sender time target new slowTtl id).exec (applyAll log after)).1 =
              .error error → error.ofMessage = false) ∧
    (∀ request ∈ uploads, ∃ type, slotType request = .ok type ∧
      ∀ size, slotType { request with fileSize := size } = .ok type ↔ size ≤ type.maxSize) ∧
    ∀ token ∈ tokens, ∃ slot, after.attachment? token = some slot ∧
      slot.size ≤ slot.attachmentType.maxSize := by
  obtain ⟨slots, built, rfl, distinct, stored⟩ := request_granted granted
  obtain ⟨counts, sizes, typed⟩ := uploadSlots_types built
  refine ⟨fun log processed => ?_, fun request member => ?_, fun token member => ?_⟩
  · have kept : ∀ slot ∈ slots, ∃ row, (applyAll log after).attachment? slot.id = some row ∧
        row.attachmentType = slot.attachmentType := fun slot member =>
      applyAll_preserves (fun db => ∃ row, db.attachment? slot.id = some row ∧
        row.attachmentType = slot.attachmentType) log
          (fun write _ _ stored => attachmentType_kept write stored) after
            ⟨slot, stored slot member, rfl⟩
    have same := attachmentsByIds_perm distinct kept
    have ready : ∀ row ∈ (applyAll log after).attachmentsByIds (slots.map (·.id)),
        row.attachmentStatus = .success := by
      intro row member
      have found := (Table.mem_rows_iff _ _).mp (List.mem_of_mem_filter member)
      obtain ⟨slot, here, success⟩ := processed row.id (Db.attachmentsByIds_wanted member)
      rw [Option.some.inj (found.symm.trans here)]
      exact success
    have counted := same.length_eq
    rw [List.length_map, List.length_map] at counted
    rw [List.length_map]
    refine ⟨counted, fun new named typed content => ⟨?_, ?_⟩⟩
    · rw [typed]
      exact validateAttachments_granted counts same ready
    · intro sender time target slowTtl id error failed
      rw [← named] at typed same ready counted
      refine sendMessage_fails ?_ (fun seq => create_granted counts same ready rfl typed content id
        seq) failed
      rw [counted, named, List.length_map]
  · obtain ⟨type, given⟩ := typed request member
    exact ⟨type, given, slotType_bound given⟩
  · obtain ⟨slot, listed, rfl⟩ := List.mem_map.mp member
    exact ⟨slot, stored slot listed, sizes slot listed⟩

def mixedUpload : Handler (List AttachmentId) :=
  requestAttachmentUpload { id := 1 } 0 1
    [⟨"a.png", "image/png", 100, none⟩, ⟨"b.mp4", "video/mp4", 200, none⟩,
      ⟨"c.pdf", "application/pdf", 300, some .image⟩] fun index => (5 + index, "key")

def mixedProcessed : Db :=
  applyAll ((mixedUpload.exec emptyGroup).2.attachments.rows.map fun slot =>
    .processAttachment { slot with attachmentStatus := .success }) (mixedUpload.exec emptyGroup).2

theorem granted_uploads_sendable_mixed :
    Message.validateAttachments .image (mixedProcessed.attachmentsByIds [5, 6, 7]) = .ok () := by
  have granted : (mixedUpload.exec emptyGroup).1 = .ok [5, 6, 7] := by decide +kernel
  have typed : Message.typeForAttachments (mixedProcessed.attachmentsByIds [5, 6, 7]) = .image := by
    decide +kernel
  have processed : ∀ token ∈ [5, 6, 7], ∃ slot, mixedProcessed.attachment? token = some slot ∧
      slot.attachmentStatus = .success := by
    intro token member
    refine Option.map_eq_some_iff.mp (?_ : (mixedProcessed.attachment? token).map
      (·.attachmentStatus) = some .success)
    revert token
    decide +kernel
  have sendable := (granted_uploads_sendable (Prod.ext granted rfl)).1 _ processed
  exact (sendable.2 ⟨some "hi", none, .image, [5, 6, 7]⟩ rfl typed.symm (by decide)).1

end Sending

end Messanger
