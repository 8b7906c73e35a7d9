import Mathlib.Data.List.Induction
import Messanger.Messages.AttachmentsCore

/-!
The status of an upload under any sequence of processing commands.  One command settles every
slot its tokens name and leaves the others alone; what a whole sequence does follows from that.
-/

namespace Messanger

open Relational

theorem attachment_processAll (settle : MessageAttachment → MessageAttachment)
    (keeps : ∀ slot, (settle slot).id = slot.id) (id : AttachmentId) :
    ∀ (slots : List MessageAttachment) (db : Db), (slots.map (·.id)).Nodup →
      (applyAll (slots.map fun slot => Write.processAttachment (settle slot)) db).attachment? id =
        (db.attachment? id).map fun row =>
          match slots.find? (fun slot => slot.id == id) with
          | none => row
          | some slot => Db.processColumns (settle slot) row := by
  intro slots
  induction slots with
  | nil =>
      intro db _
      simp
  | cons slot rest ih =>
      intro db distinct
      rw [List.map_cons, List.nodup_cons] at distinct
      rw [List.map_cons, applyAll_cons, ih _ distinct.2, Db.apply_eq, Db.attachment_processAttachment,
        Option.map_map]
      cases found : db.attachment? id with
      | none => rfl
      | some row =>
          have key := Db.attachment_id found
          simp only [Option.map_some, Function.comp_apply, keeps, key, List.find?_cons]
          by_cases here : slot.id = id
          · have gone : rest.find? (fun other => other.id == id) = none := by
              rw [List.find?_eq_none]
              intro other member same
              refine distinct.1 ?_
              rw [here, ← beq_iff_eq.mp same]
              exact List.mem_map_of_mem member
            simp [here, gone]
          · rw [if_neg (Ne.symm here), beq_eq_false_iff_ne.mpr here]

/-- One `ProccessAttachments` command with what the storage and the media tools answer to it. -/
structure ProcessCommand where
  userId : UserId
  uploadTokens : List AttachmentId
  answers : AttachmentId → SlotAnswers

def ProcessCommand.execute (command : ProcessCommand) (db : Db) : Db :=
  ((proccessAttachments command.userId command.uploadTokens command.answers).exec db).2

def processAll (commands : List ProcessCommand) (db : Db) : Db :=
  commands.foldl (fun current command => command.execute current) db

/-- The object is there, has the declared size and type, and was promoted; an error of the last
clean-up counts unless it is one of the storage. -/
def SlotAnswers.Accept (answers : SlotAnswers) (slot : MessageAttachment) : Prop :=
  (∃ size, answers.stat = .ok size ∧ 0 < size ∧ size ≤ slot.size) ∧
    answers.detectedMime = .ok slot.mimeType ∧ answers.promoted = .ok () ∧
    ∀ error, answers.cleanup = .error error → error.isStorage = true

theorem processSlot_status (userId : UserId) (answers : SlotAnswers) (slot : MessageAttachment) :
    ((processSlot userId answers slot).attachmentStatus = .success ∧ slot.uploaderId = userId ∧
        answers.Accept slot) ∨
      ((processSlot userId answers slot).attachmentStatus = .error ∧
        ¬ (slot.uploaderId = userId ∧ answers.Accept slot)) := by
  unfold processSlot
  split
  · rename_i foreign
    exact .inr ⟨rfl, fun own => foreign own.1⟩
  · rename_i own
    have uploader : slot.uploaderId = userId := by simpa using own
    split
    · rename_i failed
      exact .inr ⟨rfl, fun both => by simp [SlotAnswers.Accept, failed] at both⟩
    · rename_i size found
      split
      · rename_i refused
        refine .inr ⟨rfl, fun both => ?_⟩
        obtain ⟨stored, answered, positive, within⟩ := both.2.1
        rw [found, Except.ok.injEq] at answered
        omega
      · rename_i fits
        split
        · rename_i failed
          exact .inr ⟨rfl, fun both => by simp [SlotAnswers.Accept, failed] at both⟩
        · rename_i mime detected
          split
          · rename_i different
            refine .inr ⟨rfl, fun both => different ?_⟩
            exact Except.ok.inj (detected.symm.trans both.2.2.1)
          · rename_i same
            split
            · rename_i failed
              exact .inr ⟨rfl, fun both => by simp [SlotAnswers.Accept, failed] at both⟩
            · rename_i promoted
              have checked : (∃ size, answers.stat = .ok size ∧ 0 < size ∧ size ≤ slot.size) ∧
                  answers.detectedMime = .ok slot.mimeType ∧ answers.promoted = .ok () :=
                ⟨⟨size, found, by omega, by omega⟩, by rw [detected, not_not.mp same], promoted⟩
              dsimp only
              split
              · rename_i cleaned
                refine .inl ⟨rfl, uploader, checked.1, checked.2.1, checked.2.2, ?_⟩
                simp [cleaned]
              · rename_i error cleaned
                split
                · rename_i storage
                  refine .inl ⟨rfl, uploader, checked.1, checked.2.1, checked.2.2, ?_⟩
                  intro raised same
                  rw [cleaned, Except.error.injEq] at same
                  rw [← same]
                  exact storage
                · rename_i fatal
                  exact .inr ⟨rfl, fun both => fatal (both.2.2.2.2 error cleaned)⟩

theorem processColumns_processSlot (userId : UserId) (answers : SlotAnswers)
    (slot : MessageAttachment) :
    Db.processColumns (processSlot userId answers slot) slot = processSlot userId answers slot := by
  unfold processSlot
  repeat' split
  all_goals rfl

theorem processSlot_uploader (userId : UserId) (answers : SlotAnswers) (slot : MessageAttachment) :
    (processSlot userId answers slot).uploaderId = slot.uploaderId := by
  rw [← processColumns_processSlot]
  rfl

theorem run_saveSlots {Result : Type} {rest : Unit → Handler Result} {committed : Db} :
    ∀ (slots : List MessageAttachment) (seen : Db),
      (∀ slot ∈ slots, (seen.attachment? slot.id).isSome) →
        ((Tx.each saveSlot slots).bind rest).run committed seen =
          (rest ()).run committed (applyAll (slots.map .processAttachment) seen) := by
  intro slots
  induction slots with
  | nil => exact fun _ _ => rfl
  | cons slot others ih =>
      intro seen present
      have here := present slot List.mem_cons_self
      have later := ih (Db.apply (.processAttachment slot) seen) fun other member => by
        rw [Db.attachment_processAttachment, Option.isSome_map]
        exact present other (List.mem_cons_of_mem _ member)
      rw [Tx.each, Tx.bind_assoc]
      simp only [saveSlot, updateRow, Tx.statement, Tx.bind, Tx.run, here, if_true, Tx.ofExcept]
      exact later

theorem execute_eq (command : ProcessCommand) (db : Db) :
    command.execute db =
      applyAll ((db.attachmentsByIds command.uploadTokens).map fun slot =>
        Write.processAttachment (processSlot command.userId (command.answers slot.id) slot)) db := by
  have present : ∀ slot ∈ (db.attachmentsByIds command.uploadTokens).map fun slot =>
      processSlot command.userId (command.answers slot.id) slot,
        (db.attachment? slot.id).isSome := by
    intro settled member
    obtain ⟨slot, listed, rfl⟩ := List.mem_map.mp member
    rw [processSlot_id, Db.attachment?, (Table.mem_rows_iff _ slot).mp (List.mem_of_mem_filter listed)]
    rfl
  unfold ProcessCommand.execute proccessAttachments Tx.exec
  simp only [Tx.bind_eq, Tx.pure_eq, Tx.read, Tx.bind, Tx.run, applyAll_nil]
  rw [run_saveSlots _ db present, List.map_map]
  rfl

/-- What one command does to an attachment: named slots are settled, others are left alone.
Nothing is promised of a slot that was settled with success and is then refused. -/
structure Settled (command : ProcessCommand) (before after : MessageAttachment) : Prop where
  uploader : after.uploaderId = before.uploaderId
  unnamed : before.id ∉ command.uploadTokens → after = before
  decided : before.id ∈ command.uploadTokens → after.attachmentStatus ≠ .pending
  accepted : before.id ∈ command.uploadTokens → before.uploaderId = command.userId →
    (command.answers before.id).Accept before → after.attachmentStatus = .success
  refused : before.id ∈ command.uploadTokens → before.attachmentStatus ≠ .success →
    ¬ (before.uploaderId = command.userId ∧ (command.answers before.id).Accept before) →
      after.attachmentStatus = .error

theorem execute_settles (command : ProcessCommand) (db : Db) (id : AttachmentId)
    (before : MessageAttachment) (found : db.attachment? id = some before) :
    ∃ after, (command.execute db).attachment? id = some after ∧ Settled command before after := by
  have key := Db.attachment_id found
  obtain ⟨listed, _⟩ := (Table.find?_some_iff _ _ _).mp found
  have distinct : ((db.attachmentsByIds command.uploadTokens).map (·.id)).Nodup :=
    db.attachments.unique.sublist (List.filter_sublist.map _)
  rw [execute_eq, attachment_processAll _ (fun slot => processSlot_id _ _ slot) id _ db distinct,
    found]
  refine ⟨_, rfl, ?_⟩
  dsimp only
  split
  · rename_i absent
    refine ⟨rfl, fun _ => rfl, fun named => ?_, fun named => ?_, fun named => ?_⟩
    all_goals
      have chosen := List.find?_eq_none.mp absent before
        (List.mem_filter.mpr ⟨listed, by simpa using named⟩)
      simp [key] at chosen
  · rename_i slot chosen
    have member := List.mem_of_find?_eq_some chosen
    have same : slot.id = id := by simpa using List.find?_some chosen
    have identical : slot = before :=
      db.attachments.row_unique (List.mem_of_mem_filter member) listed (same.trans key.symm)
    have named : before.id ∈ command.uploadTokens := by
      rw [← identical]
      exact Db.attachmentsByIds_wanted member
    rw [identical, processColumns_processSlot]
    have status := processSlot_status command.userId (command.answers before.id) before
    refine ⟨processSlot_uploader _ _ _, fun unnamed => absurd named unnamed, ?_, ?_, ?_⟩
    · intro _ waiting
      rcases status with success | failure
      · cases success.1.symm.trans waiting
      · cases failure.1.symm.trans waiting
    · intro _ own accepted
      rcases status with success | failure
      · exact success.1
      · exact absurd ⟨own, accepted⟩ failure.2
    · intro _ _ denied
      rcases status with success | failure
      · exact absurd success.2 denied
      · exact failure.1

theorem processAll_last (earlier : List ProcessCommand) (command : ProcessCommand) (db : Db) :
    processAll (earlier ++ [command]) db = command.execute (processAll earlier db) :=
  List.foldl_append

section Sequences

variable {db : Db} {id : AttachmentId} {before : MessageAttachment}

theorem processAll_found (found : db.attachment? id = some before) (commands : List ProcessCommand) :
    ∃ current, (processAll commands db).attachment? id = some current ∧
      current.uploaderId = before.uploaderId := by
  induction commands using List.reverseRecOn with
  | nil => exact ⟨before, found, rfl⟩
  | append_singleton earlier command ih =>
      obtain ⟨middle, reached, uploader⟩ := ih
      obtain ⟨current, stored, settled⟩ := execute_settles command _ id middle reached
      rw [processAll_last]
      exact ⟨current, stored, settled.uploader.trans uploader⟩

theorem processAll_pending (found : db.attachment? id = some before)
    (commands : List ProcessCommand) :
    ∀ after, (processAll commands db).attachment? id = some after →
      (after.attachmentStatus = .pending ↔
        before.attachmentStatus = .pending ∧ ∀ command ∈ commands, id ∉ command.uploadTokens) := by
  induction commands using List.reverseRecOn with
  | nil =>
      intro after reached
      cases found.symm.trans reached
      simp
  | append_singleton earlier command ih =>
      intro after reached
      obtain ⟨middle, there, _⟩ := processAll_found found earlier
      have key := Db.attachment_id there
      obtain ⟨current, stored, settled⟩ := execute_settles command _ id middle there
      rw [processAll_last, stored] at reached
      cases reached
      have previous := ih middle there
      by_cases named : id ∈ command.uploadTokens
      · refine ⟨fun waiting => absurd waiting (settled.decided (key ▸ named)), fun both => ?_⟩
        exact absurd named (both.2 command (by simp))
      · rw [settled.unnamed (key ▸ named), previous]
        simp only [List.mem_append, List.mem_singleton]
        constructor
        · rintro ⟨waiting, unnamed⟩
          refine ⟨waiting, fun other member => ?_⟩
          rcases member with earlierOne | rfl
          · exact unnamed other earlierOne
          · exact named
        · rintro ⟨waiting, unnamed⟩
          exact ⟨waiting, fun other member => unnamed other (.inl member)⟩

theorem processAll_success (found : db.attachment? id = some before)
    (commands : List ProcessCommand) :
    ∀ after, (processAll commands db).attachment? id = some after →
      after.attachmentStatus = .success → before.attachmentStatus = .success ∨
        ∃ earlier command later slot, commands = earlier ++ command :: later ∧
          (processAll earlier db).attachment? id = some slot ∧ id ∈ command.uploadTokens ∧
          before.uploaderId = command.userId ∧ (command.answers id).Accept slot := by
  induction commands using List.reverseRecOn with
  | nil =>
      intro after reached success
      cases found.symm.trans reached
      exact .inl success
  | append_singleton earlier command ih =>
      intro after reached success
      obtain ⟨middle, there, uploader⟩ := processAll_found found earlier
      have key := Db.attachment_id there
      obtain ⟨current, stored, settled⟩ := execute_settles command _ id middle there
      rw [processAll_last, stored] at reached
      cases reached
      by_cases given : middle.attachmentStatus = .success
      · rcases ih middle there given with already | ⟨first, passed, rest, slot, split, others⟩
        · exact .inl already
        · refine .inr ⟨first, passed, rest ++ [command], slot, ?_, others⟩
          rw [split]
          simp
      · by_cases named : id ∈ command.uploadTokens
        · by_cases granted : middle.uploaderId = command.userId ∧
              (command.answers middle.id).Accept middle
          · refine .inr ⟨earlier, command, [], middle, rfl, there, named, ?_, key ▸ granted.2⟩
            rw [← uploader]
            exact granted.1
          · have failed := settled.refused (key ▸ named) given granted
            rw [success] at failed
            cases failed
        · rw [settled.unnamed (key ▸ named)] at success
          exact absurd success given

end Sequences

/-- Along every sequence of processing commands each command settles the slots it names and no
others; a status never returns to PENDING, and SUCCESS is only ever given by a command of the
uploader that passed every check. -/
theorem attachment_settled_in_sequence (commands : List ProcessCommand) (db : Db)
    (id : AttachmentId) (before : MessageAttachment) (found : db.attachment? id = some before) :
    (∀ earlier command later, commands = earlier ++ command :: later →
      ∃ middle after, (processAll earlier db).attachment? id = some middle ∧
        (processAll (earlier ++ [command]) db).attachment? id = some after ∧
        middle.uploaderId = before.uploaderId ∧ Settled command middle after) ∧
    ∃ after, (processAll commands db).attachment? id = some after ∧
      (after.attachmentStatus = .pending ↔
        before.attachmentStatus = .pending ∧ ∀ command ∈ commands, id ∉ command.uploadTokens) ∧
      (after.attachmentStatus = .success → before.attachmentStatus = .success ∨
        ∃ earlier command later slot, commands = earlier ++ command :: later ∧
          (processAll earlier db).attachment? id = some slot ∧ id ∈ command.uploadTokens ∧
          before.uploaderId = command.userId ∧ (command.answers id).Accept slot) := by
  refine ⟨fun earlier command later _ => ?_, ?_⟩
  · obtain ⟨middle, reached, uploader⟩ := processAll_found found earlier
    obtain ⟨after, stored, settled⟩ := execute_settles command _ id middle reached
    refine ⟨middle, after, reached, ?_, uploader, settled⟩
    rw [processAll_last]
    exact stored
  · obtain ⟨after, reached, _⟩ := processAll_found found commands
    exact ⟨after, reached, processAll_pending found commands after reached,
      processAll_success found commands after reached⟩

def pendingSlot : MessageAttachment :=
  { id := 7, chatId := 1, uploaderId := 2, attachmentType := .image, s3Key := "1/7.png"
    mimeType := "image/png", originalFilename := "photo.png", size := 100 }

def pendingUpload : Db := applyAll [.insertAttachment pendingSlot] {}

def goodUpload : SlotAnswers where
  stat := .ok 100
  detectedMime := .ok "image/png"
  media := { size := 100 }

def confirmedByBoth : List ProcessCommand :=
  [⟨1, [7], fun _ => goodUpload⟩, ⟨2, [7], fun _ => goodUpload⟩]

theorem confirmed_slot_settled :
    pendingUpload.attachment? 7 = some pendingSlot ∧
      ∃ after, (processAll confirmedByBoth pendingUpload).attachment? 7 = some after ∧
        after.attachmentStatus ≠ .pending := by
  have found : pendingUpload.attachment? 7 = some pendingSlot := by decide +kernel
  refine ⟨found, ?_⟩
  obtain ⟨_, after, reached, waiting, _⟩ :=
    attachment_settled_in_sequence confirmedByBoth pendingUpload 7 pendingSlot found
  refine ⟨after, reached, fun pending => ?_⟩
  exact (waiting.mp pending).2 ⟨1, [7], fun _ => goodUpload⟩ (by simp [confirmedByBoth]) (by simp)

/-- A command of a user who is not the uploader does change the status. -/
theorem foreign_command_marks_error :
    ¬ ∀ (db : Db) (command : ProcessCommand) (before after : MessageAttachment),
      db.attachment? before.id = some before → before.uploaderId ≠ command.userId →
      (command.execute db).attachment? before.id = some after →
        after.attachmentStatus = before.attachmentStatus := by
  intro claimed
  have found : pendingUpload.attachment? 7 = some pendingSlot := by decide +kernel
  have marked : (ProcessCommand.execute ⟨1, [7], fun _ => goodUpload⟩ pendingUpload).attachment? 7 =
      some pendingSlot.markError := by decide +kernel
  have same := claimed pendingUpload ⟨1, [7], fun _ => goodUpload⟩ pendingSlot
    pendingSlot.markError found (by decide) marked
  cases same

end Messanger
