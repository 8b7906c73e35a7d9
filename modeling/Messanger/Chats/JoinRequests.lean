import Mathlib.Data.List.Induction
import Messanger.Statements
import Messanger.Chats.CommandsCore

/-!
The join requests of a chat.  One row of a user is renewed after a decline and deleted by a cancel;
administrators lock the rows they resolve, a submit and a cancel decide from an unlocked read.
-/

namespace Messanger

open Relational

inductive RequestCommand where
  | join (user : UserJWTData) (now : Nat) (chatId : ChatId)
  | joinByInvite (user : UserJWTData) (now : Nat) (code : String)
  | approve (user : UserJWTData) (now : Nat) (chatId : ChatId) (userIds : List UserId)
  | decline (user : UserJWTData) (now : Nat) (chatId : ChatId) (userIds : List UserId)
  | declineAll (user : UserJWTData) (now : Nat) (chatId : ChatId)
  | cancel (user : UserJWTData) (chatId : ChatId)
  deriving DecidableEq, Repr

def RequestCommand.program : RequestCommand → Handler Unit
  | .join user now chatId => (joinChat user now chatId).void
  | .joinByInvite user now code => (joinChatByInvite user now code).void
  | .approve user now chatId userIds => (approveJoinRequests user now chatId userIds).void
  | .decline user now chatId userIds => (declineJoinRequests user now chatId userIds).void
  | .declineAll user now chatId => (declineAllJoinRequests user now chatId).void
  | .cancel user chatId => cancelJoinRequest user chatId

section Rows

/-- The status of a request says whether somebody resolved it. -/
def ChatJoinRequest.Consistent (request : ChatJoinRequest) : Prop :=
  (request.status = .pending ↔ request.resolvedAt = none) ∧
    (request.resolvedAt = none ↔ request.resolvedBy = none)

instance (request : ChatJoinRequest) : Decidable request.Consistent :=
  inferInstanceAs (Decidable (_ ∧ _))

def Db.joinRequest? (db : Db) (key : ChatId × UserId) : Option ChatJoinRequest :=
  db.joinRequests.find? key

def Write.requestKey : Write → Option (ChatId × UserId)
  | .insertJoinRequest request => some request.key
  | .updateJoinRequest request => some request.key
  | .deleteJoinRequest chatId userId => some (chatId, userId)
  | _ => none

def Cooled (before after : Option ChatJoinRequest) : Prop :=
  ∀ request resolvedAt, before = some request → request.status = .declined →
    request.resolvedAt = some resolvedAt → after = some request ∨
      ∃ renewed, after = some renewed ∧ renewed.isPending = true ∧
        resolvedAt + ChatJoinRequest.retryAfter ≤ renewed.requestedAt

def RemovesPending (log : List Write) (db : Db) (key : ChatId × UserId) : Prop :=
  (∃ request, db.joinRequest? key = some request ∧ request.isPending = true) ∧
    (applyAll log db).joinRequest? key = none

def CancelsPending (log : List Write) (db : Db) : Prop :=
  ∀ chatId userId, (∃ events, .publish events ∈ log ∧
    .cancelledChatJoinRequest chatId userId ∈ events) → RemovesPending log db (chatId, userId)

variable {db : Db} {key : ChatId × UserId} {log : List Write}

theorem cooled_same {request : Option ChatJoinRequest} : Cooled request request :=
  fun _ _ found _ _ => .inl found

theorem cooled_pending {request : ChatJoinRequest} {after : Option ChatJoinRequest}
    (pending : request.isPending = true) : Cooled (some request) after := by
  rintro _ resolvedAt ⟨⟩ _ resolved
  rw [ChatJoinRequest.isPending, resolved] at pending
  cases pending

theorem cooled_none {after : Option ChatJoinRequest} : Cooled none after :=
  fun _ _ found => nomatch found

theorem request_apply (write : Write) (away : write.requestKey ≠ some key) :
    (Db.apply write db).joinRequest? key = db.joinRequest? key := by
  cases write
  case insertJoinRequest request =>
    refine Table.find?_insert_other _ _ _ fun same => away ?_
    rw [Write.requestKey, same]
  case updateJoinRequest request =>
    refine Table.find?_update_other db.joinRequests _ _ ?_ key fun row same => ?_
    · exact fun _ => rfl
    · refine decide_eq_false fun matched => away ?_
      rw [Write.requestKey, ← matched, same]
  case deleteJoinRequest chatId userId =>
    refine Table.find?_delete_other _ _ _ fun row same => ?_
    refine decide_eq_false fun matched => away ?_
    rw [Write.requestKey, ← matched, same]
  all_goals rfl

theorem request_untouched (away : ∀ write ∈ log, write.requestKey ≠ some key) :
    (applyAll log db).joinRequest? key = db.joinRequest? key :=
  applyAll_preserves (fun after => after.joinRequest? key = db.joinRequest? key) log
    (fun write member _ same => (request_apply write (away write member)).trans same) db rfl

end Rows

section Committing

def Write.deletesRequest (chatId : ChatId) (userId : UserId) : Write → Bool
  | .deleteJoinRequest target user => target == chatId && user == userId
  | _ => false

/-- What a run has to keep clear of: a cancel whose `DELETE` meets no row or a resolved one, and a
renewal whose `UPDATE` overwrites a decline that is still cooling down. -/
def requestWrites (log : List Write) (seen : Db) : Write → Bool
  | .deleteJoinRequest chatId userId => (seen.joinRequest? (chatId, userId)).any (·.isPending)
  | .publish events => events.all fun event =>
      match event with
      | .cancelledChatJoinRequest chatId userId => log.any (·.deletesRequest chatId userId)
      | _ => true
  | .updateJoinRequest request => !request.isPending ||
      (seen.joinRequest? request.key).all fun stored =>
        stored.retryAt.all fun retryAt => decide (retryAt ≤ request.requestedAt)
  | _ => true

/-- What a session may commit: the requests it touches are locked, what it stores is consistent,
and it cancels and renews as it should. -/
structure RequestCommits (held : List RowKey) (log : List Write) (db : Db) : Prop where
  locked : ∀ write ∈ log, ∀ chatId userId, write.requestKey = some (chatId, userId) →
    .joinRequest chatId userId ∈ held
  stored : ∀ write ∈ log, ∀ request, write.storedRequest = some request → request.Consistent
  cooled : ∀ write ∈ log, ∀ key, write.requestKey = some key →
    Cooled (db.joinRequest? key) ((applyAll log db).joinRequest? key)
  cancels : CancelsPending log db

/-- Requests stay consistent, and a locked one stays as it is. -/
def requestPact : Pact Db Write RowKey RequestCommand where
  Rely held before after := (∀ request ∈ after.joinRequests.rows, request.Consistent) ∧
    ∀ chatId userId, .joinRequest chatId userId ∈ held →
      after.joinRequest? (chatId, userId) = before.joinRequest? (chatId, userId)
  trans _ _ _ _ left right := ⟨right.1, fun chatId userId locked =>
    (right.2 chatId userId locked).trans (left.2 chatId userId locked)⟩
  fewer _ _ _ _ among relied :=
    ⟨relied.1, fun chatId userId locked => relied.2 chatId userId (among _ locked)⟩
  Allows _ log seen writes := writes.all (requestWrites log seen) = true
  Commits _ := RequestCommits

structure RequestFacts (log : List Write) (db : Db) : Prop where
  cooled : ∀ key, Cooled (db.joinRequest? key) ((applyAll log db).joinRequest? key)
  cancels : CancelsPending log db

structure RequestInv (initial db : Db) (history : List (RequestCommand × List Write)) : Prop where
  replayed : db = Journal.replay initial history
  consistent : ∀ request ∈ db.joinRequests.rows, request.Consistent
  facts : Journal.Throughout (fun _ log before => RequestFacts log before) initial history

variable {initial db : Db} {command : RequestCommand} {held : List RowKey} {log : List Write}

theorem commits_facts (commits : RequestCommits held log db) : RequestFacts log db := by
  refine ⟨fun key => ?_, commits.cancels⟩
  by_cases touched : ∃ write ∈ log, write.requestKey = some key
  · obtain ⟨write, member, same⟩ := touched
    exact commits.cooled write member key same
  · rw [request_untouched fun write member same => touched ⟨write, member, same⟩]
    exact cooled_same

theorem consistent_applyAll (consistent : ∀ request ∈ db.joinRequests.rows, request.Consistent)
    (commits : RequestCommits held log db) :
    ∀ request ∈ (applyAll log db).joinRequests.rows, request.Consistent :=
  applyAll_preserves (fun db => ∀ request ∈ db.joinRequests.rows, request.Consistent) log
    (fun write member _ fits =>
      Db.joinRequests_apply write (fun _ _ _ fits => fits) (commits.stored write member) fits)
    db consistent

theorem request_inv {history : List (RequestCommand × List Write)}
    (inv : RequestInv initial db history) (commits : RequestCommits held log db) :
    RequestInv initial (applyAll log db) (history ++ [(command, log)]) := by
  obtain ⟨replayed, consistent, facts⟩ := inv
  refine ⟨?_, consistent_applyAll consistent commits, ?_⟩
  · rw [Journal.replay_concat, ← replayed]
  · rw [replayed] at commits
    exact Journal.throughout_concat facts (commits_facts commits)

theorem request_relied {history : List (RequestCommand × List Write)} {otherHeld : List RowKey}
    (inv : RequestInv initial db history) (commits : RequestCommits held log db)
    (apart : ∀ key ∈ held, key ∉ otherHeld) : requestPact.Rely otherHeld db (applyAll log db) := by
  refine ⟨consistent_applyAll inv.consistent commits, fun chatId userId locked => ?_⟩
  refine request_untouched fun write member same => ?_
  exact apart _ (commits.locked write member chatId userId same) locked

def Uncancelled (log : List Write) : Prop :=
  ∀ events, .publish events ∈ log → ∀ chatId userId,
    .cancelledChatJoinRequest chatId userId ∉ events

theorem uncancelled_cancels (uncancelled : Uncancelled log) : CancelsPending log db := by
  rintro chatId userId ⟨events, published, announced⟩
  exact absurd announced (uncancelled events published chatId userId)

end Committing

section Programs

variable {db : Db} {command : RequestCommand} {held : List RowKey} {log : List Write}

def Write.LeavesRequests : Write → Prop
  | .insertJoinRequest _ => False
  | .updateJoinRequest _ => False
  | .deleteJoinRequest _ _ => False
  | .publish events => ∀ chatId userId, .cancelledChatJoinRequest chatId userId ∉ events
  | _ => True

theorem leaves_none {write : Write} (leaves : write.LeavesRequests) :
    write.requestKey = none ∧ write.storedRequest = none := by
  cases write
  case insertJoinRequest => exact leaves.elim
  case updateJoinRequest => exact leaves.elim
  case deleteJoinRequest => exact leaves.elim
  all_goals exact ⟨rfl, rfl⟩

theorem leaving_commits (leaves : ∀ write ∈ log, write.LeavesRequests) :
    RequestCommits held log db := by
  refine ⟨fun write member _ _ same => ?_, fun write member _ same => ?_,
    fun write member _ same => ?_, ?_⟩
  · rw [(leaves_none (leaves write member)).1] at same
    cases same
  · rw [(leaves_none (leaves write member)).2] at same
    cases same
  · rw [(leaves_none (leaves write member)).1] at same
    cases same
  · exact uncancelled_cancels fun events published => leaves _ published

theorem leaving_untouched {key : ChatId × UserId} (leaves : ∀ write ∈ log, write.LeavesRequests) :
    (applyAll log db).joinRequest? key = db.joinRequest? key := by
  refine request_untouched fun write member same => ?_
  rw [(leaves_none (leaves write member)).1] at same
  cases same

theorem single_commits {write : Write} {rest : List Write} (announces : ∀ events, write ≠ .publish events)
    (leaves : ∀ other ∈ rest, other.LeavesRequests)
    (locked : ∀ chatId userId, write.requestKey = some (chatId, userId) →
      .joinRequest chatId userId ∈ held)
    (stored : ∀ request, write.storedRequest = some request → request.Consistent)
    (cooled : ∀ key, write.requestKey = some key →
      Cooled (db.joinRequest? key) ((Db.apply write db).joinRequest? key)) :
    RequestCommits held (write :: rest) db := by
  obtain ⟨_, restStored, _, _⟩ := @leaving_commits db held rest leaves
  refine ⟨fun other member chatId userId same => ?_, fun other member request same => ?_,
    fun other member key same => ?_, uncancelled_cancels fun events published => ?_⟩
  · rcases List.mem_cons.mp member with rfl | later
    · exact locked chatId userId same
    · rw [(leaves_none (leaves other later)).1] at same
      cases same
  · rcases List.mem_cons.mp member with rfl | later
    · exact stored request same
    · exact restStored other later request same
  · rcases List.mem_cons.mp member with rfl | later
    · rw [applyAll_cons, leaving_untouched leaves]
      exact cooled key same
    · rw [(leaves_none (leaves other later)).1] at same
      cases same
  · rcases List.mem_cons.mp published with rfl | later
    · exact absurd rfl (announces events)
    · exact leaves _ later

theorem request_updated {request stored : ChatJoinRequest}
    (found : db.joinRequest? request.key = some stored) :
    (Db.apply (.updateJoinRequest request) db).joinRequest? request.key = some request := by
  have same : stored.key = request.key := Table.key_of_find? found
  have own : stored.chatId = request.chatId ∧ stored.userId = request.userId := Prod.mk.inj same
  refine (Table.find?_update db.joinRequests _ _ ?_ request.key).trans ?_
  · exact fun _ => rfl
  · rw [show db.joinRequests.find? request.key = some stored from found, Option.map_some,
      if_pos (decide_eq_true same), own.1, own.2]

theorem renew_columns {request renewed : ChatJoinRequest} {inviteLinkId : Option InviteId} {now : Nat}
    (done : request.renew inviteLinkId now = .ok renewed) :
    request.isPending = false ∧ renewed.status = .pending ∧ renewed.resolvedAt = none ∧
      renewed.resolvedBy = none := by
  unfold ChatJoinRequest.renew at done
  split at done
  · cases done
  · rename_i resolved
    refine ⟨Bool.not_eq_true _ ▸ resolved, ?_⟩
    repeat' split at done
    all_goals cases done
    all_goals exact ⟨rfl, rfl, rfl⟩

/-- The three columns of a consistent request that was resolved all differ when it is renewed. -/
theorem flushed_pending {request renewed : ChatJoinRequest} (stored : ChatJoinRequest)
    {inviteLinkId : Option InviteId} {now : Nat} (done : request.renew inviteLinkId now = .ok renewed)
    (consistent : request.Consistent) :
    (request.flushed renewed stored).isPending = true ∧
      (request.flushed renewed stored).Consistent := by
  obtain ⟨resolved, status, resolvedAt, resolvedBy⟩ := renew_columns done
  have settled : request.resolvedAt ≠ none := by
    intro unresolved
    rw [ChatJoinRequest.isPending, unresolved] at resolved
    cases resolved
  have former : request.status ≠ .pending := fun pending => settled (consistent.1.mp pending)
  have resolver : request.resolvedBy ≠ none := fun nobody => settled (consistent.2.mpr nobody)
  have columns : (request.flushed renewed stored).status = .pending ∧
      (request.flushed renewed stored).resolvedAt = none ∧
      (request.flushed renewed stored).resolvedBy = none := by
    simp [ChatJoinRequest.flushed, changed, status, resolvedAt, resolvedBy, former, settled, resolver]
  refine ⟨?_, ?_⟩
  · rw [ChatJoinRequest.isPending, columns.2.1]
    rfl
  · simp [ChatJoinRequest.Consistent, columns]

theorem cooled_renewed {renewed : ChatJoinRequest} (pending : renewed.isPending = true)
    (waited : ∀ stored, db.joinRequest? renewed.key = some stored →
      ∀ retryAt, stored.retryAt = some retryAt → retryAt ≤ renewed.requestedAt) :
    Cooled (db.joinRequest? renewed.key)
      ((Db.apply (.updateJoinRequest renewed) db).joinRequest? renewed.key) := by
  cases found : db.joinRequest? renewed.key with
  | none => exact cooled_none
  | some stored =>
      rw [request_updated found]
      rintro _ resolvedAt ⟨⟩ declined resolved
      refine .inr ⟨renewed, rfl, pending, waited stored found _ ?_⟩
      rw [ChatJoinRequest.retryAt, if_pos declined, resolved]
      rfl

theorem submit_requests (now : Nat) (chat : Chat) (userId : UserId)
    (inviteLinkId : Option InviteId) :
    (submitJoinRequest now chat userId inviteLinkId).Obeys requestPact command [] [] db
      fun _ _ _ _ => True := by
  refine Tx.obeys_read fun _ _ => ?_
  refine Tx.obeys_require fun _ => Tx.obeys_require fun _ => ?_
  refine Tx.obeys_read fun _ _ => Tx.obeys_require fun _ => Tx.obeys_read fun seen atRead => ?_
  cases loaded : (applyAll [] seen).joinRequests.find? (chat.id, userId) with
  | some existing =>
      refine Tx.obeys_ofExcept fun renewed done => ?_
      refine obeys_flushJoinRequest fun first stored _ present allowed => ?_
      refine obeys_publish fun second toSecond _ => Tx.obeys_commit fun last toLast _ => ?_
      obtain ⟨pending, consistent⟩ := flushed_pending stored done
        (atRead.1 existing (List.mem_of_find?_eq_some loaded))
      have home : stored.key = existing.key := Table.key_of_find? present
      have still : last.joinRequest? stored.key = first.joinRequest? stored.key := by
        rw [home]
        exact (toLast.2 _ _ (List.mem_singleton_self _)).trans
          (toSecond.2 _ _ (List.mem_singleton_self _))
      refine single_commits (fun _ => nofun) (fun write member => ?_) (fun chatId userId same => ?_)
        (fun request same => ?_) (fun key same => ?_)
      · rw [List.mem_singleton.mp member]
        exact fun _ _ announced => nomatch List.mem_singleton.mp announced
      · have key : existing.key = (chatId, userId) := home.symm.trans (Option.some.inj same)
        cases key
        exact List.mem_singleton_self _
      · cases same
        exact consistent
      · cases same
        refine cooled_renewed pending fun row found retryAt waits => ?_
        have waited : requestWrites [] first
            (.updateJoinRequest (existing.flushed renewed stored)) = true :=
          List.all_eq_true.mp allowed _ (List.mem_singleton_self _)
        have before : first.joinRequest? (existing.flushed renewed stored).key = some row :=
          still.symm.trans found
        simpa [requestWrites, pending, before, waits] using waited
  | none =>
      refine obeys_insertRow fun first _ free _ => obeys_publish fun second toSecond _ => ?_
      refine Tx.obeys_commit fun last toLast _ => ?_
      have still : last.joinRequest? (chat.id, userId) = first.joinRequest? (chat.id, userId) :=
        (toLast.2 _ _ (List.mem_singleton_self _)).trans
          (toSecond.2 _ _ (List.mem_singleton_self _))
      refine single_commits (fun _ => nofun) (fun write member => ?_) (fun chatId userId same => ?_)
        (fun request same => ?_) (fun key same => ?_)
      · rw [List.mem_singleton.mp member]
        exact fun _ _ announced => nomatch List.mem_singleton.mp announced
      · cases same
        exact List.mem_singleton_self _
      · cases same
        simp [ChatJoinRequest.Consistent]
      · cases same
        have absent : first.joinRequest? (chat.id, userId) = none :=
          Option.not_isSome_iff_eq_none.mp (by rw [Bool.not_eq_true]; exact free)
        rw [ChatJoinRequest.key, still, absent]
        exact cooled_none

theorem removal_commits {chatId : ChatId} {userId : UserId} {request : ChatJoinRequest}
    (locked : .joinRequest chatId userId ∈ held)
    (found : db.joinRequest? (chatId, userId) = some request) (pending : request.isPending = true) :
    RequestCommits held [.deleteJoinRequest chatId userId,
      .publish [.cancelledChatJoinRequest chatId userId]] db := by
  have only : ∀ write ∈ [Write.deleteJoinRequest chatId userId,
      .publish [.cancelledChatJoinRequest chatId userId]],
      write.storedRequest = none ∧ ∀ key, write.requestKey = some key → (chatId, userId) = key := by
    intro write member
    simp only [List.mem_cons, List.not_mem_nil, or_false] at member
    rcases member with rfl | rfl
    · exact ⟨rfl, fun _ same => Option.some.inj same⟩
    · exact ⟨rfl, fun _ same => nomatch same⟩
  refine ⟨fun write member otherChat otherUser same => ?_, fun write member _ same => ?_,
    fun write member key same => ?_, ?_⟩
  · obtain ⟨rfl, rfl⟩ := Prod.mk.inj ((only write member).2 _ same)
    exact locked
  · rw [(only write member).1] at same
    cases same
  · rw [← (only write member).2 key same, found]
    exact cooled_pending pending
  · rintro otherChat otherUser ⟨events, published, announced⟩
    simp only [List.mem_cons, reduceCtorEq, Write.publish.injEq, List.not_mem_nil, or_false,
      false_or] at published
    rw [published, List.mem_singleton, ChatEvent.cancelledChatJoinRequest.injEq] at announced
    obtain ⟨rfl, rfl⟩ := announced
    refine ⟨⟨request, found, pending⟩, ?_⟩
    refine (Table.find?_delete db.joinRequests _ _).trans ?_
    rw [show db.joinRequests.find? (otherChat, otherUser) = some request from found]
    exact Option.filter_eq_none_iff.mpr fun row same => by
      cases same
      rw [decide_eq_true (Table.key_of_find? found)]
      decide

theorem cancel_obeys (user : UserJWTData) (chatId : ChatId) :
    (cancelJoinRequest user chatId).Obeys requestPact command [] [] db fun _ _ _ _ => True := by
  refine Tx.obeys_read fun _ _ => Tx.obeys_require fun _ => ?_
  refine Tx.obeys_statement fun first _ allowed _ _ => ?_
  refine obeys_publish fun second toSecond announces => Tx.obeys_commit fun last toLast _ => ?_
  by_cases present : (first.joinRequests.find? (chatId, user.id)).isSome
  · simp only [applyAll_nil, present, if_true] at allowed toSecond toLast ⊢
    have met : requestWrites [] first (.deleteJoinRequest chatId user.id) = true :=
      List.all_eq_true.mp allowed _ (List.mem_singleton_self _)
    obtain ⟨request, found, pending⟩ := (Option.any_eq_true _ _).mp met
    refine removal_commits (List.mem_singleton_self _) ?_ pending
    rw [toLast.2 _ _ (List.mem_singleton_self _), toSecond.2 _ _ (List.mem_singleton_self _), found]
  · simp [requestPact, requestWrites, present] at announces

def Resolves (pending : List ChatJoinRequest) (write : Write) : Prop :=
  write.LeavesRequests ∨ ∃ request ∈ pending, ∃ status resolvedBy now, status ≠ .pending ∧
    write = .updateJoinRequest (request.resolve status resolvedBy now)

def Listed (seen : Db) (chatId : ChatId) (pending : List ChatJoinRequest) : Prop :=
  ∀ request ∈ pending, request ∈ seen.joinRequests.rows ∧ request.chatId = chatId ∧
    request.isPending = true

theorem resolution_commits {seen : Db} {chatId : ChatId} {pending : List ChatJoinRequest}
    (listed : Listed seen chatId pending)
    (kept : ∀ key ∈ pending.map (fun request => RowKey.joinRequest chatId request.userId), key ∈ held)
    (relied : requestPact.Rely (pending.map fun request => .joinRequest chatId request.userId) seen db)
    (resolves : ∀ write ∈ log, Resolves pending write) : RequestCommits held log db := by
  have still : ∀ request ∈ pending, db.joinRequest? request.key = some request := by
    intro request member
    obtain ⟨stored, home, _⟩ := listed request member
    have same := relied.2 chatId request.userId (List.mem_map.mpr ⟨request, member, rfl⟩)
    rw [ChatJoinRequest.key, home, same]
    refine (Table.find?_some_iff _ _ _).mpr ⟨stored, ?_⟩
    rw [ChatJoinRequest.key, home]
  refine ⟨fun write member otherChat userId same => ?_, fun write member other same => ?_,
    fun write member key same => ?_, uncancelled_cancels fun events published => ?_⟩
  · rcases resolves write member with leaves | ⟨request, inside, _, _, _, _, rfl⟩
    · rw [(leaves_none leaves).1] at same
      cases same
    · cases same
      rw [show (request.resolve _ _ _).chatId = chatId from (listed request inside).2.1]
      exact kept _ (List.mem_map.mpr ⟨request, inside, rfl⟩)
  · rcases resolves write member with leaves | ⟨request, inside, status, _, _, settled, rfl⟩
    · rw [(leaves_none leaves).2] at same
      cases same
    · cases same
      simp [ChatJoinRequest.Consistent, ChatJoinRequest.resolve, settled]
  · rcases resolves write member with leaves | ⟨request, inside, _, _, _, _, rfl⟩
    · rw [(leaves_none leaves).1] at same
      cases same
    · cases same
      rw [show db.joinRequest? (ChatJoinRequest.key (request.resolve _ _ _)) = _ from
        still request inside]
      exact cooled_pending (listed request inside).2.2
  · rcases resolves _ published with leaves | ⟨_, _, _, _, _, _, same⟩
    · exact leaves
    · cases same

theorem resolve_write {pending : List ChatJoinRequest} {request : ChatJoinRequest}
    (inside : request ∈ pending) {status : JoinRequestStatus} (settled : status ≠ .pending)
    (resolvedBy : UserId) (now : Nat) :
    Resolves pending (.updateJoinRequest (request.resolve status resolvedBy now)) :=
  .inr ⟨request, inside, status, resolvedBy, now, settled, rfl⟩

theorem admit_leaves (chat : Chat) (toAdd : List ChatJoinRequest) :
    (admitRequests chat toAdd).Emits Write.LeavesRequests ∧ (admitRequests chat toAdd).Commitless := by
  unfold admitRequests
  split
  · exact ⟨trivial, trivial⟩
  · constructor
    · simp only [reserveSeats, shiftMemberCount, creditUsage, Tx.bind_eq, Tx.bind_assoc,
        Tx.emits_statement_iff, Tx.emits_require_iff, Tx.emits_statement_alone_iff, List.mem_map]
      refine ⟨by simp [Write.LeavesRequests], fun _ _ _ _ _ write => ?_⟩
      rintro ⟨_, _, rfl⟩
      trivial
    · refine Tx.commitless_bind (Tx.commitless_bind (Tx.commitless_statement _ _ _) fun _ =>
        Tx.commitless_require _ _) fun _ => Tx.commitless_statement _ _ _

theorem listed_pendingFor (seen : Db) (chatId : ChatId) (userIds : List UserId) :
    Listed seen chatId (seen.pendingFor chatId userIds) := fun _ => Db.pendingFor_stored

theorem decline_obeys (user : UserJWTData) (now : Nat) (chatId : ChatId) (userIds : List UserId) :
    (declineJoinRequests user now chatId userIds).Obeys requestPact command [] [] db
      fun _ _ _ _ => True := by
  refine Tx.obeys_query fun _ _ found _ => Tx.obeys_require fun _ => ?_
  refine Tx.obeys_statement fun seen _ _ pending answered => ?_
  cases answered
  have listed := listed_pendingFor seen found.chat.id userIds.eraseDups
  refine Tx.obeys_each (fun request => .updateJoinRequest (request.resolve .declined user.id now)) _
    (fun _ _ _ _ _ _ onwards => obeys_updateRow fun after moved _ _ => onwards _ after moved) ?_
  intro locks first kept reached
  refine obeys_publish fun second toSecond _ => Tx.obeys_commit fun last toLast _ => ?_
  have relied := reached last (requestPact.trans _ _ _ _ toSecond toLast)
  refine resolution_commits listed kept relied fun write member => ?_
  simp only [List.nil_append, List.append_nil, List.mem_append, List.mem_map,
    List.mem_singleton] at member
  rcases member with ⟨request, inside, rfl⟩ | rfl
  · exact resolve_write inside (by decide) user.id now
  · refine .inl fun otherChat otherUser announced => ?_
    split at announced
    · cases announced
    · cases List.mem_singleton.mp announced

theorem approve_requests (user : UserJWTData) (now : Nat) (chatId : ChatId) (userIds : List UserId) :
    (approveJoinRequests user now chatId userIds).Obeys requestPact command [] [] db
      fun _ _ _ _ => True := by
  refine Tx.obeys_query fun _ _ found _ => Tx.obeys_require fun _ => ?_
  refine Tx.obeys_statement fun seen _ _ pending answered => ?_
  cases answered
  have listed := listed_pendingFor seen found.chat.id userIds.eraseDups
  refine Tx.obeys_read fun again toAgain => ?_
  refine Tx.obeys_emits (admit_leaves _ _).1 (admit_leaves _ _).2 fun _ more seats first seating
    toFirst => ?_
  refine Tx.obeys_each (fun request => .updateJoinRequest (request.resolve .approved user.id now)) _
    (fun _ _ _ _ _ _ onwards => obeys_updateRow fun after moved _ _ => onwards _ after moved) ?_
  intro updateLocks second keptSecond toSecond
  refine Tx.obeys_each (fun request =>
    .insertMember found.chat.id request.userId (Chat.defaultMemberRole found.chat.type)) _
    (fun _ _ _ _ _ _ onwards => obeys_insertRow fun after moved _ _ => onwards _ after moved) ?_
  intro locks third keptThird toThird
  refine obeys_publish fun fourth toFourth _ => Tx.obeys_commit fun last toLast _ => ?_
  have relied := toFirst last (toSecond last (toThird last (requestPact.trans _ _ _ _ toFourth toLast)))
  refine resolution_commits listed
    (fun key member => keptThird key (keptSecond key (List.mem_append_left _ member)))
    (requestPact.trans _ _ _ _ toAgain relied) fun write member => ?_
  simp only [List.nil_append, List.append_nil, List.mem_append, List.mem_map,
    List.mem_singleton] at member
  rcases member with ((seat | ⟨request, inside, rfl⟩) | ⟨request, _, rfl⟩) | rfl
  · exact .inl (seating write seat)
  · exact resolve_write (List.mem_of_mem_filter inside) (by decide) user.id now
  · exact .inl trivial
  · refine .inl fun otherChat otherUser announced => ?_
    rcases List.mem_append.mp announced with added | approved
    · obtain ⟨_, _, same⟩ := List.mem_map.mp added
      cases same
    · split at approved
      · cases approved
      · cases List.mem_singleton.mp approved

theorem declineAll_obeys (user : UserJWTData) (now : Nat) (chatId : ChatId) :
    (declineAllJoinRequests user now chatId).Obeys requestPact command [] [] db
      fun _ _ _ _ => True := by
  refine Tx.obeys_query fun _ _ found _ => Tx.obeys_require fun _ => ?_
  refine Tx.obeys_statement fun seen _ _ count _ => ?_
  refine obeys_publish fun first toFirst _ => Tx.obeys_commit fun last toLast _ => ?_
  have listed : Listed seen found.chat.id (seen.joinRequests.select fun request =>
      request.chatId == found.chat.id && request.isPending) := by
    intro request member
    simp only [Table.select, List.mem_filter, Bool.and_eq_true, beq_iff_eq] at member
    exact ⟨member.1, member.2.1, member.2.2⟩
  refine resolution_commits listed (fun _ member => member)
    (requestPact.trans _ _ _ _ toFirst toLast) fun write member => ?_
  rcases List.mem_append.mp member with update | published
  · obtain ⟨request, inside, rfl⟩ := List.mem_map.mp update
    exact resolve_write inside (by decide) user.id now
  · rw [List.mem_singleton.mp published]
    refine .inl fun otherChat otherUser announced => ?_
    split at announced
    · cases announced
    · cases List.mem_singleton.mp announced

theorem join_requests (user : UserJWTData) (now : Nat) (chatId : ChatId) :
    (joinChat user now chatId).Obeys requestPact command [] [] db fun _ _ _ _ => True := by
  refine Tx.obeys_read fun _ _ => Tx.obeys_orRaise fun chat _ => Tx.obeys_require fun _ => ?_
  split
  · exact submit_requests now chat user.id none
  · refine Tx.obeys_of_emits (fun _ _ _ => leaving_commits) ?_ fun _ member => nomatch member
    simp [Tx.bind_assoc, getMemberChat, reserveSeats, shiftMemberCount, insertMember, insertRow,
      publish, Write.LeavesRequests]

theorem joinByInvite_requests (user : UserJWTData) (now : Nat) (code : String) :
    (joinChatByInvite user now code).Obeys requestPact command [] [] db fun _ _ _ _ => True := by
  refine Tx.obeys_read fun _ _ => Tx.obeys_orRaise fun invite _ => Tx.obeys_require fun _ => ?_
  refine Tx.obeys_read fun _ _ => Tx.obeys_orRaise fun chat _ => Tx.obeys_require fun _ => ?_
  split
  · exact submit_requests now chat user.id (some invite.id)
  · refine Tx.obeys_of_emits (fun _ _ _ => leaving_commits) ?_ fun _ member => nomatch member
    simp [Tx.bind_assoc, getMemberChat, consumeLink, consume, reserveSeats, shiftMemberCount,
      insertMember, insertRow, publish, Write.LeavesRequests]
    intros
    split
    · simp [Write.LeavesRequests]
    · simp [Tx.bind_assoc]

end Programs

section Running

variable {initial : Db}

abbrev RequestJournal := Journal Db Write RowKey ChatError RequestCommand

abbrev RequestHistory := List (RequestCommand × List Write)

theorem requests_governed :
    Governed RequestCommand.program requestPact (RequestInv initial) where
  obeys command db history _ := by
    cases command with
    | join user now chatId => exact Tx.obeys_void (join_requests user now chatId)
    | joinByInvite user now code => exact Tx.obeys_void (joinByInvite_requests user now code)
    | approve user now chatId userIds => exact Tx.obeys_void (approve_requests user now chatId userIds)
    | decline user now chatId userIds => exact Tx.obeys_void (decline_obeys user now chatId userIds)
    | declineAll user now chatId => exact Tx.obeys_void (declineAll_obeys user now chatId)
    | cancel user chatId => exact cancel_obeys user chatId
  refl _ _ _ inv := ⟨inv.consistent, fun _ _ _ => rfl⟩
  commit _ _ _ _ _ inv _ commits := request_inv inv commits
  others _ _ _ _ _ _ inv _ commits apart := request_relied inv commits apart

/-- After the part `before` of the history the request was declined; it is still stored as it was,
or the first commit that changed it renewed it after its time to wait. -/
def CoolsDown (initial : Db) (before between : RequestHistory) : Prop :=
  ∀ key request resolvedAt, (Journal.replay initial before).joinRequest? key = some request →
    request.status = .declined → request.resolvedAt = some resolvedAt →
    (Journal.replay initial (before ++ between)).joinRequest? key = some request ∨
      ∃ early entry late renewed, between = early ++ entry :: late ∧
        (Journal.replay initial (before ++ early)).joinRequest? key = some request ∧
        (Journal.replay initial (before ++ early ++ [entry])).joinRequest? key = some renewed ∧
        renewed.isPending = true ∧
        resolvedAt + ChatJoinRequest.retryAfter ≤ renewed.requestedAt

/-- What the requests of a chat promise in the rows and the history of a run. -/
structure RequestsSettled (initial : Db) (db : Db) (history : RequestHistory) : Prop where
  consistent : ∀ request ∈ db.joinRequests.rows, request.Consistent
  coolsDown : ∀ before between, history = before ++ between → CoolsDown initial before between
  cancels : Journal.Throughout (fun _ log before => CancelsPending log before) initial history

theorem coolsDown_of_facts {history : RequestHistory}
    (facts : Journal.Throughout (fun _ log before => RequestFacts log before) initial history)
    {before between : RequestHistory} (whole : history = before ++ between) :
    CoolsDown initial before between := by
  intro key request resolvedAt found declined resolved
  induction between using List.reverseRecOn generalizing history with
  | nil =>
      left
      rwa [List.append_nil]
  | append_singleton between entry ih =>
      obtain ⟨command, log⟩ := entry
      have prefixed : Journal.Throughout (fun _ log before => RequestFacts log before) initial
          (before ++ between) := by
        intro first tag written after same
        refine facts first tag written (after ++ [(command, log)]) ?_
        rw [whole, ← List.append_assoc, same, List.append_assoc, List.cons_append]
      rcases ih prefixed rfl with still | ⟨early, earlier, late, renewed, rfl, rest⟩
      · have last := facts (before ++ between) command log [] (by rw [whole, List.append_assoc])
        rcases last.cooled key request resolvedAt still declined resolved with kept | ⟨renewed, now⟩
        · left
          rw [← List.append_assoc, Journal.replay_concat]
          exact kept
        · refine .inr ⟨between, (command, log), [], renewed, rfl, still, ?_⟩
          rw [Journal.replay_concat]
          exact now
      · refine .inr ⟨early, earlier, late ++ [(command, log)], renewed, ?_, rest⟩
        rw [List.append_assoc, List.cons_append]

/-- In every run in which no cancel deletes and no renewal overwrites a request that was resolved
since it was read, the requests are consistent, cool down and are only cancelled while pending. -/
theorem join_requests_settled {journal : RequestJournal}
    (consistent : ∀ request ∈ initial.joinRequests.rows, request.Consistent)
    (run : Journal.Runs RequestCommand.program (Journal.Asks requestPact) (Journal.idle initial)
      journal) : RequestsSettled initial journal.system.db journal.history := by
  have inv := runs_governed requests_governed ⟨rfl, consistent, Journal.throughout_nil⟩ run
  refine ⟨inv.consistent, fun before between whole => coolsDown_of_facts inv.facts whole, ?_⟩
  exact fun before tag log after whole => (inv.facts before tag log after whole).cancels

def requestedGroup : Db :=
  applyAll
    [.insertChat { id := 1, type := .group, createdBy := 1, isPublic := true, joinByRequest := true },
      .insertMember 1 1 .owner] {}

theorem requestedGroup_consistent :
    ∀ request ∈ requestedGroup.joinRequests.rows, request.Consistent :=
  fun _ member => absurd member List.not_mem_nil

def asksToJoin (now : Nat) : RequestCommand := .join { id := 2 } now 1

def declines (now : Nat) : RequestCommand := .decline { id := 1 } now 1 [2]

def declinedThenCancelled : List (Action RequestCommand) :=
  Action.start (asksToJoin 10) :: List.replicate 7 (Action.exec 0) ++
    Action.start (declines 20) :: List.replicate 5 (Action.exec 1) ++
    Action.start (asksToJoin (20 + ChatJoinRequest.retryAfter)) ::
    List.replicate 7 (Action.exec 2) ++
    Action.start (RequestCommand.cancel { id := 2 } 1) :: List.replicate 4 (Action.exec 3)

def requestAsks (journal : RequestJournal) (action : Action RequestCommand) : Bool :=
  journal.asks (fun _ log seen writes => writes.all (requestWrites log seen)) (fun _ _ _ => true)
    action

theorem requestAsks_sound (journal : RequestJournal) (action : Action RequestCommand)
    (checked : requestAsks journal action = true) : journal.Asks requestPact action :=
  Journal.asks_sound (fun _ _ _ _ checked => checked) (fun _ _ _ _ => trivial) journal action checked

theorem join_requests_settled_cancelled : ∃ journal : RequestJournal,
    journal.history.length = 4 ∧
      RequestsSettled requestedGroup journal.system.db journal.history := by
  have outcome : ((Journal.idle requestedGroup : RequestJournal).steps RequestCommand.program
      requestAsks declinedThenCancelled).any (fun journal => journal.history.length == 4) = true := by
    decide +kernel
  obtain ⟨journal, stepped, whole⟩ := Option.any_eq_true _ _ |>.mp outcome
  have run := Journal.runs_of_steps requestAsks requestAsks_sound declinedThenCancelled .refl stepped
  exact ⟨journal, beq_iff_eq.mp whole, join_requests_settled requestedGroup_consistent run⟩

/-- The decline commits between the read of a cancel and its `DELETE`. -/
def declinedWhileCancelled : List (Action RequestCommand) :=
  Action.start (asksToJoin 10) :: List.replicate 7 (Action.exec 0) ++
    [Action.start (RequestCommand.cancel { id := 2 } 1), Action.exec 1] ++
    Action.start (declines 20) :: List.replicate 5 (Action.exec 2) ++
    List.replicate 3 (Action.exec 1) ++
    Action.start (asksToJoin 30) :: List.replicate 7 (Action.exec 3)

/-- The second of four commits declines the request, the third announces its cancellation, and
another one waits at the end. -/
def declinedReturned (journal : RequestJournal) : Bool :=
  match journal.history with
  | [first, second, (_, log), _] =>
      ((Journal.replay requestedGroup [first, second]).joinRequest? (1, 2)).any (fun declined =>
        declined.status == .declined && declined.resolvedAt == some 20) &&
      log.any (fun write => match write with
        | .publish events => events.contains (.cancelledChatJoinRequest 1 2)
        | _ => false) &&
      (journal.system.db.joinRequest? (1, 2)).any fun renewed =>
        renewed.isPending && renewed.requestedAt == 30
  | _ => false

theorem declined_request_returned : ∃ journal : RequestJournal, ∃ declined renewed,
    Journal.Runs RequestCommand.program (fun _ _ => True) (Journal.idle requestedGroup) journal ∧
      (Journal.replay requestedGroup (journal.history.take 2)).joinRequest? (1, 2) = some declined ∧
      declined.status = .declined ∧ declined.resolvedAt = some 20 ∧
      journal.system.db.joinRequest? (1, 2) = some renewed ∧ renewed.isPending = true ∧
      renewed.requestedAt = 30 ∧
      ¬RequestsSettled requestedGroup journal.system.db journal.history := by
  have outcome : ((Journal.idle requestedGroup : RequestJournal).steps RequestCommand.program
      (fun _ _ => true) declinedWhileCancelled).any declinedReturned = true := by
    decide +kernel
  obtain ⟨journal, stepped, checks⟩ := Option.any_eq_true _ _ |>.mp outcome
  have run : Journal.Runs RequestCommand.program (fun _ _ => True) (Journal.idle requestedGroup)
      journal := Journal.runs_of_steps (fun _ _ => true) (fun _ _ _ => trivial) _ .refl stepped
  unfold declinedReturned at checks
  split at checks
  · rename_i first second command log last whole
    simp only [Bool.and_eq_true, Option.any_eq_true, List.any_eq_true, beq_iff_eq] at checks
    obtain ⟨⟨⟨declined, was, status, resolved⟩, write, member, announced⟩, renewed, stored, pending,
      asked⟩ := checks
    refine ⟨journal, declined, renewed, run, ?_, status, resolved, stored, pending, asked, ?_⟩
    · rw [whole]
      exact was
    · intro settled
      split at announced
      · rename_i events
        obtain ⟨⟨request, found, open_⟩, _⟩ := settled.cancels [first, second] command log [last] whole
          1 2 ⟨events, member, List.contains_iff_mem.mp announced⟩
        rw [was] at found
        cases found
        rw [ChatJoinRequest.isPending, resolved] at open_
        cases open_
      · cases announced
  · cases checks

end Running

end Messanger
