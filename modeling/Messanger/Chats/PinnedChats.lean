import Messanger.Library.Isolation
import Messanger.Chats.ChatList
import Messanger.Footprint

/-!
The limit of pinned chats.  A command counts the pinned chats of the user before it pins another
one, and the count takes no lock: the limit holds as long as no pin is committed between the count
and the commit that finds the room gone.
-/

namespace Messanger

open Relational

abbrev WatchedChats := Watched Db Write RowKey ChatError

structure UpdateChatStateCommand where
  user : UserJWTData
  now : Nat
  chatId : ChatId
  changes : StateChanges
  deriving DecidableEq, Repr

def UpdateChatStateCommand.program (command : UpdateChatStateCommand) : Handler Unit :=
  (updateChatState command.user command.now command.chatId command.changes).bind fun _ => .done ()

namespace Db

variable (db : Db) (userId : UserId)

def isPinnedChat (chatId : ChatId) : Bool :=
  (db.member? chatId userId).any fun member => member.state.pinnedAt.isSome

def pinnedIds : List ChatId :=
  (db.members.select fun member => member.userId == userId && member.state.pinnedAt.isSome &&
    (db.openChat? member.chatId).isSome).map (·.chatId)

end Db

def Write.pin? (userId : UserId) : Write → Option ChatId
  | .patchMember chatId target _ patch =>
      if target = userId ∧ patch.state.pinnedAt.join.isSome then some chatId else none
  | _ => none

/-- A commit that pins a chat, although another pin was committed since the session was opened,
finds room for it: fewer chats than the limit are pinned, or the chat is one of them. -/
def PinsFit (userId : UserId) (watched : WatchedChats) : Label Db Write RowKey ChatError → Prop
  | .exec index => ∀ log, watched.system.committing index = some log →
      ∀ chatId ∈ log.filterMap (Write.pin? userId),
        (watched.missed index).filterMap (Write.pin? userId) = [] ∨
          watched.system.db.countPinnedChats userId < maxPinnedChats ∨
          watched.system.db.isPinnedChat userId chatId = true
  | _ => True

/-- The first page of the list shows what is pinned of the listed chats. -/
def ShowsPinned (userId : UserId) (db : Db) : Prop :=
  ∀ user : UserJWTData, user.id = userId → ∀ now limit archived lastActivityAt lastChatId,
    lastActivityAt = none ∨ lastChatId = none →
    ∃ page, ((getListChatUser user now limit archived lastActivityAt lastChatId).exec db).1 =
        .ok page ∧
      ∀ chatId ∈ db.listedChats now userId archived, db.isPinnedChat userId chatId = true →
        chatId ∈ page.chats.map (·.chat.id)

section Counting

variable {db after : Db} {userId : UserId} {chatId : ChatId}

theorem countPinnedChats_eq : db.countPinnedChats userId = (db.pinnedIds userId).length := by
  rw [Db.pinnedIds, List.length_map, Table.select, Db.countPinnedChats, Table.count,
    List.countP_eq_length_filter]

theorem mem_pinnedIds : chatId ∈ db.pinnedIds userId ↔
    db.isPinnedChat userId chatId = true ∧ (db.openChat? chatId).isSome = true := by
  simp only [Db.pinnedIds, Table.select, List.mem_map, List.mem_filter, Bool.and_eq_true, beq_iff_eq,
    Db.isPinnedChat, Option.any_eq_true]
  constructor
  · rintro ⟨member, ⟨stored, ⟨rfl, pinned⟩, alive⟩, rfl⟩
    exact ⟨⟨member, (Table.mem_rows_iff db.members member).mp stored, pinned⟩, alive⟩
  · rintro ⟨⟨member, found, pinned⟩, alive⟩
    obtain ⟨rfl, rfl⟩ := Db.member_key found
    exact ⟨member, ⟨List.mem_of_find?_eq_some found, ⟨rfl, pinned⟩, alive⟩, rfl⟩

theorem pinnedIds_nodup (db : Db) (userId : UserId) : (db.pinnedIds userId).Nodup := by
  refine List.Nodup.map_on ?_ ((List.Nodup.of_map _ db.members.unique).filter _)
  intro left leftIn right rightIn same
  obtain ⟨leftRow, leftOwn⟩ := List.mem_filter.mp leftIn
  obtain ⟨rightRow, rightOwn⟩ := List.mem_filter.mp rightIn
  simp only [Bool.and_eq_true, beq_iff_eq] at leftOwn rightOwn
  refine db.members.row_unique leftRow rightRow ?_
  simp only [ChatMember.key, same, leftOwn.1.1, rightOwn.1.1]

theorem countPinnedChats_le {ids : List ChatId} (inside : ∀ id ∈ after.pinnedIds userId, id ∈ ids) :
    after.countPinnedChats userId ≤ ids.length := by
  rw [countPinnedChats_eq]
  exact (List.subperm_of_subset (pinnedIds_nodup after userId) inside).length_le

end Counting

def StateWrite (userId : UserId) (chatId : ChatId) : Write → Prop
  | .patchMember target owner _ patch =>
      target = chatId ∧ owner = userId ∧ ∃ columns, patch = { state := columns }
  | _ => False

def PinsNothing (userId : UserId) (write : Write) : Prop :=
  (∃ chatId, StateWrite userId chatId write) ∧ write.pin? userId = none

structure PinsLimited (userId : UserId) (db : Db) : Prop where
  few : db.countPinnedChats userId ≤ maxPinnedChats
  numbered : ∀ chatId, Numbered chatId db

section Writes

variable {db after : Db} {userId : UserId} {chatId other : ChatId} {write : Write} {log : List Write}

theorem state_openChat (state : StateWrite userId chatId write) (other : ChatId) :
    (Db.apply write db).openChat? other = db.openChat? other := by
  cases write
  case patchMember => rfl
  all_goals exact state.elim

theorem state_numbered (state : StateWrite userId chatId write) (numbered : Numbered other db) :
    Numbered other (Db.apply write db) := by
  cases write
  case patchMember => exact ⟨numbered.distinct, numbered.exact⟩
  all_goals exact state.elim

theorem state_pinned (state : StateWrite userId chatId write)
    (pinned : (Db.apply write db).isPinnedChat userId other = true) :
    db.isPinnedChat userId other = true ∨ write.pin? userId = some other := by
  cases write
  case patchMember target owner id patch =>
    obtain ⟨rfl, rfl, columns, rfl⟩ := state
    rw [Db.isPinnedChat, Db.member_patchMember, Option.any_map, Option.any_eq_true] at pinned
    obtain ⟨row, found, pinned⟩ := pinned
    obtain ⟨inChat, ofUser⟩ := Db.member_key found
    have before : row.state.pinnedAt.isSome = true → db.isPinnedChat owner other = true :=
      fun marked => (Option.any_eq_true _ _).mpr ⟨row, found, marked⟩
    split at pinned
    · rename_i named
      have here : other = target := by
        simp only [Db.isMemberRow, ChatMember.key, Prod.mk.injEq, decide_eq_true_eq] at named
        rw [← inChat, named.1.1]
      simp only [MemberPatch.apply, StatePatch.apply] at pinned
      cases column : columns.pinnedAt with
      | none =>
          rw [column] at pinned
          exact .inl (before pinned)
      | some value =>
          rw [column, Option.getD_some] at pinned
          refine .inr ?_
          rw [Write.pin?, if_pos ⟨rfl, by rw [column]; exact pinned⟩, here]
    · exact .inl (before pinned)
  all_goals exact state.elim

theorem log_openChat (states : ∀ write ∈ log, ∃ chatId, StateWrite userId chatId write)
    (other : ChatId) : (applyAll log db).openChat? other = db.openChat? other := by
  refine applyAll_preserves (fun reached => reached.openChat? other = db.openChat? other) log
    (fun write member reached same => ?_) db rfl
  obtain ⟨chatId, state⟩ := states write member
  exact (state_openChat state other).trans same

theorem log_numbered (states : ∀ write ∈ log, ∃ chatId, StateWrite userId chatId write)
    (numbered : ∀ chatId, Numbered chatId db) (other : ChatId) : Numbered other (applyAll log db) := by
  refine applyAll_preserves (Numbered other) log (fun write member reached still => ?_) db
    (numbered other)
  obtain ⟨chatId, state⟩ := states write member
  exact state_numbered state still

theorem log_pinned (states : ∀ write ∈ log, ∃ chatId, StateWrite userId chatId write)
    (pinned : (applyAll log db).isPinnedChat userId other = true) :
    db.isPinnedChat userId other = true ∨ other ∈ log.filterMap (Write.pin? userId) := by
  induction log generalizing db with
  | nil => exact .inl pinned
  | cons write rest ih =>
      obtain ⟨chatId, state⟩ := states write List.mem_cons_self
      rcases ih (fun other member => states other (List.mem_cons_of_mem _ member)) pinned with
        before | listed
      · refine (state_pinned state before).imp_right fun pins => ?_
        rw [List.filterMap_cons_some pins]
        exact List.mem_cons_self
      · obtain ⟨later, member, pins⟩ := List.mem_filterMap.mp listed
        exact .inr (List.mem_filterMap.mpr ⟨later, List.mem_cons_of_mem _ member, pins⟩)

theorem log_pinnedIds (states : ∀ write ∈ log, ∃ chatId, StateWrite userId chatId write)
    (listed : other ∈ (applyAll log db).pinnedIds userId) :
    other ∈ db.pinnedIds userId ∨
      other ∈ log.filterMap (Write.pin? userId) ∧ (db.openChat? other).isSome = true := by
  rw [mem_pinnedIds, log_openChat states] at listed
  rw [mem_pinnedIds]
  rcases log_pinned states listed.1 with before | pins
  · exact .inl ⟨before, listed.2⟩
  · exact .inr ⟨pins, listed.2⟩

theorem beside_pinnedIds {Known : Db → Prop}
    (beside : Beside (fun write => ¬ PinsNothing userId write) Known db after) :
    (∀ id ∈ after.pinnedIds userId, id ∈ db.pinnedIds userId) ∧
      ∀ other, after.openChat? other = db.openChat? other := by
  obtain ⟨log, apart, rfl⟩ := beside.others
  have nothing : ∀ write ∈ log, PinsNothing userId write :=
    fun write member => not_not.mp (apart write member)
  have states : ∀ write ∈ log, ∃ chatId, StateWrite userId chatId write :=
    fun write member => (nothing write member).1
  refine ⟨fun id listed => ?_, log_openChat states⟩
  rcases log_pinnedIds states listed with before | ⟨pins, _⟩
  · exact before
  · obtain ⟨write, member, pins⟩ := List.mem_filterMap.mp pins
    rw [(nothing write member).2] at pins
    cases pins

end Writes

section Programs

variable {userId : UserId} {chatId : ChatId} {db : Db} {log : List Write}

theorem program_emits (command : UpdateChatStateCommand) :
    command.program.Emits (StateWrite command.user.id command.chatId) := by
  refine Tx.emits_bind ?_ fun _ => Tx.emits_done _
  simp only [updateChatState, getMemberChat, Tx.bind_eq, Tx.pure_eq, Tx.emits_read_iff,
    Tx.emits_orRaise_iff, Tx.emits_require_iff]
  intro seen row found _ _
  obtain ⟨inChat, ofUser⟩ := Db.member_key found
  refine Tx.emits_bind ?_ fun _ => trivial
  unfold flushState patchMember
  split
  · exact Tx.emits_done _
  · exact updateRow_emits ⟨inChat, ofUser, _, rfl⟩

theorem pin_asked {state : MemberState} {changes : StateChanges} {now : Nat}
    (pins : (state.difference (state.changed changes now)).pinnedAt.join.isSome = true) :
    changes.pinned = some true := by
  simp only [MemberState.difference, MemberState.changed] at pins
  cases asked : changes.pinned with
  | none => simp [asked, Relational.changed] at pins
  | some pinned =>
      cases pinned with
      | true => rfl
      | false =>
          rw [asked] at pins
          simp only [Bool.false_eq_true, if_false, Relational.changed] at pins
          split at pins
          · cases pins
          · cases pins

theorem limited_commit (limited : PinsLimited userId db)
    (states : ∀ write ∈ log, StateWrite userId chatId write)
    (room : chatId ∈ log.filterMap (Write.pin? userId) → (db.openChat? chatId).isSome = true →
      db.countPinnedChats userId < maxPinnedChats ∨ chatId ∈ db.pinnedIds userId) :
    PinsLimited userId (applyAll log db) := by
  have mine : ∀ write ∈ log, ∃ chatId, StateWrite userId chatId write :=
    fun write member => ⟨chatId, states write member⟩
  refine ⟨?_, log_numbered mine limited.numbered⟩
  have own : ∀ other ∈ log.filterMap (Write.pin? userId), other = chatId := by
    intro other pins
    obtain ⟨write, member, pins⟩ := List.mem_filterMap.mp pins
    have state := states write member
    cases write
    case patchMember =>
      obtain ⟨rfl, _⟩ := state
      simp only [Write.pin?, Option.ite_none_right_eq_some, Option.some.injEq] at pins
      exact pins.2.symm
    all_goals exact state.elim
  have added : ∀ other ∈ (applyAll log db).pinnedIds userId, other ∈ db.pinnedIds userId ∨
      other = chatId ∧ chatId ∈ log.filterMap (Write.pin? userId) ∧
        (db.openChat? chatId).isSome = true := by
    intro other listed
    rcases log_pinnedIds mine listed with before | ⟨pins, alive⟩
    · exact .inl before
    · obtain rfl := own other pins
      exact .inr ⟨rfl, pins, alive⟩
  by_cases pins : chatId ∈ log.filterMap (Write.pin? userId) ∧ (db.openChat? chatId).isSome = true
  · rcases room pins.1 pins.2 with few | already
    · have more := @countPinnedChats_le (applyAll log db) userId (chatId :: db.pinnedIds userId)
        fun other listed => by
          rcases added other listed with before | ⟨rfl, _⟩
          · exact List.mem_cons_of_mem _ before
          · exact List.mem_cons_self
      rw [List.length_cons, ← countPinnedChats_eq] at more
      omega
    · refine Nat.le_trans (countPinnedChats_le fun other listed => ?_)
        (@countPinnedChats_eq db userId ▸ limited.few)
      rcases added other listed with before | ⟨rfl, _⟩
      · exact before
      · exact already
  · refine Nat.le_trans (countPinnedChats_le fun other listed => ?_)
      (@countPinnedChats_eq db userId ▸ limited.few)
    rcases added other listed with before | ⟨_, facts⟩
    · exact before
    · exact absurd facts pins

theorem undisturbed_patchMember {Clash : Write → Prop} {Known Goal : Db → Prop} {row : ChatMember}
    {patch : MemberPatch} {rest : Unit → Handler Unit}
    (next : ∀ after, Beside Clash Known db after → ∀ log : List Write,
      (∀ write ∈ log, write = .patchMember row.chatId row.userId row.id patch) →
      (rest ()).Undisturbed Clash Known Goal log after) :
    ((patchMember patch row).bind rest).Undisturbed Clash Known Goal [] db := by
  refine Tx.undisturbed_statement fun after beside _ _ => next after beside _ fun write member => ?_
  rw [List.nil_append] at member
  split at member
  · exact List.mem_singleton.mp member
  · cases member

theorem program_undisturbed (command : UpdateChatStateCommand) :
    command.program.Undisturbed (fun write => ¬ PinsNothing command.user.id write)
      (fun db => True ∧ PinsLimited command.user.id db) (PinsLimited command.user.id) [] db := by
  unfold UpdateChatStateCommand.program updateChatState
  simp only [Tx.bind_eq, Tx.pure_eq, Tx.bind_assoc]
  refine Tx.undisturbed_read fun first besideOpened => Tx.undisturbed_orRaise fun row found => ?_
  refine Tx.undisturbed_read fun counted besideRow => Tx.undisturbed_require fun room => ?_
  obtain ⟨inChat, ofUser⟩ := Db.member_key found
  unfold flushState
  split
  · exact fun after beside => ⟨beside.known.2, fun _ => trivial⟩
  · refine undisturbed_patchMember fun flushed besideCount log wrote after besideFlush => ?_
    refine ⟨?_, fun _ => trivial⟩
    have since := besideCount.trans besideFlush
    obtain ⟨fewer, _⟩ := beside_pinnedIds since
    obtain ⟨fewest, chats⟩ := beside_pinnedIds (besideRow.trans since)
    have states : ∀ write ∈ log, StateWrite command.user.id command.chatId write := by
      intro write member
      rw [wrote write member]
      exact ⟨inChat, ofUser, _, rfl⟩
    refine limited_commit besideFlush.known.2 states fun pins alive => ?_
    obtain ⟨write, member, pins⟩ := List.mem_filterMap.mp pins
    rw [wrote write member] at pins
    have asked := pin_asked (Option.ite_none_right_eq_some.mp pins).1.2
    by_cases already : command.chatId ∈ after.pinnedIds command.user.id
    · exact .inr already
    left
    rw [countPinnedChats_eq]
    cases marked : row.state.pinnedAt with
    | none =>
        -- The row was not pinned when it was read, so there was room when the chats were counted.
        have few : counted.countPinnedChats command.user.id < maxPinnedChats := by
          refine Nat.lt_of_not_le fun full => ?_
          have full : maxPinnedChats ≤
            (applyAll ([] : List Write) counted).countPinnedChats command.user.id := full
          rw [asked, marked, decide_eq_true full] at room
          cases room
        rw [countPinnedChats_eq] at few
        exact Nat.lt_of_le_of_lt
          (List.subperm_of_subset (pinnedIds_nodup after command.user.id) fewer).length_le few
    | some date =>
        -- It was, and is not any more: it has left room itself.
        have pinned : command.chatId ∈ first.pinnedIds command.user.id := by
          rw [mem_pinnedIds, ← chats]
          exact ⟨(Option.any_eq_true _ _).mpr ⟨row, found, by rw [marked]; rfl⟩, alive⟩
        have more := (List.subperm_of_subset (List.nodup_cons.mpr
          ⟨already, pinnedIds_nodup after command.user.id⟩)
          (List.cons_subset.mpr ⟨pinned, fewest⟩)).length_le
        have limit := besideOpened.known.2.few
        rw [countPinnedChats_eq] at limit
        rw [List.length_cons] at more
        omega

end Programs

section FirstPage

variable {db : Db} {user : UserJWTData} {now : Nat} {archived : Bool} {row : UserChatRow}

theorem userChats_row (member : row ∈ db.userChats now user.id archived) :
    row.isPinned = db.isPinnedChat user.id row.chat.id ∧
      (db.openChat? row.chat.id).isSome = true := by
  obtain ⟨chat, stored, inRows⟩ := List.mem_flatMap.mp member
  unfold Db.chatRows at inRows
  split at inRows
  · cases inRows
  · rename_i own found
    split at inRows
    · rename_i listed
      obtain ⟨message, _, rfl⟩ := List.mem_map.mp inRows
      have present : db.chat? chat.id = some chat := (Table.mem_rows_iff db.chats chat).mp stored
      simp only [Bool.and_eq_true] at listed
      refine ⟨?_, ?_⟩
      · rw [Db.isPinnedChat, found]
        rfl
      · rw [Db.openChat?, present, Option.filter_some, if_pos listed.2]
        rfl
    · cases inRows

theorem showsPinned_of_limited {userId : UserId} (limited : PinsLimited userId db) :
    ShowsPinned userId db := by
  rintro user rfl now limit archived lastActivityAt lastChatId first
  have isFirst : (lastActivityAt.isNone || lastChatId.isNone) = true := by
    rcases first with rfl | rfl
    · rfl
    · exact Bool.or_true _
  have pinnedIn : ∀ row ∈ db.pinnedChats now user.id archived,
      row ∈ db.userChats now user.id archived ∧ row.isPinned = true :=
    fun row member => List.mem_filter.mp ((List.perm_insertionSort _ _).mem_iff.mp member)
  have once : ((db.pinnedChats now user.id archived).map (·.chat.id)).Nodup := by
    have all : ((db.userChats now user.id archived).map (·.chat.id)).Nodup := by
      rw [userChats_ids limited.numbered]
      exact listedChats_nodup
    exact ((List.perm_insertionSort _ _).map _).nodup_iff.mpr
      (all.sublist (List.filter_sublist.map _))
  have fit : (db.pinnedChats now user.id archived).length ≤ maxPinnedChats := by
    have counted : ∀ id ∈ (db.pinnedChats now user.id archived).map (·.chat.id),
        id ∈ db.pinnedIds user.id := by
      intro id listed
      obtain ⟨row, member, rfl⟩ := List.mem_map.mp listed
      obtain ⟨known, pinned⟩ := pinnedIn row member
      obtain ⟨marked, alive⟩ := userChats_row known
      exact mem_pinnedIds.mpr ⟨marked ▸ pinned, alive⟩
    have fewer := (List.subperm_of_subset once counted).length_le
    have few := limited.few
    rw [List.length_map] at fewer
    rw [countPinnedChats_eq] at few
    exact fewer.trans few
  rw [exec_getListChatUser lastActivityAt lastChatId _ rfl rfl]
  refine ⟨_, rfl, fun chatId listed pinned => ?_⟩
  rw [← userChats_ids limited.numbered] at listed
  obtain ⟨row, known, rfl⟩ := List.mem_map.mp listed
  have sorted : row ∈ db.pinnedChats now user.id archived :=
    (List.perm_insertionSort _ _).mem_iff.mpr
      (List.mem_filter.mpr ⟨known, (userChats_row known).1.trans pinned⟩)
  have shown : row ∈ db.getPinnedChats now user.id archived maxPinnedChats := by
    rw [Db.getPinnedChats, List.take_of_length_le fit]
    exact sorted
  refine List.mem_map.mpr ⟨row, List.mem_append_left _ ?_, rfl⟩
  rw [if_pos isFirst]
  exact shown

end FirstPage

section Runs

variable {userId : UserId} {db : Db} {final : WatchedChats}

/-- What the user's sessions may be opened with. -/
def UpdatesStateOf (userId : UserId) (opened : Handler Unit) : Prop :=
  ∃ command : { command : UpdateChatStateCommand // command.user.id = userId },
    opened = command.val.program

theorem pinsNothing_of_missed {missed : List Write}
    (own : ∀ write ∈ missed, ∃ chatId, StateWrite userId chatId write)
    (none : missed.filterMap (Write.pin? userId) = []) :
    ∀ write ∈ missed, PinsNothing userId write := by
  intro write member
  refine ⟨own write member, ?_⟩
  exact List.filterMap_eq_nil_iff.mp none write member

theorem limited_in_run
    (run : Watched.Runs (UpdatesStateOf userId) (PinsFit userId) (Watched.idle db) final)
    (limited : PinsLimited userId db) : PinsLimited userId final.system.db := by
  refine run.inv (fun command => StateWrite userId command.val.chatId)
    (fun _ write => ¬ PinsNothing userId write) (fun _ => True) (PinsLimited userId)
    (fun _ _ => trivial) ?_ ?_ ?_ limited
  · rintro ⟨command, rfl⟩
    exact program_emits command
  · rintro ⟨command, rfl⟩ db _ _
    exact program_undisturbed command
  · intro watched index command log fits committing own others inv undisturbed
    by_cases alone : (watched.missed index).filterMap (Write.pin? userId) = []
    · refine undisturbed fun write member => not_not.mpr ?_
      refine pinsNothing_of_missed (fun write member => ?_) alone write member
      obtain ⟨other, state⟩ := others write member
      exact ⟨_, state⟩
    · refine limited_commit inv own fun pins alive => ?_
      rcases fits log committing _ pins with none | few | already
      · exact absurd none alone
      · exact .inl few
      · exact .inr (mem_pinnedIds.mpr ⟨already, alive⟩)

/-- Every pin of a user that finds room when it commits, or that no other pin came between, keeps
the limit, and the first page of the list whole. -/
theorem pinned_chats_limited
    (run : Watched.Runs (UpdatesStateOf userId) (PinsFit userId) (Watched.idle db) final)
    (few : db.countPinnedChats userId ≤ maxPinnedChats)
    (numbered : ∀ chatId, Numbered chatId db) :
    final.system.db.countPinnedChats userId ≤ maxPinnedChats ∧
      ShowsPinned userId final.system.db := by
  have limited := limited_in_run run ⟨few, numbered⟩
  exact ⟨limited.few, showsPinned_of_limited limited⟩

def fourPinned : Db :=
  { chats := ⟨[{ id := 1, type := .group, createdBy := 1 }, { id := 2, type := .group, createdBy := 1 },
      { id := 3, type := .group, createdBy := 1 }, { id := 4, type := .group, createdBy := 1 },
      { id := 5, type := .group, createdBy := 1 }, { id := 6, type := .group, createdBy := 1 }],
      by decide⟩
    members := ⟨[
      { id := 1, chatId := 1, userId := 1, roleId := .owner, state := { pinnedAt := some 0 } },
      { id := 2, chatId := 2, userId := 1, roleId := .owner, state := { pinnedAt := some 0 } },
      { id := 3, chatId := 3, userId := 1, roleId := .owner, state := { pinnedAt := some 0 } },
      { id := 4, chatId := 4, userId := 1, roleId := .owner, state := { pinnedAt := some 0 } },
      { id := 5, chatId := 5, userId := 1, roleId := .owner },
      { id := 6, chatId := 6, userId := 1, roleId := .owner }], by decide⟩ }

theorem fourPinned_numbered (chatId : ChatId) : Numbered chatId fourPinned := by
  refine numbered_empty rfl ?_
  unfold Db.seqCounter
  cases found : fourPinned.chat? chatId with
  | none => rfl
  | some chat =>
      have all : ∀ chat ∈ fourPinned.chats.rows, chat.seqCounter = 0 := by decide
      exact all chat ((Table.mem_rows_iff fourPinned.chats chat).mpr
        ((Table.key_of_find? found).symm ▸ found))

def pinning (chatId : ChatId) : UpdateChatStateCommand :=
  ⟨{ id := 1 }, 10, chatId, { pinned := some true }⟩

theorem updatesState_pinning {labels : List (Label Db Write RowKey ChatError)}
    (opens : labels.all fun label => match label with
      | .start _ => false
      | _ => true) (chats : List ChatId) :
    ∀ program, Label.start program ∈ chats.map (fun chatId =>
      Label.start (pinning chatId).program) ++ labels →
      UpdatesStateOf 1 program := by
  intro program member
  rcases List.mem_append.mp member with starts | later
  · obtain ⟨chatId, _, same⟩ := List.mem_map.mp starts
    cases same
    exact ⟨⟨pinning chatId, rfl⟩, rfl⟩
  · cases List.all_eq_true.mp opens _ later

def countedTogether : List (Label Db Write RowKey ChatError) :=
  [.exec 0, .exec 0, .exec 1, .exec 1, .exec 0, .exec 1, .exec 0, .exec 1]

/-- Six chats are pinned after that. -/
theorem six_pinned : ¬ ∀ (userId : UserId) (db : Db) (final : WatchedChats),
    Watched.Runs (UpdatesStateOf userId) (fun _ _ => True) (Watched.idle db) final →
    db.countPinnedChats userId ≤ maxPinnedChats → (∀ chatId, Numbered chatId db) →
      final.system.db.countPinnedChats userId ≤ maxPinnedChats ∧
        ShowsPinned userId final.system.db := by
  intro claim
  have outcome : ((Watched.idle fourPinned).trace (fun _ _ => true)
      ([5, 6].map (fun chatId => Label.start (pinning chatId).program) ++ countedTogether)).map
        (fun final => final.system.db.countPinnedChats 1) = some 6 := by decide +kernel
  obtain ⟨final, traced, six⟩ := Option.map_eq_some_iff.mp outcome
  have run : Watched.Runs (UpdatesStateOf 1) (fun _ _ => True) (Watched.idle fourPinned) final :=
    Watched.runs_of_trace (fun _ _ _ => trivial) _ (updatesState_pinning (by decide) [5, 6]) .refl
      traced
  have few := (claim 1 fourPinned final run (by decide +kernel) fourPinned_numbered).1
  rw [six] at few
  exact absurd few (by decide)

def pinsFit (userId : UserId) (watched : WatchedChats) : Label Db Write RowKey ChatError → Bool
  | .exec index => (watched.system.committing index).all fun log =>
      (log.filterMap (Write.pin? userId)).all fun chatId =>
        ((watched.missed index).filterMap (Write.pin? userId)).isEmpty ||
          decide (watched.system.db.countPinnedChats userId < maxPinnedChats) ||
          watched.system.db.isPinnedChat userId chatId
  | _ => true

theorem pinsFit_sound (watched : WatchedChats) (label : Label Db Write RowKey ChatError)
    (fits : pinsFit userId watched label = true) : PinsFit userId watched label := by
  cases label with
  | start _ => trivial
  | rollback _ => trivial
  | exec index =>
      intro log committing chatId pins
      simp only [pinsFit, committing, Option.all_some, List.all_eq_true] at fits
      have fits := fits chatId pins
      simp only [Bool.or_eq_true, List.isEmpty_iff, decide_eq_true_eq] at fits
      exact or_assoc.mp fits

/-- A fifth chat is pinned, and the sixth refused. -/
theorem five_pinned : ∃ final : WatchedChats,
    Watched.Runs (UpdatesStateOf 1) (PinsFit 1) (Watched.idle fourPinned) final ∧
      final.system.db.countPinnedChats 1 = 5 ∧ ShowsPinned 1 final.system.db := by
  have outcome : ((Watched.idle fourPinned).trace (pinsFit 1)
      ([5, 6].map (fun chatId => Label.start (pinning chatId).program) ++
        [Label.exec 0, Label.exec 0, Label.exec 0, Label.exec 0, Label.exec 1, Label.exec 1])).map
        (fun final => final.system.db.countPinnedChats 1) = some 5 := by decide +kernel
  obtain ⟨final, traced, five⟩ := Option.map_eq_some_iff.mp outcome
  have run := Watched.runs_of_trace pinsFit_sound _
    (updatesState_pinning (by decide) [5, 6]) .refl traced
  exact ⟨final, run, five,
    (pinned_chats_limited run (by decide +kernel) fourPinned_numbered).2⟩

end Runs

end Messanger
