import Mathlib.Order.WithBot
import Messanger.Chats.CommandsCore
import Messanger.Library.Keyset
import Messanger.Messages.MessageSeq
import Messanger.Messages.QueriesCore

/-!
The chat list of a user, read page by page.  It is sorted by the last activity, chats without any
last, and the cursor is the last activity of the page with the id of its chat: a cursor without a
date is the one of the first page.
-/

namespace Messanger

open Relational

structure UserChatRow where
  chat : Chat
  member : ChatMember
  message : Option Message
  deriving DecidableEq, Repr

structure ListChats where
  chats : List UserChatRow
  hasNext : Bool
  nextDate : Option Nat
  nextChatId : Option ChatId
  deriving DecidableEq, Repr

/-- The rows a `LEFT JOIN` makes of the messages it finds. -/
def outerJoin (found : List Message) : List (Option Message) :=
  if found.isEmpty then [none] else found.map some

def UserChatRow.isPinned (row : UserChatRow) : Bool := row.member.state.pinnedAt.isSome

def activityRank : Option Nat → WithBot Nat
  | none => ⊥
  | some activity => WithBot.some activity

/-- `ORDER BY last_activity_at DESC NULLS LAST, id DESC`, read from the greatest down. -/
def UserChatRow.activity (row : UserChatRow) : WithBot Nat ×ₗ ChatId :=
  toLex (activityRank row.chat.lastActivityAt, row.chat.id)

/-- The keyset predicate; a comparison with `NULL` is not true. -/
def UserChatRow.isPast (row : UserChatRow) (lastActivityAt : Nat) (chatId : ChatId) : Bool :=
  match row.chat.lastActivityAt with
  | none => false
  | some activity =>
      decide (activity < lastActivityAt ∨ (activity = lastActivityAt ∧ row.chat.id < chatId))

namespace Db

variable (db : Db) (now : Nat) (userId : UserId) (archived : Bool)

def lastMessages (chat : Chat) : List Message :=
  db.messages.select fun message =>
    message.chatId == chat.id && message.seq == chat.seqCounter && !message.isDeleted

def chatRows (chat : Chat) : List UserChatRow :=
  match db.member? chat.id userId with
  | none => []
  | some member =>
      if !member.isBanned now && member.state.archivedAt.isSome == archived &&
          chat.deletedAt.isNone then
        (outerJoin (db.lastMessages chat)).map fun message => ⟨chat, member, message⟩
      else []

def isListed (chat : Chat) : Bool :=
  chat.deletedAt.isNone &&
    match db.member? chat.id userId with
    | none => false
    | some member => !member.isBanned now && member.state.archivedAt.isSome == archived

/-- `_user_chats_stmt`. -/
def userChats : List UserChatRow :=
  db.chats.rows.flatMap (db.chatRows now userId archived)

def unpinnedChats : List UserChatRow :=
  (db.userChats now userId archived).filter fun row => !row.isPinned

def getChats (limit : Nat) (lastActivityAt : Option Nat) (chatId : Option ChatId) :
    List UserChatRow :=
  (Keyset.newest UserChatRow.activity
    (match lastActivityAt, chatId with
      | some date, some id =>
          (db.unpinnedChats now userId archived).filter fun row => row.isPast date id
      | _, _ => db.unpinnedChats now userId archived)).take (limit + 1)

def pinnedChats : List UserChatRow :=
  ((db.userChats now userId archived).filter (·.isPinned)).insertionSort fun left right =>
    right.member.state.pinnedAt.getD 0 ≤ left.member.state.pinnedAt.getD 0

def getPinnedChats (limit : Nat) : List UserChatRow :=
  (db.pinnedChats now userId archived).take limit

def listedChats : List ChatId :=
  (db.chats.rows.filter (db.isListed now userId archived)).map (·.id)

end Db

section Listing

variable (user : UserJWTData) (now : Nat) (limit : Int) (archived : Bool)

def getListChatUser (lastActivityAt : Option Nat) (lastChatId : Option ChatId) :
    Handler ListChats := do
  let limit := clampLimit limit 100
  let isFirstPage := lastActivityAt.isNone || lastChatId.isNone
  let rows ← Tx.read fun db =>
    db.getChats now user.id archived limit lastActivityAt lastChatId
  let page := rows.take limit
  let pinned ←
    if isFirstPage then
      Tx.read fun db => db.getPinnedChats now user.id archived maxPinnedChats
    else pure []
  return { chats := pinned ++ page
           hasNext := decide (limit < rows.length)
           nextDate :=
             if limit < rows.length then page.getLast?.bind (·.chat.lastActivityAt) else none
           nextChatId := if limit < rows.length then page.getLast?.map (·.chat.id) else none }

def followChats (db : Db) : Nat → Option Nat → Option ChatId → Option (List ListChats)
  | 0, _, _ => none
  | fuel + 1, lastActivityAt, lastChatId =>
      match (getListChatUser user now limit archived lastActivityAt lastChatId).exec db with
      | (.error _, _) => none
      | (.ok page, _) =>
          if page.hasNext then
            (followChats db fuel page.nextDate page.nextChatId).map fun rest => page :: rest
          else some [page]

/-- Following the cursors ends, and has shown each chat of the list once. -/
def ShowsAll (db : Db) : Prop :=
  ∃ fuel pages, followChats user now limit archived db fuel none none = some pages ∧
    ((pages.flatMap (·.chats)).map (·.chat.id)).Perm (db.listedChats now user.id archived)

/-- The pinned chats fit on the first page, and so do all others if one has no activity. -/
def Pageable (db : Db) : Prop :=
  (db.pinnedChats now user.id archived).length ≤ maxPinnedChats ∧
    ((∀ row ∈ db.unpinnedChats now user.id archived, row.chat.lastActivityAt.isSome) ∨
      (db.unpinnedChats now user.id archived).length ≤ clampLimit limit 100)

end Listing

section Rows

variable {db : Db} {now : Nat} {userId : UserId} {archived : Bool}

theorem outerJoin_single {found : List Message} (few : found.length ≤ 1) :
    ∃ message, outerJoin found = [message] := by
  cases found with
  | nil => exact ⟨none, rfl⟩
  | cons message others =>
      cases others with
      | nil => exact ⟨some message, rfl⟩
      | cons other rest =>
          simp only [List.length_cons] at few
          omega

theorem lastMessages_few (chat : Chat) (numbered : Numbered chat.id db) :
    (db.lastMessages chat).length ≤ 1 := by
  have inChat : (db.lastMessages chat).Sublist
      (db.messages.select fun message => message.chatId == chat.id) := by
    unfold Db.lastMessages Table.select
    refine List.monotone_filter_right _ fun message kept => ?_
    simp only [Bool.and_eq_true] at kept
    exact kept.1.1
  have apart := List.pairwise_map.mp (numbered.distinct.sublist (inChat.map _))
  have same : ∀ message ∈ db.lastMessages chat, message.seq = chat.seqCounter := by
    intro message member
    have kept := (List.mem_filter.mp member).2
    simp only [Bool.and_eq_true, beq_iff_eq] at kept
    exact kept.1.2
  cases found : db.lastMessages chat with
  | nil => exact Nat.zero_le _
  | cons first others =>
      cases others with
      | nil => exact Nat.le_refl _
      | cons second rest =>
          rw [found] at apart same
          have different := (List.pairwise_cons.mp apart).1 second List.mem_cons_self
          rw [same first (by simp), same second (by simp)] at different
          exact absurd rfl different

theorem chatRows_ids (chat : Chat) (numbered : Numbered chat.id db) :
    (db.chatRows now userId archived chat).map (·.chat.id) =
      if db.isListed now userId archived chat then [chat.id] else [] := by
  obtain ⟨message, alone⟩ := outerJoin_single (lastMessages_few chat numbered)
  unfold Db.chatRows Db.isListed
  cases db.member? chat.id userId with
  | none => simp
  | some member =>
      simp only [alone, Bool.and_comm chat.deletedAt.isNone]
      split
      · rfl
      · rfl

theorem userChats_ids (numbered : ∀ chatId, Numbered chatId db) :
    (db.userChats now userId archived).map (·.chat.id) = db.listedChats now userId archived := by
  unfold Db.userChats Db.listedChats
  induction db.chats.rows with
  | nil => rfl
  | cons chat others ih =>
      rw [List.flatMap_cons, List.map_append, ih, chatRows_ids chat (numbered chat.id),
        List.filter_cons]
      split
      · rfl
      · rfl

theorem listedChats_nodup : (db.listedChats now userId archived).Nodup :=
  db.chats.unique.sublist (List.filter_sublist.map _)

end Rows

section Pages

variable {user : UserJWTData} {now : Nat} {limit : Int} {archived : Bool} {db : Db}

theorem unpinned_distinct (numbered : ∀ chatId, Numbered chatId db) :
    ((db.unpinnedChats now user.id archived).map UserChatRow.activity).Nodup := by
  have ids : ((db.userChats now user.id archived).map (·.chat.id)).Nodup := by
    rw [userChats_ids numbered]
    exact listedChats_nodup
  have fewer : ((db.unpinnedChats now user.id archived).map (·.chat.id)).Nodup :=
    ids.sublist (List.filter_sublist.map _)
  refine List.pairwise_map.mpr ((List.pairwise_map.mp fewer).imp ?_)
  intro left right different same
  exact different (congrArg (fun key => (ofLex key).2) same)

theorem isPast_iff {row last : UserChatRow} {activity date : Nat}
    (active : row.chat.lastActivityAt = some activity) (dated : last.chat.lastActivityAt = some date) :
    row.isPast date last.chat.id = decide (row.activity < last.activity) := by
  unfold UserChatRow.isPast UserChatRow.activity
  rw [active, dated]
  refine decide_eq_decide.mpr ?_
  rw [Prod.Lex.toLex_lt_toLex]
  simp only [activityRank, WithBot.coe_lt_coe, WithBot.coe_inj]

theorem activity_active {row last : UserChatRow} (before : last.activity ≤ row.activity)
    (dated : last.chat.lastActivityAt.isSome) : row.chat.lastActivityAt.isSome := by
  obtain ⟨date, found⟩ := Option.isSome_iff_exists.mp dated
  cases active : row.chat.lastActivityAt with
  | some _ => rfl
  | none =>
      exfalso
      unfold UserChatRow.activity at before
      rw [active, found, Prod.Lex.toLex_le_toLex] at before
      simp [activityRank] at before

theorem exec_getListChatUser (lastActivityAt : Option Nat) (lastChatId : Option ChatId)
    {rows : List UserChatRow} (size : Nat) (sized : clampLimit limit 100 = size)
    (found : db.getChats now user.id archived size lastActivityAt lastChatId = rows) :
    (getListChatUser user now limit archived lastActivityAt lastChatId).exec db =
      (.ok
        { chats := (if lastActivityAt.isNone || lastChatId.isNone then
              db.getPinnedChats now user.id archived maxPinnedChats else []) ++ rows.take size
          hasNext := decide (size < rows.length)
          nextDate := if size < rows.length then
              (rows.take size).getLast?.bind (·.chat.lastActivityAt) else none
          nextChatId := if size < rows.length then
              (rows.take size).getLast?.map (·.chat.id) else none }, db) := by
  subst sized found
  unfold getListChatUser
  cases lastActivityAt.isNone || lastChatId.isNone with
  | true => rfl
  | false => rfl

theorem getChats_past {size taken : Nat} {last : UserChatRow} {date : Nat}
    (numbered : ∀ chatId, Numbered chatId db)
    (active : ∀ row ∈ db.unpinnedChats now user.id archived, row.chat.lastActivityAt.isSome)
    (ends : ((Keyset.newest UserChatRow.activity
      (db.unpinnedChats now user.id archived)).take taken).getLast? = some last)
    (dated : last.chat.lastActivityAt = some date) :
    db.getChats now user.id archived size (some date) (some last.chat.id) =
      ((Keyset.newest UserChatRow.activity
        (db.unpinnedChats now user.id archived)).drop taken).take (size + 1) := by
  have distinct := @unpinned_distinct user now archived db numbered
  have same : (db.unpinnedChats now user.id archived).filter (fun row => row.isPast date last.chat.id) =
      (db.unpinnedChats now user.id archived).filter
        fun row => decide (row.activity < last.activity) := by
    refine List.filter_congr fun row member => ?_
    obtain ⟨activity, found⟩ := Option.isSome_iff_exists.mp (active row member)
    exact isPast_iff found dated
  unfold Db.getChats
  simp only
  rw [same, Keyset.newest_filter distinct, Keyset.filter_past (Keyset.newest_falling distinct) ends]

section Follow

variable {fuel size : Nat} {lastActivityAt : Option Nat} {lastChatId : Option ChatId}
  {rows : List UserChatRow} {last : UserChatRow}

def pinnedShown (user : UserJWTData) (now : Nat) (archived : Bool) (db : Db)
    (lastActivityAt : Option Nat) (lastChatId : Option ChatId) : List UserChatRow :=
  if lastActivityAt.isNone || lastChatId.isNone then
    db.getPinnedChats now user.id archived maxPinnedChats
  else []

theorem follow_end (sized : clampLimit limit 100 = size)
    (found : db.getChats now user.id archived size lastActivityAt lastChatId = rows)
    (short : rows.length ≤ size) :
    followChats user now limit archived db (fuel + 1) lastActivityAt lastChatId =
      some [⟨pinnedShown user now archived db lastActivityAt lastChatId ++ rows, false, none,
        none⟩] := by
  rw [followChats, exec_getListChatUser lastActivityAt lastChatId size sized found]
  simp only [Nat.not_lt.mpr short, decide_false, Bool.false_eq_true, if_false,
    List.take_of_length_le short, pinnedShown]

theorem follow_more (sized : clampLimit limit 100 = size)
    (found : db.getChats now user.id archived size lastActivityAt lastChatId = rows)
    (long : size < rows.length) (ends : (rows.take size).getLast? = some last) :
    followChats user now limit archived db (fuel + 1) lastActivityAt lastChatId =
      (followChats user now limit archived db fuel last.chat.lastActivityAt
        (some last.chat.id)).map fun rest =>
          ⟨pinnedShown user now archived db lastActivityAt lastChatId ++ rows.take size, true,
            last.chat.lastActivityAt, some last.chat.id⟩ :: rest := by
  rw [followChats, exec_getListChatUser lastActivityAt lastChatId size sized found]
  simp only [long, decide_true, if_true, ends, Option.bind_some, Option.map_some, pinnedShown]

theorem page_last (sized : clampLimit limit 100 = size) (long : size < rows.length) :
    ∃ last, (rows.take size).getLast? = some last := by
  have positive := @clampLimit_pos limit 100 (by decide)
  rw [sized] at positive
  refine ⟨_, List.getLast?_eq_some_getLast ?_⟩
  intro empty
  rcases List.take_eq_nil_iff.mp empty with zero | none
  · omega
  · rw [none] at long
    cases long

end Follow

theorem follow_active {size : Nat} (numbered : ∀ chatId, Numbered chatId db)
    (active : ∀ row ∈ db.unpinnedChats now user.id archived, row.chat.lastActivityAt.isSome)
    (sized : clampLimit limit 100 = size) {sorted : List UserChatRow}
    (order : Keyset.newest UserChatRow.activity (db.unpinnedChats now user.id archived) = sorted)
    (fuel : Nat) : ∀ (taken : Nat) (last : UserChatRow) (date : Nat),
      (sorted.take taken).getLast? = some last → last.chat.lastActivityAt = some date →
      (sorted.drop taken).length < fuel →
      ∃ pages, followChats user now limit archived db fuel (some date) (some last.chat.id) =
          some pages ∧ pages.flatMap (·.chats) = sorted.drop taken := by
  induction fuel with
  | zero => exact fun _ _ _ _ _ enough => absurd enough (Nat.not_lt_zero _)
  | succ fuel ih =>
      intro taken last date ends dated enough
      have found := @getChats_past user now archived db size taken last date numbered active
        (by rw [order]; exact ends) dated
      rw [order] at found
      by_cases long : size < ((sorted.drop taken).take (size + 1)).length
      · obtain ⟨next, nextEnds⟩ := page_last sized long
        have front : ((sorted.drop taken).take (size + 1)).take size = (sorted.drop taken).take size := by
          rw [List.take_take, Nat.min_eq_left (Nat.le_succ size)]
        have whole : (sorted.take (taken + size)).getLast? = some next := by
          rw [List.take_add, List.getLast?_append, ← front, nextEnds]
          rfl
        have member : next ∈ db.unpinnedChats now user.id archived := by
          have inside : next ∈ sorted := List.mem_of_mem_take (List.mem_of_getLast? whole)
          rw [← order] at inside
          exact Keyset.mem_newest.mp inside
        obtain ⟨nextDate, nextDated⟩ := Option.isSome_iff_exists.mp (active next member)
        have positive := @clampLimit_pos limit 100 (by decide)
        obtain ⟨pages, followed, shown⟩ := ih (taken + size) next nextDate whole nextDated (by
          simp only [List.length_take, List.length_drop] at long enough ⊢
          omega)
        have moved : followChats user now limit archived db (fuel + 1) (some date)
            (some last.chat.id) = _ := follow_more sized found long nextEnds
        rw [nextDated, followed, Option.map_some] at moved
        refine ⟨_, moved, ?_⟩
        rw [List.flatMap_cons, shown, front, pinnedShown]
        simp only [Option.isNone_some, Bool.or_self, Bool.false_eq_true, if_false, List.nil_append]
        rw [← List.drop_drop, List.take_append_drop]
      · refine ⟨_, follow_end sized found (by omega), ?_⟩
        have short : (sorted.drop taken).length ≤ size + 1 := by
          simp only [List.length_take] at long
          omega
        simp only [pinnedShown, Option.isNone_some, Bool.or_self, Bool.false_eq_true, if_false,
          List.nil_append, List.flatMap_cons, List.flatMap_nil, List.append_nil,
          List.take_of_length_le short]

theorem follow_restarts {size : Nat} {rows : List UserChatRow} {last : UserChatRow}
    (sized : clampLimit limit 100 = size)
    (found : db.getChats now user.id archived size none none = rows) (long : size < rows.length)
    (ends : (rows.take size).getLast? = some last) (undated : last.chat.lastActivityAt = none)
    (fuel : Nat) : ∀ lastChatId, followChats user now limit archived db fuel none lastChatId = none := by
  induction fuel with
  | zero => exact fun _ => rfl
  | succ fuel ih =>
      intro lastChatId
      have again : db.getChats now user.id archived size none lastChatId = rows := found
      rw [follow_more sized again long ends, undated, ih]
      rfl

theorem getChats_dated {size date : Nat} {id : ChatId} {row : UserChatRow}
    (member : row ∈ db.getChats now user.id archived size (some date) (some id)) :
    row ∈ db.unpinnedChats now user.id archived ∧ row.chat.lastActivityAt.isSome := by
  have kept := List.mem_filter.mp (Keyset.mem_newest.mp (List.mem_of_mem_take member))
  refine ⟨kept.1, ?_⟩
  have past := kept.2
  unfold UserChatRow.isPast at past
  cases active : row.chat.lastActivityAt with
  | none =>
      rw [active] at past
      cases past
  | some _ => rfl

theorem follow_dated (fuel : Nat) : ∀ (date : Nat) (id : ChatId) (pages : List ListChats),
    followChats user now limit archived db fuel (some date) (some id) = some pages →
    ∀ row ∈ pages.flatMap (·.chats), row ∈ db.unpinnedChats now user.id archived ∧
      row.chat.lastActivityAt.isSome := by
  induction fuel with
  | zero => exact fun _ _ _ followed => nomatch followed
  | succ fuel ih =>
      intro date id pages followed row member
      have here : ∀ row ∈ pinnedShown user now archived db (some date) (some id) ++
          db.getChats now user.id archived (clampLimit limit 100) (some date) (some id),
          row ∈ db.unpinnedChats now user.id archived ∧ row.chat.lastActivityAt.isSome := by
        intro row member
        exact getChats_dated member
      by_cases long : clampLimit limit 100 <
          (db.getChats now user.id archived (clampLimit limit 100) (some date) (some id)).length
      · obtain ⟨last, ends⟩ := page_last rfl long
        rw [follow_more rfl rfl long ends] at followed
        obtain ⟨rest, later, rfl⟩ := Option.map_eq_some_iff.mp followed
        have lastIn := List.mem_of_mem_take (List.mem_of_getLast? ends)
        obtain ⟨next, dated⟩ := Option.isSome_iff_exists.mp (getChats_dated lastIn).2
        rw [dated] at later
        rw [List.flatMap_cons] at member
        rcases List.mem_append.mp member with shown | after
        · refine here row ?_
          rcases List.mem_append.mp shown with pinned | listed
          · exact List.mem_append_left _ pinned
          · exact List.mem_append_right _ (List.mem_of_mem_take listed)
        · exact ih next last.chat.id rest later row after
      · rw [follow_end rfl rfl (by omega)] at followed
        cases followed
        simp only [List.flatMap_cons, List.flatMap_nil, List.append_nil] at member
        exact here row member

theorem rows_perm : (db.pinnedChats now user.id archived ++
    Keyset.newest UserChatRow.activity (db.unpinnedChats now user.id archived)).Perm
      (db.userChats now user.id archived) := by
  unfold Db.pinnedChats Db.unpinnedChats
  exact ((List.perm_insertionSort _ _).append Keyset.newest_perm).trans
    (List.filter_append_perm _ _)

theorem showsAll_of_pageable (numbered : ∀ chatId, Numbered chatId db)
    (pageable : Pageable user now limit archived db) : ShowsAll user now limit archived db := by
  obtain ⟨fits, active⟩ := pageable
  have pinned : pinnedShown user now archived db none none =
      db.pinnedChats now user.id archived := List.take_of_length_le fits
  have whole : ∀ pages : List ListChats, pages.flatMap (·.chats) =
      db.pinnedChats now user.id archived ++
        Keyset.newest UserChatRow.activity (db.unpinnedChats now user.id archived) →
      ((pages.flatMap (·.chats)).map (·.chat.id)).Perm (db.listedChats now user.id archived) := by
    intro pages shown
    rw [shown, ← userChats_ids numbered]
    exact rows_perm.map _
  generalize order : Keyset.newest UserChatRow.activity (db.unpinnedChats now user.id archived) =
    sorted at whole
  generalize sized : clampLimit limit 100 = size at active
  have same : sorted.length = (db.unpinnedChats now user.id archived).length := by
    rw [← order]
    exact Keyset.newest_perm.length_eq
  have found : db.getChats now user.id archived size none none = sorted.take (size + 1) := by
    unfold Db.getChats
    simp only [order]
  by_cases short : sorted.length ≤ size
  · have all : sorted.take (size + 1) = sorted := List.take_of_length_le (by omega)
    rw [all] at found
    refine ⟨1, _, follow_end sized found short, whole _ ?_⟩
    simp only [pinned, List.flatMap_cons, List.flatMap_nil, List.append_nil]
  · have active := active.resolve_right (by omega)
    have long : size < (sorted.take (size + 1)).length := by
      rw [List.length_take]
      omega
    obtain ⟨last, ends⟩ := page_last sized long
    have front : (sorted.take (size + 1)).take size = sorted.take size := by
      rw [List.take_take, Nat.min_eq_left (Nat.le_succ size)]
    have lastIn : last ∈ sorted := List.mem_of_mem_take (List.mem_of_mem_take (List.mem_of_getLast? ends))
    rw [← order] at lastIn
    obtain ⟨date, dated⟩ := Option.isSome_iff_exists.mp (active last (Keyset.mem_newest.mp lastIn))
    obtain ⟨pages, followed, shown⟩ := follow_active numbered active sized order
      (sorted.length + 1) size last date (by rw [← front, ends]) dated (by
        rw [List.length_drop]
        omega)
    have moved : followChats user now limit archived db (sorted.length + 1 + 1) none none = _ :=
      follow_more sized found long ends
    rw [dated, followed, Option.map_some] at moved
    refine ⟨_, _, moved, whole _ ?_⟩
    rw [List.flatMap_cons, shown, pinned, front, List.append_assoc, List.take_append_drop]

theorem shown_perm (numbered : ∀ chatId, Numbered chatId db) {shown : List UserChatRow}
    (known : ∀ row ∈ shown, row ∈ db.userChats now user.id archived)
    (complete : (shown.map (·.chat.id)).Perm (db.listedChats now user.id archived)) :
    shown.Perm (db.userChats now user.id archived) := by
  have once : shown.Nodup := (complete.symm.nodup listedChats_nodup).of_map _
  have many : (db.userChats now user.id archived).length ≤ shown.length := by
    have sameIds := complete.length_eq
    rw [← userChats_ids numbered, List.length_map, List.length_map] at sameIds
    omega
  exact (List.subperm_of_subset once known).perm_of_length_le many

theorem pageable_of_showsAll (numbered : ∀ chatId, Numbered chatId db)
    (showsAll : ShowsAll user now limit archived db) : Pageable user now limit archived db := by
  obtain ⟨fuel, pages, followed, complete⟩ := showsAll
  unfold Pageable
  generalize sized : clampLimit limit 100 = size
  have found : db.getChats now user.id archived size none none =
      (Keyset.newest UserChatRow.activity
        (db.unpinnedChats now user.id archived)).take (size + 1) := rfl
  have falling := Keyset.newest_falling (@unpinned_distinct user now archived db numbered)
  have parts := @rows_perm user now archived db
  have unpinnedKnown : ∀ row ∈ db.unpinnedChats now user.id archived,
      row ∈ db.userChats now user.id archived ∧ row.isPinned = false := by
    intro row member
    obtain ⟨known, kept⟩ := List.mem_filter.mp member
    exact ⟨known, by simpa using kept⟩
  have pinnedKnown : ∀ row ∈ pinnedShown user now archived db none none,
      row ∈ db.userChats now user.id archived ∧ row.isPinned = true := by
    intro row member
    have sorted := List.mem_of_mem_take member
    exact List.mem_filter.mp ((List.perm_insertionSort _ _).mem_iff.mp sorted)
  have pinnedFew : (pinnedShown user now archived db none none).length =
      min maxPinnedChats (db.pinnedChats now user.id archived).length := List.length_take
  have sortedMem : ∀ row, row ∈ Keyset.newest UserChatRow.activity
      (db.unpinnedChats now user.id archived) ↔ row ∈ db.unpinnedChats now user.id archived :=
    fun row => Keyset.mem_newest
  have same : (Keyset.newest UserChatRow.activity
      (db.unpinnedChats now user.id archived)).length =
        (db.unpinnedChats now user.id archived).length := Keyset.newest_perm.length_eq
  generalize Keyset.newest UserChatRow.activity (db.unpinnedChats now user.id archived) = sorted at *
  cases fuel with
  | zero => cases followed
  | succ fuel =>
      by_cases long : size < (sorted.take (size + 1)).length
      · obtain ⟨last, ends⟩ := page_last sized long
        rw [follow_more sized found long ends] at followed
        obtain ⟨rest, later, rfl⟩ := Option.map_eq_some_iff.mp followed
        rw [List.take_take, Nat.min_eq_left (Nat.le_succ size)] at complete ends
        rw [List.flatMap_cons] at complete
        cases dated : last.chat.lastActivityAt with
        | none =>
            have restarts := follow_restarts sized found long (by
              rwa [List.take_take, Nat.min_eq_left (Nat.le_succ size)]) dated fuel (some last.chat.id)
            rw [dated, restarts] at later
            cases later
        | some date =>
            rw [dated] at later
            have restKnown := follow_dated fuel date last.chat.id rest later
            have known : ∀ row ∈ pinnedShown user now archived db none none ++ sorted.take size ++
                rest.flatMap (·.chats), row ∈ db.userChats now user.id archived := by
              intro row member
              rcases List.mem_append.mp member with first | after
              · rcases List.mem_append.mp first with pinned | listed
                · exact (pinnedKnown row pinned).1
                · exact (unpinnedKnown row ((sortedMem row).mp (List.mem_of_mem_take listed))).1
              · exact (unpinnedKnown row (restKnown row after).1).1
            have perm := shown_perm numbered known complete
            constructor
            · have counted := perm.countP_eq (·.isPinned)
              rw [← parts.countP_eq (·.isPinned), List.countP_append, List.countP_append,
                List.countP_append] at counted
              have none_first : (sorted.take size).countP (·.isPinned) = 0 := by
                refine List.countP_eq_zero.mpr fun row member => ?_
                simp [(unpinnedKnown row ((sortedMem row).mp (List.mem_of_mem_take member))).2]
              have none_after : (rest.flatMap (·.chats)).countP (·.isPinned) = 0 := by
                refine List.countP_eq_zero.mpr fun row member => ?_
                simp [(unpinnedKnown row (restKnown row member).1).2]
              have all : (db.pinnedChats now user.id archived).countP (·.isPinned) =
                  (db.pinnedChats now user.id archived).length := by
                refine List.countP_eq_length.mpr fun row member => ?_
                have sorted := (List.perm_insertionSort _ _).mem_iff.mp member
                exact (List.mem_filter.mp sorted).2
              have few : (pinnedShown user now archived db none none).countP (·.isPinned) ≤ _ :=
                List.countP_le_length
              omega
            · left
              intro row member
              have shown := perm.mem_iff.mpr (unpinnedKnown row member).1
              rcases List.mem_append.mp shown with first | after
              · rcases List.mem_append.mp first with pinned | listed
                · have pinned := (pinnedKnown row pinned).2
                  rw [(unpinnedKnown row member).2] at pinned
                  cases pinned
                · refine activity_active (Keyset.last_le (falling.sublist
                    (List.take_sublist _ _)) ends listed) ?_
                  rw [dated]
                  rfl
              · exact (restKnown row after).2
      · have short : sorted.length ≤ size := by
          rw [List.length_take] at long
          omega
        rw [follow_end sized found (by omega)] at followed
        cases followed
        rw [List.take_of_length_le (by omega)] at complete
        simp only [List.flatMap_cons, List.flatMap_nil, List.append_nil] at complete
        have perm := shown_perm numbered (fun row member => ?_) complete
        · have counted := perm.length_eq
          rw [← parts.length_eq, List.length_append, List.length_append] at counted
          exact ⟨by omega, .inr (by omega)⟩
        · rcases List.mem_append.mp member with pinned | listed
          · exact (pinnedKnown row pinned).1
          · exact (unpinnedKnown row ((sortedMem row).mp listed)).1

/-- Page by page, of chats whose messages are numbered without gaps or repeats. -/
theorem chat_list_complete_iff (user : UserJWTData) (now : Nat) (limit : Int) (archived : Bool)
    (db : Db) (numbered : ∀ chatId, Numbered chatId db) :
    ShowsAll user now limit archived db ↔ Pageable user now limit archived db :=
  ⟨pageable_of_showsAll numbered, showsAll_of_pageable numbered⟩

def listedGroups : Db :=
  { chats := ⟨[{ id := 10, type := .group, createdBy := 1, seqCounter := 1, lastActivityAt := some 5 },
      { id := 11, type := .group, createdBy := 1, seqCounter := 1, lastActivityAt := some 5 },
      { id := 12, type := .group, createdBy := 1 }], by decide⟩
    members := ⟨[{ id := 1, chatId := 10, userId := 1, roleId := .owner },
      { id := 2, chatId := 11, userId := 1, roleId := .owner },
      { id := 3, chatId := 12, userId := 1, roleId := .owner, state := { pinnedAt := some 7 } }],
      by decide⟩
    messages := ⟨[{ id := 100, chatId := 10, seq := 1, authorId := some 1, content := some "hi" },
      { id := 101, chatId := 11, seq := 1, authorId := some 1, content := some "hi" }],
      by decide⟩ }

theorem numbered_single {db : Db} {chatId : ChatId} (one : db.seqs chatId = [1])
    (counter : db.seqCounter chatId = 1) : Numbered chatId db := by
  refine ⟨?_, fun seq => ?_⟩
  · rw [one]
    exact List.nodup_singleton 1
  · rw [one, counter, List.mem_singleton]
    omega

theorem numbered_empty {db : Db} {chatId : ChatId} (none : db.seqs chatId = [])
    (counter : db.seqCounter chatId = 0) : Numbered chatId db := by
  refine ⟨?_, fun seq => ?_⟩
  · rw [none]
    exact List.nodup_nil
  · rw [none, counter]
    simp only [List.not_mem_nil, false_iff]
    omega

theorem listedGroups_numbered (chatId : ChatId) : Numbered chatId listedGroups := by
  by_cases first : chatId = 10
  · subst first
    exact numbered_single (by decide +kernel) (by decide +kernel)
  · by_cases second : chatId = 11
    · subst second
      exact numbered_single (by decide +kernel) (by decide +kernel)
    · refine numbered_empty ?_ ?_
      · simp [Db.seqs, Table.select, listedGroups, Ne.symm first, Ne.symm second]
      · by_cases third : chatId = 12
        · subst third
          decide +kernel
        · simp [Db.seqCounter, Db.chat?, Table.find?, listedGroups, Ne.symm first, Ne.symm second,
            Ne.symm third]

theorem chat_list_complete_of_three : ShowsAll ⟨1, [], []⟩ 0 1 false listedGroups :=
  (chat_list_complete_iff ⟨1, [], []⟩ 0 1 false listedGroups listedGroups_numbered).mpr
    ⟨by decide +kernel, .inl (by decide +kernel)⟩

def silentGroups : Db :=
  { chats := ⟨[{ id := 10, type := .group, createdBy := 1 },
      { id := 11, type := .group, createdBy := 1 }], by decide⟩
    members := ⟨[{ id := 1, chatId := 10, userId := 1, roleId := .owner },
      { id := 2, chatId := 11, userId := 1, roleId := .owner }], by decide⟩ }

theorem silent_chats_restart :
    ¬∀ (user : UserJWTData) (now : Nat) (limit : Int) (archived : Bool) (db : Db), 1 ≤ limit →
      (∀ chatId, Numbered chatId db) → ShowsAll user now limit archived db := by
  intro claimed
  have numbered : ∀ chatId, Numbered chatId silentGroups := by
    intro chatId
    refine numbered_empty rfl ?_
    by_cases first : chatId = 10
    · subst first
      decide +kernel
    · by_cases second : chatId = 11
      · subst second
        decide +kernel
      · simp [Db.seqCounter, Db.chat?, Table.find?, silentGroups, Ne.symm first, Ne.symm second]
  obtain ⟨fuel, pages, followed, _⟩ := claimed ⟨1, [], []⟩ 0 1 false silentGroups (by decide) numbered
  have page : ((silentGroups.getChats 0 1 false 1 none none).take 1).getLast?.any
      (fun row => row.chat.lastActivityAt.isNone) = true := by decide +kernel
  obtain ⟨last, ends, undated⟩ := Option.any_eq_true _ _ |>.mp page
  have restarts := @follow_restarts ⟨1, [], []⟩ 0 1 false silentGroups 1 _ last rfl rfl
    (by decide +kernel) ends (Option.isNone_iff_eq_none.mp undated) fuel none
  rw [restarts] at followed
  cases followed

end Pages

end Messanger
