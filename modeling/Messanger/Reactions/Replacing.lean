import Messanger.Library.Evaluation
import Messanger.Reactions.Limits

/-!
One more reaction, set alone or together with those the user has already.  The two commands check
the same limits, each in its own way.
-/

namespace Messanger

open Relational

namespace Replacing

variable {db committed : ReactionDb} {user : UserJWTData} {now : Nat} {chatId : ChatId}
  {messageId : MessageId} {emoji : Emoji} {emojis : List Emoji} {rank : Emoji → Nat}
  {found : ChatAndMember}

/-- What `requireReactable` finds. -/
def reactable (user : UserJWTData) (now : Nat) (chatId : ChatId) (messageId : MessageId)
    (db : ReactionDb) : Except ReactionError ChatAndMember := do
  let found ← (db.base.chatAndMember chatId user.id).mapError .chat
  if found.member.isBanned now then .error (.chat (.notChatMember chatId user.id))
  else
    match db.base.liveMessage? messageId with
    | none => .error (.chat (.notFoundMessage messageId))
    | some message =>
        if message.chatId == chatId then .ok found else .error (.chat (.notFoundMessage messageId))

theorem run_requireReactable {rest : ChatAndMember → ReactionHandler Unit} :
    ((requireReactable user now chatId messageId).bind rest).run committed db =
      match reactable user now chatId messageId db with
      | .ok found => (rest found).run committed db
      | .error error => (.error error, committed) := by
  simp only [requireReactable, Tx.bind_eq, Tx.pure_eq, Tx.bind_assoc, Tx.done_bind,
    Tx.run_statement, Tx.run_require, Tx.run_orRaise, Tx.run_read, applyAll_nil, reactable]
  cases (db.base.chatAndMember chatId user.id).mapError ReactionError.chat with
  | error error => rfl
  | ok found =>
      cases banned : found.member.isBanned now with
      | true => simp [banned, bind, Except.bind]
      | false =>
          cases live : db.base.liveMessage? messageId with
          | none => simp [banned, bind, Except.bind]
          | some row =>
              by_cases here : row.chatId == chatId
              · simp [banned, here, bind, Except.bind]
              · simp [banned, here, bind, Except.bind]

def added (db : ReactionDb) (user : UserJWTData) (now : Nat) (chatId : ChatId)
    (messageId : MessageId) (emoji : Emoji) : ReactionDb :=
  applyAll [.insertReaction ⟨messageId, user.id, emoji, chatId, now⟩,
    .raiseCounter messageId emoji chatId] db

theorem contains_userEmojis : (db.userEmojis messageId user.id).contains emoji =
    db.reacted messageId user.id emoji := by
  rw [Bool.eq_iff_iff, List.contains_iff_mem, ReactionDb.mem_userEmojis]

theorem run_addReaction {rest : Option Int → ReactionHandler Unit}
    (free : db.reacted messageId user.id emoji = false) :
    ((addReaction messageId chatId user.id emoji now).bind rest).run committed db =
      (rest (some ((ReactionDb.count? (applyAll
        [.insertReaction ⟨messageId, user.id, emoji, chatId, now⟩] db) messageId emoji).getD 0 + 1))).run
        committed (added db user now chatId messageId emoji) := by
  simp only [addReaction, insertReaction, bumpCounterUp, Tx.bind_eq, Tx.bind_assoc, Tx.ite_bind,
    Tx.run_statement, free, Bool.not_false, if_true, Tx.pure_eq, Tx.done_bind, Bool.false_eq_true,
    if_false]
  rfl

theorem run_taken {rest : Option Int → ReactionHandler Unit}
    (taken : db.reacted messageId user.id emoji = true) :
    ((addReaction messageId chatId user.id emoji now).bind rest).run committed db =
      (rest none).run committed db := by
  simp only [addReaction, insertReaction, Tx.bind_eq, Tx.bind_assoc, Tx.ite_bind,
    Tx.run_statement, taken, Bool.not_true, if_true, Tx.pure_eq, Tx.done_bind, Bool.false_eq_true,
    if_false, applyAll_nil]

def announced (db : ReactionDb) (user : UserJWTData) (chatId : ChatId) (messageId : MessageId)
    (action : ReactionAction) : ReactionUpdatedEvent :=
  ⟨messageId, chatId, user.id, action, db.currentGroups messageId,
    if (db.currentGroups messageId).isEmpty then [] else db.recentUsers messageId⟩

theorem run_announceReaction {action : ReactionAction} :
    (announceReaction user chatId messageId action).run committed db =
      (.ok (), ReactionDb.apply (.publish (announced db user chatId messageId action)) db) := by
  cases silent : (db.currentGroups messageId).isEmpty with
  | true =>
      simp only [announceReaction, buildReactionEvent, getCurrentGroups, publishReaction,
        Tx.bind_eq, Tx.bind_assoc, Tx.ite_bind, Tx.run_read, silent, if_true, Tx.pure_eq,
        Tx.done_bind, Tx.run_statement, Tx.run_commitNow, announced]
      rfl
  | false =>
      simp only [announceReaction, buildReactionEvent, getCurrentGroups, getReactionState,
        listUserEmojis, publishReaction, Tx.bind_eq, Tx.bind_assoc, Tx.ite_bind, Tx.run_read,
        silent, Bool.false_eq_true, if_false, Tx.pure_eq, Tx.done_bind, Tx.run_statement,
        Tx.run_commitNow, announced]
      rfl

def announcedAfter (action : ReactionAction) (user : UserJWTData) (chatId : ChatId)
    (messageId : MessageId) (db : ReactionDb) : ReactionDb :=
  ReactionDb.apply (.publish (announced db user chatId messageId action)) db

theorem run_setReaction : (setReaction user now chatId messageId emoji).run db db =
    match reactable user now chatId messageId db with
    | .error error => (.error error, db)
    | .ok found =>
        match validateReaction found.chat found.member now emoji with
        | .error error => (.error error, db)
        | .ok () =>
            if (db.userEmojis messageId user.id).contains emoji then (.ok (), db)
            else if (db.userEmojis messageId user.id).length < maxReactionsPerUserPerMessage then
              if db.distinctEmojis messageId < maxDistinctReactionsPerMessage then
                (.ok (), announcedAfter .add user chatId messageId
                  (added db user now chatId messageId emoji))
              else (.error (.tooManyReactions maxDistinctReactionsPerMessage .message), db)
            else (.error (.tooManyReactions maxReactionsPerUserPerMessage .user), db) := by
  rw [setReaction, Tx.bind_eq, run_requireReactable]
  cases reactable user now chatId messageId db with
  | error error => rfl
  | ok found =>
      simp only [Tx.bind_eq, Tx.run_ofExcept]
      cases validateReaction found.chat found.member now emoji with
      | error error => rfl
      | ok passed =>
          simp only [listUserEmojis, countDistinctEmojis, Tx.run_read, contains_userEmojis,
            Tx.pure_eq]
          cases own : db.reacted messageId user.id emoji with
          | true =>
              simp only [Bool.not_true, Bool.false_eq_true, if_false, if_true, run_taken own]
              rfl
          | false =>
              simp only [Bool.not_false, Bool.false_eq_true, if_true, if_false, Tx.run_require,
                Tx.run_read, decide_eq_true_eq, run_addReaction own]
              by_cases few : (db.userEmojis messageId user.id).length < maxReactionsPerUserPerMessage
              · simp only [few, if_true]
                by_cases space : db.distinctEmojis messageId < maxDistinctReactionsPerMessage
                · simp only [space, if_true, Option.isNone_some, Bool.false_eq_true, if_false,
                    run_announceReaction, announcedAfter]
                · simp only [space, if_false]
              · simp only [few, if_false]

section Together

/-- The emojis asked for are those the user has, and one more. -/
def Together (db : ReactionDb) (user : UserJWTData) (messageId : MessageId) (emoji : Emoji)
    (emojis : List Emoji) : Prop :=
  ∀ other, other ∈ emojis ↔ other ∈ db.userEmojis messageId user.id ∨ other = emoji

theorem target_taken (together : Together db user messageId emoji emojis)
    (taken : db.reacted messageId user.id emoji = true) :
    emojis.eraseDups.Perm (db.userEmojis messageId user.id) := by
  refine (List.perm_ext_iff_of_nodup (nodup_eraseDups emojis)
    (ReactionDb.userEmojis_nodup db messageId user.id)).mpr fun other => ?_
  rw [List.mem_eraseDups, together]
  constructor
  · rintro (own | rfl)
    · exact own
    · exact ReactionDb.mem_userEmojis.mpr taken
  · exact Or.inl

theorem target_free (together : Together db user messageId emoji emojis)
    (free : db.reacted messageId user.id emoji = false) :
    emojis.eraseDups.Perm (emoji :: db.userEmojis messageId user.id) := by
  have absent : emoji ∉ db.userEmojis messageId user.id := by
    rw [ReactionDb.mem_userEmojis, free]
    exact Bool.false_ne_true
  refine (List.perm_ext_iff_of_nodup (nodup_eraseDups emojis) (List.nodup_cons.mpr ⟨absent,
    ReactionDb.userEmojis_nodup db messageId user.id⟩)).mpr fun other => ?_
  rw [List.mem_eraseDups, together, List.mem_cons, or_comm]

theorem news_taken (together : Together db user messageId emoji emojis)
    (taken : db.reacted messageId user.id emoji = true) :
    (emojis.eraseDups.filter fun other => !(db.userEmojis messageId user.id).contains other) = [] := by
  refine List.filter_eq_nil_iff.mpr fun other member => ?_
  simp [(target_taken together taken).mem_iff.mp member]

theorem news_free (together : Together db user messageId emoji emojis)
    (free : db.reacted messageId user.id emoji = false) :
    (emojis.eraseDups.filter fun other => !(db.userEmojis messageId user.id).contains other) =
      [emoji] := by
  refine List.perm_singleton.mp (((target_free together free).filter _).trans ?_)
  rw [List.filter_cons_of_pos (by rw [contains_userEmojis, free]; rfl)]
  refine List.Perm.cons _ (List.Perm.of_eq (List.filter_eq_nil_iff.mpr fun other member => ?_))
  simp [member]

theorem none_dropped (together : Together db user messageId emoji emojis) :
    ((db.userEmojis messageId user.id).filter fun other => !emojis.eraseDups.contains other) =
      [] := by
  refine List.filter_eq_nil_iff.mpr fun other member => ?_
  simp [(together other).mpr (.inl member)]

theorem run_lockUserEmojis {rest : List Emoji → ReactionHandler Unit} :
    ((lockUserEmojis messageId user.id).bind rest).run committed db =
      (rest (db.userEmojis messageId user.id)).run committed db := by
  have kept : (db.userEmojis messageId user.id).filter (db.reacted messageId user.id) =
      db.userEmojis messageId user.id :=
    List.filter_eq_self.mpr fun other member => ReactionDb.mem_userEmojis.mp member
  simp only [lockUserEmojis, listUserEmojis, Tx.bind_eq, Tx.bind_assoc, Tx.run_read,
    Tx.run_statement, kept, applyAll_nil]

theorem run_replaceReactions {rest : Bool → ReactionHandler Unit}
    (together : Together db user messageId emoji emojis) :
    ((replaceReactions messageId chatId user.id emojis.eraseDups now rank).bind rest).run committed
        db =
      if db.reacted messageId user.id emoji then (rest false).run committed db
      else (rest true).run committed (added db user now chatId messageId emoji) := by
  simp only [replaceReactions, Tx.bind_eq, Tx.bind_assoc, run_lockUserEmojis,
    none_dropped together]
  cases own : db.reacted messageId user.id emoji with
  | true =>
      simp only [news_taken together own, List.isEmpty_nil, Bool.and_self, if_true, Tx.pure_eq,
        Tx.done_bind]
  | false =>
      have walk : walked rank [emoji] = [emoji] := by simp [walked, List.eraseDups_cons]
      have idle : walked rank [] = [] := rfl
      simp only [news_free together own, List.isEmpty_cons, Bool.false_and, Bool.false_eq_true,
        if_false, walk, idle, Tx.each, Tx.void, Tx.bind_assoc, Tx.done_bind, Tx.pure_eq,
        run_addReaction own]

theorem forM_single {check : Emoji → Except ReactionError Unit} :
    ∀ items : List Emoji, emoji ∈ items → (∀ other ∈ items, other ≠ emoji → check other = .ok ()) →
      items.forM check = check emoji := by
  have passes : ∀ items : List Emoji, (∀ other ∈ items, check other = .ok ()) →
      items.forM check = .ok () := by
    intro items passed
    induction items with
    | nil => rfl
    | cons item others ih =>
        change (check item >>= fun _ => others.forM check) = _
        rw [passed item List.mem_cons_self]
        exact ih fun other member => passed other (List.mem_cons_of_mem _ member)
  intro items member passed
  induction items with
  | nil => cases member
  | cons item others ih =>
      change (check item >>= fun _ => others.forM check) = _
      by_cases here : item = emoji
      · subst here
        cases checked : check item with
        | error error => rfl
        | ok _ =>
            refine passes others fun other inside => ?_
            by_cases same : other = item
            · rw [same, checked]
            · exact passed other (List.mem_cons_of_mem _ inside) same
      · rw [passed item List.mem_cons_self here]
        exact ih ((List.mem_cons.mp member).resolve_left fun same => here same.symm)
          fun other inside => passed other (List.mem_cons_of_mem _ inside)

def addedDistinct (db : ReactionDb) (messageId : MessageId) (emoji : Emoji) : Nat :=
  if ((db.currentGroups messageId).map (·.emoji)).contains emoji then 0 else 1

theorem addedDistinct_le (db : ReactionDb) (messageId : MessageId) (emoji : Emoji) :
    addedDistinct db messageId emoji ≤ 1 := by
  rw [addedDistinct]
  split
  · exact Nat.zero_le 1
  · exact Nat.le_refl 1

theorem length_addedDistinct : ([emoji].filter fun other =>
    !((db.currentGroups messageId).map (·.emoji)).contains other).length =
      addedDistinct db messageId emoji := by
  rw [addedDistinct, List.filter_singleton]
  cases ((db.currentGroups messageId).map (·.emoji)).contains emoji with
  | true => rfl
  | false => rfl

theorem run_checkTarget {rest : Unit → ReactionHandler Unit}
    (together : Together db user messageId emoji emojis)
    (allowed : ∀ other ∈ db.userEmojis messageId user.id, validateEmoji found.chat other = .ok ()) :
    ((checkTarget user now messageId found emojis.eraseDups).bind rest).run committed db =
      match validateReaction found.chat found.member now emoji with
      | .error error => (.error error, committed)
      | .ok () =>
          if emojis.eraseDups.length ≤ maxReactionsPerUserPerMessage then
            if db.reacted messageId user.id emoji ∨ db.distinctEmojis messageId +
                addedDistinct db messageId emoji ≤ maxDistinctReactionsPerMessage then
              (rest ()).run committed db
            else (.error (.tooManyReactions maxDistinctReactionsPerMessage .message), committed)
          else (.error (.tooManyReactions maxReactionsPerUserPerMessage .user), committed) := by
  have checked : emojis.eraseDups.forM (validateEmoji found.chat) =
      validateEmoji found.chat emoji := by
    refine forM_single _ (List.mem_eraseDups.mpr ((together emoji).mpr (.inr rfl)))
      fun other member differs => allowed other ?_
    exact ((together other).mp (List.mem_eraseDups.mp member)).resolve_right differs
  simp only [checkTarget, Tx.bind_eq, Tx.bind_assoc, Tx.run_ofExcept, checked, validateReaction]
  cases ensureCanReact found.chat found.member now with
  | error error => rfl
  | ok _ =>
      simp only [bind, Except.bind]
      cases validateEmoji found.chat emoji with
      | error error => rfl
      | ok _ =>
          simp only [Tx.run_require, decide_eq_true_eq, listUserEmojis, Tx.run_read]
          by_cases few : emojis.eraseDups.length ≤ maxReactionsPerUserPerMessage
          · simp only [few, if_true]
            cases own : db.reacted messageId user.id emoji with
            | true =>
                simp only [news_taken together own, List.isEmpty_nil, if_true, true_or,
                  Tx.pure_eq, Tx.done_bind]
            | false =>
                simp only [news_free together own, List.isEmpty_cons, Bool.false_eq_true, if_false,
                  false_or, countDistinctEmojis, getCurrentGroups, Tx.bind_assoc, Tx.run_read,
                  Tx.run_require, decide_eq_true_eq, length_addedDistinct]
          · simp only [few, if_false]

theorem run_setReactions (together : Together db user messageId emoji emojis)
    (allowed : ∀ found, reactable user now chatId messageId db = .ok found →
      ∀ other ∈ db.userEmojis messageId user.id, validateEmoji found.chat other = .ok ()) :
    (setReactions user now chatId messageId emojis rank).run db db =
      match reactable user now chatId messageId db with
      | .error error => (.error error, db)
      | .ok found =>
          match validateReaction found.chat found.member now emoji with
          | .error error => (.error error, db)
          | .ok () =>
              if emojis.eraseDups.length ≤ maxReactionsPerUserPerMessage then
                if db.reacted messageId user.id emoji ∨ db.distinctEmojis messageId +
                    addedDistinct db messageId emoji ≤ maxDistinctReactionsPerMessage then
                  if db.reacted messageId user.id emoji then (.ok (), db)
                  else (.ok (), announcedAfter .replace user chatId messageId
                    (added db user now chatId messageId emoji))
                else (.error (.tooManyReactions maxDistinctReactionsPerMessage .message), db)
              else (.error (.tooManyReactions maxReactionsPerUserPerMessage .user), db) := by
  have filled : emojis.eraseDups.isEmpty = false := by
    rw [Bool.eq_false_iff]
    intro empty
    have member := List.mem_eraseDups.mpr ((together emoji).mpr (.inr rfl))
    rw [List.isEmpty_iff.mp empty] at member
    cases member
  simp only [setReactions, Tx.bind_eq, run_requireReactable]
  cases looked : reactable user now chatId messageId db with
  | error error => rfl
  | ok found =>
      simp only [filled, Bool.not_false, if_true, run_checkTarget together (allowed found looked)]
      cases validateReaction found.chat found.member now emoji with
      | error error => rfl
      | ok _ =>
          simp only [run_replaceReactions together]
          cases own : db.reacted messageId user.id emoji with
          | true =>
              simp only [true_or, if_true, Bool.not_false]
              rfl
          | false =>
              simp only [Bool.false_eq_true, false_or, if_false, Bool.not_true,
                run_announceReaction, announcedAfter]

end Together

/-- Both commands take the reaction, or neither does, and they leave the same rows. -/
def Agree (single many : Except ReactionError Unit × ReactionDb) : Prop :=
  (single.1 = .ok () ↔ many.1 = .ok ()) ∧
    (single.1 = .ok () → single.2.reactions = many.2.reactions ∧
      single.2.counters = many.2.counters)

/-- The chat lets the user react with the emoji. -/
def Admitted (user : UserJWTData) (now : Nat) (chatId : ChatId) (messageId : MessageId)
    (emoji : Emoji) (db : ReactionDb) : Prop :=
  ∃ found, reactable user now chatId messageId db = .ok found ∧
    validateReaction found.chat found.member now emoji = .ok ()

/-- The limits tell the two commands apart: a message with all its distinct emojis, this one
among them, or a user who has more reactions than the limit. -/
def Crowded (db : ReactionDb) (user : UserJWTData) (messageId : MessageId) (emoji : Emoji) : Prop :=
  if db.reacted messageId user.id emoji then
    maxReactionsPerUserPerMessage < (db.userEmojis messageId user.id).length
  else
    (db.userEmojis messageId user.id).length < maxReactionsPerUserPerMessage ∧
      db.distinctEmojis messageId = maxDistinctReactionsPerMessage ∧
      addedDistinct db messageId emoji = 0

theorem agree_same {left right : ReactionDb} (reactions : left.reactions = right.reactions)
    (counters : left.counters = right.counters) : Agree (.ok (), left) (.ok (), right) :=
  ⟨Iff.rfl, fun _ => ⟨reactions, counters⟩⟩

theorem agree_refused {left right : ReactionError} {first second : ReactionDb} :
    Agree (.error left, first) (.error right, second) :=
  ⟨⟨nofun, nofun⟩, nofun⟩

theorem reaction_set_decided
    (together : Together db user messageId emoji emojis)
    (allowed : ∀ found, reactable user now chatId messageId db = .ok found →
      ∀ other ∈ db.userEmojis messageId user.id, validateEmoji found.chat other = .ok ()) :
    Agree ((setReaction user now chatId messageId emoji).run db db)
        ((setReactions user now chatId messageId emojis rank).run db db) ↔
      ¬(Admitted user now chatId messageId emoji db ∧ Crowded db user messageId emoji) := by
  rw [run_setReaction, run_setReactions together allowed]
  cases looked : reactable user now chatId messageId db with
  | error error =>
      refine iff_of_true agree_refused ?_
      rintro ⟨⟨found, reached, -⟩, -⟩
      rw [looked] at reached
      cases reached
  | ok found =>
      dsimp only
      cases passed : validateReaction found.chat found.member now emoji with
      | error error =>
          refine iff_of_true agree_refused ?_
          rintro ⟨⟨other, reached, valid⟩, -⟩
          cases looked.symm.trans reached
          cases passed.symm.trans valid
      | ok _ =>
          have admitted : Admitted user now chatId messageId emoji db := ⟨found, looked, passed⟩
          simp only [admitted, true_and, contains_userEmojis, Crowded]
          cases own : db.reacted messageId user.id emoji with
          | true =>
              rw [(target_taken together own).length_eq]
              simp only [if_true, true_or, Nat.not_lt]
              by_cases few : (db.userEmojis messageId user.id).length ≤
                  maxReactionsPerUserPerMessage
              · simp only [few, if_true, iff_true]
                exact agree_same rfl rfl
              · simp only [few, if_false, iff_false]
                intro agree
                cases agree.1.mp rfl
          | false =>
              rw [(target_free together own).length_eq, List.length_cons]
              simp only [Bool.false_eq_true, if_false, false_or, Nat.succ_le_iff]
              by_cases few : (db.userEmojis messageId user.id).length <
                  maxReactionsPerUserPerMessage
              · simp only [few, if_true, true_and, not_and]
                by_cases space : db.distinctEmojis messageId < maxDistinctReactionsPerMessage
                · have fits : db.distinctEmojis messageId + addedDistinct db messageId emoji ≤
                      maxDistinctReactionsPerMessage :=
                    (Nat.add_le_add_left (addedDistinct_le db messageId emoji) _).trans space
                  simp only [space, fits, if_true]
                  exact iff_of_true (agree_same rfl rfl) fun full => absurd full space.ne
                · by_cases fits : db.distinctEmojis messageId + addedDistinct db messageId emoji ≤
                      maxDistinctReactionsPerMessage
                  · simp only [space, fits, if_true, if_false]
                    refine iff_of_false (fun agree => ?_) fun apart => apart ?_ ?_
                    · cases agree.1.mpr rfl
                    · omega
                    · omega
                  · simp only [space, fits, if_false]
                    exact iff_of_true agree_refused fun full shown => fits (by omega)
              · simp only [few, if_false, false_and, not_false_iff, iff_true]
                exact agree_refused

/-- A reader who has one reaction of three adds a second. -/
theorem reaction_set_decided_reader :
    Agree ((setReaction ⟨1, [], []⟩ 5 1 10 "👍").run reactedGroup reactedGroup)
        ((setReactions ⟨1, [], []⟩ 5 1 10 ["👍", "🔥"] fun _ => 0).run reactedGroup reactedGroup) ↔
      ¬(Admitted ⟨1, [], []⟩ 5 1 10 "👍" reactedGroup ∧
        Crowded reactedGroup ⟨1, [], []⟩ 10 "👍") := by
  have own : reactedGroup.userEmojis 10 1 = ["🔥"] := by decide +kernel
  refine reaction_set_decided (fun other => ?_) fun found reached other member => ?_
  · rw [own]
    simp [or_comm]
  · rw [own, List.mem_singleton] at member
    subst member
    have chat : (reactable ⟨1, [], []⟩ 5 1 10 reactedGroup).map
        (fun found => validateEmoji found.chat "🔥") = .ok (.ok ()) := by decide +kernel
    rw [reached] at chat
    exact Except.ok.inj chat

def fullMessage : ReactionDb where
  base := reactedGroup.base
  reactions := ⟨(defaultReactions.take 20).zipIdx.map fun shown =>
    ⟨10, 2 + shown.2 / 3, shown.1, 1, 0⟩, by decide +kernel⟩
  counters := ⟨(defaultReactions.take 20).map fun shown => ⟨10, shown, 1, 1⟩, by decide +kernel⟩

theorem reaction_refused_alone :
    ¬ ∀ (db : ReactionDb) (user : UserJWTData) (now : Nat) (chatId : ChatId)
        (messageId : MessageId) (emoji : Emoji) (emojis : List Emoji) (rank : Emoji → Nat),
      Together db user messageId emoji emojis →
      (∀ found, reactable user now chatId messageId db = .ok found →
        ∀ other ∈ db.userEmojis messageId user.id, validateEmoji found.chat other = .ok ()) →
      Agree ((setReaction user now chatId messageId emoji).run db db)
        ((setReactions user now chatId messageId emojis rank).run db db) := by
  intro claimed
  have none : fullMessage.userEmojis 10 1 = [] := by decide +kernel
  have refused : ((setReaction ⟨1, [], []⟩ 0 1 10 "👍").run fullMessage fullMessage).1 =
      .error (.tooManyReactions 20 .message) := by decide +kernel
  have taken : ((setReactions ⟨1, [], []⟩ 0 1 10 ["👍"] fun _ => 0).run fullMessage
      fullMessage).1 = .ok () := by decide +kernel
  have agree := claimed fullMessage ⟨1, [], []⟩ 0 1 10 "👍" ["👍"] (fun _ => 0)
    (fun other => by rw [none]; simp) (fun found _ other member => by
      rw [none] at member
      cases member)
  have accepted := agree.1.mpr taken
  rw [refused] at accepted
  cases accepted

end Replacing

end Messanger
