import Messanger.Statements
import Messanger.Library.Cooldown
import Messanger.Messages.Posted
import Messanger.Messages.Rows

/-!
Slow mode while any requests of the module interleave.  The script of `is_slow` takes the slot of a
user in a chat for as long as the slow mode lasts, before the message is written; whoever is
refused writes none, and whoever is let through writes one.
-/

namespace Messanger

open Relational

/-- A call of `SCRIPT_SLOW_MODE` for a user in a chat, in milliseconds. -/
abbrev SlowCall := Cooldown.Call (ChatId × UserId)

/-- `SET key '1' EX seconds NX`. -/
def slowCall (chatId : ChatId) (userId : UserId) (moment seconds : Nat) : SlowCall :=
  ⟨(chatId, userId), moment, 1000 * seconds⟩

def slowAnswers (calls : List SlowCall) : List (SlowCall × Option Nat) :=
  Cooldown.answers (fun _ => none) calls

def Command.slowTarget? : Command → Option (ChatId × Option Nat)
  | .sendMessage chatId _ slowTtl _ => some (chatId, slowTtl)
  | .forwardMessage _ target _ slowTtl _ _ => some (target, slowTtl)
  | .forwardMessages _ _ target _ _ slowTtl _ _ => some (target, slowTtl)
  | _ => none

def Command.slowMessage? : Command → Option MessageId
  | .sendMessage _ _ _ id => some id
  | .forwardMessage _ _ _ _ id _ => some id
  | .forwardMessages _ _ _ _ _ _ ids _ => some (ids 0)
  | _ => none

/-- A request and the place of its call of the script, which no other request makes. -/
structure SlowRequest where
  request : Request
  call : Nat

def SlowRequest.program (tagged : SlowRequest) : Handler Unit := (handle tagged.request).void

abbrev SlowJournal := Journal Db Write RowKey ChatError SlowRequest

section Slow

variable (initial : Db) (chatId : ChatId) (userId : UserId) (seconds : Nat) (calls : List SlowCall)

/-- The chat is in slow mode, and the user does not bypass it. -/
def Slow (db : Db) : Prop :=
  ∀ chat, db.openChat? chatId = some chat → chat.slowModeSeconds = seconds ∧
    ∀ member, db.member? chatId userId = some member → member.canBypassSlowMode = false

def SlowRequest.SetsAt (tagged : SlowRequest) (moment : Nat) : Prop :=
  (slowAnswers calls)[tagged.call]? = some (slowCall chatId userId moment seconds, none)

def SlowRequest.Told (tagged : SlowRequest) : Prop :=
  tagged.request.user.id = userId → tagged.request.command.slowTarget? = some (chatId, none) →
    ∃ moment, tagged.SetsAt chatId userId seconds calls moment

/-- What is asked of the steps of a run. -/
structure SlowStep (journal : SlowJournal) (action : Action SlowRequest) : Prop where
  told : ∀ tagged, action = .start tagged → tagged.Told chatId userId seconds calls
  own : ∀ tagged, action = .start tagged → ∀ other ∈ journal.tags, other.call ≠ tagged.call
  slow : ∀ next, journal.step SlowRequest.program action = some next →
    Slow chatId userId seconds next.system.db

structure SlowRequest.Makes (tagged : SlowRequest) (messageId : MessageId) : Prop where
  user : tagged.request.user.id = userId
  target : tagged.request.command.slowTarget? = some (chatId, none)
  message : tagged.request.command.slowMessage? = some messageId

/-- A message of the user in the chat that is no notice. -/
structure Message.WrittenBy (message : Message) : Prop where
  inChat : message.chatId = chatId
  author : message.authorId = some userId
  plain : message.type ≠ .system

/-- When the message was let through. -/
def AcceptedAt (tags : List SlowRequest) (message : Message) (moment : Nat) : Prop :=
  ∃ tagged ∈ tags, tagged.Makes chatId userId message.id ∧
    tagged.SetsAt chatId userId seconds calls moment

def slowPact : Pact Db Write RowKey SlowRequest where
  Rely _ _ after := Slow chatId userId seconds after
  trans _ _ _ _ _ right := right
  fewer _ _ _ _ _ relied := relied
  Admits _ db log := Slow chatId userId seconds (applyAll log db)
  Commits tagged _ log _ := ∀ message, .insertMessage message ∈ log →
    message.WrittenBy chatId userId → tagged.Makes chatId userId message.id

def SlowInv (db : Db) (history : List (SlowRequest × List Write)) : Prop :=
  Slow chatId userId seconds db ∧ ∀ message ∈ db.messages.rows,
    message.WrittenBy chatId userId → (initial.message? message.id).isSome ∨
      ∃ entry ∈ history, entry.1.Makes chatId userId message.id

end Slow

theorem writtenBy_sameAs {chatId : ChatId} {userId : UserId} {message other : Message}
    (same : message.SameAs other) (written : message.WrittenBy chatId userId) :
    other.WrittenBy chatId userId :=
  ⟨same.inChat.symm.trans written.inChat, same.author.symm.trans written.author,
    fun notice => written.plain (same.type.trans notice)⟩

section Handlers

variable {chatId : ChatId} {userId : UserId} {seconds : Nat} {tagged : SlowRequest}
  {held : List RowKey} {db : Db}

theorem isSlow_ok {now : Nat} {found : ChatAndMember} {slowTtl : Option Nat} (positive : 0 < seconds)
    (slow : Slow chatId userId seconds db) (answered : db.chatAndMember chatId userId = .ok found)
    (passed : isSlow now found.chat found.member slowTtl = .ok ()) : slowTtl = none := by
  obtain ⟨opened, stored⟩ := Db.chatAndMember_ok answered
  obtain ⟨mode, bypasses⟩ := slow _ opened
  have bypass := bypasses _ stored
  cases slowTtl with
  | none => rfl
  | some ttl =>
      have wait : (decide (found.chat.slowModeSeconds ≤ 0) ||
          canBypassSlowMode now (some found.member)) = false := by
        rw [Bool.or_eq_false_iff, decide_eq_false_iff_not, mode]
        refine ⟨by omega, ?_⟩
        rw [canBypassSlowMode, bypass, Bool.and_false]
      rw [isSlow, wait] at passed
      cases passed

theorem ensureSlowMode_ok {now total : Nat} {found : ChatAndMember} {slowTtl : Option Nat}
    (positive : 0 < seconds) (slow : Slow chatId userId seconds db)
    (answered : db.chatAndMember chatId userId = .ok found)
    (passed : ensureSlowMode now found.chat found.member total slowTtl = .ok ()) :
    total ≤ 1 ∧ slowTtl = none := by
  obtain ⟨opened, stored⟩ := Db.chatAndMember_ok answered
  obtain ⟨mode, bypasses⟩ := slow _ opened
  have bypass := bypasses _ stored
  have wait : (decide (found.chat.slowModeSeconds ≤ 0) ||
      canBypassSlowMode now (some found.member)) = false := by
    rw [Bool.or_eq_false_iff, decide_eq_false_iff_not, mode]
    refine ⟨by omega, ?_⟩
    rw [canBypassSlowMode, bypass, Bool.and_false]
  rw [ensureSlowMode, wait] at passed
  split at passed
  · contradiction
  · split at passed
    · cases passed
    · exact ⟨by omega, isSlow_ok positive slow answered passed⟩

theorem commits_of_single {messageId : MessageId} {log : List Write}
    (user : tagged.request.user.id = userId)
    (target : tagged.request.command.slowTarget? = some (chatId, none))
    (single : tagged.request.command.slowMessage? = some messageId)
    (only : ∀ write ∈ log, ∀ message, write = .insertMessage message → message.id = messageId) :
    (slowPact chatId userId seconds).Commits tagged held log db :=
  fun message member _ => ⟨user, target, by rw [single, only _ member message rfl]⟩

theorem commits_of_none {log : List Write}
    (none : ∀ write ∈ log, ∀ message, write = .insertMessage message →
      ¬message.WrittenBy chatId userId) :
    (slowPact chatId userId seconds).Commits tagged held log db :=
  fun message member written => (none _ member message rfl written).elim

theorem sendMessage_slow (user : UserJWTData) (now : Nat) (new : NewMessage) (slowTtl : Option Nat)
    (id : MessageId) (positive : 0 < seconds) (call : Nat) :
    (sendMessage user now chatId new slowTtl id).Obeys (slowPact chatId user.id seconds)
      ⟨⟨user, now, .sendMessage chatId new slowTtl id⟩, call⟩ [] [] db fun _ _ _ _ => True := by
  cases slowTtl with
  | none =>
      refine Tx.obeys_of_emits (fun _ _ _ only => ?_) (sendMessage_emits user now chatId new none id)
        (by simp)
      refine commits_of_single rfl rfl rfl fun write member message same => ?_
      subst same
      exact (only _ member).2.2.2.1
  | some ttl =>
      refine Tx.obeys_query fun after slow found answered => Tx.obeys_require fun _ => ?_
      refine Tx.obeys_query fun _ _ _ _ => Tx.obeys_ofExcept fun _ passed => ?_
      cases isSlow_ok positive slow answered passed

theorem forwardMessage_slow (user : UserJWTData) (now : Nat) (source : ForwardSource)
    (comment : Option String) (slowTtl : Option Nat) (id : MessageId) (fresh : Nat → AttachmentId)
    (positive : 0 < seconds) (call : Nat) :
    (forwardMessage user now source chatId comment slowTtl id fresh).Obeys
      (slowPact chatId user.id seconds)
      ⟨⟨user, now, .forwardMessage source chatId comment slowTtl id fresh⟩, call⟩ [] [] db
        fun _ _ _ _ => True := by
  cases slowTtl with
  | none =>
      refine Tx.obeys_of_emits (fun _ _ _ only => ?_)
        (forwardMessage_emits user now source chatId comment none id fresh) (by simp)
      refine commits_of_single rfl rfl rfl fun write member message same => ?_
      subst same
      exact (only _ member).2.2.2.1
  | some ttl =>
      refine Tx.obeys_read fun _ _ => Tx.obeys_orRaise fun _ _ => ?_
      refine Tx.obeys_read fun _ _ => Tx.obeys_orRaise fun _ _ => Tx.obeys_require fun _ => ?_
      refine Tx.obeys_require fun _ => Tx.obeys_query fun after slow found answered => ?_
      refine Tx.obeys_require fun _ => Tx.obeys_query fun _ _ _ _ => ?_
      refine Tx.obeys_ofExcept fun _ passed => ?_
      cases isSlow_ok positive slow answered passed

theorem buildMessages_single {ids : Nat → MessageId} {firstSeq : Nat} {drafts : List Message.Draft}
    {created : List (Message × List MessageAttachment)} (few : drafts.length ≤ 1)
    (built : buildMessages ids firstSeq drafts = .ok created) :
    ∀ entry ∈ created, entry.1.id = ids 0 := by
  have made := mapM_ok built
  cases drafts with
  | nil =>
      cases made
      exact fun _ member => (List.not_mem_nil member).elim
  | cons draft rest =>
      have none : rest = [] := by
        rw [← List.length_eq_zero_iff]
        rw [List.length_cons] at few
        omega
      subst none
      cases made with
      | cons first others =>
          cases others
          intro entry member
          rw [List.mem_singleton.mp member, (Message.create_ok first).1]
          rfl

theorem forwardMessages_slow (user : UserJWTData) (now : Nat) (sourceChatId : ChatId)
    (sourceIds : List MessageId) (hideAuthor : Bool) (comment : Option String)
    (slowTtl : Option Nat) (ids : Nat → MessageId) (fresh : Nat → Nat → AttachmentId)
    (positive : 0 < seconds) (call : Nat) :
    (forwardMessages user now sourceChatId sourceIds chatId hideAuthor comment slowTtl ids fresh).Obeys
      (slowPact chatId user.id seconds)
      ⟨⟨user, now, .forwardMessages sourceChatId sourceIds chatId hideAuthor comment slowTtl ids fresh⟩,
        call⟩ [] [] db fun _ _ _ _ => True := by
  refine Tx.obeys_read fun _ _ => Tx.obeys_orRaise fun _ _ => Tx.obeys_require fun _ => ?_
  refine Tx.obeys_require fun _ => Tx.obeys_read fun _ _ => Tx.obeys_require fun _ => ?_
  refine Tx.obeys_require fun _ => Tx.obeys_query fun after slow found answered => ?_
  refine Tx.obeys_require fun _ => Tx.obeys_query fun _ _ _ _ => ?_
  refine Tx.obeys_ofExcept fun _ passed => ?_
  obtain ⟨few, rfl⟩ := ensureSlowMode_ok positive slow answered passed
  refine Tx.obeys_of_emits (fun _ log _ (only : ∀ write ∈ log, ∀ message,
    write = .insertMessage message → message.id = ids 0) => commits_of_single rfl rfl rfl only)
    ?_ (by simp)
  simp only [allocateMessageSeq, Tx.bind_eq, Tx.emits_statement_iff, Tx.emits_orRaise_iff,
    Tx.emits_ofExcept_iff]
  refine ⟨by simp, fun _ _ _ seq _ created built => ?_⟩
  exact Tx.emits_each _ (fun entry member => saveMessage_posts
    (buildMessages_single few built entry member)) (by simp [publish])

theorem foreign_slow (foreign : ∀ message, tagged.request.Posts message →
    ¬message.WrittenBy chatId userId) :
    (handle tagged.request).Obeys (slowPact chatId userId seconds) tagged [] [] db
      fun _ _ _ _ => True := by
  refine Tx.obeys_of_emits (fun _ _ _ only => ?_) (handle_emits tagged.request) (by simp)
  refine commits_of_none fun write member message same => ?_
  subst same
  exact foreign message (only _ member)

theorem handle_slow (positive : 0 < seconds) (tagged : SlowRequest) :
    (handle tagged.request).Obeys (slowPact chatId userId seconds) tagged [] [] db
      fun _ _ _ _ => True := by
  obtain ⟨⟨user, now, command⟩, call⟩ := tagged
  by_cases other : user.id = userId
  · subst other
    cases command
    case sendMessage target new slowTtl id =>
      by_cases here : target = chatId
      · subst here
        exact Tx.obeys_answer _ (sendMessage_slow user now new slowTtl id positive call)
      · refine foreign_slow fun message posts written => here ?_
        exact posts.2.2.1.symm.trans written.inChat
    case forwardMessage source target comment slowTtl id fresh =>
      by_cases here : target = chatId
      · subst here
        exact Tx.obeys_answer _
          (forwardMessage_slow user now source comment slowTtl id fresh positive call)
      · refine foreign_slow fun message posts written => here ?_
        exact posts.2.2.1.symm.trans written.inChat
    case forwardMessages sourceChatId sourceIds target hideAuthor comment slowTtl ids fresh =>
      by_cases here : target = chatId
      · subst here
        exact Tx.obeys_answer _ (forwardMessages_slow user now sourceChatId sourceIds hideAuthor
          comment slowTtl ids fresh positive call)
      · refine foreign_slow fun message posts written => here ?_
        exact posts.2.2.1.symm.trans written.inChat
    case pinMessage target messageId noticeId =>
      refine Tx.obeys_answer _ (Tx.obeys_of_emits (fun _ _ _ only => ?_)
        (pinMessage_posts user now target messageId noticeId) (by simp))
      refine commits_of_none fun write member message same written => ?_
      obtain ⟨pinned, makes⟩ := only write member message same
      obtain ⟨seq, rfl⟩ := Message.Draft.makes_eq makes
      exact written.plain rfl
    all_goals exact foreign_slow fun _ posts _ => posts.2.2
  · refine foreign_slow fun message posts written => other ?_
    exact Option.some.inj (posts.1.symm.trans written.author)

end Handlers

section Running

variable {initial : Db} {chatId : ChatId} {userId : UserId} {seconds : Nat} {calls : List SlowCall}

theorem slow_governed (positive : 0 < seconds) : Governed SlowRequest.program
    (slowPact chatId userId seconds) (SlowInv initial chatId userId seconds) where
  obeys tagged _ _ _ := Tx.obeys_void (handle_slow positive tagged)
  refl _ _ _ inv := inv.1
  commit tagged db history _ log inv admitted commits := by
    refine ⟨admitted, fun message member written => ?_⟩
    obtain ⟨other, same, stored | inserted⟩ := mem_messages_applyAll log member
    · rcases inv.2 other stored (writtenBy_sameAs same written) with before | ⟨entry, listed, makes⟩
      · exact .inl (same.id ▸ before)
      · exact .inr ⟨entry, List.mem_append_left _ listed, same.id ▸ makes⟩
    · have makes := commits other inserted (writtenBy_sameAs same written)
      exact .inr ⟨_, List.mem_append_right _ (List.mem_singleton_self _), same.id ▸ makes⟩
  others _ _ _ _ _ _ _ admitted _ _ := admitted

structure SlowTags (chatId : ChatId) (userId : UserId) (seconds : Nat) (calls : List SlowCall)
    (journal : SlowJournal) : Prop where
  told : ∀ tagged ∈ journal.tags, tagged.Told chatId userId seconds calls
  own : journal.tags.Pairwise fun first second => first.call ≠ second.call
  history : ∀ entry ∈ journal.history, entry.1 ∈ journal.tags

theorem slowTags_of_run {journal : SlowJournal} (run : Journal.Runs SlowRequest.program
    (SlowStep chatId userId seconds calls) (Journal.idle initial) journal) :
    SlowTags chatId userId seconds calls journal := by
  induction run with
  | refl => exact ⟨fun _ member => (List.not_mem_nil member).elim, .nil,
      fun _ member => (List.not_mem_nil member).elim⟩
  | @step journal next action before holds stepped ih =>
      obtain ⟨told, own, history⟩ := ih
      cases action with
      | start tagged =>
          rw [Journal.step] at stepped
          obtain ⟨system, _, rfl⟩ := Option.map_eq_some_iff.mp stepped
          refine ⟨fun other member => ?_, ?_, fun entry member => ?_⟩
          · rcases List.mem_append.mp member with old | new
            · exact told other old
            · rw [List.mem_singleton.mp new]
              exact holds.told tagged rfl
          · refine List.pairwise_append.mpr ⟨own, List.pairwise_singleton _ _, ?_⟩
            intro other member last new
            rw [List.mem_singleton.mp new]
            exact holds.own tagged rfl other member
          · exact List.mem_append_left _ (history entry member)
      | rollback index =>
          rw [Journal.step] at stepped
          obtain ⟨system, _, rfl⟩ := Option.map_eq_some_iff.mp stepped
          exact ⟨told, own, history⟩
      | exec index =>
          rw [Journal.step] at stepped
          obtain ⟨system, _, rfl⟩ := Option.map_eq_some_iff.mp stepped
          refine ⟨told, own, fun entry member => ?_⟩
          rcases List.mem_append.mp member with old | new
          · exact history entry old
          · unfold Journal.committed at new
            split at new
            · rename_i log tagged _ found
              rw [List.mem_singleton.mp new]
              exact List.mem_of_getElem? found
            · cases new

theorem setsAt_apart {first second : SlowRequest} {early late : Nat} (apart : first.call < second.call)
    (sets : first.SetsAt chatId userId seconds calls early)
    (after : second.SetsAt chatId userId seconds calls late) : early + 1000 * seconds < late := by
  obtain ⟨bound, here⟩ := List.getElem?_eq_some_iff.mp sets
  obtain ⟨lateBound, there⟩ := List.getElem?_eq_some_iff.mp after
  have grants := List.pairwise_iff_getElem.mp (Cooldown.grants_apart (fun _ => none) calls) first.call
    second.call bound lateBound apart
  unfold slowAnswers at here there
  rw [here, there] at grants
  exact grants rfl rfl rfl

theorem slow_asks {journal : SlowJournal} {action : Action SlowRequest}
    (holds : SlowStep chatId userId seconds calls journal action) :
    Journal.Asks (slowPact chatId userId seconds) journal action := by
  cases action with
  | start _ => trivial
  | rollback _ => trivial
  | exec index =>
      intro session tagged present _
      split
      · trivial
      · rename_i next rest
        have moved : journal.system.step (.exec index) = some
            { db := session.seen journal.system.db
              sessions := journal.system.sessions.set index ⟨[], [], next⟩ } := by
          simp only [System.step, present, rest]
        exact holds.slow _ (by rw [Journal.step, moved, Option.map_some])
      · trivial

/-- Each message of the user was let through, and two of them at least the length of the slow mode
apart. -/
theorem slow_mode_in_run (positive : 0 < seconds) (slow : Slow chatId userId seconds initial)
    {journal : SlowJournal} (run : Journal.Runs SlowRequest.program
      (SlowStep chatId userId seconds calls) (Journal.idle initial) journal) :
    (∀ message ∈ journal.system.db.messages.rows, message.WrittenBy chatId userId →
      initial.message? message.id = none →
        ∃ moment, AcceptedAt chatId userId seconds calls journal.tags message moment) ∧
    journal.system.db.messages.rows.Pairwise fun first second =>
      first.WrittenBy chatId userId → second.WrittenBy chatId userId →
      initial.message? first.id = none → initial.message? second.id = none →
      ∃ early late, AcceptedAt chatId userId seconds calls journal.tags first early ∧
        AcceptedAt chatId userId seconds calls journal.tags second late ∧
        (early + 1000 * seconds < late ∨ late + 1000 * seconds < early) := by
  have tags := slowTags_of_run run
  have start : SlowInv initial chatId userId seconds initial [] := by
    refine ⟨slow, fun message member _ => .inl ?_⟩
    rw [Db.message?, (Table.mem_rows_iff _ _).mp member]
    rfl
  obtain ⟨_, made⟩ := runs_governed (slow_governed positive) start
    (Journal.runs_mono (fun _ _ => slow_asks) run)
  have accepted : ∀ message ∈ journal.system.db.messages.rows, message.WrittenBy chatId userId →
      initial.message? message.id = none →
        ∃ moment, AcceptedAt chatId userId seconds calls journal.tags message moment := by
    intro message member written fresh
    rcases made message member written with before | ⟨entry, listed, makes⟩
    · rw [fresh] at before
      cases before
    · have known := tags.history entry listed
      obtain ⟨moment, sets⟩ := tags.told _ known makes.user makes.target
      exact ⟨moment, entry.1, known, makes, sets⟩
  refine ⟨accepted, ?_⟩
  have distinct := List.pairwise_map.mp journal.system.db.messages.unique
  refine distinct.imp_of_mem fun {first second} inside within different own other fresh new => ?_
  obtain ⟨early, tagged, known, makes, sets⟩ := accepted first inside own fresh
  obtain ⟨late, later, present, makesLater, setsLater⟩ := accepted second within other new
  refine ⟨early, late, ⟨tagged, known, makes, sets⟩, ⟨later, present, makesLater, setsLater⟩, ?_⟩
  have apart : tagged ≠ later := by
    rintro rfl
    exact different (Option.some.inj (makes.message.symm.trans makesLater.message))
  have : Std.Symm fun left right : SlowRequest => left.call ≠ right.call := ⟨fun _ _ => Ne.symm⟩
  have calls := tags.own.forall known present apart
  rcases Nat.lt_or_gt_of_ne calls with before | after
  · exact .inl (setsAt_apart before sets setsLater)
  · exact .inr (setsAt_apart after setsLater sets)

def slowStep (chatId : ChatId) (userId : UserId) (seconds : Nat) (calls : List SlowCall)
    (journal : SlowJournal) (action : Action SlowRequest) : Bool :=
  (match action with
    | .start tagged => journal.tags.all (·.call != tagged.call) &&
        (tagged.request.user.id != userId ||
          tagged.request.command.slowTarget? != some (chatId, none) ||
          (slowAnswers calls)[tagged.call]?.any fun entry =>
            entry.1 == slowCall chatId userId entry.1.moment seconds && entry.2.isNone)
    | _ => true) &&
  (journal.step SlowRequest.program action).all fun next =>
    (next.system.db.openChat? chatId).all fun chat => chat.slowModeSeconds == (seconds : Int) &&
      (next.system.db.member? chatId userId).all fun member => !member.canBypassSlowMode

theorem slowStep_sound (journal : SlowJournal) (action : Action SlowRequest)
    (checked : slowStep chatId userId seconds calls journal action = true) :
    SlowStep chatId userId seconds calls journal action := by
  obtain ⟨started, stays⟩ := Bool.and_eq_true _ _ ▸ checked
  refine ⟨fun tagged same user target => ?_, fun tagged same => ?_, fun next stepped => ?_⟩
  · subst same
    simp only [Bool.and_eq_true, Bool.or_eq_true, bne_iff_ne, ne_eq] at started
    rcases started.2 with (other | away) | granted
    · exact absurd user other
    · exact absurd target away
    · obtain ⟨⟨call, answer⟩, found, same⟩ := Option.any_eq_true _ _ |>.mp granted
      rw [Bool.and_eq_true, beq_iff_eq, Option.isNone_iff_eq_none] at same
      refine ⟨call.moment, found.trans (congrArg some (Prod.ext same.1 same.2))⟩
  · subst same
    simp only [Bool.and_eq_true, List.all_eq_true, bne_iff_ne] at started
    exact started.1
  · rw [stepped, Option.all_some] at stays
    intro chat opened
    rw [opened, Option.all_some, Bool.and_eq_true, beq_iff_eq] at stays
    refine ⟨stays.1, fun member stored => ?_⟩
    have bypasses := stays.2
    rw [stored, Option.all_some, Bool.not_eq_true'] at bypasses
    exact bypasses

def slowGroup : Db :=
  applyAll
    [.insertChat { id := 1, type := .group, createdBy := 1, memberCount := 2, slowModeSeconds := 10 },
      .insertMember 1 1 .owner, .insertMember 1 2 .member] {}

def threeCalls : List SlowCall := [slowCall 1 2 0 10, slowCall 1 2 5000 10, slowCall 1 2 10001 10]

def sending (text : String) (id : MessageId) (slowTtl : Option Nat) (call : Nat) : SlowRequest :=
  ⟨⟨{ id := 2 }, 5, .sendMessage 1 { content := some text } slowTtl id⟩, call⟩

def threeSends : List (Action SlowRequest) :=
  [Action.start (sending "one" 10 none 0), Action.start (sending "two" 11 (some 5) 1),
      Action.start (sending "three" 12 none 2)] ++
    List.replicate 2 (Action.exec 1) ++ List.replicate 8 (Action.exec 2) ++
    List.replicate 8 (Action.exec 0)

theorem slowGroup_slow : Slow 1 2 10 slowGroup := by
  have shown : (slowGroup.openChat? 1).map (·.slowModeSeconds) = some 10 ∧
      (slowGroup.member? 1 2).map (·.canBypassSlowMode) = some false := by decide +kernel
  intro chat opened
  have mode := shown.1
  rw [opened, Option.map_some, Option.some.injEq] at mode
  refine ⟨mode, fun member stored => ?_⟩
  have bypasses := shown.2
  rw [stored, Option.map_some, Option.some.injEq] at bypasses
  exact bypasses

theorem slow_mode_three_sends : ∃ journal : SlowJournal,
    journal.system.db.messages.rows.map (·.id) = [12, 10] ∧
    (∀ message ∈ journal.system.db.messages.rows, message.WrittenBy 1 2 →
      slowGroup.message? message.id = none →
        ∃ moment, AcceptedAt 1 2 10 threeCalls journal.tags message moment) ∧
    journal.system.db.messages.rows.Pairwise fun first second =>
      first.WrittenBy 1 2 → second.WrittenBy 1 2 →
      slowGroup.message? first.id = none → slowGroup.message? second.id = none →
      ∃ early late, AcceptedAt 1 2 10 threeCalls journal.tags first early ∧
        AcceptedAt 1 2 10 threeCalls journal.tags second late ∧
        (early + 1000 * 10 < late ∨ late + 1000 * 10 < early) := by
  have outcome : (((Journal.idle slowGroup : SlowJournal).steps SlowRequest.program
      (slowStep 1 2 10 threeCalls) threeSends).any fun journal =>
        journal.system.db.messages.rows.map (·.id) == [12, 10]) = true := by
    decide +kernel
  obtain ⟨journal, stepped, checked⟩ := Option.any_eq_true _ _ |>.mp outcome
  have run := Journal.runs_of_steps (slowStep 1 2 10 threeCalls) slowStep_sound threeSends .refl stepped
  exact ⟨journal, beq_iff_eq.mp checked, slow_mode_in_run (Nat.succ_pos 9) slowGroup_slow run⟩

end Running

end Messanger
