import Messanger.Chats.MemberEffects
import Messanger.Library.Evaluation
import Messanger.Library.Texts

/-!
The public names of chats.  A name is checked when it is set, goes when its chat turns private, and
is kept unique by an index that also covers the deleted chats; the lookup that tells whether a name
is free does not see those.
-/

namespace Messanger

open Relational

/-- What the rows keep: only public chats that are not direct have a name, the name is as
`validate_username` leaves it, and no two chats have the same one up to case. -/
structure Named (db : Db) : Prop where
  allowed : ∀ chat ∈ db.chats.rows, ∀ name, chat.username = some name →
    chat.type ≠ .direct ∧ chat.isPublic = true ∧ validateUsername name = .ok name
  unique : ∀ left ∈ db.chats.rows, ∀ right ∈ db.chats.rows, ∀ name other,
    left.username = some name → right.username = some other → name.toLower = other.toLower →
      left.id = right.id

/-- A member who may update the chat, which is public and not direct. -/
structure MaySetUsername (db : Db) (user : UserJWTData) (now : Nat) (chatId : ChatId) (chat : Chat) :
    Prop where
  found : db.openChat? chatId = some chat
  authorised : hasPermissions user now (db.member? chatId user.id) [.chatUpdate] = true
  notDirect : chat.type ≠ .direct
  shown : chat.isPublic = true

/-- The command succeeds exactly if `get_by_username` finds no other chat under the name. -/
def SetIffUnoccupied (db : Db) (user : UserJWTData) (now : Nat) (chatId : ChatId)
    (username cleaned : String) : Prop :=
  (∃ changed, ((setChatUsername user now chatId (some username)).exec db).1 = .ok changed) ↔
    db.usernameOccupied chatId cleaned = false

/-- `CreateChat`, `UpdateChat`, `SetChatUsername` and `DeleteChat`. -/
def Request.isNaming (request : Request) : Bool :=
  match request.command with
  | .createChat .. => true
  | .updateChat .. => true
  | .setChatUsername .. => true
  | .deleteChat .. => true
  | _ => false

/-- A deleted chat other than this one still holds the name. -/
def Db.heldByDeleted (db : Db) (chatId : ChatId) (username : String) : Bool :=
  db.chats.rows.any fun chat =>
    chat.id != chatId && chat.deletedAt.isSome &&
      chat.username.any fun held => held.toLower == username.toLower

section Validation

theorem strip_of_letters {text : String}
    (letters : ∀ letter ∈ text.toList, Message.isSpace letter = false) :
    Message.strip text = text := by
  have trimmed : Texts.Trimmed Message.isSpace text.toList := by
    constructor
    · exact fun letter first => letters letter (List.mem_of_head? first)
    · exact fun letter last => letters letter (List.mem_of_getLast? last)
  have kept := Texts.strip_of_trimmed trimmed
  exact (congrArg String.ofList kept).trans String.ofList_toList

theorem isSpace_of_username {letter : Char} (fine : (isAsciiAlnum letter || letter == '_') = true) :
    Message.isSpace letter = false ∧ letter ≠ '@' := by
  have codes : (65 ≤ letter.toNat ∧ letter.toNat ≤ 90) ∨ (97 ≤ letter.toNat ∧ letter.toNat ≤ 122) ∨
      (48 ≤ letter.toNat ∧ letter.toNat ≤ 57) ∨ letter.toNat = 95 := by
    rcases (Bool.or_eq_true _ _).mp fine with plain | mark
    · have code := Texts.alphanum_code plain
      omega
    · rw [beq_iff_eq.mp mark]
      exact .inr (.inr (.inr rfl))
  constructor
  · simp only [Message.isSpace, Bool.or_eq_false_iff, Bool.and_eq_false_iff, beq_eq_false_iff_ne,
      decide_eq_false_iff_not]
    omega
  · rintro rfl
    have code : '@'.toNat = 64 := rfl
    omega

theorem validateUsername_fixed {username cleaned : String}
    (valid : validateUsername username = .ok cleaned) : validateUsername cleaned = .ok cleaned := by
  have shape : ∃ letters : List Char, cleaned = String.ofList letters ∧
      ¬ (letters.length < 5 ∨ 32 < letters.length) ∧ isUsername letters = true ∧
      reservedUsernames.contains (String.ofList letters).toLower = false := by
    simp only [validateUsername] at valid
    generalize (if (Message.strip username).toList.head? = some '@' then
      (Message.strip username).toList.tail else (Message.strip username).toList) = letters at valid
    split at valid
    · cases valid
    · rename_i short
      split at valid
      · cases valid
      · rename_i shaped
        split at valid
        · cases valid
        · rename_i free
          cases valid
          exact ⟨letters, rfl, short, by simpa using shaped, by simpa using free⟩
  obtain ⟨letters, rfl, short, shaped, free⟩ := shape
  have visible : ∀ letter ∈ letters, Message.isSpace letter = false ∧ letter ≠ '@' := by
    intro letter member
    simp only [isUsername, Bool.and_eq_true, List.all_eq_true] at shaped
    exact isSpace_of_username (shaped.2 letter member)
  have stripped : Message.strip (String.ofList letters) = String.ofList letters :=
    strip_of_letters fun letter member => (visible letter (by simpa using member)).1
  have unmarked : letters.head? ≠ some '@' := fun marked =>
    (visible '@' (List.mem_of_head? marked)).2 rfl
  simp only [validateUsername, stripped, String.toList_ofList, if_neg unmarked, if_neg short, shaped,
    free, Bool.not_true, Bool.false_eq_true, if_false]

end Validation

section Writes

variable {db : Db}

theorem mem_patchChat {target : ChatId} {patch : ChatPatch} {chat : Chat}
    (member : chat ∈ (Db.apply (.patchChat target patch) db).chats.rows) :
    ∃ before ∈ db.chats.rows, before.id = chat.id ∧
      (before.id = target ∧ chat = patch.apply before ∨ before.id ≠ target ∧ chat = before) := by
  obtain ⟨before, stored, rfl⟩ := List.mem_map.mp member
  refine ⟨before, stored, ?_⟩
  by_cases here : before.id = target
  · rw [if_pos (decide_eq_true here)]
    exact ⟨rfl, .inl ⟨here, rfl⟩⟩
  · rw [if_neg (by simpa using here)]
    exact ⟨rfl, .inr ⟨here, rfl⟩⟩

theorem usernameTaken_false {chatId : ChatId} {name : String}
    (free : db.usernameTaken chatId name = false) {chat : Chat} (stored : chat ∈ db.chats.rows)
    (apart : chat.id ≠ chatId) {held : String} (holds : chat.username = some held) :
    held.toLower ≠ name.toLower := by
  have other := (List.any_eq_false.mp free) chat stored
  simpa [apart, holds] using other

theorem named_patchChat (named : Named db) {target : ChatId} {patch : ChatPatch}
    (fits : ∀ chat ∈ db.chats.rows, chat.id = target → ∀ name, (patch.apply chat).username = some name →
      (patch.apply chat).isPublic = true ∧ (chat.username = some name ∨
        chat.type ≠ .direct ∧ validateUsername name = .ok name ∧ db.usernameTaken target name = false)) :
    Named (Db.apply (.patchChat target patch) db) := by
  -- The patched chat meets no other chat of its name.
  have alone : ∀ patched ∈ db.chats.rows, patched.id = target → ∀ other ∈ db.chats.rows,
      ∀ name held, (patch.apply patched).username = some name → other.username = some held →
        name.toLower = held.toLower → target = other.id := by
    intro patched stored here other present name held named' holds same
    obtain ⟨_, kept | ⟨_, _, free⟩⟩ := fits patched stored here name named'
    · exact here.symm.trans (named.unique patched stored other present name held kept holds same)
    · by_contra apart
      exact usernameTaken_false free present (fun equal => apart equal.symm) holds same.symm
  refine ⟨fun chat member name holds => ?_, fun left first right second name other holds held same => ?_⟩
  · obtain ⟨before, stored, _, ⟨here, rfl⟩ | ⟨_, rfl⟩⟩ := mem_patchChat member
    · obtain ⟨isPublic, kept | ⟨notDirect, valid, _⟩⟩ := fits before stored here name holds
      · have facts := named.allowed before stored name kept
        exact ⟨facts.1, isPublic, facts.2.2⟩
      · exact ⟨notDirect, isPublic, valid⟩
    · exact named.allowed _ stored name holds
  · obtain ⟨leftBefore, leftStored, leftId, ⟨leftHere, rfl⟩ | ⟨leftApart, rfl⟩⟩ := mem_patchChat first
    · obtain ⟨rightBefore, rightStored, rightId, ⟨rightHere, rfl⟩ | ⟨_, rfl⟩⟩ := mem_patchChat second
      · exact leftId.symm.trans ((leftHere.trans rightHere.symm).trans rightId)
      · exact leftId.symm.trans (leftHere.trans
          (alone leftBefore leftStored leftHere _ rightStored name other holds held same))
    · obtain ⟨rightBefore, rightStored, rightId, ⟨rightHere, rfl⟩ | ⟨_, rfl⟩⟩ := mem_patchChat second
      · exact (alone rightBefore rightStored rightHere _ leftStored other name held holds
          same.symm).symm.trans (rightHere.symm.trans rightId)
      · exact named.unique _ leftStored _ rightStored name other holds held same

theorem named_insertChat (named : Named db) {chat : Chat} (unnamed : chat.username = none) :
    Named (Db.apply (.insertChat chat) db) := by
  refine ⟨fun row member name holds => ?_, fun left first right second name other holds held same => ?_⟩
  · rcases Table.mem_insert member with stored | rfl
    · exact named.allowed row stored name holds
    · cases unnamed.symm.trans holds
  · rcases Table.mem_insert first with leftStored | rfl
    · rcases Table.mem_insert second with rightStored | rfl
      · exact named.unique left leftStored right rightStored name other holds held same
      · cases unnamed.symm.trans held
    · cases unnamed.symm.trans holds

theorem Named.congr {after : Db} (named : Named db) (chats : after.chats = db.chats) : Named after where
  allowed := by
    rw [chats]
    exact named.allowed
  unique := by
    rw [chats]
    exact named.unique

end Writes

section Commands

variable {user : UserJWTData} {now : Nat} {chatId : ChatId} {db : Db}

theorem ends_publish_named {Result : Type} {Post : Result → Db → Prop} {committed seen : Db}
    {events : List ChatEvent} {rest : Unit → Handler Result} (named : Named seen)
    (next : ∀ after, Named after → (rest ()).Ends committed after Post) :
    ((publish events).bind rest).Ends committed seen Post :=
  Tx.ends_statement fun _ _ => next _ (named.congr rfl)

theorem create_unnamed {new : NewChat} {id : ChatId} {created : CreatedChat}
    (built : Chat.create user.id new id = .ok created) : created.chat.username = none := by
  simp only [Chat.create, bind, Except.bind, pure, Except.pure, throw, throwThe,
    MonadExceptOf.throw] at built
  repeat' split at built
  all_goals cases built
  rfl

theorem named_createChat (named : Named db) (new : NewChat) (id : ChatId) :
    (createChat user new id).Ends db db fun _ final => Named final := by
  unfold createChat
  simp only [Tx.bind_eq, Tx.pure_eq]
  refine Tx.ends_ofExcept fun created built => ?_
  have saved : (saveChat created user.id).Ends db db fun _ final => Named final := by
    unfold saveChat insertChat
    simp only [Tx.bind_eq, Tx.pure_eq]
    refine Tx.ends_statement fun _ answered => ?_
    split at answered
    · cases answered
    · rename_i free
      rw [if_neg free]
      refine Tx.ends_each Named (fun seen still => ?_) _ (fun entry _ seen next still onwards => ?_) _
        (named_insertChat named (create_unnamed built))
      · exact ends_publish_named still fun after last => Tx.ends_commit last
      · exact ends_insertMember (onwards _ (still.congr rfl))
  split
  · refine Tx.ends_read ?_
    split
    · exact Tx.ends_done named
    · exact Tx.ends_statement fun _ _ => saved
  · exact Tx.ends_statement fun _ _ => saved

theorem changed_username {chat : Chat} {changes : ChatChanges} {patch : ChatPatch}
    (changed : chat.changed changes = .ok patch) :
    patch.username = (if changes.isPublic = some false then Relational.changed chat.username none
      else none) ∧ patch.isPublic = changes.isPublic.bind (Relational.changed chat.isPublic) := by
  simp only [Chat.changed, bind, Except.bind, pure, Except.pure, throw, throwThe,
    MonadExceptOf.throw] at changed
  repeat' split at changed
  all_goals cases changed
  all_goals exact ⟨by simp [*], rfl⟩

theorem named_updateChat (named : Named db) (changes : ChatChanges) :
    (updateChat user now chatId changes).Ends db db fun _ final => Named final := by
  unfold updateChat
  simp only [Tx.bind_eq, Tx.pure_eq]
  refine Tx.ends_read (Tx.ends_orRaise fun chat found => Tx.ends_read ?_)
  refine Tx.ends_require fun _ => Tx.ends_ofExcept fun patch changed => ends_flushChat ?_
  refine ends_publish_named (named_patchChat named fun row stored here name holds => ?_)
    fun after last => Tx.ends_commit last
  obtain ⟨present, _⟩ := Option.filter_eq_some_iff.mp found
  obtain rfl := db.chats.row_unique stored (List.mem_of_find?_eq_some present) here
  obtain ⟨username, isPublic⟩ := changed_username changed
  simp only [ChatPatch.apply, username, isPublic] at holds ⊢
  by_cases hidden : changes.isPublic = some false
  · rw [if_pos hidden, Relational.getD_changed] at holds
    cases holds
  · rw [if_neg hidden] at holds
    have kept : row.username = some name := holds
    refine ⟨?_, .inl kept⟩
    cases asked : changes.isPublic with
    | none => exact (named.allowed row stored name kept).2.1
    | some shown =>
        rw [Option.bind_some, Relational.getD_changed]
        cases shown with
        | true => rfl
        | false => exact absurd asked hidden

theorem named_deleteChat (named : Named db) :
    (deleteChat user now chatId).Ends db db fun _ final => Named final := by
  unfold deleteChat
  simp only [Tx.bind_eq, Tx.pure_eq]
  refine Tx.ends_statement fun found _ => Tx.ends_require fun _ => ends_patchChat ?_
  refine ends_publish_named (named_patchChat named fun row stored _ name holds => ?_)
    fun after last => Tx.ends_commit last
  exact ⟨(named.allowed row stored name holds).2.1, .inl holds⟩

theorem usernameAllowed_ok {chat : Chat} {name : String}
    (allowed : chat.usernameAllowed (some name) = .ok ()) :
    chat.type ≠ .direct ∧ chat.isPublic = true := by
  simp only [Chat.usernameAllowed, Option.isNone_some, Bool.false_eq_true, if_false] at allowed
  split at allowed
  · cases allowed
  · rename_i notDirect
    split at allowed
    · cases allowed
    · rename_i shown
      exact ⟨notDirect, by simpa using shown⟩

theorem mapM_validated {username : Option String} {name : String}
    (valid : username.mapM validateUsername = .ok (some name)) : ∃ raw, username = some raw ∧
      validateUsername raw = .ok name := by
  cases username with
  | none => cases valid
  | some raw =>
      cases outcome : validateUsername raw with
      | error error =>
          rw [Option.mapM_some, outcome] at valid
          cases valid
      | ok cleaned =>
          rw [Option.mapM_some, outcome] at valid
          cases valid
          exact ⟨raw, rfl, outcome⟩

theorem named_setChatUsername (named : Named db) (username : Option String) :
    (setChatUsername user now chatId username).Ends db db fun _ final => Named final := by
  unfold setChatUsername
  simp only [Tx.bind_eq, Tx.pure_eq]
  refine Tx.ends_read (Tx.ends_orRaise fun chat found => Tx.ends_read ?_)
  refine Tx.ends_require fun _ => Tx.ends_ofExcept fun cleaned valid => ?_
  split
  · exact Tx.ends_done named
  · refine Tx.ends_statement fun _ _ => Tx.ends_ofExcept fun _ allowed => ?_
    refine Tx.ends_statement fun _ free => ends_patchChat ?_
    refine ends_publish_named (named_patchChat named fun row stored here name holds => ?_)
      fun after last => Tx.ends_commit last
    obtain rfl : cleaned = some name := holds
    obtain ⟨present, _⟩ := Option.filter_eq_some_iff.mp found
    obtain rfl := db.chats.row_unique stored (List.mem_of_find?_eq_some present) here
    obtain ⟨notDirect, shown⟩ := usernameAllowed_ok allowed
    refine ⟨shown, .inr ⟨notDirect, ?_, ?_⟩⟩
    · obtain ⟨_, _, validated⟩ := mapM_validated valid
      exact validateUsername_fixed validated
    · rw [Option.any_some] at free
      split at free
      · cases free
      · rename_i untaken
        exact Bool.not_eq_true _ ▸ untaken

theorem named_perform (named : Named db) {request : Request} (naming : request.isNaming = true) :
    Named (perform request db).2 := by
  obtain ⟨user, now, command⟩ := request
  cases command
  case createChat => exact perform_of_ends rfl (named_createChat named ..) named
  case updateChat => exact perform_of_ends rfl (named_updateChat named ..) named
  case setChatUsername => exact perform_of_ends rfl (named_setChatUsername named ..) named
  case deleteChat => exact perform_of_ends rfl (named_deleteChat named) named
  all_goals cases naming

theorem setChatUsername_succeeds {chat : Chat} (may : MaySetUsername db user now chatId chat)
    {username cleaned : String} (valid : validateUsername username = .ok cleaned) :
    (∃ changed, ((setChatUsername user now chatId (some username)).exec db).1 = .ok changed) ↔
      some cleaned = chat.username ∨
        db.usernameOccupied chat.id cleaned = false ∧ db.usernameTaken chat.id cleaned = false := by
  obtain ⟨found, authorised, notDirect, shown⟩ := may
  obtain ⟨present, _⟩ := Option.filter_eq_some_iff.mp found
  have stored : (db.chat? chat.id).isSome = true := by
    rw [Db.openChat_id found, present]
    rfl
  have mapped : (some username).mapM validateUsername = Except.ok (some cleaned) := by
    rw [Option.mapM_some, valid]
    rfl
  have permitted : chat.usernameAllowed (some cleaned) = .ok () := by
    simp [Chat.usernameAllowed, notDirect, shown]
  simp only [Tx.exec, setChatUsername, getById, getMemberChat, checked, patchChat, updateRow, publish,
    Tx.bind_eq, Tx.pure_eq, Tx.run_read, Tx.run_orRaise, Tx.run_require, Tx.run_ofExcept, found,
    authorised, mapped, if_true]
  by_cases same : some cleaned = chat.username
  · rw [if_pos same]
    exact ⟨fun _ => .inl same, fun _ => ⟨chat, rfl⟩⟩
  · rw [if_neg same, Tx.run_statement]
    cases occupied : db.usernameOccupied chat.id cleaned with
    | true =>
        simp [occupied, same]
    | false =>
        simp only [Option.any_some, occupied, Bool.false_eq_true, if_false, Tx.run_ofExcept, permitted,
          applyAll_nil, Tx.run_statement, stored, if_true]
        by_cases taken : db.usernameTaken chat.id cleaned = true
        · simp [taken, same]
        · have free : db.usernameTaken chat.id cleaned = false := Bool.eq_false_iff.mpr taken
          simp only [free, and_self, or_true, iff_true]
          exact ⟨_, rfl⟩

theorem usernameTaken_eq (db : Db) (chatId : ChatId) (name : String) :
    db.usernameTaken chatId name = (db.usernameOccupied chatId name || db.heldByDeleted chatId name) := by
  unfold Db.usernameTaken Db.usernameOccupied Db.heldByDeleted
  rw [Bool.eq_iff_iff]
  simp only [Bool.or_eq_true, List.any_eq_true, Bool.and_eq_true]
  constructor
  · rintro ⟨chat, stored, apart, holds⟩
    cases gone : chat.deletedAt with
    | none => exact .inl ⟨chat, stored, ⟨apart, by rw [gone]; rfl⟩, holds⟩
    | some date => exact .inr ⟨chat, stored, ⟨apart, by rw [gone]; rfl⟩, holds⟩
  · rintro (⟨chat, stored, ⟨apart, _⟩, holds⟩ | ⟨chat, stored, ⟨apart, _⟩, holds⟩)
    · exact ⟨chat, stored, apart, holds⟩
    · exact ⟨chat, stored, apart, holds⟩

theorem Named.held_once (named : Named db) {name : String}
    (occupied : db.usernameOccupied chatId name = true) : db.heldByDeleted chatId name = false := by
  rw [Bool.eq_false_iff]
  intro deleted
  obtain ⟨live, liveStored, liveHolds⟩ := List.any_eq_true.mp occupied
  obtain ⟨gone, goneStored, goneHolds⟩ := List.any_eq_true.mp deleted
  simp only [Bool.and_eq_true, Option.any_eq_true, beq_iff_eq] at liveHolds goneHolds
  obtain ⟨⟨_, open'⟩, held, liveName, liveSame⟩ := liveHolds
  obtain ⟨⟨_, closed⟩, other, goneName, goneSame⟩ := goneHolds
  have same := named.unique live liveStored gone goneStored held other liveName goneName
    (liveSame.trans goneSame.symm)
  rw [db.chats.row_unique liveStored goneStored same] at open'
  rw [Option.isNone_iff_eq_none.mp open'] at closed
  cases closed

theorem Named.own_free (named : Named db) {chat : Chat} (stored : chat ∈ db.chats.rows) {name : String}
    (holds : chat.username = some name) : db.usernameTaken chat.id name = false := by
  rw [Bool.eq_false_iff]
  intro taken
  obtain ⟨other, otherStored, otherHolds⟩ := List.any_eq_true.mp taken
  simp only [Bool.and_eq_true, Option.any_eq_true, beq_iff_eq, bne_iff_ne] at otherHolds
  obtain ⟨apart, held, otherName, same⟩ := otherHolds
  exact apart (named.unique other otherStored chat stored held name otherName holds same)

theorem setIffUnoccupied_iff (named : Named db) {chat : Chat}
    (may : MaySetUsername db user now chatId chat) {username cleaned : String}
    (valid : validateUsername username = .ok cleaned) :
    SetIffUnoccupied db user now chatId username cleaned ↔ db.heldByDeleted chatId cleaned = false := by
  obtain ⟨present, _⟩ := Option.filter_eq_some_iff.mp may.found
  have stored := List.mem_of_find?_eq_some present
  rw [SetIffUnoccupied, setChatUsername_succeeds may valid]
  obtain rfl := Db.openChat_id may.found
  have own : some cleaned = chat.username → db.usernameTaken chat.id cleaned = false :=
    fun holds => named.own_free stored holds.symm
  have once : db.usernameOccupied chat.id cleaned = true → db.heldByDeleted chat.id cleaned = false :=
    named.held_once
  rw [usernameTaken_eq, Bool.or_eq_false_iff] at own
  rw [usernameTaken_eq, Bool.or_eq_false_iff]
  cases occupied : db.usernameOccupied chat.id cleaned with
  | true =>
      rw [occupied] at own once
      simp only [Bool.true_eq_false, false_and, or_false, iff_false, once rfl, iff_true]
      exact fun holds => Bool.noConfusion (own holds).1
  | false =>
      simp only [true_and, iff_true]
      exact ⟨fun either => either.elim (fun holds => (own holds).2) id, .inr⟩

end Commands

theorem named_run {db final : Db} (empty : db.chats = .empty)
    (run : Reaches (fun _ request => request.isNaming = true) db final) : Named final := by
  refine reaches_invariant Named ⟨fun chat member => ?_, fun left member => ?_⟩
    (fun _ _ naming named => named_perform named naming) run
  · rw [empty] at member
    cases member
  · rw [empty] at member
    cases member

def nameOfDeleted : Db :=
  [Command.createChat { chatType := .group, memberIds := [], isPublic := true } 1,
    .setChatUsername 1 (some "@letters"), .deleteChat 1,
    .createChat { chatType := .group, memberIds := [], isPublic := true } 2].foldl
      (fun db command => (perform ⟨{ id := 1 }, 0, command⟩ db).2) {}

theorem nameOfDeleted_reached :
    Reaches (fun _ request => request.isNaming = true) {} nameOfDeleted :=
  .step (.step (.step (.step .refl rfl) rfl) rfl) rfl

theorem nameOfDeleted_may : ∃ chat, MaySetUsername nameOfDeleted { id := 1 } 0 2 chat := by
  have checked : (nameOfDeleted.openChat? 2).any (fun chat => chat.type != .direct && chat.isPublic &&
      hasPermissions { id := 1 } 0 (nameOfDeleted.member? 2 1) [.chatUpdate]) = true := by
    decide +kernel
  obtain ⟨chat, found, facts⟩ := (Option.any_eq_true _ _).mp checked
  simp only [Bool.and_eq_true, bne_iff_ne] at facts
  exact ⟨chat, found, facts.2, facts.1.1, facts.1.2⟩

/-- The lookup reports the name free, the index refuses it. -/
theorem deleted_name_refused : ¬ ∀ (db final : Db), db.chats = .empty →
    Reaches (fun _ request => request.isNaming = true) db final →
      Named final ∧ ∀ user now chatId chat username cleaned, MaySetUsername final user now chatId chat →
        validateUsername username = .ok cleaned →
          SetIffUnoccupied final user now chatId username cleaned := by
  intro claim
  obtain ⟨chat, may⟩ := nameOfDeleted_may
  have valid : validateUsername "letters" = .ok "letters" := by decide +kernel
  obtain ⟨named, accepted⟩ := claim {} nameOfDeleted rfl nameOfDeleted_reached
  have free := (setIffUnoccupied_iff named may valid).mp
    (accepted { id := 1 } 0 2 chat "letters" "letters" may valid)
  have held : nameOfDeleted.heldByDeleted 2 "letters" = true := by decide +kernel
  rw [held] at free
  cases free

/-- After any of the commands, names are in order; and setting one succeeds exactly if the lookup
finds no other holder, unless a deleted chat still holds it. -/
theorem usernames_in_run (db final : Db) (empty : db.chats = .empty)
    (run : Reaches (fun _ request => request.isNaming = true) db final) :
    Named final ∧ ∀ user now chatId chat username cleaned, MaySetUsername final user now chatId chat →
      validateUsername username = .ok cleaned →
        (SetIffUnoccupied final user now chatId username cleaned ↔
          final.heldByDeleted chatId cleaned = false) := by
  have named := named_run empty run
  exact ⟨named, fun user now chatId chat username cleaned may valid =>
    setIffUnoccupied_iff named may valid⟩

theorem usernames_after_deletion : Named nameOfDeleted ∧
    ∃ changed, ((setChatUsername { id := 1 } 0 2 (some "@numbers")).exec nameOfDeleted).1 =
      .ok changed := by
  obtain ⟨chat, may⟩ := nameOfDeleted_may
  have valid : validateUsername "@numbers" = .ok "numbers" := by decide +kernel
  obtain ⟨named, accepted⟩ := usernames_in_run {} nameOfDeleted rfl nameOfDeleted_reached
  have set := (accepted { id := 1 } 0 2 chat "@numbers" "numbers" may valid).mpr (by decide +kernel)
  exact ⟨named, set.mpr (by decide +kernel)⟩

end Messanger
