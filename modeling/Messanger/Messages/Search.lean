import Messanger.Library.Keyset
import Messanger.Library.TextSearch
import Messanger.Messages.QueriesCore

/-!
The search of messages.  The words of the query are folded by Python, those of the messages by
Postgres; the pages are read by falling message ids.
-/

namespace Messanger

open Relational
open TextSearch (Query)

/-- What is known of characters: `\w`, `str.casefold`, which may make several characters of one,
and the lower case of Postgres, which does not. -/
structure Letters where
  isWord : Char → Bool
  casefold : Char → List Char
  lower : Char → Char
  space : isWord ' ' = false

def messageSearchMaxTerms : Nat := 10

namespace Letters

variable (letters : Letters)

/-- `_TERM_SEPARATOR.split(q.casefold())` without the empty pieces, cut. -/
def searchTerms (q : String) : List (List Char) :=
  (TextSearch.words letters.isWord (q.toList.flatMap letters.casefold)).take messageSearchMaxTerms

/-- `to_tsvector('simple', text)`. -/
def toTsvector (text : String) : List (List Char) :=
  (TextSearch.words letters.isWord text.toList).map fun word => word.map letters.lower

/-- `to_tsvector('simple', content) @@ to_tsquery('simple', tsquery)`, true of no `NULL`. -/
def tsMatches (tsquery : Query Char) (content : Option String) : Bool :=
  content.any fun text => tsquery.holds (letters.toTsvector text)

end Letters

structure MessageSearchDTO where
  hasNext : Bool
  items : List (Message × Chat)
  nextMessageId : Option MessageId
  deriving DecidableEq, Repr

section Handler

variable (letters : Letters) (user : UserJWTData) (now : Nat)

/-- `SearchMessagesQueryHandler.handle`: the terms but the last are whole words, the last one is
the beginning of a word. -/
def searchMessagesPage (q : String) (chatId : Option ChatId) (limit : Int)
    (lastMessageId : Option MessageId) : Handler MessageSearchDTO :=
  match Query.ofWords (letters.searchTerms q) with
  | none => return ⟨false, [], none⟩
  | some tsquery => do
      let page ← searchMessages user now (letters.tsMatches tsquery) limit chatId lastMessageId
      return ⟨page.hasNext, page.items,
        if page.hasNext then page.items.getLast?.map fun item => item.1.id else none⟩

def fetchMessages (db : Db) (q : String) (chatId : Option ChatId) (limit : Int)
    (lastMessageId : Option MessageId) : Option (Keyset.Page (Message × Chat) MessageId) :=
  (((searchMessagesPage letters user now q chatId limit lastMessageId).exec db).1.toOption).map
    fun page => ⟨page.items, page.hasNext, page.nextMessageId⟩

end Handler

def Letters.ContainsWords (letters : Letters) (q : String) (content : Option String) : Prop :=
  ∃ text last, content = some text ∧ (letters.toTsvector q).getLast? = some last ∧
    (∀ word ∈ (letters.toTsvector q).dropLast, word ∈ letters.toTsvector text) ∧
    ∃ word ∈ letters.toTsvector text, last <+: word

def Sought (letters : Letters) (db : Db) (user : UserJWTData) (now : Nat) (q : String)
    (chatId : Option ChatId) (message : Message) : Prop :=
  message ∈ db.messages.rows ∧ message.isDeleted = false ∧
    (db.openChat? message.chatId).isSome = true ∧
    (∃ member, db.member? message.chatId user.id = some member ∧ member.isBanned now = false) ∧
    (∀ wanted ∈ chatId, message.chatId = wanted) ∧ letters.ContainsWords q message.content

/-- Following the cursors ends, and has shown each message that is sought once and no other. -/
def SearchComplete (letters : Letters) (q : String) : Prop :=
  ∀ (db : Db) (user : UserJWTData) (now : Nat) (chatId : Option ChatId) (limit : Int),
    (∃ items, Keyset.Follows (fetchMessages letters user now db q chatId limit) none items) ∧
    ∀ items, Keyset.Follows (fetchMessages letters user now db q chatId limit) none items →
      (items.map fun item => item.1.id).Nodup ∧
        ∀ message, message ∈ items.map Prod.fst ↔ Sought letters db user now q chatId message

/-- The terms of the query, folded by Python, and its words, folded by Postgres, ask for the
same. -/
def Letters.Agree (letters : Letters) (q : String) : Prop :=
  ∃ asked wanted, Query.ofWords (letters.searchTerms q) = some asked ∧
    Query.ofWords (letters.toTsvector q) = some wanted ∧ asked.Agrees wanted

section Pages

variable {letters : Letters} {db : Db} {user : UserJWTData} {now : Nat} {q : String}
  {chatId : Option ChatId} {limit : Int}

def Letters.finds (letters : Letters) (q : String) (content : Option String) : Bool :=
  (Query.ofWords (letters.searchTerms q)).any fun tsquery => letters.tsMatches tsquery content

def Db.searchedRow (db : Db) (user : UserJWTData) (now : Nat) («matches» : Option String → Bool)
    (chatId : Option ChatId) (message : Message) : Option (Message × Chat) :=
  match db.openChat? message.chatId, db.member? message.chatId user.id with
  | some chat, some member =>
      if !member.isBanned now && !message.isDeleted && «matches» message.content &&
          (match chatId with | none => true | some wanted => message.chatId == wanted) then
        some (message, chat)
      else none
  | _, _ => none

def Db.searched (db : Db) (user : UserJWTData) (now : Nat) («matches» : Option String → Bool)
    (chatId : Option ChatId) : List (Message × Chat) :=
  db.messages.rows.filterMap (db.searchedRow user now «matches» chatId)

def searchedPast (db : Db) (user : UserJWTData) (now : Nat) («matches» : Option String → Bool)
    (chatId : Option ChatId) (lastMessageId : Option MessageId) : List (Message × Chat) :=
  Keyset.newest (fun item => item.1.id) ((db.searched user now «matches» chatId).filter fun item =>
    match lastMessageId with
    | none => true
    | some last => decide (item.1.id < last))

theorem searchedRow_iff {«matches» : Option String → Bool} {message : Message}
    {item : Message × Chat} : db.searchedRow user now «matches» chatId message = some item ↔
      item.1 = message ∧ message.isDeleted = false ∧ db.openChat? message.chatId = some item.2 ∧
      (∃ member, db.member? message.chatId user.id = some member ∧ member.isBanned now = false) ∧
      (∀ wanted ∈ chatId, message.chatId = wanted) ∧ «matches» message.content = true := by
  obtain ⟨shown, chat⟩ := item
  have wanted : (match chatId with
      | none => true
      | some wanted => message.chatId == wanted) = true ↔ ∀ wanted ∈ chatId, message.chatId = wanted := by
    cases chatId with
    | none => simp
    | some wanted => simp
  unfold Db.searchedRow
  split
  · rename_i found member opened own
    rw [Option.ite_none_right_eq_some]
    simp only [Bool.and_eq_true, Bool.not_eq_true', wanted, opened, own, Option.some.injEq,
      Prod.mk.injEq]
    constructor
    · rintro ⟨⟨⟨⟨active, live⟩, holds⟩, here⟩, rfl, rfl⟩
      exact ⟨rfl, live, rfl, ⟨member, rfl, active⟩, here, holds⟩
    · rintro ⟨rfl, live, rfl, ⟨_, rfl, active⟩, here, holds⟩
      exact ⟨⟨⟨⟨active, live⟩, holds⟩, here⟩, rfl, rfl⟩
  · rename_i missing
    refine iff_of_false (fun found => nomatch found) ?_
    rintro ⟨_, _, opened, ⟨member, own, _⟩, _⟩
    exact missing chat member opened own

theorem mem_searched {«matches» : Option String → Bool} {item : Message × Chat} :
    item ∈ db.searched user now «matches» chatId ↔ item.1 ∈ db.messages.rows ∧
      db.searchedRow user now «matches» chatId item.1 = some item := by
  rw [Db.searched, List.mem_filterMap]
  constructor
  · rintro ⟨message, stored, found⟩
    obtain rfl := (searchedRow_iff.mp found).1
    exact ⟨stored, found⟩
  · rintro ⟨stored, found⟩
    exact ⟨item.1, stored, found⟩

theorem searched_distinct (db : Db) (user : UserJWTData) (now : Nat)
    («matches» : Option String → Bool) (chatId : Option ChatId) :
    ((db.searched user now «matches» chatId).map fun item => item.1.id).Nodup := by
  refine List.pairwise_map.mpr ((List.pairwise_map.mp db.messages.unique).filterMap _ ?_)
  intro left right apart leftRow leftFound rightRow rightFound
  rw [(searchedRow_iff.mp leftFound).1, (searchedRow_iff.mp rightFound).1]
  exact apart

theorem filter_guard {Item : Type} (guard : Bool) (item : Item) (wanted : Item → Bool) :
    (if guard then some item else none).filter wanted =
      if guard && wanted item then some item else none := by
  cases guard with
  | false => rfl
  | true => rfl

theorem searchedPast_eq («matches» : Option String → Bool) (lastMessageId : Option MessageId) :
    searchedPast db user now «matches» chatId lastMessageId =
      (db.messages.rows.filterMap fun message =>
        match db.openChat? message.chatId, db.member? message.chatId user.id with
        | some chat, some member =>
            if !member.isBanned now && !message.isDeleted && «matches» message.content &&
                (match chatId with | none => true | some wanted => message.chatId == wanted) &&
                (match lastMessageId with
                  | none => true
                  | some last => decide (message.id < last)) then
              some (message, chat)
            else none
        | _, _ => none).insertionSort fun left right => right.1.id ≤ left.1.id := by
  rw [searchedPast, Keyset.newest, Db.searched, List.filter_filterMap]
  refine congrArg (List.insertionSort _) (List.filterMap_congr fun message _ => ?_)
  unfold Db.searchedRow
  cases db.openChat? message.chatId with
  | none => rfl
  | some chat =>
      cases db.member? message.chatId user.id with
      | none => rfl
      | some member => exact filter_guard _ (message, chat) _

theorem fetch_page (lastMessageId : Option MessageId) :
    ∃ page, fetchMessages letters user now db q chatId limit lastMessageId = some page ∧
      page.items = (searchedPast db user now (letters.finds q) chatId lastMessageId).take
        (clampLimit limit 50) ∧
      page.hasNext = decide (clampLimit limit 50 <
        (searchedPast db user now (letters.finds q) chatId lastMessageId).length) ∧
      (page.hasNext = true → page.nextCursor = page.items.getLast?.map fun item => item.1.id) := by
  unfold fetchMessages searchMessagesPage
  cases asked : Query.ofWords (letters.searchTerms q) with
  | none =>
      have nothing : searchedPast db user now (letters.finds q) chatId lastMessageId = [] := by
        refine List.eq_nil_iff_forall_not_mem.mpr fun item member => ?_
        have listed := (List.mem_filter.mp (Keyset.mem_newest.mp member)).1
        have found := (searchedRow_iff.mp (mem_searched.mp listed).2).2.2.2.2.2
        rw [Letters.finds, asked] at found
        cases found
      rw [nothing]
      exact ⟨_, rfl, List.take_nil.symm, (decide_eq_false (Nat.not_lt_zero _)).symm,
        fun goes => nomatch goes⟩
  | some tsquery =>
      have same : letters.finds q = letters.tsMatches tsquery := by
        funext content
        rw [Letters.finds, asked]
        rfl
      rw [same, searchedPast_eq]
      exact ⟨_, rfl, rfl, rfl, fun goes => if_pos goes⟩

theorem shows_search :
    Keyset.Shows (fetchMessages letters user now db q chatId limit) (clampLimit limit 50)
      (Keyset.Naming (fun item => item.1.id) (searchedPast db user now (letters.finds q) chatId none))
      (searchedPast db user now (letters.finds q) chatId) := by
  have distinct := searched_distinct db user now (letters.finds q) chatId
  have whole : searchedPast db user now (letters.finds q) chatId none =
      Keyset.newest (fun item => item.1.id) (db.searched user now (letters.finds q) chatId) := by
    rw [searchedPast, List.filter_true]
  refine Keyset.shows_of_naming (whole ▸ Keyset.newest_falling distinct) ?_ rfl ?_
    fun cursor _ => fetch_page cursor
  · unfold clampLimit
    omega
  · intro item _
    rw [whole, ← Keyset.newest_filter distinct]
    rfl

theorem follows_searched (items : List (Message × Chat)) :
    Keyset.Follows (fetchMessages letters user now db q chatId limit) none items ↔
      items = Keyset.newest (fun item => item.1.id)
        (db.searched user now (letters.finds q) chatId) := by
  have shows := @shows_search letters db user now q chatId limit
  have whole : searchedPast db user now (letters.finds q) chatId none =
      Keyset.newest (fun item => item.1.id) (db.searched user now (letters.finds q) chatId) := by
    rw [searchedPast, List.filter_true]
  rw [← whole]
  constructor
  · exact fun follows => shows.follows_all follows (.inl rfl)
  · rintro rfl
    exact shows.follows_end (clampLimit_pos limit (by decide)) (.inl rfl)

theorem shown_iff {message : Message} :
    message ∈ (Keyset.newest (fun item : Message × Chat => item.1.id)
      (db.searched user now (letters.finds q) chatId)).map Prod.fst ↔
      message ∈ db.messages.rows ∧ message.isDeleted = false ∧
        (db.openChat? message.chatId).isSome = true ∧
        (∃ member, db.member? message.chatId user.id = some member ∧ member.isBanned now = false) ∧
        (∀ wanted ∈ chatId, message.chatId = wanted) ∧ letters.finds q message.content = true := by
  simp only [List.mem_map, Keyset.mem_newest, mem_searched, searchedRow_iff]
  constructor
  · rintro ⟨item, ⟨stored, _, live, opened, facts⟩, rfl⟩
    exact ⟨stored, live, by rw [opened]; rfl, facts⟩
  · rintro ⟨stored, live, opened, facts⟩
    obtain ⟨chat, found⟩ := Option.isSome_iff_exists.mp opened
    exact ⟨(message, chat), ⟨stored, trivial, live, found, facts⟩, rfl⟩

theorem complete_of_finds
    (finds : ∀ text, letters.finds q (some text) = true ↔ letters.ContainsWords q (some text)) :
    SearchComplete letters q := by
  intro db user now chatId limit
  refine ⟨⟨_, (follows_searched _).mpr rfl⟩, fun items follows => ?_⟩
  rw [(follows_searched items).mp follows]
  refine ⟨(Keyset.newest_perm.map _).nodup_iff.mpr (searched_distinct ..), fun message => ?_⟩
  have same : letters.finds q message.content = true ↔ letters.ContainsWords q message.content := by
    cases message.content with
    | some text => exact finds text
    | none =>
        refine iff_of_false (fun found => ?_) fun ⟨_, _, absent, _⟩ => nomatch absent
        obtain ⟨_, _, found⟩ := (Option.any_eq_true _ _).mp found
        cases found
  rw [shown_iff, Sought, same]

def searchedGroup (text : String) : Db :=
  { chats := ⟨[{ id := 1, type := .group, createdBy := 1, seqCounter := 1 }], by decide⟩
    members := ⟨[{ id := 1, chatId := 1, userId := 1, roleId := .owner }], by decide⟩
    messages := ⟨[{ id := 1, chatId := 1, seq := 1, authorId := some 1, content := some text }],
      List.nodup_singleton _⟩ }

theorem finds_of_complete (complete : SearchComplete letters q) (text : String) :
    letters.finds q (some text) = true ↔ letters.ContainsWords q (some text) := by
  have shown := ((complete (searchedGroup text) { id := 1 } 0 none 1).2 _
    ((follows_searched _).mpr rfl)).2
    { id := 1, chatId := 1, seq := 1, authorId := some 1, content := some text }
  rw [shown_iff, Sought] at shown
  have stored := List.mem_singleton_self
    ({ id := 1, chatId := 1, seq := 1, authorId := some 1, content := some text } : Message)
  have here : ∀ wanted ∈ (none : Option ChatId), 1 = wanted := nofun
  constructor
  · intro found
    exact (shown.mp ⟨stored, rfl, rfl, ⟨_, rfl, rfl⟩, here, found⟩).2.2.2.2.2
  · intro contains
    exact (shown.mpr ⟨stored, rfl, rfl, ⟨_, rfl, rfl⟩, here, contains⟩).2.2.2.2.2

end Pages

section Words

variable {letters : Letters} {q : String}

def Letters.Lexeme (letters : Letters) (lexeme : List Char) : Prop :=
  ∃ word, TextSearch.IsWord letters.isWord word ∧ word.map letters.lower = lexeme

theorem lexeme_of_mem {text : String} {lexeme : List Char}
    (member : lexeme ∈ letters.toTsvector text) : letters.Lexeme lexeme := by
  obtain ⟨word, listed, rfl⟩ := List.mem_map.mp member
  exact ⟨word, TextSearch.isWord_of_mem listed, rfl⟩

theorem lexeme_shorter {lexeme start : List Char} (lexical : letters.Lexeme lexeme)
    (filled : start ≠ []) (begins : start <+: lexeme) : letters.Lexeme start := by
  obtain ⟨word, ⟨_, plain⟩, rfl⟩ := lexical
  have cut : (word.take start.length).map letters.lower = start := by
    rw [List.map_take]
    exact (List.prefix_iff_eq_take.mp begins).symm
  refine ⟨word.take start.length, ⟨fun empty => filled ?_, fun letter member => ?_⟩, cut⟩
  · rw [← cut, empty]
    rfl
  · exact plain letter (List.mem_of_mem_take member)

theorem lexeme_longer {lexeme : List Char} (lexical : letters.Lexeme lexeme) :
    ∃ letter, letters.Lexeme (lexeme ++ [letter]) := by
  obtain ⟨word, ⟨filled, plain⟩, rfl⟩ := lexical
  obtain ⟨letter, member⟩ := List.exists_mem_of_ne_nil word filled
  refine ⟨letters.lower letter, word ++ [letter], ⟨by simp, fun other inside => ?_⟩, by simp⟩
  rcases List.mem_append.mp inside with old | new
  · exact plain other old
  · exact List.mem_singleton.mp new ▸ plain letter member

theorem text_of_lexemes (lexemes : List (List Char)) (all : ∀ lexeme ∈ lexemes, letters.Lexeme lexeme) :
    ∃ text, letters.toTsvector text = lexemes := by
  have pieces : ∃ pieces : List (List Char), (∀ piece ∈ pieces, TextSearch.IsWord letters.isWord piece) ∧
      pieces.map (fun word => word.map letters.lower) = lexemes := by
    induction lexemes with
    | nil => exact ⟨[], nofun, rfl⟩
    | cons lexeme others ih =>
        obtain ⟨word, plain, rfl⟩ := all lexeme List.mem_cons_self
        obtain ⟨pieces, rest, rfl⟩ := ih fun other member => all other (List.mem_cons_of_mem _ member)
        exact ⟨word :: pieces, List.forall_mem_cons.mpr ⟨plain, rest⟩, rfl⟩
  obtain ⟨pieces, plain, rfl⟩ := pieces
  refine ⟨String.ofList (pieces.flatMap fun piece => piece ++ [' ']), ?_⟩
  rw [Letters.toTsvector, String.toList_ofList, TextSearch.words_joined letters.space pieces plain]

theorem containsWords_iff {wanted : Query Char} {text : String}
    (asked : Query.ofWords (letters.toTsvector q) = some wanted) :
    letters.ContainsWords q (some text) ↔ wanted.holds (letters.toTsvector text) = true := by
  obtain ⟨last, ends, rfl⟩ := Option.map_eq_some_iff.mp asked
  rw [TextSearch.Query.holds_iff]
  constructor
  · rintro ⟨content, other, is, same, whole, begins⟩
    cases is
    cases ends.symm.trans same
    exact ⟨whole, begins⟩
  · rintro ⟨whole, begins⟩
    exact ⟨text, last, rfl, ends, whole, begins⟩

theorem finds_iff_agree (asked : letters.toTsvector q ≠ []) :
    (∀ text, letters.finds q (some text) = true ↔ letters.ContainsWords q (some text)) ↔
      letters.Agree q := by
  obtain ⟨wanted, made⟩ : ∃ wanted, Query.ofWords (letters.toTsvector q) = some wanted :=
    ⟨_, congrArg _ (List.getLast?_eq_some_getLast asked)⟩
  have own : ∀ lexeme ∈ wanted.exact ++ [wanted.start], letters.Lexeme lexeme := by
    rw [← TextSearch.Query.ofWords_some made]
    exact fun lexeme member => lexeme_of_mem member
  have compared : ∀ terms, Query.ofWords (letters.searchTerms q) = some terms →
      ((∀ text, letters.finds q (some text) = true ↔ letters.ContainsWords q (some text)) ↔
        terms.Agrees wanted) := by
    intro terms folded
    have filled : terms.start ≠ [] := by
      have last : terms.start ∈ letters.searchTerms q := by
        rw [TextSearch.Query.ofWords_some folded]
        exact List.mem_append_right _ (List.mem_singleton_self _)
      exact (TextSearch.isWord_of_mem (List.mem_of_mem_take last)).1
    have plain : ∀ lexeme ∈ wanted.exact, letters.Lexeme lexeme :=
      fun lexeme member => own lexeme (List.mem_append_left _ member)
    have last : letters.Lexeme wanted.start :=
      own _ (List.mem_append_right _ (List.mem_singleton_self _))
    have found : ∀ text, letters.finds q (some text) = terms.holds (letters.toTsvector text) := by
      intro text
      rw [Letters.finds, folded]
      rfl
    rw [← TextSearch.Query.agrees_iff (fun _ _ => lexeme_shorter) (fun _ => lexeme_longer) plain last
      filled]
    simp only [found, containsWords_iff made]
    constructor
    · intro same lexemes all
      obtain ⟨text, rfl⟩ := text_of_lexemes lexemes all
      exact same text
    · exact fun same text => same _ fun lexeme member => lexeme_of_mem member
  constructor
  · intro same
    have holds := (same q).mpr ((containsWords_iff made).mpr (TextSearch.Query.holds_own made))
    obtain ⟨terms, folded, _⟩ := (Option.any_eq_true _ _).mp holds
    exact ⟨terms, wanted, folded, made, (compared terms folded).mp same⟩
  · rintro ⟨terms, other, folded, again, agrees⟩
    cases made.symm.trans again
    exact (compared terms folded).mpr agrees

end Words

def latin : Letters where
  isWord char := char.isAlphanum || char == '_' || char == 'ß'
  casefold char := if char = 'ß' then ['s', 's'] else [char.toLower]
  lower char := char.toLower
  space := by decide

/-- Python folds the query to "strasse", Postgres leaves the word as it is. -/
theorem folded_not_found : ¬ ∀ (letters : Letters) (q : String), letters.toTsvector q ≠ [] →
    1 ≤ (TextSearch.words letters.isWord (q.toList.flatMap letters.casefold)).length →
    (TextSearch.words letters.isWord (q.toList.flatMap letters.casefold)).length ≤
      messageSearchMaxTerms → SearchComplete letters q := by
  intro claim
  have complete := claim latin "straße" (by decide +kernel) (by decide +kernel) (by decide +kernel)
  have wanted : Query.ofWords (latin.toTsvector "straße") = some ⟨[], "straße".toList⟩ := by
    decide +kernel
  have found := (finds_of_complete complete "straße").mpr
    ((containsWords_iff wanted).mpr (TextSearch.Query.holds_own wanted))
  have missed : latin.finds "straße" (some "straße") = false := by decide +kernel
  rw [missed] at found
  cases found

/-- A search for words is complete exactly if both ways of folding them ask for the same. -/
theorem search_complete_iff (letters : Letters) (q : String) (asked : letters.toTsvector q ≠ []) :
    SearchComplete letters q ↔ letters.Agree q :=
  ⟨fun complete => (finds_iff_agree asked).mp (finds_of_complete complete),
    fun agree => complete_of_finds ((finds_iff_agree asked).mpr agree)⟩

theorem search_complete_latin : SearchComplete latin "Hello wor" := by
  refine (search_complete_iff latin "Hello wor" (by decide +kernel)).mpr
    ⟨⟨["hello".toList], "wor".toList⟩, ⟨["hello".toList], "wor".toList⟩, ?_, ?_, ?_⟩
  · decide +kernel
  · decide +kernel
  · exact ⟨fun _ => Iff.rfl, .inl rfl⟩

end Messanger
