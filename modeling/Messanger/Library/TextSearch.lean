import Mathlib.Data.List.Basic

/-!
Search by words: a text is its words, a query asks for some whole words and for the beginning of
one more.
-/

namespace TextSearch

variable {Letter : Type} {isWord : Letter → Bool}

def words (isWord : Letter → Bool) (text : List Letter) : List (List Letter) :=
  (text.splitOnP fun letter => !isWord letter).filter fun piece => !piece.isEmpty

def IsWord (isWord : Letter → Bool) (word : List Letter) : Prop :=
  word ≠ [] ∧ ∀ letter ∈ word, isWord letter = true

structure Query (Letter : Type) where
  exact : List (List Letter)
  start : List Letter
  deriving DecidableEq, Repr

def Query.ofWords (words : List (List Letter)) : Option (Query Letter) :=
  words.getLast?.map fun last => ⟨words.dropLast, last⟩

def Query.holds [DecidableEq Letter] (query : Query Letter) (lexemes : List (List Letter)) : Bool :=
  query.exact.all (fun term => decide (term ∈ lexemes)) &&
    lexemes.any fun lexeme => query.start.isPrefixOf lexeme

def Query.Agrees (query other : Query Letter) : Prop :=
  (∀ term, term ∈ query.exact ↔ term ∈ other.exact) ∧
    (query.start = other.start ∨
      (∃ term ∈ query.exact, query.start <+: term) ∧ ∃ term ∈ query.exact, other.start <+: term)

section Words

theorem splitOnP_plain (text : List Letter) :
    ∀ piece ∈ text.splitOnP (fun letter => !isWord letter), ∀ letter ∈ piece,
      isWord letter = true := by
  induction text with
  | nil =>
      intro piece member letter inside
      rw [List.splitOnP_nil, List.mem_singleton] at member
      rw [member] at inside
      cases inside
  | cons first rest ih =>
      rw [List.splitOnP_cons_eq_if_modifyHead]
      split
      · intro piece member
        rcases List.mem_cons.mp member with rfl | later
        · exact fun letter inside => nomatch inside
        · exact ih piece later
      · rename_i plain
        cases pieces : rest.splitOnP fun letter => !isWord letter with
        | nil => exact fun piece member => nomatch member
        | cons head others =>
            rw [pieces] at ih
            intro piece member letter inside
            rcases List.mem_cons.mp member with rfl | later
            · rcases List.mem_cons.mp inside with rfl | more
              · simpa using plain
              · exact ih head List.mem_cons_self letter more
            · exact ih piece (List.mem_cons_of_mem _ later) letter inside

theorem isWord_of_mem {text word : List Letter} (member : word ∈ words isWord text) :
    IsWord isWord word := by
  obtain ⟨piece, filled⟩ := List.mem_filter.mp member
  refine ⟨fun empty => ?_, splitOnP_plain text word piece⟩
  rw [empty] at filled
  cases filled

theorem words_joined {separator : Letter} (separates : isWord separator = false)
    (pieces : List (List Letter)) (plain : ∀ piece ∈ pieces, IsWord isWord piece) :
    words isWord (pieces.flatMap fun piece => piece ++ [separator]) = pieces := by
  induction pieces with
  | nil => rfl
  | cons piece others ih =>
      obtain ⟨filled, letters⟩ := plain piece List.mem_cons_self
      have rest := ih fun other member => plain other (List.mem_cons_of_mem _ member)
      rw [List.flatMap_cons, List.append_assoc, List.singleton_append, words,
        List.splitOnP_append_cons_of_forall_mem (fun letter member => by rw [letters letter member]; rfl)
          separator (by rw [separates]; rfl), List.filter_cons_of_pos (by simpa using filled)]
      exact congrArg (piece :: ·) rest

end Words

section Queries

variable [DecidableEq Letter] {query other : Query Letter} {lexemes : List (List Letter)}

theorem Query.holds_iff : query.holds lexemes = true ↔
    (∀ term ∈ query.exact, term ∈ lexemes) ∧ ∃ lexeme ∈ lexemes, query.start <+: lexeme := by
  simp only [Query.holds, Bool.and_eq_true, List.all_eq_true, decide_eq_true_eq, List.any_eq_true,
    List.isPrefixOf_iff_prefix]

omit [DecidableEq Letter] in
theorem Query.Agrees.symm (agrees : query.Agrees other) : other.Agrees query := by
  obtain ⟨terms, starts⟩ := agrees
  refine ⟨fun term => (terms term).symm, ?_⟩
  rcases starts with same | ⟨⟨own, ownIn, begins⟩, its, itsIn, starts⟩
  · exact .inl same.symm
  · exact .inr ⟨⟨its, (terms its).mp itsIn, starts⟩, own, (terms own).mp ownIn, begins⟩

theorem Query.Agrees.holds (agrees : query.Agrees other) (holds : query.holds lexemes = true) :
    other.holds lexemes = true := by
  obtain ⟨terms, starts⟩ := agrees
  rw [Query.holds_iff] at holds ⊢
  obtain ⟨whole, lexeme, member, begins⟩ := holds
  refine ⟨fun term listed => whole term ((terms term).mpr listed), ?_⟩
  rcases starts with same | ⟨_, term, listed, starts⟩
  · exact ⟨lexeme, member, same ▸ begins⟩
  · exact ⟨term, whole term listed, starts⟩

omit [DecidableEq Letter] in
theorem Query.ofWords_some {words : List (List Letter)} (asked : Query.ofWords words = some query) :
    words = query.exact ++ [query.start] := by
  obtain ⟨last, ends, rfl⟩ := Option.map_eq_some_iff.mp asked
  obtain ⟨earlier, rfl⟩ := List.getLast?_eq_some_iff.mp ends
  rw [List.dropLast_concat]

theorem Query.holds_own {words : List (List Letter)} (asked : Query.ofWords words = some query) :
    query.holds words = true := by
  rw [Query.ofWords_some asked]
  exact Query.holds_iff.mpr ⟨fun _ => List.mem_append_left _, query.start,
    List.mem_append_right _ (List.mem_singleton_self _), List.prefix_refl _⟩

section Comparing

variable {Lexeme : List Letter → Prop}

theorem Query.exact_subset (longer : ∀ word, Lexeme word → ∃ letter, Lexeme (word ++ [letter]))
    (plain : ∀ term ∈ other.exact, Lexeme term) (last : Lexeme other.start)
    (finds : ∀ lexemes, (∀ lexeme ∈ lexemes, Lexeme lexeme) → other.holds lexemes = true →
      query.holds lexemes = true) : ∀ term ∈ query.exact, term ∈ other.exact := by
  have found : ∀ word, Lexeme word → other.start <+: word → ∀ term ∈ query.exact,
      term ∈ other.exact ∨ term = word := by
    intro word lexeme begins term listed
    have all : ∀ found ∈ other.exact ++ [word], Lexeme found := by
      intro found member
      rcases List.mem_append.mp member with own | same
      · exact plain found own
      · exact List.mem_singleton.mp same ▸ lexeme
    have holds : other.holds (other.exact ++ [word]) = true :=
      Query.holds_iff.mpr ⟨fun _ => List.mem_append_left _, word,
        List.mem_append_right _ (List.mem_singleton_self _), begins⟩
    have whole := (Query.holds_iff.mp (finds _ all holds)).1 term listed
    rw [List.mem_append, List.mem_singleton] at whole
    exact whole
  intro term listed
  obtain ⟨letter, lexeme⟩ := longer other.start last
  rcases found _ last (List.prefix_refl _) term listed with own | short
  · exact own
  · rcases found _ lexeme (List.prefix_append _ _) term listed with own | long
    · exact own
    · have lengths := congrArg List.length (short.symm.trans long)
      rw [List.length_append, List.length_singleton] at lengths
      omega

theorem Query.start_begins (plain : ∀ term ∈ other.exact, Lexeme term) (last : Lexeme other.start)
    (finds : ∀ lexemes, (∀ lexeme ∈ lexemes, Lexeme lexeme) → other.holds lexemes = true →
      query.holds lexemes = true) :
    (∃ term ∈ other.exact, query.start <+: term) ∨ query.start <+: other.start := by
  have all : ∀ lexeme ∈ other.exact ++ [other.start], Lexeme lexeme := by
    intro lexeme member
    rcases List.mem_append.mp member with own | same
    · exact plain lexeme own
    · exact List.mem_singleton.mp same ▸ last
  have holds : other.holds (other.exact ++ [other.start]) = true :=
    Query.holds_own (by rw [Query.ofWords, List.getLast?_concat, List.dropLast_concat]; rfl)
  obtain ⟨_, lexeme, member, begins⟩ := Query.holds_iff.mp (finds _ all holds)
  rcases List.mem_append.mp member with own | same
  · exact .inl ⟨lexeme, own, begins⟩
  · exact .inr (List.mem_singleton.mp same ▸ begins)

theorem Query.start_listed (plain : ∀ term ∈ other.exact, Lexeme term)
    (finds : ∀ lexemes, (∀ lexeme ∈ lexemes, Lexeme lexeme) → other.holds lexemes = true →
      query.holds lexemes = true)
    (listed : ∃ term ∈ other.exact, other.start <+: term) :
    ∃ term ∈ other.exact, query.start <+: term :=
  (Query.holds_iff.mp (finds other.exact plain (Query.holds_iff.mpr ⟨fun _ => id, listed⟩))).2

theorem Query.agrees_iff
    (shorter : ∀ word start, Lexeme word → start ≠ [] → start <+: word → Lexeme start)
    (longer : ∀ word, Lexeme word → ∃ letter, Lexeme (word ++ [letter]))
    (plain : ∀ term ∈ other.exact, Lexeme term) (last : Lexeme other.start)
    (filled : query.start ≠ []) :
    (∀ lexemes, (∀ lexeme ∈ lexemes, Lexeme lexeme) →
      (query.holds lexemes = true ↔ other.holds lexemes = true)) ↔ query.Agrees other := by
  refine ⟨fun same => ?_, fun agrees lexemes _ => ⟨agrees.holds, agrees.symm.holds⟩⟩
  have finds := fun lexemes all => (same lexemes all).mpr
  have found := fun lexemes all => (same lexemes all).mp
  have inside := Query.exact_subset longer plain last finds
  have ownPlain : ∀ term ∈ query.exact, Lexeme term := fun term listed => plain term (inside term listed)
  have begins := Query.start_begins plain last finds
  have ownLast : Lexeme query.start := by
    rcases begins with ⟨term, listed, starts⟩ | starts
    · exact shorter term _ (plain term listed) filled starts
    · exact shorter _ _ last filled starts
  have outside := Query.exact_subset longer ownPlain ownLast found
  have terms : ∀ term, term ∈ query.exact ↔ term ∈ other.exact :=
    fun term => ⟨inside term, outside term⟩
  have toOwn : ∀ {start}, (∃ term ∈ other.exact, start <+: term) → ∃ term ∈ query.exact, start <+: term :=
    fun ⟨term, listed, starts⟩ => ⟨term, outside term listed, starts⟩
  refine ⟨terms, ?_⟩
  rcases begins with listed | first
  · exact .inr ⟨toOwn listed, Query.start_listed ownPlain found (toOwn listed)⟩
  · rcases Query.start_begins ownPlain ownLast found with listed | second
    · refine .inr ⟨toOwn (Query.start_listed plain finds ?_), listed⟩
      obtain ⟨term, own, starts⟩ := listed
      exact ⟨term, inside term own, starts⟩
    · exact .inl (first.eq_of_length_le second.length_le)

end Comparing

end Queries

end TextSearch
