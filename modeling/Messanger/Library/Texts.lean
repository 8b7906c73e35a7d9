import Mathlib.Data.List.Chain
import Mathlib.Data.List.DropRight

/-!
Texts over any alphabet.  Tidied ones are freed of repeated gaps, trimmed at both ends and cut, and
trimmed once more, for the cut may bring a letter to the end that trimming drops.  Fields that are
put together with a separator none of them has can be told apart again.  Last come the codes of
ASCII's letters and digits.
-/

namespace Texts

variable {Letter : Type}

def strip (drop : Letter → Bool) (text : List Letter) : List Letter :=
  (text.dropWhile drop).rdropWhile drop

def squeeze (gap : Letter → Bool) (fill : Letter) : Bool → List Letter → List Letter
  | _, [] => []
  | inside, letter :: rest =>
      if gap letter then
        if inside then squeeze gap fill true rest else fill :: squeeze gap fill true rest
      else letter :: squeeze gap fill false rest

def tidy (drop gap : Letter → Bool) (fill : Letter) (limit : Nat) (text : List Letter) :
    List Letter :=
  strip drop ((strip drop (squeeze gap fill false text)).take limit)

structure Trimmed (drop : Letter → Bool) (text : List Letter) : Prop where
  first : ∀ letter, text.head? = some letter → drop letter = false
  last : ∀ letter, text.getLast? = some letter → drop letter = false

def Spaced (gap : Letter → Bool) (text : List Letter) : Prop :=
  text.IsChain fun left right => ¬(gap left = true ∧ gap right = true)

variable {drop gap : Letter → Bool} {fill : Letter} {text : List Letter}

section Stripping

theorem strip_within (drop : Letter → Bool) (text : List Letter) : strip drop text <:+: text :=
  (List.rdropWhile_prefix drop _).isInfix.trans (List.dropWhile_suffix drop).isInfix

theorem mem_dropWhile {letter : Letter} (member : letter ∈ text) (kept : drop letter = false) :
    letter ∈ text.dropWhile drop := by
  rw [← List.takeWhile_append_dropWhile (p := drop) (l := text)] at member
  rcases List.mem_append.mp member with dropped | left
  · simp [List.mem_takeWhile_imp dropped] at kept
  · exact left

theorem mem_strip {letter : Letter} (member : letter ∈ text) (kept : drop letter = false) :
    letter ∈ strip drop text := by
  have left := List.mem_reverse.mpr (mem_dropWhile member kept)
  exact List.mem_reverse.mpr (mem_dropWhile left kept)

theorem head_dropWhile {letter : Letter} (first : (text.dropWhile drop).head? = some letter) :
    drop letter = false := by
  have stops := List.head?_dropWhile_not drop text
  rw [first] at stops
  simpa using stops

theorem trimmed_strip : Trimmed drop (strip drop text) := by
  constructor
  · intro letter first
    obtain ⟨dropped, split⟩ := List.rdropWhile_prefix drop (text.dropWhile drop)
    have front : (text.dropWhile drop).head? = some letter := by
      rw [strip] at first
      rw [← split, List.head?_append, first]
      rfl
    exact head_dropWhile front
  · intro letter last
    obtain ⟨filled, rfl⟩ := List.mem_getLast?_eq_getLast last
    have stops := List.rdropWhile_last_not drop (text.dropWhile drop) filled
    rwa [Bool.not_eq_true] at stops

theorem strip_of_trimmed (trimmed : Trimmed drop text) : strip drop text = text := by
  have front : text.dropWhile drop = text := by
    cases text with
    | nil => rfl
    | cons letter rest => simp [trimmed.first letter rfl]
  rw [strip, front, List.rdropWhile_eq_self_iff]
  intro filled
  simp [trimmed.last _ (List.getLast?_eq_getLast_of_ne_nil filled)]

end Stripping

section Squeezing

theorem mem_squeeze {letter : Letter} {inside : Bool}
    (member : letter ∈ squeeze gap fill inside text) :
    letter = fill ∨ (letter ∈ text ∧ gap letter = false) := by
  induction text generalizing inside with
  | nil => simp [squeeze] at member
  | cons next rest ih =>
      have beyond : ∀ {inside : Bool}, letter ∈ squeeze gap fill inside rest →
          letter = fill ∨ (letter ∈ next :: rest ∧ gap letter = false) := by
        intro inside later
        rcases ih later with filled | ⟨inner, plain⟩
        · exact .inl filled
        · exact .inr ⟨List.mem_cons_of_mem _ inner, plain⟩
      simp only [squeeze] at member
      split at member
      · split at member
        · exact beyond member
        · rcases List.mem_cons.mp member with filled | later
          · exact .inl filled
          · exact beyond later
      · rename_i plain
        rcases List.mem_cons.mp member with rfl | later
        · exact .inr ⟨List.mem_cons_self, by simpa using plain⟩
        · exact beyond later

theorem head_squeeze {letter : Letter} (first : (squeeze gap fill true text).head? = some letter) :
    gap letter = false := by
  induction text with
  | nil => simp [squeeze] at first
  | cons next rest ih =>
      simp only [squeeze] at first
      split at first
      · exact ih first
      · simp_all

theorem spaced_squeeze {inside : Bool} : Spaced gap (squeeze gap fill inside text) := by
  induction text generalizing inside with
  | nil => simp [squeeze, Spaced]
  | cons next rest ih =>
      simp only [squeeze]
      split
      · split
        · exact ih
        · refine List.isChain_cons.mpr ⟨?_, ih⟩
          rintro letter first ⟨_, second⟩
          simp [head_squeeze first] at second
      · rename_i plain
        refine List.isChain_cons.mpr ⟨?_, ih⟩
        rintro letter _ ⟨first, _⟩
        exact plain first

theorem squeeze_of_spaced (spaced : Spaced gap text)
    (filled : ∀ letter ∈ text, gap letter = true → letter = fill) :
    squeeze gap fill false text = text := by
  suffices ∀ inside, (inside = true → ∀ letter, text.head? = some letter → gap letter = false) →
      squeeze gap fill inside text = text from this false (by simp)
  induction text with
  | nil => simp [squeeze]
  | cons next rest ih =>
      intro inside begun
      obtain ⟨apart, later⟩ := List.isChain_cons.mp spaced
      have left := ih later fun letter member => filled letter (List.mem_cons_of_mem _ member)
      simp only [squeeze]
      split
      · rename_i empty
        have outside : inside = false := by
          cases inside
          · rfl
          · simp [begun rfl next rfl] at empty
        have plain : ∀ letter, rest.head? = some letter → gap letter = false := by
          intro letter first
          by_contra full
          exact apart letter first ⟨empty, by simpa using full⟩
        rw [outside, left true fun _ => plain, filled next List.mem_cons_self empty]
        simp
      · rw [left false (by simp)]

end Squeezing

section Tidying

variable {limit : Nat}

structure Tidy (drop gap : Letter → Bool) (limit : Nat) (text : List Letter) : Prop where
  trimmed : Trimmed drop text
  spaced : Spaced gap text
  short : text.length ≤ limit

theorem tidy_within : tidy drop gap fill limit text <:+: squeeze gap fill false text :=
  (strip_within drop _).trans ((List.take_prefix limit _).isInfix.trans (strip_within drop _))

theorem tidy_tidy : Tidy drop gap limit (tidy drop gap fill limit text) := by
  refine ⟨trimmed_strip, List.IsChain.infix spaced_squeeze tidy_within, ?_⟩
  have cut :=
    (strip_within drop ((strip drop (squeeze gap fill false text)).take limit)).length_le
  rw [List.length_take] at cut
  rw [tidy]
  omega

theorem tidy_of_tidy (tidied : Tidy drop gap limit text)
    (filled : ∀ letter ∈ text, gap letter = true → letter = fill) :
    tidy drop gap fill limit text = text := by
  rw [tidy, squeeze_of_spaced tidied.spaced filled, strip_of_trimmed tidied.trimmed,
    List.take_of_length_le tidied.short, strip_of_trimmed tidied.trimmed]

end Tidying

section Joining

variable {sep : Letter}

def joined (sep : Letter) (rest : List Letter) : List (List Letter) → List Letter
  | [] => rest
  | field :: fields => field ++ sep :: joined sep rest fields

theorem split_first {left right rest more : List Letter} (leftPlain : sep ∉ left)
    (rightPlain : sep ∉ right) (same : left ++ sep :: rest = right ++ sep :: more) :
    left = right ∧ rest = more := by
  induction left generalizing right with
  | nil =>
      cases right with
      | nil => simpa using same
      | cons letter right =>
          simp only [List.nil_append, List.cons_append, List.cons.injEq] at same
          simp [same.1] at rightPlain
  | cons letter left ih =>
      cases right with
      | nil =>
          simp only [List.nil_append, List.cons_append, List.cons.injEq] at same
          simp [same.1] at leftPlain
      | cons other right =>
          simp only [List.mem_cons, not_or] at leftPlain rightPlain
          simp only [List.cons_append, List.cons.injEq] at same
          obtain ⟨fields, rests⟩ := ih leftPlain.2 rightPlain.2 same.2
          simp [same.1, fields, rests]

theorem joined_injective {rest more : List Letter} {fields others : List (List Letter)}
    (plain : ∀ field ∈ fields, sep ∉ field) (othersPlain : ∀ field ∈ others, sep ∉ field)
    (count : fields.length = others.length)
    (same : joined sep rest fields = joined sep more others) : fields = others ∧ rest = more := by
  induction fields generalizing others with
  | nil =>
      have none := List.length_eq_zero_iff.mp count.symm
      subst none
      exact ⟨rfl, same⟩
  | cons field fields ih =>
      cases others with
      | nil => simp at count
      | cons other others =>
          simp only [List.mem_cons, forall_eq_or_imp] at plain othersPlain
          obtain ⟨first, later⟩ := split_first plain.1 othersPlain.1 same
          obtain ⟨left, rests⟩ := ih plain.2 othersPlain.2 (by simpa using count) later
          simp [first, left, rests]

end Joining

section Codes

theorem alphanum_code {char : Char} (plain : char.isAlphanum = true) :
    (65 ≤ char.toNat ∧ char.toNat ≤ 90) ∨ (97 ≤ char.toNat ∧ char.toNat ≤ 122) ∨
      (48 ≤ char.toNat ∧ char.toNat ≤ 57) := by
  rcases (Bool.or_eq_true _ _).mp plain with letter | digit
  · rcases (Bool.or_eq_true _ _).mp letter with upper | lower
    · exact .inl (of_decide_eq_true upper)
    · obtain ⟨low, high⟩ := (Bool.and_eq_true _ _).mp lower
      exact .inr (.inl ⟨of_decide_eq_true low, of_decide_eq_true high⟩)
  · obtain ⟨low, high⟩ := (Bool.and_eq_true _ _).mp digit
    exact .inr (.inr ⟨of_decide_eq_true low, of_decide_eq_true high⟩)

end Codes

end Texts
