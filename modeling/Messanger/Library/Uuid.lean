import Mathlib.Data.List.Basic
import Mathlib.Data.List.TakeDrop
import Mathlib.Tactic.NormNum

/-!
The identifiers of Python's `uuid` module: the spellings the constructor `UUID(hex)` reads, the one
`str` writes, and that what is written is read back.  An identifier is its 128-bit number.
-/

namespace Python

/-- `text.replace(word, "")` for a word that is not empty; the number counts the characters of a
word found that are still to be skipped. -/
def eraseWord (word : List Char) : Nat → List Char → List Char
  | _, [] => []
  | skip + 1, _ :: rest => eraseWord word skip rest
  | 0, char :: rest =>
      if word.isPrefixOf (char :: rest) then eraseWord word (word.length - 1) rest
      else char :: eraseWord word 0 rest

/-- `text.strip(chars)`. -/
def stripChars (chars text : List Char) : List Char :=
  ((text.dropWhile chars.contains).reverse.dropWhile chars.contains).reverse

def decimalZeros : List Nat :=
  [0x30, 0x660, 0x6f0, 0x7c0, 0x966, 0x9e6, 0xa66, 0xae6, 0xb66, 0xbe6, 0xc66, 0xce6, 0xd66, 0xde6,
    0xe50, 0xed0, 0xf20, 0x1040, 0x1090, 0x17e0, 0x1810, 0x1946, 0x19d0, 0x1a80, 0x1a90, 0x1b50,
    0x1bb0, 0x1c40, 0x1c50, 0xa620, 0xa8d0, 0xa900, 0xa9d0, 0xa9f0, 0xaa50, 0xabf0, 0xff10, 0x104a0,
    0x10d30, 0x10d40, 0x11066, 0x110f0, 0x11136, 0x111d0, 0x112f0, 0x11450, 0x114d0, 0x11650, 0x116c0,
    0x116d0, 0x116da, 0x11730, 0x118e0, 0x11950, 0x11bf0, 0x11c50, 0x11d50, 0x11da0, 0x11f50, 0x16130,
    0x16a60, 0x16ac0, 0x16b50, 0x16d70, 0x1ccf0, 0x1d7ce, 0x1d7d8, 0x1d7e2, 0x1d7ec, 0x1d7f6, 0x1e140,
    0x1e2f0, 0x1e4f0, 0x1e5f1, 0x1e950, 0x1fbf0]

def digitValue? (char : Char) : Option Nat :=
  let code := char.toNat
  if 0x61 ≤ code ∧ code ≤ 0x66 then some (code - 0x57)
  else if 0x41 ≤ code ∧ code ≤ 0x46 then some (code - 0x37)
  else (decimalZeros.find? fun first => decide (first ≤ code ∧ code < first + 10)).map (code - ·)

def isSpace (char : Char) : Bool :=
  let code := char.toNat
  decide ((0x9 ≤ code ∧ code ≤ 0xd) ∨ code = 0x20 ∨ code = 0x85 ∨ code = 0xa0 ∨ code = 0x1680 ∨
    (0x2000 ≤ code ∧ code ≤ 0x200a) ∨ code = 0x2028 ∨ code = 0x2029 ∨ code = 0x202f ∨
    code = 0x205f ∨ code = 0x3000)

def readDigits : Bool → Nat → List Char → Option Nat
  | afterDigit, value, [] => if afterDigit then some value else none
  | afterDigit, value, char :: rest =>
      if char = '_' then if afterDigit then readDigits false value rest else none
      else
        match digitValue? char with
        | some digit => readDigits true (16 * value + digit) rest
        | none => if afterDigit ∧ (char :: rest).all isSpace then some value else none

/-- The prefix `0x`, after which one underscore may stand. -/
def dropBase : List Char → List Char
  | zero :: mark :: rest =>
      if digitValue? zero = some 0 ∧ (mark = 'x' ∨ mark = 'X') then
        match rest with
        | '_' :: digits => digits
        | _ => rest
      else zero :: mark :: rest
  | chars => chars

/-- `int(text, 16)`. -/
def readHex (text : List Char) : Option Int :=
  match text.dropWhile isSpace with
  | '+' :: rest => (readDigits false 0 (dropBase rest)).map Int.ofNat
  | '-' :: rest => (readDigits false 0 (dropBase rest)).map fun value => -Int.ofNat value
  | rest => (readDigits false 0 (dropBase rest)).map Int.ofNat

def hexDigit (value : Nat) : Char :=
  if value < 10 then Char.ofNat (0x30 + value) else Char.ofNat (0x57 + value)

def hexDigits : Nat → Nat → List Char
  | 0, _ => []
  | width + 1, value => hexDigits width (value / 16) ++ [hexDigit (value % 16)]

/-- The hexadecimal characters of a spelling of an identifier: what is left of it without the words
`urn:` and `uuid:`, the braces around it and the hyphens. -/
def bareHex (text : List Char) : List Char :=
  let named := eraseWord ['u', 'u', 'i', 'd', ':'] 0 (eraseWord ['u', 'r', 'n', ':'] 0 text)
  (stripChars ['\x7b', '\x7d'] named).filter (· != '-')

/-- `UUID(text)`; none when it raises `ValueError`. -/
def uuid? (text : String) : Option Nat :=
  let hex := bareHex text.toList
  if hex.length = 32 then
    match readHex hex with
    | some value => if 0 ≤ value ∧ value < 2 ^ 128 then some value.toNat else none
    | none => none
  else none

/-- The characters of `str(uuid)`: 32 digits in groups of 8, 4, 4, 4 and 12. -/
def uuidChars (id : Nat) : List Char :=
  hexDigits 8 (id / 2 ^ 96) ++ '-' :: hexDigits 4 (id / 2 ^ 80) ++ '-' :: hexDigits 4 (id / 2 ^ 64) ++
    '-' :: hexDigits 4 (id / 2 ^ 48) ++ '-' :: hexDigits 12 id

/-- `str(uuid)`. -/
def strUuid (id : Nat) : String := String.ofList (uuidChars id)

section Reading

theorem digitValue?_hexDigit {value : Nat} (small : value < 16) :
    digitValue? (hexDigit value) = some value := by
  have all : ∀ digit : Fin 16, digitValue? (hexDigit digit) = some digit.val := by decide
  exact all ⟨value, small⟩

theorem hexDigit_plain {value : Nat} (small : value < 16) :
    hexDigit value ∉ ['u', '\x7b', '\x7d', '-', '+', '_', 'x', 'X'] ∧
      isSpace (hexDigit value) = false := by
  have all : ∀ digit : Fin 16,
      hexDigit digit ∉ ['u', '\x7b', '\x7d', '-', '+', '_', 'x', 'X'] ∧
        isSpace (hexDigit digit) = false := by decide
  exact all ⟨value, small⟩

theorem length_hexDigits (width value : Nat) : (hexDigits width value).length = width := by
  induction width generalizing value with
  | zero => rfl
  | succ width ih => rw [hexDigits, List.length_append, ih, List.length_singleton]

theorem mem_hexDigits {char : Char} {width value : Nat} (member : char ∈ hexDigits width value) :
    ∃ digit < 16, char = hexDigit digit := by
  induction width generalizing value with
  | zero => cases member
  | succ width ih =>
      rcases List.mem_append.mp member with earlier | last
      · exact ih earlier
      · exact ⟨value % 16, Nat.mod_lt _ (by omega), List.mem_singleton.mp last⟩

theorem hexDigits_append (first second value : Nat) :
    hexDigits first (value / 16 ^ second) ++ hexDigits second value =
      hexDigits (first + second) value := by
  induction second generalizing value with
  | zero => simp [hexDigits]
  | succ second ih =>
      have split : value / 16 ^ (second + 1) = value / 16 / 16 ^ second := by
        rw [Nat.div_div_eq_div_mul, Nat.pow_succ, Nat.mul_comm]
      rw [← Nat.add_assoc, hexDigits, hexDigits, split, ← ih, List.append_assoc]

theorem readDigits_hexDigits (width : Nat) (afterDigit : Bool) (start value : Nat)
    (rest : List Char) :
    readDigits afterDigit start (hexDigits width value ++ rest) =
      readDigits (afterDigit || decide (0 < width)) (16 ^ width * start + value % 16 ^ width) rest := by
  induction width generalizing value rest with
  | zero => simp [hexDigits, Nat.mod_one]
  | succ width ih =>
      have small : value % 16 < 16 := Nat.mod_lt _ (by omega)
      have apart : hexDigit (value % 16) ≠ '_' := by
        intro same
        exact (hexDigit_plain small).1 (by rw [same]; decide)
      have next : 16 * (16 ^ width * start + value / 16 % 16 ^ width) + value % 16 =
          16 ^ (width + 1) * start + value % 16 ^ (width + 1) := by
        rw [Nat.pow_succ, Nat.mul_comm (16 ^ width) 16, Nat.mod_mul, Nat.mul_add, Nat.mul_assoc]
        omega
      rw [hexDigits, List.append_assoc, ih, List.singleton_append, readDigits, if_neg apart,
        digitValue?_hexDigit small]
      simp only [next, Nat.zero_lt_succ, decide_true, Bool.or_true]

theorem eraseWord_absent {first : Char} {word text : List Char} (absent : first ∉ text) :
    eraseWord (first :: word) 0 text = text := by
  induction text with
  | nil => rfl
  | cons char rest ih =>
      have other : first ≠ char := fun same => absent (same ▸ List.mem_cons_self)
      have later : first ∉ rest := fun member => absent (List.mem_cons_of_mem _ member)
      rw [eraseWord, if_neg, ih later]
      simp [List.isPrefixOf, other]

theorem dropWhile_none {stop : Char → Bool} {text : List Char}
    (none : ∀ char ∈ text, stop char = false) : text.dropWhile stop = text := by
  cases text with
  | nil => rfl
  | cons char rest =>
      rw [List.dropWhile_cons, none char List.mem_cons_self]
      rfl

theorem stripChars_absent {chars text : List Char} (absent : ∀ char ∈ text, char ∉ chars) :
    stripChars chars text = text := by
  have none : ∀ char ∈ text, chars.contains char = false := by simpa using absent
  rw [stripChars, dropWhile_none none, dropWhile_none, List.reverse_reverse]
  simpa using none

theorem uuidChars_cases {char : Char} {id : Nat} (member : char ∈ uuidChars id) :
    char = '-' ∨ ∃ digit < 16, char = hexDigit digit := by
  simp only [uuidChars, List.mem_append, List.mem_cons] at member
  have digits : ∀ {width value : Nat}, char ∈ hexDigits width value →
      char = '-' ∨ ∃ digit < 16, char = hexDigit digit :=
    fun member => .inr (mem_hexDigits member)
  rcases member with (((first | second | second) | third | third) | fourth | fourth) | fifth | fifth
  all_goals first | exact .inl (by assumption) | exact digits (by assumption)

theorem bareHex_uuidChars (id : Nat) : bareHex (uuidChars id) = hexDigits 32 id := by
  have plain : ∀ char ∈ uuidChars id, char ∉ ['u', '\x7b', '\x7d'] := by
    intro char member
    rcases uuidChars_cases member with rfl | ⟨digit, small, rfl⟩
    · decide
    · have fewer : ['u', '\x7b', '\x7d'] ⊆ ['u', '\x7b', '\x7d', '-', '+', '_', 'x', 'X'] := by
        decide
      exact fun inside => (hexDigit_plain small).1 (fewer inside)
  have noWord : 'u' ∉ uuidChars id := fun member => plain _ member (by simp)
  have digits : ∀ width value, (hexDigits width value).filter (· != '-') = hexDigits width value := by
    intro width value
    rw [List.filter_eq_self]
    intro char member
    obtain ⟨digit, small, rfl⟩ := mem_hexDigits member
    have none := (hexDigit_plain small).1
    simp only [List.mem_cons, not_or] at none
    simpa using none.2.2.2.1
  rw [bareHex, eraseWord_absent noWord, eraseWord_absent noWord, stripChars_absent]
  · simp only [uuidChars, List.filter_append, List.filter_cons, digits]
    simp only [bne_self_eq_false, Bool.false_eq_true, if_false]
    rw [show (2 : Nat) ^ 96 = 16 ^ 24 by norm_num, show (2 : Nat) ^ 80 = 16 ^ 20 by norm_num,
      show (2 : Nat) ^ 64 = 16 ^ 16 by norm_num, show (2 : Nat) ^ 48 = 16 ^ 12 by norm_num]
    have second := hexDigits_append 8 4 (id / 16 ^ 20)
    have third := hexDigits_append 12 4 (id / 16 ^ 16)
    have fourth := hexDigits_append 16 4 (id / 16 ^ 12)
    have fifth := hexDigits_append 20 12 id
    simp only [Nat.div_div_eq_div_mul, ← Nat.pow_add, Nat.reduceAdd] at second third fourth fifth
    rw [second, third, fourth, fifth]
  · exact fun char member braced => plain char member (List.mem_cons_of_mem _ braced)

theorem readHex_plain {text : List Char}
    (plain : ∀ char ∈ text, char ∉ ['-', '+', 'x', 'X'] ∧ isSpace char = false) :
    readHex text = (readDigits false 0 text).map Int.ofNat := by
  have unmarked : ∀ char ∈ text, char ≠ '-' ∧ char ≠ '+' ∧ char ≠ 'x' ∧ char ≠ 'X' := by
    intro char member
    simpa using (plain char member).1
  have based : dropBase text = text := by
    unfold dropBase
    split
    · rename_i zero mark rest
      have marked := unmarked mark (by simp)
      rw [if_neg]
      rintro ⟨_, small | large⟩
      · exact marked.2.2.1 small
      · exact marked.2.2.2 large
    · rfl
  rw [readHex, dropWhile_none fun char member => (plain char member).2]
  split
  · exact absurd rfl (unmarked '+' (by simp)).2.1
  · exact absurd rfl (unmarked '-' (by simp)).1
  · rw [based]

theorem readHex_hexDigits (width value : Nat) (positive : 0 < width) :
    readHex (hexDigits width value) = some (Int.ofNat (value % 16 ^ width)) := by
  have read := readDigits_hexDigits width false 0 value []
  rw [List.append_nil, Bool.false_or, decide_eq_true positive, Nat.mul_zero, Nat.zero_add] at read
  rw [readHex_plain, read]
  · rfl
  · intro char member
    obtain ⟨digit, small, rfl⟩ := mem_hexDigits member
    have none := hexDigit_plain small
    refine ⟨fun marked => none.1 ?_, none.2⟩
    simp only [List.mem_cons] at marked ⊢
    tauto

theorem uuid?_strUuid {id : Nat} (bounded : id < 2 ^ 128) : uuid? (strUuid id) = some id := by
  have full : id % 16 ^ 32 = id := by
    refine Nat.mod_eq_of_lt ?_
    norm_num at bounded ⊢
    exact bounded
  have range : (0 : Int) ≤ Int.ofNat id ∧ Int.ofNat id < 2 ^ 128 := by
    simp only [Int.ofNat_eq_natCast]
    omega
  rw [uuid?, strUuid, String.toList_ofList, bareHex_uuidChars, length_hexDigits, if_pos rfl,
    readHex_hexDigits 32 id (by omega), full]
  exact (if_pos range).trans rfl

theorem strUuid_injective {first second : Nat} (firstBounded : first < 2 ^ 128)
    (secondBounded : second < 2 ^ 128) (same : strUuid first = strUuid second) : first = second := by
  have read := uuid?_strUuid firstBounded
  rw [same, uuid?_strUuid secondBounded] at read
  exact (Option.some.inj read).symm

end Reading

end Python
