import Messanger.Library.Uuid

/-!
Python's `int(text)` in base 10, and that it reads back what `str` writes.
-/

namespace Python

def decimalValue? (char : Char) : Option Nat :=
  (decimalZeros.find? fun first => decide (first ≤ char.toNat ∧ char.toNat < first + 10)).map
    (char.toNat - ·)

def readDecimals : Bool → Nat → List Char → Option Nat
  | afterDigit, value, [] => if afterDigit then some value else none
  | afterDigit, value, char :: rest =>
      if char = '_' then if afterDigit then readDecimals false value rest else none
      else
        match decimalValue? char with
        | some digit => readDecimals true (10 * value + digit) rest
        | none => if afterDigit ∧ (char :: rest).all isSpace then some value else none

/-- `sys.get_int_max_str_digits()`. -/
def maxStrDigits : Nat := 4300

def int? (text : List Char) : Option Int :=
  if maxStrDigits < (text.filter fun char => (decimalValue? char).isSome).length then none
  else
    match text.dropWhile isSpace with
    | '+' :: rest => (readDecimals false 0 rest).map Int.ofNat
    | '-' :: rest => (readDecimals false 0 rest).map fun value => -Int.ofNat value
    | rest => (readDecimals false 0 rest).map Int.ofNat

theorem digitChar_plain {digit : Nat} (small : digit < 10) :
    decimalValue? digit.digitChar = some digit ∧
      digit.digitChar ∉ ['_', '+', '-', ':'] ∧ isSpace digit.digitChar = false := by
  have all : ∀ digit : Fin 10, decimalValue? digit.val.digitChar = some digit.val ∧
      digit.val.digitChar ∉ ['_', '+', '-', ':'] ∧ isSpace digit.val.digitChar = false := by decide
  exact all ⟨digit, small⟩

theorem mem_toDigits {value : Nat} {char : Char} (member : char ∈ Nat.toDigits 10 value) :
    ∃ digit < 10, char = Nat.digitChar digit := by
  induction value using Nat.strongRecOn with
  | ind value ih =>
      by_cases small : value < 10
      · rw [Nat.toDigits_of_lt_base small, List.mem_singleton] at member
        exact ⟨value, small, member⟩
      · rw [Nat.toDigits_of_base_le (by omega) (by omega), List.mem_append] at member
        rcases member with earlier | last
        · exact ih (value / 10) (by omega) earlier
        · exact ⟨value % 10, by omega, List.mem_singleton.mp last⟩

theorem colon_not_mem_toDigits (value : Nat) : ':' ∉ Nat.toDigits 10 value := by
  intro member
  obtain ⟨digit, small, same⟩ := mem_toDigits member
  refine (digitChar_plain small).2.1 ?_
  rw [← same]
  decide

end Python
