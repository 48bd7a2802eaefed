import LintBridge.Text.Integer
import Mathlib.Data.List.Basic
import Mathlib.Data.Nat.Digits.Defs

/-!
# Reading written numbers

A run of decimal digits, of any script, is read as the number that it denotes, as long
as it does not have too many of them. So a natural number that is written in ASCII
digits is read as itself.
-/

namespace LintBridge.Text

/-- The number that decimal digits denote, most significant first. -/
def decimalValue (text : List Char) : Nat :=
  Nat.ofDigits 10 (text.map fun c => (digitValue? c).getD 0).reverse

/-! ## Decimal digits -/

theorem digitValue?_of_isDigit {c : Char} (digit : c.isDigit = true) :
    digitValue? c = some (c.toNat - '0'.toNat) := by
  have small : c.toNat < 0x80 := by
    have bounds : 48 ≤ c.toNat ∧ c.toNat ≤ 57 := Char.isDigit_iff_toNat.mp digit
    omega
  rw [digitValue?, if_pos small, if_pos digit]

theorem isDecimalDigit_of_isDigit {c : Char} (digit : c.isDigit = true) :
    isDecimalDigit c = true := by
  rw [isDecimalDigit, digitValue?_of_isDigit digit]
  rfl

/-- A decimal digit belongs to the ten digits of some script. -/
theorem exists_zero_of_isDecimalDigit {c : Char} (digit : isDecimalDigit c = true) :
    ∃ first ∈ digitZeros, first ≤ c.toNat ∧ c.toNat < first + 10 := by
  rw [isDecimalDigit, digitValue?] at digit
  split at digit
  · split at digit
    · rename_i ascii
      have bounds : 48 ≤ c.toNat ∧ c.toNat ≤ 57 := Char.isDigit_iff_toNat.mp ascii
      exact ⟨0x30, by decide, bounds.1, by omega⟩
    · cases digit
  · rw [Option.isSome_map, List.find?_isSome] at digit
    simpa using digit

theorem isNumberBlank_of_isDecimalDigit {c : Char} (digit : isDecimalDigit c = true) :
    isNumberBlank c = false := by
  -- The digits of every script lie between two neighbouring blanks.
  have apart : ∀ first ∈ digitZeros, 0x20 < first ∧ first + 10 ≤ 0x85 ∨
      0xA0 < first ∧ (first + 10 ≤ 0x1680 ∨ 0x1680 < first) ∧
        (first + 10 ≤ 0x2000 ∨ 0x205F < first) ∧ (first + 10 ≤ 0x3000 ∨ 0x3000 < first) := by
    decide
  rcases exists_zero_of_isDecimalDigit digit with ⟨first, member, low, high⟩
  have between := apart first member
  simp only [isNumberBlank, isBlank, Bool.and_eq_false_iff, Bool.or_eq_false_iff,
    decide_eq_false_iff_not, beq_eq_false_iff_ne]
  omega

/-! ## Runs of digits -/

theorem digitValues?_of_isDecimalDigit (text : List Char) (nonempty : text ≠ [])
    (digits : ∀ c ∈ text, isDecimalDigit c = true) :
    digitValues? text = some (text.map fun c => (digitValue? c).getD 0) := by
  have value : ∀ c ∈ text, digitValue? c = some ((digitValue? c).getD 0) := by
    intro c member
    rcases Option.isSome_iff_exists.mp (digits c member) with ⟨value, found⟩
    rw [found, Option.getD_some]
  fun_induction digitValues? text with
  | case1 => exact absurd rfl nonempty
  | case2 c =>
      rw [value c List.mem_cons_self]
      rfl
  | case3 c rest _ =>
      have underscore : isDecimalDigit '_' = true := digits '_' (by simp)
      cases underscore
  | case4 c rest several _ further =>
      have rest_ne_nil : rest ≠ [] := by
        intro equal
        exact several equal
      rw [value c List.mem_cons_self, further rest_ne_nil
        (fun d member => digits d (List.mem_cons_of_mem c member))
        (fun d member => value d (List.mem_cons_of_mem c member))]
      rfl

theorem trim_eq_self {skip : Char → Bool} {text : List Char}
    (kept : ∀ c ∈ text, skip c = false) : trim skip text = text := by
  have dropWhile_eq : ∀ text : List Char, (∀ c ∈ text, skip c = false) →
      text.dropWhile skip = text := by
    intro text kept
    cases text with
    | nil => rfl
    | cons c rest => exact List.dropWhile_cons_of_neg (by simp [kept c])
  rw [trim, dropWhile_eq text kept, dropWhile_eq, List.reverse_reverse]
  intro c member
  exact kept c (List.mem_reverse.mp member)

theorem ofDigits_eq (digits : List Nat) : ofDigits digits = Nat.ofDigits 10 digits.reverse := by
  rw [ofDigits, Nat.ofDigits_eq_foldr, List.foldr_reverse]
  congr 1
  funext n digit
  exact Nat.add_comm _ _

/-- A run of digits is read as the number that it denotes, unless it is too long. -/
theorem readInteger?_of_isDecimalDigit {text : List Char} (nonempty : text ≠ [])
    (digits : ∀ c ∈ text, isDecimalDigit c = true) :
    readInteger? text =
      if text.length ≤ maxDigits then some (decimalValue text : Int) else none := by
  have value : readNatural? text =
      if text.length ≤ maxDigits then some (decimalValue text) else none := by
    rw [readNatural?, digitValues?_of_isDecimalDigit text nonempty digits]
    simp only [Option.bind_eq_bind, Option.bind_some, List.length_map, ofDigits_eq]
    rfl
  rw [readInteger?, trim_eq_self fun c member => isNumberBlank_of_isDecimalDigit (digits c member)]
  split
  · exact absurd (digits '-' List.mem_cons_self) (by decide)
  · exact absurd (digits '+' List.mem_cons_self) (by decide)
  · rw [value]
    split <;> rfl

theorem decimalValue_zeros_append (count : Nat) (digits : List Char) :
    decimalValue (List.replicate count '0' ++ digits) = decimalValue digits := by
  have zero : (digitValue? '0').getD 0 = 0 := by decide
  rw [decimalValue, decimalValue, List.map_append, List.map_replicate, zero, List.reverse_append,
    List.reverse_replicate, Nat.ofDigits_append_replicate_zero]

/-- The digits that a number is written in denote the number. -/
theorem decimalValue_toDigits (n : Nat) : decimalValue (Nat.toDigits 10 n) = n := by
  have values : (Nat.toDigits 10 n).map (fun c => (digitValue? c).getD 0) =
      (Nat.toDigits 10 n).map fun c => c.toNat - '0'.toNat := by
    apply List.map_congr_left
    intro c member
    rw [digitValue?_of_isDigit (Nat.isDigit_of_mem_toDigits (by decide) (by decide) member),
      Option.getD_some]
  rw [decimalValue, values, ← ofDigits_eq, ofDigits, List.foldl_map]
  exact Nat.ofDigitChars_ten_toDigits

theorem readInteger?_toDigits {n : Nat} (short : (Nat.toDigits 10 n).length ≤ maxDigits) :
    readInteger? (Nat.toDigits 10 n) = some (n : Int) := by
  have digits : ∀ c ∈ Nat.toDigits 10 n, isDecimalDigit c = true := fun c member =>
    isDecimalDigit_of_isDigit (Nat.isDigit_of_mem_toDigits (by decide) (by decide) member)
  rw [readInteger?_of_isDecimalDigit Nat.toDigits_ne_nil digits, if_pos short,
    decimalValue_toDigits]

end LintBridge.Text
