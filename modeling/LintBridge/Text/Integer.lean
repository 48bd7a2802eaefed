import LintBridge.Text.Blank
import LintBridge.Text.DecimalDigit

/-!
# Reading integers

An integer is a run of decimal digits of any script, single underscores allowed
between them, with at most one sign in front and blanks around.
-/

namespace LintBridge.Text

/-- The most digits a number may have. -/
def maxDigits : Nat := 4300

/-- Blanks that may surround a number: all of them except the ASCII separators. -/
def isNumberBlank (c : Char) : Bool :=
  isBlank c && !(0x1C ≤ c.toNat && c.toNat ≤ 0x1F)

/-- The values of a run of digits; an underscore needs a digit on either side. -/
def digitValues? : List Char → Option (List Nat)
  | [] => none
  | [c] => (digitValue? c).map ([·])
  | c :: '_' :: rest => do
      let value ← digitValue? c
      return value :: (← digitValues? rest)
  | c :: rest => do
      let value ← digitValue? c
      return value :: (← digitValues? rest)

/-- The number that digits denote, most significant first. -/
def ofDigits (digits : List Nat) : Nat :=
  digits.foldl (fun n digit => 10 * n + digit) 0

/-- The number that a run of digits denotes, unless there are too many. -/
def readNatural? (text : List Char) : Option Nat := do
  let digits ← digitValues? text
  if digits.length ≤ maxDigits then some (ofDigits digits) else none

/-- Remove the characters of a class at both ends. -/
def trim (skip : Char → Bool) (text : List Char) : List Char :=
  ((text.dropWhile skip).reverse.dropWhile skip).reverse

/-- The integer that a text denotes. -/
def readInteger? (text : List Char) : Option Int :=
  match trim isNumberBlank text with
  | '-' :: digits => (readNatural? digits).map fun n => -(n : Int)
  | '+' :: digits => (readNatural? digits).map Int.ofNat
  | digits => (readNatural? digits).map Int.ofNat

end LintBridge.Text
