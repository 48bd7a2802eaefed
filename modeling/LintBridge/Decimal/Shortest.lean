import LintBridge.Decimal.Binary

/-!
# Shortest decimals

The decimal number of fewest digits among those that are nearest to a given binary
number and no other, and the text of it.
-/

namespace LintBridge

namespace Binary

/-- Compare `a * 10 ^ i` with `n * 2 ^ j`. -/
def compareScaled (a : Nat) (i : Int) (n : Nat) (j : Int) : Ordering :=
  compare (a * tenTo i * twoTo (-j)) (n * twoTo j * tenTo (-i))

/-- Whether a decimal number is rounded to a binary number. The numbers half way to
the neighbours are, if the mantissa is even; the neighbour below a power of two is
only half as far. -/
def holds (number : Binary) (decimal : Decimal) : Bool :=
  let narrow := number.mantissa = twoTo (precision - 1) ∧ minExponent < number.exponent
  let low := 4 * number.mantissa - (if narrow then 1 else 2)
  let high := 4 * number.mantissa + 2
  let even := number.mantissa % 2 = 0
  let fromLow := compareScaled decimal.digits decimal.exponent low (number.exponent - 2)
  let fromHigh := compareScaled decimal.digits decimal.exponent high (number.exponent - 2)
  (fromLow == .gt || (even && fromLow == .eq)) && (fromHigh == .lt || (even && fromHigh == .eq))

/-- The greatest multiple of a power of ten that is not above a number. -/
def floorAt (number : Binary) (exponent : Int) : Nat :=
  (number.mantissa * twoTo number.exponent * tenTo (-exponent))
    / (twoTo (-number.exponent) * tenTo exponent)

/-- The better of the two multiples of a power of ten around a number, if either is
rounded to it. Of two, the nearer one is better, and half way the even one. -/
def candidate? (number : Binary) (exponent : Int) : Option Decimal :=
  let below : Decimal := ⟨number.floorAt exponent, exponent⟩
  let above : Decimal := ⟨below.digits + 1, exponent⟩
  match number.holds below, number.holds above with
  | false, false => none
  | true, false => some below
  | false, true => some above
  | true, true =>
      match compareScaled (2 * below.digits + 1) exponent (2 * number.mantissa) number.exponent with
      | .lt => some above
      | .gt => some below
      | .eq => some (if below.digits % 2 = 0 then below else above)

/-- The digits of a number on finer and finer grids, until one of them has a
decimal number that is rounded to it. -/
def refine (number : Binary) : Nat → Int → Decimal
  | 0, exponent => ⟨number.floorAt exponent, exponent⟩
  | bound + 1, exponent =>
      match number.candidate? exponent with
      | some decimal => decimal
      | none => refine number bound (exponent - 1)

/-- An exponent of ten that is not less than a number's own. -/
def coarseExponent (number : Binary) : Int :=
  ((number.mantissa.log2 + 1 : Int) + number.exponent) * 30103 / 100000 + 1

/-- The shortest decimal number that is rounded to a binary number. -/
def shortest (number : Binary) : Decimal :=
  if number.mantissa = 0 then ⟨0, 0⟩ else number.refine 22 number.coarseExponent

end Binary

namespace Decimal

/-- A number without zeros at the end of its digits. -/
def trimDigits : List Char → Int → List Char × Int
  | '0' :: d :: reversed, exponent => trimDigits (d :: reversed) (exponent + 1)
  | reversed, exponent => (reversed.reverse, exponent)

/-- Where positional notation ends: the number of digits before the decimal point,
or of zeros after it, from which on an exponent is written. -/
structure Notation where
  greatest : Int
  least : Int

/-- Numbers from `1e16` up and below `1e-4` are written with an exponent. -/
def usual : Notation := ⟨16, -4⟩

/-- An exponent with its sign and at least two digits. -/
def exponentText (exponent : Int) : List Char :=
  let digits := Nat.toDigits 10 exponent.natAbs
  (if exponent < 0 then '-' else '+') :: (if digits.length < 2 then '0' :: digits else digits)

/-- The digits of a number with a decimal point; an integer gets a final `.0`. -/
def write (style : Notation) (number : Decimal) : List Char :=
  let (digits, exponent) := trimDigits (Nat.toDigits 10 number.digits).reverse number.exponent
  let point := digits.length + exponent
  if digits = ['0'] then ['0', '.', '0']
  else if style.least < point ∧ point ≤ style.greatest then
    if point ≤ 0 then '0' :: '.' :: (List.replicate (-point).toNat '0' ++ digits)
    else
      match digits.drop point.toNat with
      | [] => digits ++ List.replicate exponent.toNat '0' ++ ['.', '0']
      | fraction => digits.take point.toNat ++ '.' :: fraction
  else
    let fraction := digits.drop 1
    digits.take 1 ++ (if fraction = [] then [] else '.' :: fraction)
      ++ 'e' :: exponentText (point - 1)

/-- The text of the binary number nearest to a decimal number. -/
def text (number : Decimal) : String :=
  match number.nearest? with
  | none => "inf"
  | some binary => String.ofList (write usual binary.shortest)

end Decimal

end LintBridge
