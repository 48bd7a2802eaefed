/-!
# Binary numbers

Numbers of 53 binary digits, and the one that is nearest to a decimal number.
Everything is exact arithmetic on natural numbers.
-/

namespace LintBridge

/-- The number `digits * 10 ^ exponent`. -/
structure Decimal where
  digits : Nat
  exponent : Int
  deriving DecidableEq, Repr

/-- The number `mantissa * 2 ^ exponent`. -/
structure Binary where
  mantissa : Nat
  exponent : Int
  deriving DecidableEq, Repr

/-- A power of two; a negative exponent counts as zero. -/
def twoTo (exponent : Int) : Nat :=
  Nat.pow 2 exponent.toNat

/-- A power of ten; a negative exponent counts as zero. -/
def tenTo (exponent : Int) : Nat :=
  Nat.pow 10 exponent.toNat

namespace Binary

/-- The number of digits of a mantissa. -/
def precision : Nat := 53

/-- The least exponent. -/
def minExponent : Int := -1074

/-- The greatest exponent. -/
def maxExponent : Int := 971

end Binary

/-- A quotient rounded to the nearest natural number, a half to the even one. -/
def roundHalfEven (numerator denominator : Nat) : Nat :=
  let quotient := numerator / denominator
  let twice := 2 * (numerator % denominator)
  if twice < denominator then quotient
  else if denominator < twice then quotient + 1
  else quotient + quotient % 2

namespace Decimal

/-- How many digits a number has before its decimal point, not more than. -/
def magnitude (number : Decimal) : Int :=
  (Nat.toDigits 10 number.digits).length + number.exponent

/-- The exponent at which the quotient of two numbers has a mantissa of the full
length, or the least one. -/
def scaleFor (numerator denominator : Nat) : Int :=
  let guess : Int := (numerator.log2 : Int) - denominator.log2 - Binary.precision
  let scaled := numerator * twoTo (-guess)
  let short := scaled < twoTo Binary.precision * (denominator * twoTo guess)
  max Binary.minExponent (if short then guess else guess + 1)

/-- The binary number nearest to a decimal number, unless that is too great. -/
def nearest? (number : Decimal) : Option Binary :=
  if number.digits = 0 ∨ number.magnitude < -400 then some ⟨0, Binary.minExponent⟩
  else if 400 < number.magnitude then none
  else
    let numerator := number.digits * tenTo number.exponent
    let denominator := tenTo (-number.exponent)
    let scale := scaleFor numerator denominator
    let mantissa := roundHalfEven (numerator * twoTo (-scale)) (denominator * twoTo scale)
    let (mantissa, scale) :=
      if mantissa = twoTo Binary.precision then (mantissa / 2, scale + 1) else (mantissa, scale)
    if Binary.maxExponent < scale then none else some ⟨mantissa, scale⟩

end Decimal

end LintBridge
