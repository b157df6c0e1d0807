import Rulebook.Number.Double

/-!
# Decimal numbers

A decimal is what a numeral denotes before it is rounded: a sign, a whole coefficient and a power of
ten. `Decimal.toDouble` rounds it correctly. Exponents far outside the range of doubles are settled
by a size estimate instead of computing the power, which is exact because ten lies between 2³ and
2⁴: a coefficient of `b` bits at a positive power `x` is at least `2^(b - 1 + 3x)`, and at a
negative power it is below `2^(b - 3|x|)`.
-/

set_option autoImplicit false

namespace Rulebook

/-- A number in decimal: `coefficient × 10 ^ exponent`, with a sign. -/
structure Decimal where
  negative : Bool
  coefficient : Nat
  exponent : Int
deriving DecidableEq

namespace Decimal

/-- The absolute value of a decimal as a rational number. -/
def magnitude (d : Decimal) : Rat :=
  (d.coefficient : Rat) * (10 : Rat) ^ d.exponent

/-- Whether the size estimate puts a positive decimal above every finite double. -/
def tooLarge (d : Decimal) : Bool :=
  0 ≤ d.exponent && 1025 < (d.coefficient.log2 : Int) + 3 * d.exponent

/-- Whether the size estimate puts a decimal closer to zero than half the smallest double. -/
def tooSmall (d : Decimal) : Bool :=
  d.exponent < 0 && (d.coefficient.log2 : Int) + 1 + 3 * d.exponent < -1080

/-- The double nearest to a decimal. -/
def toDouble (d : Decimal) : Double :=
  if d.coefficient = 0 then .zero d.negative
  else if d.tooLarge then .infinity d.negative
  else if d.tooSmall then .zero d.negative
  else .round d.negative d.magnitude

/-- The digits of the coefficient, most significant first. -/
def digits (d : Decimal) : List Char :=
  (toString d.coefficient).toList

/-- Digits without the zeros at their end, and how many those were. -/
def dropTrailingZeros (ds : List Char) : List Char × Nat :=
  let kept := (ds.reverse.dropWhile (· == '0')).reverse
  (kept, ds.length - kept.length)

end Decimal

end Rulebook
