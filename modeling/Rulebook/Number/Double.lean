/-!
# Binary floating-point numbers

Inputs and literals may hold numbers with a binary significand of 53 bits. Every finite one is a
whole `mantissa` times a power of two, so its value is an exact rational number and everything the
library does with it (comparing, rounding, printing) is exact arithmetic.

The proof field of `Double.finite` makes the representation unique: the mantissa is as large as
53 bits allow, unless the exponent is already the smallest. The one fact the rest relies on is that
`round` gives the nearest representable number and, of two equally near ones, the one with the even
mantissa.
-/

set_option autoImplicit false

namespace Rulebook

namespace Double

/-- One more than the largest mantissa: 53 bits. -/
def mantissaBound : Nat := 0x20000000000000

/-- The smallest mantissa of a number that uses all 53 bits. -/
def normalBound : Nat := 0x10000000000000

/-- The smallest exponent. -/
def leastExponent : Int := -1074

/-- The largest exponent. -/
def greatestExponent : Int := 971

/-- The unique way to write a finite number: a mantissa below the bound, an exponent in range, and
a leading bit that is set unless the exponent is the smallest. -/
def Canonical (mantissa : Nat) (exponent : Int) : Prop :=
  mantissa < mantissaBound ∧ leastExponent ≤ exponent ∧ exponent ≤ greatestExponent ∧
    (normalBound ≤ mantissa ∨ exponent = leastExponent)

instance (mantissa : Nat) (exponent : Int) : Decidable (Canonical mantissa exponent) := by
  unfold Canonical; infer_instance

end Double

/-- A number with a 53-bit binary significand, an infinity, or no number at all. Zero has a sign. -/
inductive Double
  | nan
  | infinity (negative : Bool)
  | finite (negative : Bool) (mantissa : Nat) (exponent : Int)
      (canonical : Double.Canonical mantissa exponent)
deriving DecidableEq

namespace Double

/-- Zero, with a sign. -/
def zero (negative : Bool) : Double :=
  .finite negative 0 leastExponent (by decide)

instance : Inhabited Double := ⟨zero false⟩

/-- The rational number that a mantissa and an exponent stand for. -/
def magnitude (mantissa : Nat) (exponent : Int) : Rat :=
  (mantissa : Rat) * (2 : Rat) ^ exponent

/-- The rational number that a finite double stands for. -/
def toRat? : Double → Option Rat
  | .nan => none
  | .infinity _ => none
  | .finite negative m e _ => some (if negative then -magnitude m e else magnitude m e)

/-- Whether a double is an infinity or no number. -/
def isExceptional (d : Double) : Bool :=
  d.toRat?.isNone

/-- The whole number that a double stands for, if it stands for one. -/
def toInt? (d : Double) : Option Int :=
  match d.toRat? with
  | some q => if q.den = 1 then some q.num else none
  | none => none

/-- A finite double without its fraction. -/
def truncate? (d : Double) : Option Int :=
  d.toRat?.map fun q => if q < 0 then -(-q).floor else q.floor

/-! ## Rounding -/

/-- A non-negative rational rounded to the nearest whole number, halves going to the even one. -/
def roundHalfEven (q : Rat) : Nat :=
  let below := q.floor.toNat
  let rest := q - (below : Rat)
  let half : Rat := 1 / 2
  if half < rest || (rest == half && below % 2 == 1) then below + 1 else below

/-- The exponent of the largest power of two that is not above a positive rational. -/
def binaryExponent (q : Rat) : Int :=
  let guess : Int := (q.num.natAbs.log2 : Int) - (q.den.log2 : Int)
  if q < (2 : Rat) ^ guess then guess - 1 else guess

/-- The finite double with the given parts, or an infinity if they are out of range. -/
def ofParts (negative : Bool) (mantissa : Nat) (exponent : Int) : Double :=
  if h : Canonical mantissa exponent then .finite negative mantissa exponent h
  else .infinity negative

/-- The double nearest to a non-negative rational; beyond the largest finite double, infinity. -/
def round (negative : Bool) (q : Rat) : Double :=
  if q = 0 then zero negative
  else
    let exponent := max (binaryExponent q - 52) leastExponent
    let mantissa := roundHalfEven (q / (2 : Rat) ^ exponent)
    if mantissa = mantissaBound then ofParts negative normalBound (exponent + 1)
    else ofParts negative mantissa exponent

/-- The double nearest to a whole number. -/
def ofInt (n : Int) : Double :=
  round (n < 0) (n.natAbs : Rat)

end Double

end Rulebook
