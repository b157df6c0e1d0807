import Rulebook.Number.Decimal

/-!
# The shortest decimal that reads back

A double is written with the fewest decimal digits that `Decimal.toDouble` reads as the same double,
and, of the decimals with that many digits, with the nearest. On a grid of decimals with a fixed
number of digits only the two neighbours of the value can be the nearest, so those two are tried,
for one digit, two digits, and so on up to seventeen, which always suffice. The exact expansion
stands behind them, so that whatever is printed reads back.
-/

set_option autoImplicit false

namespace Rulebook

namespace Double

/-- The digits of a decimal text: at least one, the last one not zero, and the number of digits
that stand before the decimal point (which may be negative or more than there are). -/
structure Digits where
  text : List Char
  point : Int
deriving DecidableEq

/-- The digits of a positive decimal. -/
def Digits.ofDecimal (d : Decimal) : Digits :=
  let (kept, dropped) := Decimal.dropTrailingZeros d.digits
  ⟨kept, (kept.length : Int) + d.exponent + dropped⟩

/-- How many decimal digits a positive rational has before the point: `10^(p-1) ≤ q < 10^p`. The
rational is at least as large as the smallest double, so four hundred places show its leading
digit. -/
def decimalPoint (q : Rat) : Int :=
  ((toString (q * (10 : Rat) ^ (400 : Nat)).floor.toNat).length : Int) - 400

/-- The exact decimal expansion of a finite double. -/
def exactDecimal (mantissa : Nat) (exponent : Int) : Decimal :=
  if 0 ≤ exponent then ⟨false, mantissa * Nat.pow 2 exponent.toNat, 0⟩
  else ⟨false, mantissa * Nat.pow 5 (-exponent).toNat, exponent⟩

/-- The two neighbours of a positive rational among the decimals with `count` digits, the nearer
first; of two equally near ones the one with the even last digit comes first. -/
def neighbours (q : Rat) (point : Int) (count : Nat) : List Decimal :=
  let exponent := point - (count : Int)
  let scaled := q / (10 : Rat) ^ exponent
  let below := scaled.floor.toNat
  let nearest := roundHalfEven scaled
  let other := if nearest = below then below + 1 else below
  [⟨false, nearest, exponent⟩, ⟨false, other, exponent⟩]

/-- The shortest decimal that reads back as the given positive double. -/
def shortestDecimal (mantissa : Nat) (exponent : Int) (h : Canonical mantissa exponent) : Decimal :=
  let q := magnitude mantissa exponent
  let point := decimalPoint q
  let candidates := (List.range 17).flatMap fun i => neighbours q point (i + 1)
  let readsBack (d : Decimal) : Bool := d.toDouble == .finite false mantissa exponent h
  (candidates.find? readsBack).getD (exactDecimal mantissa exponent)

end Double

end Rulebook
