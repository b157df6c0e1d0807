import Rulebook.Number.Shortest

/-!
# Laying out decimal digits

Given the digits of a number and the place of its decimal point, a layout decides how the number is
written: positionally inside a window of point positions, with an exponent outside it. Three layouts
are in use, each one record:

* `Layout.display`: what traces, comparisons and patterns show; whole numbers carry no point.
* `Layout.exchange`: what is sent to other programs; a whole number keeps `.0`, so it stays
  distinguishable from an integer.
* `Layout.column`: fifteen digits, as a text column of the database stores a number.
-/

set_option autoImplicit false

namespace Rulebook

/-- How the digits of a positive number are written. -/
structure Layout where
  /-- The least place of the point that is written positionally. -/
  leastPoint : Int
  /-- The greatest place of the point that is written positionally. -/
  greatestPoint : Int
  /-- What follows a whole number. -/
  wholeSuffix : String
  /-- What follows a single leading digit before an exponent. -/
  leadSuffix : String
  /-- How many digits an exponent has at least. -/
  exponentWidth : Nat

namespace Layout

/-- Whole numbers have no point; positional from `0.000001` up to 21 digits. -/
def display : Layout := ⟨-5, 21, "", "", 1⟩

/-- Whole numbers keep a point; positional from `0.0001` up to 16 digits. -/
def exchange : Layout := ⟨-3, 16, ".0", "", 2⟩

/-- Every number keeps a point; positional from `0.0001` up to 15 digits. -/
def column : Layout := ⟨-3, 15, ".0", ".0", 2⟩

/-- A whole number with zeros in front, up to a least width. -/
def padded (width : Nat) (n : Nat) : List Char :=
  let ds := (toString n).toList
  List.replicate (width - ds.length) '0' ++ ds

/-- An exponent with its sign. -/
def exponentText (layout : Layout) (power : Int) : List Char :=
  (if power < 0 then '-' else '+') :: padded layout.exponentWidth power.natAbs

/-- The text of a positive number with the given digits and place of the point. -/
def write (layout : Layout) (d : Double.Digits) : List Char :=
  let count : Int := d.text.length
  if layout.leastPoint ≤ d.point && d.point ≤ layout.greatestPoint then
    if count ≤ d.point then
      d.text ++ List.replicate (d.point - count).toNat '0' ++ layout.wholeSuffix.toList
    else if 0 < d.point then
      d.text.take d.point.toNat ++ '.' :: d.text.drop d.point.toNat
    else
      '0' :: '.' :: List.replicate (-d.point).toNat '0' ++ d.text
  else
    let mantissa := match d.text with
      | [] => []
      | [c] => c :: layout.leadSuffix.toList
      | c :: rest => c :: '.' :: rest
    mantissa ++ 'e' :: layout.exponentText (d.point - 1)

end Layout

namespace Double

/-- The shortest text of a double that reads back as it. -/
def write (layout : Layout) (zero negativeZero nan infinity : String) : Double → String
  | .nan => nan
  | .infinity negative => if negative then "-" ++ infinity else infinity
  | .finite negative m e h =>
    if m = 0 then (if negative then negativeZero else zero)
    else
      let body := layout.write (.ofDecimal (shortestDecimal m e h))
      String.ofList (if negative then '-' :: body else body)

/-- The text of a double in traces, comparisons and patterns. Both zeros are `0`. -/
def display : Double → String :=
  write .display "0" "0" "NaN" "Infinity"

/-- The text of a double for other programs, from which the very same double can be read. -/
def exchangeText : Double → String :=
  write .exchange "0.0" "-0.0" "nan" "inf"

/-- A positive rational rounded to fifteen significant digits, halves going up. -/
def fifteenDigits (q : Rat) : Digits :=
  let exponent := decimalPoint q - 15
  let scaled := q / (10 : Rat) ^ exponent + 1 / 2
  .ofDecimal ⟨false, scaled.floor.toNat, exponent⟩

/-- The text that a text column keeps of a double; of no number it keeps nothing. -/
def columnText? : Double → Option String
  | .nan => none
  | .infinity negative => some (if negative then "-Inf" else "Inf")
  | .finite negative m e _ =>
    if m = 0 then some (if negative then "-0.0" else "0.0")
    else
      let body := Layout.column.write (fifteenDigits (magnitude m e))
      some (String.ofList (if negative then '-' :: body else body))

end Double

end Rulebook
