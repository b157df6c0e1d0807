import Rulebook.Number.Decimal
import Rulebook.Number.Order
import Rulebook.Text.Blank
import Rulebook.Text.Digit

/-!
# Numerals

How numbers are written. `Numeral.number?` is the grammar of literals and of numeric comparisons:

* nothing at all is zero;
* `Infinity`, with or without a sign;
* `0x`, `0o` and `0b` (in either case) before digits of that base, without a sign;
* a decimal: an optional sign, digits with at most one point among or around them, and optionally an
  exponent. Digits may be those of any script.

A decimal is rounded to the nearest double, and one that comes out whole is an integer. Text that is
none of these is no number.

Two neighbouring grammars are here as well: `Numeral.float?`, the wider one by which priorities are
read, and `Numeral.integer?`, for whole numbers with grouping.
-/

set_option autoImplicit false

namespace Rulebook.Numeral

/-- The digits at the start of a text, as values, and the rest. -/
def digits : List Char → List Nat × List Char
  | [] => ([], [])
  | c :: rest =>
    match Text.digitValue? c with
    | some d => let (ds, r) := digits rest; (d :: ds, r)
    | none => ([], c :: rest)

/-- Whether a minus sign comes first, and what follows an optional sign. -/
def sign : List Char → Bool × List Char
  | '-' :: rest => (true, rest)
  | '+' :: rest => (false, rest)
  | s => (false, s)

/-- An exponent that takes up the whole of the text; without one it is zero. -/
def exponent? : List Char → Option Int
  | [] => some 0
  | c :: rest =>
    if c = 'e' ∨ c = 'E' then
      let (negative, body) := sign rest
      match digits body with
      | ([], _) => none
      | (ds, []) => some (if negative then -(Text.ofDigits 10 ds : Int) else Text.ofDigits 10 ds)
      | (_, _ :: _) => none
    else none

/-- The whole digits and the decimal places at the start of a text, and the rest. -/
def places? (s : List Char) : Option (List Nat × List Nat × List Char) :=
  match digits s with
  | ([], '.' :: rest) =>
    match digits rest with
    | ([], _) => none
    | (fraction, after) => some ([], fraction, after)
  | ([], _) => none
  | (whole, '.' :: rest) =>
    let (fraction, after) := digits rest
    some (whole, fraction, after)
  | (whole, after) => some (whole, [], after)

/-- A decimal numeral. -/
def decimal? (s : List Char) : Option Decimal := do
  let (negative, body) := sign s
  let (whole, fraction, after) ← places? body
  let exponent ← exponent? after
  return ⟨negative, Text.ofDigits 10 (whole ++ fraction), exponent - (fraction.length : Int)⟩

/-- The base that a letter after a zero announces. -/
def radix? (c : Char) : Option Nat :=
  if c = 'x' ∨ c = 'X' then some 16
  else if c = 'o' ∨ c = 'O' then some 8
  else if c = 'b' ∨ c = 'B' then some 2
  else none

/-- A numeral in base sixteen, eight or two. -/
def radixInteger? : List Char → Option Nat
  | '0' :: c :: d :: rest => do
    let base ← radix? c
    let ds ← (d :: rest).mapM (Text.radixDigit? base)
    return Text.ofDigits base ds
  | _ => none

/-- An infinity, written out. -/
def infinity? (s : List Char) : Option Double :=
  if s = "Infinity".toList ∨ s = "+Infinity".toList then some (.infinity false)
  else if s = "-Infinity".toList then some (.infinity true)
  else none

/-- A double as a number, as an integer if it is whole. -/
def ofDouble (d : Double) : Number :=
  match d.toInt? with
  | some n => .int n
  | none => .double d

/-- The number that a text denotes, blanks around it ignored. -/
def number? (text : List Char) : Option Number :=
  let s := Text.trim text
  if s.isEmpty then some (.int 0)
  else match radixInteger? s with
    | some n => some (.int n)
    | none =>
      match infinity? s with
      | some d => some (.double d)
      | none => (decimal? s).map fun d => ofDouble d.toDouble

/-- The message for an integer with more digits than are read. -/
def tooLongMessage (digits : Nat) : String :=
  "Exceeds the limit (4300 digits) for integer string conversion: value has " ++
    toString digits ++ " digits; use sys.set_int_max_str_digits() to increase the limit"

/-! ## Numerals with grouping -/

/-- A text without the single underscores that stand between digits; none if an underscore stands
anywhere else. -/
def ungroup? : (afterDigit : Bool) → List Char → Option (List Char)
  | _, [] => some []
  | afterDigit, '_' :: c :: rest =>
    if afterDigit && Text.isDigit c then (ungroup? true rest).map (c :: ·) else none
  | _, ['_'] => none
  | _, c :: rest => (ungroup? (Text.isDigit c) rest).map (c :: ·)

/-- The words for numbers that have no digits, in lower case. -/
def named? (s : List Char) : Option Double :=
  let (negative, body) := sign s
  let word := String.ofList (body.map Char.toLower)
  if word = "inf" ∨ word = "infinity" then some (.infinity negative)
  else if word = "nan" then some .nan
  else none

/-- The double that a text denotes in the wider grammar: digits may be grouped by single
underscores, and infinities and no number may be written in any case. Blank text is no number. -/
def float? (text : List Char) : Option Double :=
  let s := Text.trim text
  match named? s with
  | some d => some d
  | none => ((ungroup? false s).bind decimal?).map Decimal.toDouble

/-- The integer that a text denotes: an optional sign and digits of any script, which may be grouped
by single underscores. -/
def integer? (text : List Char) : Option Int := do
  let (negative, body) := sign (Text.trim text)
  match digits (← ungroup? false body) with
  | ([], _) => none
  | (ds, []) => some (if negative then -(Text.ofDigits 10 ds : Int) else Text.ofDigits 10 ds)
  | (_, _ :: _) => none

end Rulebook.Numeral
