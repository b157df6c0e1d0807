import Rulebook.Pattern.Term
import Rulebook.Text.Blank
import Rulebook.Text.Case
import Rulebook.Text.Digit
import Rulebook.Text.Word

/-!
# Single characters in patterns

When a term for one character accepts a character. Without `ignoreCase` a code point accepts itself
and a range its members. With it both sides are put into lower case first, and the letters that
share an upper case (`Text.lookalikes`) count as the same; in the ASCII repertoire only ASCII
letters have case.

Beyond the basic plane, a set compares the lower case of the text's character with the code points
as they are written, and a range also accepts a character whose upper case it holds.
-/

set_option autoImplicit false

namespace Rulebook.Pattern

/-- The lower case that comparisons without regard to case use. -/
def Flags.fold (flags : Flags) (n : Nat) : Nat :=
  if flags.ascii then (if 65 ≤ n && n ≤ 90 then n + 32 else n) else Text.lowerCode n

/-- Whether two characters are the same for a back-reference. -/
def Flags.sameLetter (flags : Flags) (c d : Char) : Bool :=
  if flags.ignoreCase then flags.fold c.toNat == flags.fold d.toNat else c == d

/-- The code points that are compared with a text's character in its lower case. -/
def Flags.foldings (flags : Flags) (n : Nat) : List Nat :=
  let low := flags.fold n
  low :: (if flags.ascii then [] else Text.lookalikesOf low)

/-- Whether a single code point of a pattern accepts a character. -/
def Flags.acceptsCode (flags : Flags) (n : Nat) (c : Char) : Bool :=
  if flags.ignoreCase then (flags.foldings n).contains (flags.fold c.toNat)
  else n == c.toNat

/-- Whether a character class holds a code point. -/
def Category.holds (ascii : Bool) (category : Category) (n : Nat) : Bool :=
  match category, ascii with
  | .digit, false => Text.isDigit (Char.ofNat n)
  | .digit, true => 48 ≤ n && n ≤ 57
  | .space, false => Text.isBlank (Char.ofNat n)
  | .space, true => n == 32 || (9 ≤ n && n ≤ 13)
  | .word, false => Text.isWordCode n
  | .word, true => Text.isAsciiWordCode n

/-- The code points with the given lower case. -/
def lowerPreimages (n : Nat) : List Nat :=
  let moved := Text.lowerRuns.toList.filterMap fun r =>
    let source := ((n : Int) - r.shift).toNat
    if r.covers source && Text.lowerCode source == n then some source else none
  if Text.lowerCode n == n then n :: moved else moved

/-- The last code point of the basic plane. -/
def planeEnd : Nat := 0xFFFF

/-- Whether a range accepts a code point that is already in lower case. -/
def Flags.rangeAcceptsFolded (flags : Flags) (low high n : Nat) : Bool :=
  let inPlane (m : Nat) : Bool := low ≤ m && m ≤ min high planeEnd
  let sources : List Nat :=
    if flags.ascii then
      (if 97 ≤ n && n ≤ 122 then [n, n - 32] else if 65 ≤ n && n ≤ 90 then [] else [n])
    else (n :: Text.lookalikesOf n).flatMap lowerPreimages
  let raised := match Text.upperCodes n with
    | [u] => u
    | _ => n
  sources.any inPlane ||
    (planeEnd < high && ((low ≤ n && n ≤ high) || (low ≤ raised && raised ≤ high)))

/-- Whether a member of a set accepts a code point, which is in lower case if case is ignored. -/
def Flags.itemAccepts (flags : Flags) (n : Nat) : SetItem → Bool
  | .code m =>
    if flags.ignoreCase then
      (if planeEnd < m then m == n else (flags.foldings m).contains n)
    else m == n
  | .range low high =>
    if flags.ignoreCase then flags.rangeAcceptsFolded low high n else low ≤ n && n ≤ high
  | .category category negated => category.holds flags.ascii n != negated

/-- Whether a set accepts a character. -/
def Flags.acceptsSet (flags : Flags) (negated : Bool) (items : List SetItem) (c : Char) : Bool :=
  let n := if flags.ignoreCase then flags.fold c.toNat else c.toNat
  items.any (flags.itemAccepts n) != negated

/-- Whether a character belongs to a word. -/
def Flags.isWord (flags : Flags) (c : Char) : Bool :=
  Category.holds flags.ascii .word c.toNat

end Rulebook.Pattern
