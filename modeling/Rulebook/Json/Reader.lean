import Rulebook.Numeral
import Rulebook.Value

/-!
# Reading JSON

JSON text as value trees. The numbers may also be `NaN`, `Infinity` and `-Infinity`; a number with a
point or an exponent is a double, any other an integer of any size. Of a key that occurs twice the
last value counts.

Text that is no JSON is reported with the place where reading stopped, counted in characters from
zero: the place of the first character that does not fit, except that a string that never ends is
reported where it starts.

Positions are carried along with the text that is left. The recursion is bounded by `fuel`, which
starts above the length of the text; every call uses up a character.
-/

set_option autoImplicit false

namespace Rulebook.Json

/-- What is wrong with a text that is no JSON. -/
inductive Problem
  | valueExpected
  | nameExpected
  | colonExpected
  | commaExpected
  | openString
  | controlCharacter
  | badEscape
  | badCodeEscape
  | moreText
  /-- An integer with more digits than are read. This is no fault of the JSON. -/
  | tooManyDigits (digits : Nat)
deriving DecidableEq

/-- A problem and where it was noticed. -/
structure Failure where
  problem : Problem
  position : Nat
deriving DecidableEq

/-- A part that was read, the position after it and the text that is left. -/
abbrev Part (α : Type) := α × Nat × List Char

/-- Fails at a position. -/
def fail {α : Type} (problem : Problem) (position : Nat) : Except Failure α :=
  .error ⟨problem, position⟩

/-- Whether a character may stand between the parts of a JSON text. -/
def isSpace (c : Char) : Bool :=
  c == ' ' || c == '\t' || c == '\n' || c == '\r'

/-- Passes over the space at the start of a text. -/
def skipSpace : Nat → List Char → Nat × List Char
  | pos, [] => (pos, [])
  | pos, c :: rest => if isSpace c then skipSpace (pos + 1) rest else (pos, c :: rest)

/-! ## Strings -/

/-- The character that a letter after a backslash stands for. -/
def simpleEscape? (c : Char) : Option Char :=
  match c with
  | '"' => some '"'
  | '\\' => some '\\'
  | '/' => some '/'
  | 'b' => some '\x08'
  | 'f' => some '\x0c'
  | 'n' => some '\n'
  | 'r' => some '\r'
  | 't' => some '\t'
  | _ => none

/-- Four hexadecimal digits at the start of a text. At least one more character has to follow. -/
def fourHex? (s : List Char) : Option (Nat × List Char) :=
  match s with
  | a :: b :: c :: d :: e :: rest =>
    ([a, b, c, d].mapM (Text.radixDigit? 16)).map fun ds => (Text.ofDigits 16 ds, e :: rest)
  | _ => none

/-- The character at a code point; the halves of a pair stand for no character alone. -/
def codeChar (n : Nat) : Char :=
  if n.isValidChar then Char.ofNat n else '\uFFFD'

/-- Whether a code unit is the first half of a pair. -/
def isHighHalf (n : Nat) : Bool := 0xD800 ≤ n && n ≤ 0xDBFF

/-- Whether a code unit is the second half of a pair. -/
def isLowHalf (n : Nat) : Bool := 0xDC00 ≤ n && n ≤ 0xDFFF

/-- The rest of a string after its opening quote, which stands at `opened`. -/
def stringBody (opened : Nat) : (fuel pos : Nat) → List Char → Except Failure (Part (List Char))
  | 0, _, _ => fail .openString opened
  | _ + 1, _, [] => fail .openString opened
  | fuel + 1, pos, c :: rest =>
    if c = '"' then .ok ([], pos + 1, rest)
    else if c = '\\' then
      match rest with
      | [] => fail .openString opened
      | 'u' :: digits =>
        match fourHex? digits with
        | none => fail .badCodeEscape (pos + 1)
        | some (n, after) =>
          match isHighHalf n, after with
          | true, '\\' :: 'u' :: more =>
            match fourHex? more with
            | some (m, after') =>
              if isLowHalf m then do
                let joined := 0x10000 + (n - 0xD800) * 0x400 + (m - 0xDC00)
                let (cs, pos, left) ← stringBody opened fuel (pos + 12) after'
                return (codeChar joined :: cs, pos, left)
              else do
                let (cs, pos, left) ← stringBody opened fuel (pos + 6) after
                return (codeChar n :: cs, pos, left)
            | none =>
              if 5 ≤ more.length then fail .badCodeEscape (pos + 7)
              else do
                let (cs, pos, left) ← stringBody opened fuel (pos + 6) after
                return (codeChar n :: cs, pos, left)
          | _, _ => do
            let (cs, pos, left) ← stringBody opened fuel (pos + 6) after
            return (codeChar n :: cs, pos, left)
      | e :: after =>
        match simpleEscape? e with
        | none => fail .badEscape pos
        | some d => do
          let (cs, pos, left) ← stringBody opened fuel (pos + 2) after
          return (d :: cs, pos, left)
    else if c.toNat < 0x20 then fail .controlCharacter pos
    else do
      let (cs, pos, left) ← stringBody opened fuel (pos + 1) rest
      return (c :: cs, pos, left)

/-- A string after its opening quote. -/
def string (opened : Nat) (s : List Char) : Except Failure (Part String) := do
  let (cs, pos, left) ← stringBody opened (s.length + 1) (opened + 1) s
  return (String.ofList cs, pos, left)

/-! ## Numbers -/

/-- The ASCII digits at the start of a text, as values, and the rest. -/
def digits : List Char → List Nat × List Char
  | [] => ([], [])
  | c :: rest =>
    match Text.radixDigit? 10 c with
    | some d => let (ds, r) := digits rest; (d :: ds, r)
    | none => ([], c :: rest)

/-- The digits before a point: a zero alone, or digits that do not start with one. -/
def wholeDigits? (s : List Char) : Option (List Nat × List Char) :=
  match s with
  | '0' :: rest => some ([0], rest)
  | _ =>
    match digits s with
    | ([], _) => none
    | found => some found

/-- The digits after a point, if there are any; otherwise the point does not belong to the number.
-/
def fraction? (s : List Char) : Option (List Nat × List Char) :=
  match s with
  | '.' :: rest =>
    match digits rest with
    | ([], _) => none
    | found => some found
  | _ => none

/-- An exponent, how long it is, and the rest; without digits it does not belong to the number. -/
def exponent? (s : List Char) : Option (Int × Nat × List Char) :=
  match s with
  | e :: rest =>
    if e = 'e' ∨ e = 'E' then
      let (negative, width, body) := match rest with
        | '-' :: r => (true, 2, r)
        | '+' :: r => (false, 2, r)
        | r => (false, 1, r)
      match digits body with
      | ([], _) => none
      | (ds, left) =>
        let n : Int := Text.ofDigits 10 ds
        some (if negative then -n else n, width + ds.length, left)
    else none
  | [] => none

/-- The most digits that an integer may have. -/
def integerDigitLimit : Nat := 4300

/-- A number, which starts at the given position. -/
def number (start : Nat) (s : List Char) : Except Failure (Part Value) :=
  let (negative, signWidth, body) := match s with
    | '-' :: rest => (true, 1, rest)
    | _ => (false, 0, s)
  match wholeDigits? body with
  | none => fail .valueExpected start
  | some (whole, rest) =>
    let pos := start + signWidth + whole.length
    let (places, pos, rest) := match fraction? rest with
      | some (ds, left) => (some ds, pos + 1 + ds.length, left)
      | none => (none, pos, rest)
    let (power, pos, rest) := match exponent? rest with
      | some (n, width, left) => (some n, pos + width, left)
      | none => (none, pos, rest)
    if places.isNone && power.isNone then
      if integerDigitLimit < whole.length then fail (.tooManyDigits whole.length) start
      else
        let n : Int := Text.ofDigits 10 whole
        .ok (.int (if negative then -n else n), pos, rest)
    else
      let ds := places.getD []
      let d : Decimal :=
        ⟨negative, Text.ofDigits 10 (whole ++ ds), power.getD 0 - (ds.length : Int)⟩
      .ok (.double d.toDouble, pos, rest)

/-! ## Values -/

/-- The rest after a given word. -/
def afterWord? (word : String) (s : List Char) : Option (List Char) :=
  if word.toList.isPrefixOf s then some (s.drop word.length) else none

/-- The words that stand for values. -/
def words : List (String × Value) :=
  [("null", .null), ("true", .bool true), ("false", .bool false), ("NaN", .double .nan),
   ("Infinity", .double (.infinity false)), ("-Infinity", .double (.infinity true))]

/-- A value that is written as a word. -/
def word? (pos : Nat) (s : List Char) : Option (Value × Nat × List Char) :=
  words.findSome? fun (word, v) => (afterWord? word s).map fun rest => (v, pos + word.length, rest)

mutual

/-- A value at the start of a text. -/
def value : (fuel pos : Nat) → List Char → Except Failure (Part Value)
  | 0, pos, _ => fail .valueExpected pos
  | _ + 1, pos, [] => fail .valueExpected pos
  | fuel + 1, pos, c :: rest =>
    if c = '"' then do
      let (s, pos, left) ← string pos rest
      return (.text s, pos, left)
    else if c = '{' then do
      let (pos, rest) := skipSpace (pos + 1) rest
      match rest with
      | '}' :: left => return (.object [], pos + 1, left)
      | _ =>
        let (pairs, pos, left) ← members fuel pos rest
        return (.object (Members.ofPairs pairs), pos, left)
    else if c = '[' then do
      let (pos, rest) := skipSpace (pos + 1) rest
      match rest with
      | ']' :: left => return (.list [], pos + 1, left)
      | _ =>
        let (vs, pos, left) ← items fuel pos rest
        return (.list vs, pos, left)
    else match word? pos (c :: rest) with
      | some found => .ok found
      | none => number pos (c :: rest)

/-- The items of a list, of which there is at least one, up to the closing bracket. -/
def items : (fuel pos : Nat) → List Char → Except Failure (Part (List Value))
  | 0, pos, _ => fail .valueExpected pos
  | fuel + 1, pos, s => do
    let (v, pos, rest) ← value fuel pos s
    let (pos, rest) := skipSpace pos rest
    match rest with
    | ']' :: left => return ([v], pos + 1, left)
    | ',' :: after =>
      let (pos, after) := skipSpace (pos + 1) after
      let (vs, pos, left) ← items fuel pos after
      return (v :: vs, pos, left)
    | _ => fail .commaExpected pos

/-- The members of an object, of which there is at least one, up to the closing brace. -/
def members : (fuel pos : Nat) → List Char → Except Failure (Part (List (String × Value)))
  | 0, pos, _ => fail .nameExpected pos
  | fuel + 1, pos, s =>
    match s with
    | '"' :: rest => do
      let (key, pos, rest) ← string pos rest
      let (pos, rest) := skipSpace pos rest
      match rest with
      | ':' :: after =>
        let (pos, after) := skipSpace (pos + 1) after
        let (v, pos, rest) ← value fuel pos after
        let (pos, rest) := skipSpace pos rest
        match rest with
        | '}' :: left => return ([(key, v)], pos + 1, left)
        | ',' :: after =>
          let (pos, after) := skipSpace (pos + 1) after
          let (ms, pos, left) ← members fuel pos after
          return ((key, v) :: ms, pos, left)
        | _ => fail .commaExpected pos
      | _ => fail .colonExpected pos
    | _ => fail .nameExpected pos

end

/-- Reads a text as JSON. -/
def read (text : String) : Except Failure Value := do
  let s := text.toList
  let (pos, rest) := skipSpace 0 s
  let (v, pos, rest) ← value (2 * s.length + 2) pos rest
  let (pos, rest) := skipSpace pos rest
  match rest with
  | [] => return v
  | _ => fail .moreText pos

end Rulebook.Json
