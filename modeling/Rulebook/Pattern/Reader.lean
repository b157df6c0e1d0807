import Rulebook.Numeral
import Rulebook.Pattern.Term
import Rulebook.Text.CharacterName
import Rulebook.Text.Word

/-!
# Reading patterns

The written form of patterns. A pattern is a choice of sequences; a sequence is read item by item,
and a quantifier applies to the item before it. Switches at the very start of the pattern hold for
all of it, those of a group only inside the group.

Reading keeps a `Ledger` of the groups seen so far, because a reference is only allowed to a group
that is already closed, and a look-behind has to know how wide the groups are that it refers to.

Every way in which a pattern can be ill-formed is a `Fault`. Nearly all faults just mean that the
pattern never matches; `Fault.isRefused` marks the two that are reported instead.

The recursion is bounded by `fuel`, which starts above three times the length of the pattern: from
one character to the next there are at most three calls, into a group, its choice and its sequence.
-/

set_option autoImplicit false

namespace Rulebook.Pattern

/-- Why a text is not a pattern. -/
inductive Fault
  | trailingBackslash
  | badEscape
  | unclosedSet
  | badRange
  | nothingToRepeat
  | repeatedTwice
  | countTooLarge
  | countTooLong (digits : Nat)
  | countsReversed
  | unclosedGroup
  | unopenedGroup
  | unknownGroupKind
  | badGroupName
  | groupNameTaken
  | unknownGroup
  | groupStillOpen
  | groupInsideLookBehind
  | tooManyBranches
  | misplacedFlags
  | badFlags
  | clashingRepertoires
  | lookBehindNotFixed
  | iterationSwitchedOff
  | nestedTooDeeply
deriving DecidableEq

/-- The faults that are reported; with any other fault the pattern just never matches. -/
def Fault.isRefused : Fault → Bool
  | .countTooLong _ => true
  | .clashingRepertoires => true
  | _ => false

/-- The most digits that a repeat count may have. -/
def countDigitLimit : Nat := 4300

/-- The first repeat count that is too large. -/
def countLimit : Nat := 4294967295

/-- How many groups may be open at once. -/
def nestingLimit : Nat := 480

/-- What is known about the groups of a pattern while it is read. -/
structure Ledger where
  /-- The widths of the groups opened so far, the latest first; none while a group is open. -/
  widths : List (Option Width)
  names : List (String × Nat)
  flags : Flags
  /-- The number of the first group that the enclosing look-behind must not refer to. -/
  behindFrom : Option Nat
  /-- The groups that conditions ask about by number. -/
  asked : List Nat
  /-- Whether some look-behind has no fixed width. -/
  looseBehind : Bool

namespace Ledger

/-- The ledger before anything is read. -/
def blank : Ledger := ⟨[], [], {}, none, [], false⟩

/-- How many groups there are, counting the whole pattern as one. -/
def count (l : Ledger) : Nat := l.widths.length + 1

/-- The width of a closed group. -/
def width? (l : Ledger) (group : Nat) : Option Width :=
  if 0 < group ∧ group < l.count then (l.widths[l.widths.length - group]?).join else none

/-- The width of a group, or an unbounded one if it is not closed. -/
def width (l : Ledger) (group : Nat) : Width :=
  (l.width? group).getD ⟨0, none⟩

/-- Opens a group, giving its number. -/
def openGroup (l : Ledger) (name : Option String) : Except Fault (Nat × Ledger) :=
  let number := l.count
  let opened := { l with widths := none :: l.widths }
  match name with
  | none => .ok (number, opened)
  | some n =>
    if l.names.any (·.1 == n) then .error .groupNameTaken
    else .ok (number, { opened with names := (n, number) :: l.names })

/-- Closes a group. -/
def closeGroup (l : Ledger) (group : Nat) (w : Width) : Ledger :=
  { l with widths := l.widths.set (l.widths.length - group) (some w) }

/-- Checks that a look-behind, if there is one around, may refer to a group. -/
def checkBehind (l : Ledger) (group : Nat) : Except Fault Unit :=
  match l.behindFrom with
  | none => .ok ()
  | some first =>
    if (l.width? group).isNone then .error .groupStillOpen
    else if first ≤ group then .error .groupInsideLookBehind
    else .ok ()

/-- Checks that a reference to a group is allowed. -/
def checkReference (l : Ledger) (group : Nat) : Except Fault Unit :=
  if l.count ≤ group then .error .unknownGroup
  else if (l.width? group).isNone then .error .groupStillOpen
  else l.checkBehind group

end Ledger

/-! ## Escapes -/

/-- A hexadecimal escape of exactly `count` digits. -/
def hexEscape (count : Nat) (s : List Char) : Except Fault (Nat × List Char) :=
  match (s.take count).mapM (Text.radixDigit? 16) with
  | some ds =>
    let n := Text.ofDigits 16 ds
    if ds.length = count ∧ n ≤ 0x10FFFF then .ok (n, s.drop count) else .error .badEscape
  | none => .error .badEscape

/-- At most `count` octal digits at the start of a text, and the rest. -/
def octalDigits : (count : Nat) → List Char → List Nat × List Char
  | 0, s => ([], s)
  | _ + 1, [] => ([], [])
  | count + 1, c :: rest =>
    match Text.radixDigit? 8 c with
    | some d => let (ds, r) := octalDigits count rest; (d :: ds, r)
    | none => ([], c :: rest)

/-- The control characters that have a letter. -/
def controlEscape? (c : Char) : Option Nat :=
  match c with
  | 'a' => some 7
  | 'f' => some 12
  | 'n' => some 10
  | 'r' => some 13
  | 't' => some 9
  | 'v' => some 11
  | '\\' => some 92
  | _ => none

/-- The character classes that have a letter, and whether the letter stands for their complement. -/
def categoryEscape? (c : Char) : Option (Category × Bool) :=
  match c with
  | 'd' => some (.digit, false)
  | 'D' => some (.digit, true)
  | 's' => some (.space, false)
  | 'S' => some (.space, true)
  | 'w' => some (.word, false)
  | 'W' => some (.word, true)
  | _ => none

/-- The conditions on places that have a letter. -/
def anchorEscape? (c : Char) : Option Anchor :=
  match c with
  | 'A' => some .textStart
  | 'b' => some .boundary
  | 'B' => some .noBoundary
  | 'Z' => some .textEnd
  | _ => none

/-- The value of an ASCII digit. -/
def asciiDigit? (c : Char) : Option Nat :=
  Text.radixDigit? 10 c

/-- Whether a character is an ASCII letter. -/
def isAsciiLetter (c : Char) : Bool :=
  ('a' ≤ c && c ≤ 'z') || ('A' ≤ c && c ≤ 'Z')

/-- The name of a character, in braces. -/
def nameEscape : List Char → Except Fault (Nat × List Char)
  | '{' :: inner =>
    match Text.namedCode? (inner.takeWhile (· != '\x7d')), inner.dropWhile (· != '\x7d') with
    | some n, _ :: after => .ok (n, after)
    | _, _ => .error .badEscape
  | _ => .error .badEscape

/-- The escapes that name one code point in the same way inside and outside sets. -/
def codeEscape (c : Char) (rest : List Char) : Except Fault (Nat × List Char) :=
  if c = 'N' then nameEscape rest
  else if c = 'x' then hexEscape 2 rest
  else if c = 'u' then hexEscape 4 rest
  else if c = 'U' then hexEscape 8 rest
  else if isAsciiLetter c then .error .badEscape
  else .ok (c.toNat, rest)

/-- An escape inside a set. -/
def setEscape (c : Char) (rest : List Char) : Except Fault (SetItem × List Char) :=
  match controlEscape? c, categoryEscape? c with
  | some n, _ => .ok (.code n, rest)
  | none, some (category, negated) => .ok (.category category negated, rest)
  | none, none =>
    if c = 'b' then .ok (.code 8, rest)
    else match Text.radixDigit? 8 c with
      | some d =>
        let (ds, after) := octalDigits 2 rest
        let n := Text.ofDigits 8 (d :: ds)
        if 0xFF < n then .error .badEscape else .ok (.code n, after)
      | none =>
        if (asciiDigit? c).isSome then .error .badEscape
        else do
          let (n, after) ← codeEscape c rest
          return (.code n, after)

/-- An escape that starts with a digit other than zero, outside a set: three octal digits name a
code point, one or two digits a group. -/
def digitEscape (d : Nat) (rest : List Char) (l : Ledger) : Except Fault (Term × List Char) :=
  let reference (group : Nat) (after : List Char) : Except Fault (Term × List Char) := do
    l.checkReference group
    return (.reference group, after)
  match rest with
  | e :: after =>
    match asciiDigit? e with
    | none => reference d rest
    | some second =>
      let octal := d < 8 && second < 8
      match octal, after with
      | true, f :: after' =>
        match Text.radixDigit? 8 f with
        | some third =>
          let n := Text.ofDigits 8 [d, second, third]
          if 0xFF < n then .error .badEscape else .ok (.code n false, after')
        | none => reference (d * 10 + second) after
      | _, _ => reference (d * 10 + second) after
  | [] => reference d rest

/-- An escape outside a set. -/
def escape (c : Char) (rest : List Char) (l : Ledger) : Except Fault (Term × List Char) :=
  match anchorEscape? c, categoryEscape? c, controlEscape? c with
  | some a, _, _ => .ok (.anchor a, rest)
  | none, some (category, negated), _ => .ok (.oneOf false [.category category negated], rest)
  | none, none, some n => .ok (.code n false, rest)
  | none, none, none =>
    if c = '0' then
      let (ds, after) := octalDigits 2 rest
      .ok (.code (Text.ofDigits 8 ds) false, after)
    else match asciiDigit? c with
      | some d => digitEscape d rest l
      | none => do
        let (n, after) ← codeEscape c rest
        return (.code n false, after)

/-! ## Sets -/

/-- One member of a set, which may be the start of a range. -/
def setMember : List Char → Except Fault (SetItem × List Char)
  | [] => .error .unclosedSet
  | ['\\'] => .error .trailingBackslash
  | '\\' :: c :: rest => setEscape c rest
  | c :: rest => .ok (.code c.toNat, rest)

/-- The members of a set up to its closing bracket. A bracket that comes first is a member, and so
is a hyphen before the closing bracket. -/
def setItems : (fuel : Nat) → (items : List SetItem) → List Char →
    Except Fault (List SetItem × List Char)
  | 0, _, _ => .error .unclosedSet
  | fuel + 1, items, s =>
    match s, items with
    | ']' :: rest, _ :: _ => .ok (items, rest)
    | _, _ => do
      let (low, rest) ← setMember s
      match rest with
      | ['-'] => .error .unclosedSet
      | '-' :: ']' :: after => return (items ++ [low, .code 45], after)
      | '-' :: after =>
        let (high, after) ← setMember after
        match low, high with
        | .code a, .code b =>
          if b < a then .error .badRange else setItems fuel (items ++ [.range a b]) after
        | _, _ => .error .badRange
      | _ => setItems fuel (items ++ [low]) rest

/-- A set after its opening bracket. A set of a single code point is that code point. -/
def set (s : List Char) : Except Fault (Term × List Char) := do
  let (negated, body) := match s with
    | '^' :: rest => (true, rest)
    | _ => (false, s)
  let (items, rest) ← setItems (body.length + 1) [] body
  match items.eraseDups with
  | [.code n] => return (.code n negated, rest)
  | distinct => return (.oneOf negated distinct, rest)

/-! ## Quantifiers -/

/-- The ASCII digits at the start of a text, as values, and the rest. -/
def asciiDigits : List Char → List Nat × List Char
  | [] => ([], [])
  | c :: rest =>
    match asciiDigit? c with
    | some d => let (ds, r) := asciiDigits rest; (d :: ds, r)
    | none => ([], c :: rest)

/-- A repeat count; without digits there is none. -/
def repeatCount (ds : List Nat) : Except Fault (Option Nat) :=
  match ds with
  | [] => .ok none
  | _ =>
    if countDigitLimit < ds.length then .error (.countTooLong ds.length)
    else
      let n := Text.ofDigits 10 ds
      if countLimit ≤ n then .error .countTooLarge else .ok (some n)

/-- The counts in braces, after the opening brace, or nothing if the brace is an ordinary
character. -/
def bracedCounts (s : List Char) : Option (List Nat × List Nat × List Char) :=
  match s with
  | '}' :: _ => none
  | _ =>
    let (low, rest) := asciiDigits s
    let (high, rest) := match rest with
      | ',' :: after => asciiDigits after
      | _ => (low, rest)
    match rest with
    | '}' :: after => some (low, high, after)
    | _ => none

/-- How greedy a quantifier is, by the character after it, and the rest. -/
def greed : List Char → Greed × List Char
  | '?' :: rest => (.lazy, rest)
  | '+' :: rest => (.possessive, rest)
  | s => (.greedy, s)

/-- Applies a quantifier to the latest item. -/
def quantify (least : Nat) (most : Option Nat) (items : List Term) (s : List Char) :
    Except Fault (List Term × List Char) :=
  match items with
  | [] => .error .nothingToRepeat
  | .anchor _ :: _ => .error .nothingToRepeat
  | .iterate .. :: _ => .error .repeatedTwice
  | item :: earlier =>
    let (g, rest) := greed s
    .ok (.iterate g least most item :: earlier, rest)

/-- A quantifier in braces, after the opening brace; a brace that starts none is an item. -/
def braced (items : List Term) (s : List Char) : Except Fault (List Term × List Char) :=
  match bracedCounts s with
  | none => .ok (.code 123 false :: items, s)
  | some (low, high, rest) => do
    let least ← repeatCount low
    let most ← repeatCount high
    match most with
    | some n => if n < least.getD 0 then .error .countsReversed
    | none => pure ()
    quantify (least.getD 0) most items rest

/-! ## Comments, names and switches -/

/-- What follows the first occurrence of a character, escaped pairs passed over; nothing if it does
not occur. -/
def skipPast (stop : Char) : List Char → Except Fault (Option (List Char))
  | [] => .ok none
  | ['\\'] => .error .trailingBackslash
  | '\\' :: _ :: rest => skipPast stop rest
  | c :: rest => if c = stop then .ok (some rest) else skipPast stop rest

/-- The text up to a closing character, and what follows that. -/
def nameUpTo (stop : Char) (s : List Char) : Except Fault (List Char × List Char) :=
  match s.dropWhile (· != stop) with
  | _ :: rest => .ok (s.takeWhile (· != stop), rest)
  | [] => .error .badGroupName

/-- A group name up to a closing character. -/
def groupName (stop : Char) (s : List Char) : Except Fault (String × List Char) := do
  let (name, rest) ← nameUpTo stop s
  if Text.isName name then return (String.ofList name, rest) else .error .badGroupName

/-- The switch with a given letter. -/
def flag? (c : Char) : Option Flags :=
  match c with
  | 'i' => some { ignoreCase := true }
  | 'm' => some { multiline := true }
  | 's' => some { dotAll := true }
  | 'x' => some { verbose := true }
  | 'a' => some { ascii := true }
  | 'u' => some { unicode := true }
  | 't' => some { singleShot := true }
  | _ => none

/-- Switches to turn on, up to the character that ends them, which is given back too. -/
def flagsOn : (on : Flags) → List Char → Except Fault (Flags × Char × List Char)
  | _, [] => .error .badFlags
  | on, c :: rest =>
    match flag? c with
    | none => if c = ')' ∨ c = '-' ∨ c = ':' then .ok (on, c, rest) else .error .badFlags
    | some f =>
      let both := on.union f
      if f.choosesRepertoire && both.ascii && both.unicode then .error .badFlags
      else flagsOn both rest

/-- Switches to turn off, up to the colon. -/
def flagsOff : (off : Flags) → List Char → Except Fault (Flags × List Char)
  | _, [] => .error .badFlags
  | off, c :: rest =>
    match flag? c with
    | none => if c = ':' then .ok (off, rest) else .error .badFlags
    | some f => if f.choosesRepertoire then .error .badFlags else flagsOff (off.union f) rest

/-- What a group of switches asks for: switches for the whole pattern, or for a group. -/
inductive Switch
  | global (on : Flags)
  | group (on off : Flags)

/-- A group of switches, after its question mark. -/
def switches (s : List Char) : Except Fault (Switch × List Char) := do
  let turnOff (on : Flags) (rest : List Char) : Except Fault (Switch × List Char) := do
    let (off, after) ← match rest with
      | c :: _ => if (flag? c).isSome then flagsOff {} rest else .error .badFlags
      | [] => .error .badFlags
    if off.singleShot || on.meets off then .error .badFlags
    return (.group on off, after)
  match s with
  | '-' :: rest => turnOff {} rest
  | _ =>
    let (on, stop, rest) ← flagsOn {} s
    if stop = ')' then return (.global on, rest)
    if on.singleShot then .error .badFlags
    if stop = '-' then turnOff on rest else return (.group on {}, rest)

/-- The group that a condition asks about, by name or number. -/
def conditionGroup (name : List Char) (l : Ledger) : Except Fault (Nat × Ledger) :=
  if Text.isName name then
    match l.names.find? (·.1 == String.ofList name) with
    | some (_, group) => .ok (group, l)
    | none => .error .unknownGroup
  else
    match Numeral.integer? name with
    | some (.ofNat (n + 1)) => .ok (n + 1, { l with asked := (n + 1) :: l.asked })
    | _ => .error .badGroupName

/-- The rest after a closing parenthesis. -/
def close (s : List Char) : Except Fault (List Char) :=
  match s with
  | ')' :: rest => .ok rest
  | _ => .error .unclosedGroup

/-- Whether a character is passed over between the items of a verbose pattern. -/
def isVerboseSpace (c : Char) : Bool :=
  c == ' ' || (9 ≤ c.toNat && c.toNat ≤ 13)

/-! ## Sequences, choices and groups -/

/-- A term, what is left to read, and the groups known by then. -/
abbrev Reading := Except Fault (Term × List Char × Ledger)

mutual

/-- A choice of sequences, up to a closing parenthesis or the end. Beyond the first alternative of
the whole pattern, switches for the whole pattern are in force. -/
def choice : (fuel depth : Nat) → (verbose first : Bool) → List Char → Ledger → Reading
  | 0, _, _, _, _, _ => .error .nestedTooDeeply
  | fuel + 1, depth, verbose, first, s, l => do
    let (p, s, l) ← sequence fuel depth verbose first [] s l
    match s with
    | '|' :: rest =>
      let verbose := if depth = 0 then l.flags.verbose else verbose
      let (q, s, l) ← choice fuel depth verbose false rest l
      return (.alt p q, s, l)
    | _ => return (p, s, l)

/-- A sequence of items, the latest first in `items`. -/
def sequence : (fuel depth : Nat) → (verbose first : Bool) → (items : List Term) → List Char →
    Ledger → Reading
  | 0, _, _, _, _, _, _ => .error .nestedTooDeeply
  | fuel + 1, depth, verbose, first, items, s, l =>
    match s with
    | [] => .ok (.ofItems items.reverse, [], l)
    | c :: rest =>
      if c = '|' ∨ c = ')' then .ok (.ofItems items.reverse, s, l)
      else if verbose && isVerboseSpace c then sequence fuel depth verbose first items rest l
      else if verbose && c == '#' then do
        let after ← skipPast '\n' rest
        sequence fuel depth verbose first items (after.getD []) l
      else match c with
        | '\\' =>
          match rest with
          | [] => .error .trailingBackslash
          | d :: rest => do
            let (p, rest) ← escape d rest l
            sequence fuel depth verbose first (p :: items) rest l
        | '[' => do
          let (p, rest) ← set rest
          sequence fuel depth verbose first (p :: items) rest l
        | '*' => do
          let (items, rest) ← quantify 0 none items rest
          sequence fuel depth verbose first items rest l
        | '+' => do
          let (items, rest) ← quantify 1 none items rest
          sequence fuel depth verbose first items rest l
        | '?' => do
          let (items, rest) ← quantify 0 (some 1) items rest
          sequence fuel depth verbose first items rest l
        | '{' => do
          let (items, rest) ← braced items rest
          sequence fuel depth verbose first items rest l
        | '.' => sequence fuel depth verbose first (.any :: items) rest l
        | '^' => sequence fuel depth verbose first (.anchor .lineStart :: items) rest l
        | '$' => sequence fuel depth verbose first (.anchor .lineEnd :: items) rest l
        | '(' => do
          match ← group fuel depth verbose first items.isEmpty rest l with
          | (some p, rest, l) => sequence fuel depth verbose first (p :: items) rest l
          | (none, rest, l) =>
            let verbose := if first && items.isEmpty then l.flags.verbose || verbose else verbose
            sequence fuel depth verbose first items rest l
        | c => sequence fuel depth verbose first (.code c.toNat false :: items) rest l

/-- A group after its opening parenthesis. Comments and switches for the whole pattern are no
items. -/
def group : (fuel depth : Nat) → (verbose first nothingYet : Bool) → List Char → Ledger →
    Except Fault (Option Term × List Char × Ledger)
  | 0, _, _, _, _, _, _ => .error .nestedTooDeeply
  | fuel + 1, depth, verbose, first, nothingYet, s, l =>
    if nestingLimit ≤ depth then .error .nestedTooDeeply
    else match s with
    | '?' :: '#' :: rest => do
      match ← skipPast ')' rest with
      | some after => return (none, after, l)
      | none => .error .unclosedGroup
    | '?' :: 'P' :: '=' :: rest => do
      let (name, rest) ← groupName ')' rest
      match l.names.find? (·.1 == name) with
      | none => .error .unknownGroup
      | some (_, number) =>
        l.checkReference number
        return (some (.reference number), rest, l)
    | '?' :: 'P' :: '<' :: rest => do
      let (name, rest) ← groupName '>' rest
      let (number, l) ← l.openGroup (some name)
      let (p, s, l) ← choice fuel (depth + 1) verbose false rest l
      let rest ← close s
      return (some (.capture number p), rest, l.closeGroup number (p.width l.width))
    | '?' :: ':' :: rest => do
      let (p, s, l) ← choice fuel (depth + 1) verbose false rest l
      let rest ← close s
      return (some (.scoped {} {} p), rest, l)
    | '?' :: '>' :: rest => do
      let (p, s, l) ← choice fuel (depth + 1) verbose false rest l
      let rest ← close s
      return (some (.atomic p), rest, l)
    | '?' :: '=' :: rest => do
      let (p, s, l) ← choice fuel (depth + 1) verbose false rest l
      let rest ← close s
      return (some (.ahead true p), rest, l)
    | '?' :: '!' :: rest => do
      let (p, s, l) ← choice fuel (depth + 1) verbose false rest l
      let rest ← close s
      return (some (.ahead false p), rest, l)
    | '?' :: '<' :: c :: rest => do
      if c ≠ '=' ∧ c ≠ '!' then .error .unknownGroupKind
      let outer := l.behindFrom
      let inner := { l with behindFrom := some (outer.getD l.count) }
      let (p, s, l) ← choice fuel (depth + 1) verbose false rest inner
      let rest ← close s
      let width := (p.width l.width).fixed?
      let l := { l with behindFrom := outer, looseBehind := l.looseBehind || width.isNone }
      return (some (.behind (c == '=') (width.getD 0) p), rest, l)
    | '?' :: '(' :: rest => do
      let (name, rest) ← nameUpTo ')' rest
      let (number, l) ← conditionGroup name l
      l.checkBehind number
      let (yes, s, l) ← sequence fuel (depth + 1) verbose false [] rest l
      match s with
      | '|' :: rest =>
        let (no, s, l) ← sequence fuel (depth + 1) verbose false [] rest l
        match s with
        | '|' :: _ => .error .tooManyBranches
        | _ =>
          let rest ← close s
          return (some (.conditional number yes no), rest, l)
      | _ =>
        let rest ← close s
        return (some (.conditional number yes .empty), rest, l)
    | '?' :: c :: rest => do
      if (flag? c).isNone ∧ c ≠ '-' then .error .unknownGroupKind
      match ← switches (c :: rest) with
      | (.global on, rest) =>
        if first && nothingYet then return (none, rest, { l with flags := l.flags.union on })
        else .error .misplacedFlags
      | (.group on off, rest) =>
        let inner := (verbose || on.verbose) && !off.verbose
        let (p, s, l) ← choice fuel (depth + 1) inner false rest l
        let rest ← close s
        return (some (.scoped on off p), rest, l)
    | ['?'] => .error .unclosedGroup
    | _ => do
      let (number, l) ← l.openGroup none
      let (p, s, l) ← choice fuel (depth + 1) verbose false s l
      let rest ← close s
      return (some (.capture number p), rest, l.closeGroup number (p.width l.width))

end

end Pattern

/-- A pattern with the switches that hold for all of it. -/
structure Pattern where
  flags : Pattern.Flags
  term : Pattern.Term

namespace Pattern

/-- Reads a pattern. -/
def parse (text : String) : Except Fault Pattern := do
  let s := text.toList
  let (p, rest, l) ← choice (3 * s.length + 3) 0 false true s .blank
  if l.flags.ascii && l.flags.unicode then .error .clashingRepertoires
  if !rest.isEmpty then .error .unopenedGroup
  if l.asked.any (l.count ≤ ·) then .error .unknownGroup
  if l.looseBehind then .error .lookBehindNotFixed
  if l.flags.singleShot && p.iterates then .error .iterationSwitchedOff
  return ⟨l.flags, p⟩

end Pattern

end Rulebook
