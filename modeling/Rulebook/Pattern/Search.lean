import Rulebook.Pattern.Letters

/-!
# Searching a text for a pattern

The search tries the starting places from left to right. From each it follows the term with a
continuation for what comes after, and backs up to the next alternative whenever the continuation
fails. An iteration goes on only after an iteration that moved ahead, so a text of length `n` sees
at most `n` iterations that count, and the bound `Spot.fuel` is never what ends it.

`occurs` is the only result that leaves this module: whether the pattern is found at all.
-/

set_option autoImplicit false

namespace Rulebook.Pattern

/-- A place in a text: what lies before it (nearest first), what lies after it, and what the groups
have captured so far. -/
structure Spot where
  before : List Char
  after : List Char
  captures : List (Nat × List Char)

namespace Spot

/-- The place at the start of a text. -/
def start (text : List Char) : Spot :=
  ⟨[], text, []⟩

/-- The place one character further on. -/
def step (s : Spot) (c : Char) (rest : List Char) : Spot :=
  { s with before := c :: s.before, after := rest }

/-- What a group has captured. -/
def captured? (s : Spot) (group : Nat) : Option (List Char) :=
  (s.captures.find? (·.1 == group)).map (·.2)

/-- The place with a group's capture set to the text between an earlier place and this one. -/
def record (s : Spot) (group : Nat) (opened : Spot) : Spot :=
  let text := opened.after.take (opened.after.length - s.after.length)
  { s with captures := (group, text) :: s.captures.filter (·.1 != group) }

/-- The place some characters back, if there are that many. -/
def back? (s : Spot) (width : Nat) : Option Spot :=
  if width ≤ s.before.length then
    some { s with
      before := s.before.drop width
      after := (s.before.take width).reverse ++ s.after }
  else none

/-- The place after a given text, if that text comes next. -/
def follow? (flags : Flags) (s : Spot) : List Char → Option Spot
  | [] => some s
  | c :: rest =>
    match s.after with
    | d :: after =>
      if flags.sameLetter c d then follow? flags (s.step d after) rest else none
    | [] => none

/-- More steps than any iteration from here can take. -/
def fuel (s : Spot) : Nat :=
  s.after.length + 4

/-- Whether exactly one of the two neighbours of a place belongs to a word. A text without
characters has neither boundaries nor places that are none. -/
def atBoundary? (flags : Flags) (s : Spot) : Option Bool :=
  match s.before, s.after with
  | [], [] => none
  | bs, cs =>
    let left := match bs with
      | b :: _ => flags.isWord b
      | [] => false
    let right := match cs with
      | c :: _ => flags.isWord c
      | [] => false
    some (left != right)

end Spot

/-- Whether a place meets a condition. A line may also end before a line feed that ends the text. -/
def Anchor.holds (flags : Flags) (s : Spot) : Anchor → Bool
  | .textStart => s.before.isEmpty
  | .textEnd => s.after.isEmpty
  | .lineStart => s.before.isEmpty || (flags.multiline && s.before.head? == some '\n')
  | .lineEnd =>
    match s.after with
    | [] => true
    | ['\n'] => true
    | c :: _ => flags.multiline && c == '\n'
  | .boundary => s.atBoundary? flags == some true
  | .noBoundary => s.atBoundary? flags == some false

/-- What follows a term: it either finds the rest of the match or fails. -/
abbrev Continuation := Spot → Option Spot

/-- A way to match from a place, with what has to follow. -/
abbrev Matcher := Spot → Continuation → Option Spot

/-- The first of two attempts that succeeds. -/
def firstOf (a : Option Spot) (b : Unit → Option Spot) : Option Spot :=
  match a with
  | some s => some s
  | none => b ()

/-- One fewer of a limited number. -/
def lessOne : Option Nat → Option Nat
  | some n => some (n - 1)
  | none => none

/-- Iterates as often as possible. `need` iterations are still required and `room` more allowed
after those; `last` is how much text lay ahead when the latest optional iteration started. A
required iteration that does not move ahead can be repeated at will, so it stands for all that are
left. -/
def greedy (body : Matcher) (k : Continuation) :
    (fuel need : Nat) → (room last : Option Nat) → Continuation
  | 0, _, _, _, _ => none
  | fuel + 1, need + 1, room, last, s =>
    body s fun t =>
      let still := if t.after.length = s.after.length then 0 else need
      greedy body k fuel still room last t
  | fuel + 1, 0, room, last, s =>
    if room = some 0 ∨ last = some s.after.length then k s
    else
      firstOf (body s (greedy body k fuel 0 (lessOne room) (some s.after.length))) fun _ => k s

/-- Iterates as seldom as possible. -/
def lazily (body : Matcher) (k : Continuation) :
    (fuel need : Nat) → (room last : Option Nat) → Continuation
  | 0, _, _, _, _ => none
  | fuel + 1, need + 1, room, last, s =>
    body s fun t =>
      let still := if t.after.length = s.after.length then 0 else need
      lazily body k fuel still room last t
  | fuel + 1, 0, room, last, s =>
    firstOf (k s) fun _ =>
      if room = some 0 ∨ last = some s.after.length then none
      else body s (lazily body k fuel 0 (lessOne room) (some s.after.length))

/-- Iterates as often as possible, each time settling for the first way that works. -/
def possessively (body : Matcher) : (fuel need : Nat) → (room : Option Nat) → Continuation
  | 0, _, _, _ => none
  | fuel + 1, need + 1, room, s =>
    match body s some with
    | some t =>
      possessively body fuel (if t.after.length = s.after.length then 0 else need) room t
    | none => none
  | fuel + 1, 0, room, s =>
    if room = some 0 then some s
    else
      match body s some with
      | some t =>
        if t.after.length = s.after.length then some t
        else possessively body fuel 0 (lessOne room) t
      | none => some s

/-- Matches one character that passes a test. -/
def one (test : Char → Bool) : Matcher := fun s k =>
  match s.after with
  | c :: rest => if test c then k (s.step c rest) else none
  | [] => none

/-- Matches a term under the given switches. -/
def Term.run : Term → Flags → Matcher
  | .empty, _, s, k => k s
  | .code n negated, flags, s, k => one (fun c => flags.acceptsCode n c != negated) s k
  | .oneOf negated items, flags, s, k => one (flags.acceptsSet negated items) s k
  | .any, flags, s, k => one (fun c => flags.dotAll || c != '\n') s k
  | .anchor a, flags, s, k => if a.holds flags s then k s else none
  | .cat p q, flags, s, k => p.run flags s fun t => q.run flags t k
  | .alt p q, flags, s, k => firstOf (p.run flags s k) fun _ => q.run flags s k
  | .iterate greed least most body, flags, s, k =>
    let room := most.map (· - least)
    match greed with
    | .greedy => greedy (body.run flags) k s.fuel least room none s
    | .lazy => lazily (body.run flags) k s.fuel least room none s
    | .possessive =>
      match possessively (body.run flags) s.fuel least room s with
      | some t => k t
      | none => none
  | .capture group body, flags, s, k => body.run flags s fun t => k (t.record group s)
  | .scoped on off body, flags, s, k => body.run (flags.within on off) s k
  | .atomic body, flags, s, k =>
    match body.run flags s some with
    | some t => k t
    | none => none
  | .ahead wanted body, flags, s, k =>
    match body.run flags s some, wanted with
    | some t, true => k { s with captures := t.captures }
    | none, false => k s
    | _, _ => none
  | .behind wanted width body, flags, s, k =>
    match (s.back? width).bind (fun b => body.run flags b some), wanted with
    | some t, true => k { s with captures := t.captures }
    | none, false => k s
    | _, _ => none
  | .reference group, flags, s, k =>
    match (s.captured? group).bind (s.follow? flags) with
    | some t => k t
    | none => none
  | .conditional group yes no, flags, s, k =>
    if (s.captured? group).isSome then yes.run flags s k else no.run flags s k

/-- Whether a term matches from some place at or after the given one. -/
def Term.foundFrom (p : Term) (flags : Flags) (before : List Char) : List Char → Bool
  | [] => (p.run flags ⟨before, [], []⟩ some).isSome
  | c :: rest =>
    (p.run flags ⟨before, c :: rest, []⟩ some).isSome || p.foundFrom flags (c :: before) rest

/-- Whether a term matches somewhere in a text. -/
def Term.occurs (p : Term) (flags : Flags) (text : List Char) : Bool :=
  p.foundFrom flags [] text

end Rulebook.Pattern
