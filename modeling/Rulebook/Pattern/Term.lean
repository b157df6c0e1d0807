/-!
# Patterns

The terms that a `matches` condition is read into. A term describes a piece of text; `Term.cat`
puts pieces one after the other and `Term.alt` offers a choice in which the first alternative that
leads to a match wins. Characters are given by code point, so that a pattern may also name code
points that no text contains.

`Term.width` bounds the length of the texts a term describes. It is what a look-behind is checked
against: looking behind needs a fixed width.
-/

set_option autoImplicit false

namespace Rulebook.Pattern

/-- The switches that change the meaning of a pattern, given in the pattern itself. -/
structure Flags where
  ignoreCase : Bool := false
  multiline : Bool := false
  dotAll : Bool := false
  verbose : Bool := false
  ascii : Bool := false
  unicode : Bool := false
  singleShot : Bool := false
deriving DecidableEq

namespace Flags

/-- The switches that are on in either of two sets. -/
def union (a b : Flags) : Flags where
  ignoreCase := a.ignoreCase || b.ignoreCase
  multiline := a.multiline || b.multiline
  dotAll := a.dotAll || b.dotAll
  verbose := a.verbose || b.verbose
  ascii := a.ascii || b.ascii
  unicode := a.unicode || b.unicode
  singleShot := a.singleShot || b.singleShot

/-- The switches that are on in the first set and off in the second. -/
def minus (a b : Flags) : Flags where
  ignoreCase := a.ignoreCase && !b.ignoreCase
  multiline := a.multiline && !b.multiline
  dotAll := a.dotAll && !b.dotAll
  verbose := a.verbose && !b.verbose
  ascii := a.ascii && !b.ascii
  unicode := a.unicode && !b.unicode
  singleShot := a.singleShot && !b.singleShot

/-- Whether two sets share a switch. -/
def meets (a b : Flags) : Bool :=
  (a.ignoreCase && b.ignoreCase) || (a.multiline && b.multiline) || (a.dotAll && b.dotAll) ||
    (a.verbose && b.verbose) || (a.ascii && b.ascii) || (a.unicode && b.unicode) ||
    (a.singleShot && b.singleShot)

/-- Whether a set chooses the repertoire of the character classes. -/
def choosesRepertoire (a : Flags) : Bool :=
  a.ascii || a.unicode

/-- The switches inside a group that turns some on and some off. Choosing a repertoire replaces the
one in force. -/
def within (outer on off : Flags) : Flags :=
  let base :=
    if on.choosesRepertoire then { outer with ascii := false, unicode := false } else outer
  (base.union on).minus off

end Flags

/-- The character classes that have a letter of their own. -/
inductive Category
  | digit
  | space
  | word
deriving DecidableEq

/-- A member of a bracketed set of characters. -/
inductive SetItem
  | code (n : Nat)
  | range (low high : Nat)
  | category (c : Category) (negated : Bool)
deriving DecidableEq

/-- Conditions on a place in a text. -/
inductive Anchor
  | lineStart
  | lineEnd
  | textStart
  | textEnd
  | boundary
  | noBoundary
deriving DecidableEq

/-- How many iterations are preferred: as many as possible, as few as possible, or as many as
possible without ever giving one back. -/
inductive Greed
  | greedy
  | lazy
  | possessive
deriving DecidableEq

/-- A pattern. -/
inductive Term
  | empty
  | code (n : Nat) (negated : Bool)
  | oneOf (negated : Bool) (items : List SetItem)
  | any
  | anchor (a : Anchor)
  | cat (p q : Term)
  | alt (p q : Term)
  | iterate (greed : Greed) (least : Nat) (most : Option Nat) (body : Term)
  | capture (group : Nat) (body : Term)
  | scoped (on off : Flags) (body : Term)
  | atomic (body : Term)
  | ahead (wanted : Bool) (body : Term)
  | behind (wanted : Bool) (width : Nat) (body : Term)
  | reference (group : Nat)
  | conditional (group : Nat) (yes no : Term)
deriving DecidableEq

namespace Term

/-- A sequence of terms as one term. -/
def ofItems : List Term → Term
  | [] => .empty
  | [p] => p
  | p :: rest => .cat p (ofItems rest)

/-- Whether a term contains an iteration. -/
def iterates : Term → Bool
  | .iterate .. => true
  | .cat p q => p.iterates || q.iterates
  | .alt p q => p.iterates || q.iterates
  | .capture _ p => p.iterates
  | .scoped _ _ p => p.iterates
  | .atomic p => p.iterates
  | .ahead _ p => p.iterates
  | .behind _ _ p => p.iterates
  | .conditional _ p q => p.iterates || q.iterates
  | _ => false

end Term

/-- Bounds on a length; without a greatest length when there is none. -/
structure Width where
  least : Nat
  most : Option Nat
deriving DecidableEq

namespace Width

/-- The width of two pieces after one another. -/
def add (a b : Width) : Width :=
  ⟨a.least + b.least, match a.most, b.most with
    | some m, some n => some (m + n)
    | _, _ => none⟩

/-- The width of a choice. -/
def either (a b : Width) : Width :=
  ⟨min a.least b.least, match a.most, b.most with
    | some m, some n => some (max m n)
    | _, _ => none⟩

/-- The width of an iteration. -/
def times (a : Width) (least : Nat) (most : Option Nat) : Width :=
  ⟨a.least * least, match a.most, most with
    | some 0, _ => some 0
    | some m, some n => some (m * n)
    | none, some 0 => some 0
    | _, none => none
    | none, some _ => none⟩

/-- The greatest width that a look-behind can step back. -/
def greatestStep : Nat := 4294967295

/-- The one length of a term of fixed width. -/
def fixed? (a : Width) : Option Nat :=
  if a.most = some a.least ∧ a.least ≤ greatestStep then some a.least else none

end Width

/-- The bounds on the texts that a term describes, given those of the groups it refers to. -/
def Term.width (groups : Nat → Width) : Term → Width
  | .empty => ⟨0, some 0⟩
  | .code _ _ => ⟨1, some 1⟩
  | .oneOf _ _ => ⟨1, some 1⟩
  | .any => ⟨1, some 1⟩
  | .anchor _ => ⟨0, some 0⟩
  | .cat p q => (p.width groups).add (q.width groups)
  | .alt p q => (p.width groups).either (q.width groups)
  | .iterate _ least most p => (p.width groups).times least most
  | .capture _ p => p.width groups
  | .scoped _ _ p => p.width groups
  | .atomic p => p.width groups
  | .ahead _ _ => ⟨0, some 0⟩
  | .behind _ _ _ => ⟨0, some 0⟩
  | .reference g => groups g
  | .conditional _ p q => (p.width groups).either (q.width groups)

end Rulebook.Pattern
