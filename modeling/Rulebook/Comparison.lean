import Rulebook.Display
import Rulebook.Numeral

/-!
# Loose comparison

Conditions compare values of different kinds. Every value counts as a number (`Value.toNumber`),
possibly as no number at all, and two values are loosely equal when they are equal after the kinds
have been brought together: truth values count as zero and one, a list or object next to anything
simpler counts as its text, and a text next to a number counts as the number it denotes.

Two lists or objects are equal only if they are one and the same tree; `shared` says whether they
are.

`Value.looselyEq` converts both operands at once. `Value.looselyEqStepwise` converts one of them at
a time, in a fixed order, and compares again.
-/

set_option autoImplicit false

namespace Rulebook

/-- What a value that is not missing comes down to in a loose comparison. -/
inductive Scalar
  | number (n : Number)
  | text (s : String)
deriving DecidableEq

namespace Scalar

/-- The number that a text denotes, or no number. -/
def numberOfText (s : String) : Number :=
  (Numeral.number? s.toList).getD (.double .nan)

/-- Equality of scalars; a text next to a number counts as the number it denotes. -/
def looselyEq : Scalar → Scalar → Bool
  | .number m, .number n => m.eq n
  | .number m, .text t => m.eq (numberOfText t)
  | .text s, .number n => (numberOfText s).eq n
  | .text s, .text t => s == t

end Scalar

namespace Value

/-- Whether a value is missing: not there, or null. -/
def isMissing : Value → Bool
  | .absent => true
  | .null => true
  | _ => false

/-- What a value comes down to in a loose comparison. -/
def toScalar : Value → Except DisplayError Scalar
  | .bool b => .ok (.number (.int (if b then 1 else 0)))
  | .int n => .ok (.number (.int n))
  | .double d => .ok (.number (.double d))
  | .text s => .ok (.text s)
  | v => do
    let s ← v.display
    return .text s

/-- The number that a value counts as. -/
def toNumber : Value → Except DisplayError Number
  | .absent => .ok (.double .nan)
  | .null => .ok (.int 0)
  | .bool b => .ok (.int (if b then 1 else 0))
  | .int n => .ok (.int n)
  | .double d => .ok (.double d)
  | .text s => .ok (Scalar.numberOfText s)
  | .list items => do
    let s ← (Value.list items).display
    return Scalar.numberOfText s
  | .object _ => .ok (.double .nan)

/-- Whether two values are loosely equal; `shared` says whether they are one and the same tree. -/
def looselyEq (shared : Bool) (left right : Value) : Except DisplayError Bool :=
  if left.isMissing then .ok right.isMissing
  else if right.isMissing then .ok false
  else if left.isCompound && right.isCompound then .ok shared
  else do
    let l ← left.toScalar
    let r ← right.toScalar
    return l.looselyEq r

/-! ## One conversion at a time

The same as a comparison that converts one operand, and then starts over with what came of it. The
left operand comes first: a truth value on the left, one on the right, a list or object on the left,
one on the right. What a conversion gives is never converted again, so there are at most two. -/

/-- How many conversions a value takes to come down to a number or a text. -/
def conversions : Value → Nat
  | .bool _ => 1
  | .list _ => 1
  | .object _ => 1
  | _ => 0

theorem conversions_of_isCompound {v : Value} (h : v.isCompound = true) : v.conversions = 1 := by
  cases v with
  | list items => rfl
  | object ms => rfl
  | _ => exact nomatch h

/-- Whether two values are loosely equal, with one conversion at a time. -/
def looselyEqStepwise (shared : Bool) (left right : Value) : Except DisplayError Bool :=
  if left.isMissing then .ok right.isMissing
  else if right.isMissing then .ok false
  else match left, right with
  | .bool b, right => looselyEqStepwise shared (.int (if b then 1 else 0)) right
  | left, .bool b => looselyEqStepwise shared left (.int (if b then 1 else 0))
  | .text s, .text t => .ok (s == t)
  | left, right =>
    if left.isCompound && right.isCompound then .ok shared
    else if left.isCompound then do
      let s ← left.display
      looselyEqStepwise shared (.text s) right
    else if right.isCompound then do
      let t ← right.display
      looselyEqStepwise shared left (.text t)
    else do
      let m ← left.toNumber
      let n ← right.toNumber
      return m.eq n
termination_by left.conversions + right.conversions
decreasing_by
  · simp [conversions]
  · simp [conversions]
  · rw [conversions_of_isCompound ‹left.isCompound = true›]
    simp [conversions]
  · rw [conversions_of_isCompound ‹right.isCompound = true›]
    simp [conversions]

end Value

end Rulebook
