import Rulebook.Number.Double

/-!
# Comparing integers with doubles

A number is an integer of any size or a double. Comparisons are by exact value: an integer is never
rounded to a double first, so neighbouring integers beyond 2⁵³ stay different from each other and
from the double between them. A number that is no number has no place in the order, and every
comparison with it is false.
-/

set_option autoImplicit false

namespace Rulebook

/-- A place in the order of numbers: a rational, or one of the two ends. -/
inductive Place
  | bottom
  | rational (q : Rat)
  | top
deriving DecidableEq

namespace Place

/-- Whether one place is at or before another. -/
def le : Place → Place → Bool
  | .bottom, _ => true
  | _, .top => true
  | .rational p, .rational q => p ≤ q
  | _, _ => false

/-- Whether one place is before another. -/
def lt (a b : Place) : Bool :=
  a.le b && !b.le a

end Place

/-- The place of a double, or none if it is no number. -/
def Double.place? : Double → Option Place
  | .nan => none
  | .infinity negative => some (if negative then .bottom else .top)
  | .finite negative m e _ => some (.rational (if negative then -magnitude m e else magnitude m e))

/-- An integer of any size, or a double. -/
inductive Number
  | int (n : Int)
  | double (d : Double)
deriving DecidableEq

namespace Number

/-- The place of a number, or none if it is no number. -/
def place? : Number → Option Place
  | .int n => some (.rational (n : Rat))
  | .double d => d.place?

/-- Applies a test to the places of two numbers; false if either has none. -/
def compareBy (test : Place → Place → Bool) (a b : Number) : Bool :=
  match a.place?, b.place? with
  | some p, some q => test p q
  | _, _ => false

/-- Equality of exact values. -/
def eq : Number → Number → Bool :=
  compareBy fun p q => p == q

/-- The strict order of exact values. -/
def lt : Number → Number → Bool :=
  compareBy Place.lt

/-- The order of exact values. -/
def le : Number → Number → Bool :=
  compareBy Place.le

end Number

end Rulebook
