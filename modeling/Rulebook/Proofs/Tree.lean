import Rulebook.Fault

/-!
# What can be read from a tree

Two trees hold the same data when nothing that can be read from them differs: at every place, named
by the keys and indices that lead to it, both hold the same kind of value with the same content.
That tells `1`, `1.0` and `true` apart, which `Value.sameAs` takes for one value, and like it leaves
the order of members aside.
-/

set_option autoImplicit false

namespace Rulebook

/-- What a value is apart from what is below it. -/
inductive Shape
  | absent
  | null
  | bool (b : Bool)
  | int (n : Int)
  | double (d : Double)
  | text (s : String)
  | list (length : Nat)
  | object
deriving DecidableEq

namespace Value

/-- The shape of a value. -/
def shape : Value → Shape
  | .absent => .absent
  | .null => .null
  | .bool b => .bool b
  | .int n => .int n
  | .double d => .double d
  | .text s => .text s
  | .list items => .list items.length
  | .object _ => .object

/-- The value one step below. -/
def below? : Value → Step → Option Value
  | .list items, .index n => items[n]?
  | .object ms, .key name => Members.get? ms name
  | _, _ => none

/-- The shape at a place; nothing if the place is not there. -/
def shapeAt? (v : Value) : List Step → Option Shape
  | [] => some v.shape
  | step :: rest => (v.below? step).bind (·.shapeAt? rest)

/-- Nothing that can be read from two trees differs. -/
def Alike (v w : Value) : Prop :=
  ∀ place, v.shapeAt? place = w.shapeAt? place

theorem Alike.refl (v : Value) : v.Alike v := fun _ => rfl

end Value

end Rulebook
