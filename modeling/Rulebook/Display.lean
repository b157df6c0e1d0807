import Rulebook.Number.Layout
import Rulebook.Value

/-!
# The text of a value

What a value looks like in a trace, and what `contains` and `matches` look at. A list is its items
with commas between them, where items that are missing leave nothing; all objects look alike.

Integers of more than 4300 digits are not written out. That is the only way in which a value has no
text, and it is the one `Value.display` reports. `Value.isWritable` says of a whole tree that no
integer in it is that long.
-/

set_option autoImplicit false

namespace Rulebook

/-- Why a value has no text. -/
inductive DisplayError
  | tooManyDigits
deriving DecidableEq

/-- The message for a value without text. -/
def DisplayError.message : DisplayError → String
  | .tooManyDigits =>
    "Exceeds the limit (4300 digits) for integer string conversion; " ++
      "use sys.set_int_max_str_digits() to increase the limit"

/-- The least integer that is too long to be written out. -/
def digitBound : Nat := Nat.pow 10 4300

/-- An integer in decimal, unless it is too long. -/
def displayInt (n : Int) : Except DisplayError String :=
  if digitBound ≤ n.natAbs then .error .tooManyDigits else .ok (toString n)

theorem pow_lt_digitBound {k : Nat} (h : k < 4300) : Nat.pow 10 k < digitBound := by
  unfold digitBound
  -- For any exponent, so that the power is not worked out.
  generalize 4300 = limit at h ⊢
  exact Nat.pow_lt_pow_right (by decide) h

/-- No number of twenty digits is too long. -/
theorem lt_digitBound_of_lt {n : Nat} (h : n < Nat.pow 10 20) : n < digitBound :=
  Nat.lt_trans h (pow_lt_digitBound (by decide))

theorem displayInt_of_lt {n : Int} (h : n.natAbs < Nat.pow 10 20) :
    displayInt n = .ok (toString n) :=
  if_neg (Nat.not_le.mpr (lt_digitBound_of_lt h))

namespace Value

mutual

/-- The text of a value. -/
def display : Value → Except DisplayError String
  | .absent => .ok "undefined"
  | .null => .ok "null"
  | .bool b => .ok (if b then "true" else "false")
  | .int n => displayInt n
  | .double d => .ok d.display
  | .text s => .ok s
  | .object _ => .ok "[object Object]"
  | .list items => do
    let parts ← displayItems items
    return String.intercalate "," parts
termination_by structural x => x

/-- The texts of the items of a list. -/
def displayItems : List Value → Except DisplayError (List String)
  | [] => .ok []
  | v :: rest => do
    let part ← match v with
      | .absent => .ok ""
      | .null => .ok ""
      | w => display w
    let parts ← displayItems rest
    return part :: parts
termination_by structural x => x

end

mutual

/-- Whether every integer in a tree can be written out. -/
def isWritable : Value → Bool
  | .int n => n.natAbs < digitBound
  | .list items => allWritable items
  | .object ms => allMembersWritable ms
  | _ => true
termination_by structural x => x

/-- Whether every integer in some trees can be written out. -/
def allWritable : List Value → Bool
  | [] => true
  | v :: rest => isWritable v && allWritable rest
termination_by structural x => x

/-- Whether every integer in the values of some members can be written out. -/
def allMembersWritable : List (String × Value) → Bool
  | [] => true
  | (_, v) :: rest => isWritable v && allMembersWritable rest
termination_by structural x => x

end

end Value

end Rulebook
