import Rulebook.Comparison
import Rulebook.Literal
import Rulebook.Pattern.Reader
import Rulebook.Pattern.Search

/-!
# Conditions

A condition compares a value found in the input with an authored literal. It holds or it does not:
a value that cannot be compared just makes it false, and so does an operator nobody knows or a
pattern that cannot be read. What is left over is a `Condition.Failure`: a value without text where
one is needed, or one of the two faults of a pattern that are reported.
-/

set_option autoImplicit false

namespace Rulebook

/-- The operators of conditions. -/
inductive Operator
  | equal
  | different
  | greater
  | less
  | atLeast
  | atMost
  | contains
  | matches
deriving DecidableEq

namespace Operator

/-- All operators. -/
def all : List Operator :=
  [.equal, .different, .greater, .less, .atLeast, .atMost, .contains, .matches]

/-- How an operator is written. -/
def tag : Operator → String
  | .equal => "=="
  | .different => "!="
  | .greater => ">"
  | .less => "<"
  | .atLeast => ">="
  | .atMost => "<="
  | .contains => "contains"
  | .matches => "matches"

/-- The operator that is written in a given way. -/
def ofTag? (tag : String) : Option Operator :=
  all.find? (·.tag == tag)

/-- Reading an operator undoes writing it. -/
theorem ofTag?_tag (op : Operator) : ofTag? op.tag = some op := by
  cases op <;> rfl

end Operator

namespace Condition

/-- Why a condition has no outcome. -/
inductive Failure
  | display (e : DisplayError)
  | patternCountTooLong (digits : Nat)
  | patternRepertoires
deriving DecidableEq

/-- The message of a failure. -/
def Failure.message : Failure → String
  | .display e => e.message
  | .patternCountTooLong digits => Numeral.tooLongMessage digits
  | .patternRepertoires => "ASCII and UNICODE flags are incompatible"

/-- The text of a value, as a step of a condition. -/
def text (v : Value) : Except Failure String :=
  v.display.mapError .display

/-- The number a value counts as, as a step of a condition. -/
def number (v : Value) : Except Failure Number :=
  v.toNumber.mapError .display

/-- Whether one text occurs inside another. -/
def occursIn (part : List Char) : List Char → Bool
  | [] => part.isEmpty
  | c :: rest => part.isPrefixOf (c :: rest) || occursIn part rest

/-- Whether the pattern that a value's text is occurs in another value's text. -/
def matchesPattern (actual expected : Value) : Except Failure Bool := do
  let p ← text expected
  match Pattern.parse p with
  | .ok pattern =>
    let subject ← text actual
    return pattern.term.occurs pattern.flags subject.toList
  | .error (.countTooLong digits) => .error (.patternCountTooLong digits)
  | .error .clashingRepertoires => .error .patternRepertoires
  | .error _ => return false

/-- Compares the numbers that two values count as. -/
def compareNumbers (test : Number → Number → Bool) (actual expected : Value) :
    Except Failure Bool := do
  let a ← number actual
  let b ← number expected
  return test a b

/-- Whether an operator holds between a value and the value of a literal. -/
def holds (op : Operator) (actual expected : Value) : Except Failure Bool :=
  match op with
  | .equal => (actual.looselyEq false expected).mapError .display
  | .different => ((actual.looselyEq false expected).map (!·)).mapError .display
  | .greater => compareNumbers (fun a b => b.lt a) actual expected
  | .less => compareNumbers Number.lt actual expected
  | .atLeast => compareNumbers (fun a b => b.le a) actual expected
  | .atMost => compareNumbers Number.le actual expected
  | .contains => do
    let part ← text expected
    let whole ← text actual
    return occursIn part.toList whole.toList
  | .matches => matchesPattern actual expected

/-- Whether a value meets a condition with the operator and the literal as authored. An operator
that is not known never holds. -/
def evaluate (actual : Value) (tag : String) (literal : String) : Except Failure Bool :=
  match Operator.ofTag? tag with
  | some op => holds op actual (.ofLiteral literal)
  | none => .ok false

end Condition

end Rulebook
