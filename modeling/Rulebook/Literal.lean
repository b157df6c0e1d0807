import Rulebook.Display
import Rulebook.Numeral

/-!
# Literals

Authors write the values of conditions and actions as plain text. `Literal.read` is the one place
that decides whether such a text means a number, a truth value or just itself. What the generated
rule says (`Literal.token`) and what the simulation compares with and stores (`Literal.value`) both
follow from it.
-/

set_option autoImplicit false

namespace Rulebook

/-- What a literal means. -/
inductive Literal
  | number (n : Number)
  | truth (b : Bool)
  | text (s : String)
deriving DecidableEq

namespace Literal

/-- The meaning of an authored text. Numbers may have blanks around them, the words `true` and
`false` may not. -/
def read (text : String) : Literal :=
  match Numeral.number? text.toList with
  | some n => .number n
  | none =>
    if text = "true" then .truth true
    else if text = "false" then .truth false
    else .text text

/-- The value that a literal stands for. -/
def value : Literal → Value
  | .number n => .ofNumber n
  | .truth b => .bool b
  | .text s => .text s

/-- How an authored text is written in a generated rule: numbers and truth values as they are, other
text between double quotes. -/
def token (text : String) : String :=
  match read text with
  | .text s => "\"" ++ s ++ "\""
  | _ => text

end Literal

/-- The value that an authored text stands for. -/
def Value.ofLiteral (text : String) : Value :=
  (Literal.read text).value

end Rulebook
