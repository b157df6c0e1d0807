import Rulebook.Graph.Linked
import Rulebook.Text.Case

/-!
# Rule source

The text of a linked rule in the rule language of a production-rule engine. A `Drl.Document` holds
what the text says; `Drl.Document.text` writes it out as a preamble, an optional comment, the rule's
header, one pattern for each condition and one statement for each action. Writing never fails: an
empty part of a path is an empty name.

Every bound object has the variable `$name` and the type `Name`.
-/

set_option autoImplicit false

namespace Rulebook

namespace Drl

/-- The object and the property that a path names: what is before its first point and what is
after. -/
def splitPath (path : String) : String × String :=
  let cs := path.toList
  (String.ofList (cs.takeWhile (· != '.')), String.ofList ((cs.dropWhile (· != '.')).drop 1))

/-- A pattern of the `when` block. -/
structure Binding where
  object : String
  property : String
  operator : String
  literal : String
deriving DecidableEq

/-- A statement of the `then` block. -/
inductive Statement
  | setProperty (object property literal : String)
  | callMethod (object method : String)
  | insertNew (type : String)
  | delete (object : String)
  | modify (object property literal : String)
  | unknown (tag : String)
deriving DecidableEq

/-- A rule as it is written. -/
structure Document where
  description : String
  name : String
  salience : Int
  bindings : List Binding
  statements : List Statement
  /-- The object that is updated after the statements. -/
  updated : String
deriving DecidableEq

/-- One level of indentation. -/
def indent : String := "    "

/-- The line of a pattern. -/
def Binding.line (b : Binding) : String :=
  indent ++ "$" ++ b.object ++ " : " ++ Text.capitalizeFirst b.object ++
    "(" ++ b.property ++ " " ++ b.operator ++ " " ++ b.literal ++ ")"

/-- The lines of a statement. -/
def Statement.lines : Statement → List String
  | .setProperty object property literal =>
    [indent ++ "$" ++ object ++ ".set" ++ Text.capitalizeFirst property ++ "(" ++ literal ++ ");"]
  | .callMethod object method => [indent ++ "$" ++ object ++ "." ++ method ++ "();"]
  | .insertNew type => [indent ++ "insert(new " ++ Text.capitalizeFirst type ++ "());"]
  | .delete object => [indent ++ "delete($" ++ object ++ ");"]
  | .modify object property literal =>
    [indent ++ "modify($" ++ object ++ ") \x7b",
     indent ++ indent ++ "set" ++ Text.capitalizeFirst property ++ "(" ++ literal ++ ")",
     indent ++ "\x7d"]
  | .unknown tag => [indent ++ "// Unknown action type: " ++ tag]

/-- The binding of a condition. -/
def Binding.ofCondition (c : Condition) : Binding :=
  let (object, property) := splitPath c.field
  ⟨object, property, c.operator, Literal.token c.literal⟩

/-- The statement of an action. A modified property gets the literal just as it was authored. -/
def Statement.ofAction (a : Action) : Statement :=
  let (object, property) := splitPath a.target
  match ActionKind.ofTag? a.tag with
  | some .setProperty => .setProperty object property (Literal.token a.literal)
  | some .callMethod => .callMethod object a.literal
  | some .insertFact => .insertNew a.target
  | some .deleteFact => .delete object
  | some .modifyFact => .modify object property a.literal
  | none => .unknown a.tag

/-- A text, or another one if it is empty. -/
def orElse (s fallback : String) : String :=
  if s = "" then fallback else s

namespace Document

/-- The document of a linked rule. The first action's object is updated at the end. -/
def ofLinked (r : LinkedRule) : Document where
  description := r.rule.content.description
  name := orElse r.rule.content.name "UnnamedRule"
  salience := if r.rule.content.priority = 0 then 1 else r.rule.content.priority
  bindings := r.conditions.map fun c => .ofCondition c.content
  statements := r.actions.map fun a => .ofAction a.content
  updated := match r.actions with
    | [] => ""
    | a :: _ => orElse (splitPath a.content.target).1 "object"

/-- The comment in front of a rule. -/
def commentLines (d : Document) : List String :=
  if d.description = "" then [] else ["/**", " * " ++ d.description, " */"]

/-- The lines of the `when` block. -/
def whenLines (d : Document) : List String :=
  if d.bindings.isEmpty then [indent ++ "// No conditions defined"]
  else d.bindings.map (·.line)

/-- The lines of the `then` block. -/
def thenLines (d : Document) : List String :=
  if d.statements.isEmpty then [indent ++ "// No actions defined"]
  else d.statements.flatMap (·.lines) ++ [indent ++ "update($" ++ d.updated ++ ");"]

/-- All lines after the preamble. -/
def lines (d : Document) : List String :=
  d.commentLines ++
  ["rule \"" ++ d.name ++ "\"", indent ++ "salience " ++ toString d.salience, "when"] ++
  d.whenLines ++ ["then"] ++ d.thenLines ++ ["end"]

/-- What every rule source starts with. -/
def preamble : String :=
  "package com.example.rules;\n\nimport java.util.*;\nimport java.math.*;\n\n"

/-- The text of a rule. -/
def text (d : Document) : String :=
  preamble ++ String.intercalate "\n" d.lines ++ "\n"

end Document

/-- The rule source of a linked rule, or a remark that there is none. -/
def generate : Option LinkedRule → String
  | none => "// No rules defined"
  | some r => (Document.ofLinked r).text

/-- Whether a character may stay in the name of a file. -/
def isFileChar (c : Char) : Bool :=
  ('a' ≤ c && c ≤ 'z') || ('A' ≤ c && c ≤ 'Z') || ('0' ≤ c && c ≤ '9') || c == '-' || c == '_'

/-- The name of the file in which a rule is downloaded; a rule without a name gets the default. -/
def fileName (default : String) (name : Option String) : String :=
  match name with
  | none => default
  | some s =>
    if s = "" then default
    else String.ofList (s.toList.map fun c => if isFileChar c then c else '_') ++ ".drl"

end Drl

end Rulebook
