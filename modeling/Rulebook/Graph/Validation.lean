import Rulebook.Graph.Basic

/-!
# Validation

What is missing in a graph. Every `Defect` has its own message, and `Graph.defects` finds them all,
so that an author sees every problem at once. Nodes are looked at by kind, whatever the edges; edges
matter only for the two questions whether some rule leads to some condition and to some action.
-/

set_option autoImplicit false

namespace Rulebook

/-- The fields of a condition. -/
inductive ConditionField
  | field
  | operator
  | value
deriving DecidableEq

namespace ConditionField

/-- The name of a field in messages. -/
def label : ConditionField → String
  | .field => "Field"
  | .operator => "Operator"
  | .value => "Value"

/-- What a condition holds in a field. -/
def of (c : Condition) : ConditionField → String
  | .field => c.field
  | .operator => c.operator
  | .value => c.literal

/-- The fields of a condition in the order of messages. -/
def all : List ConditionField := [.field, .operator, .value]

end ConditionField

/-- The fields of an action. -/
inductive ActionField
  | kind
  | target
  | value
deriving DecidableEq

namespace ActionField

/-- The name of a field in messages. -/
def label : ActionField → String
  | .kind => "Type"
  | .target => "Target"
  | .value => "Value"

/-- What an action holds in a field. -/
def of (a : Action) : ActionField → String
  | .kind => a.tag
  | .target => a.target
  | .value => a.literal

/-- The fields of an action in the order of messages. -/
def all : List ActionField := [.kind, .target, .value]

end ActionField

/-- Something that is missing in a graph. Conditions and actions are counted from one among their
kind. -/
inductive Defect
  | noRule
  | unnamedRule
  | noCondition
  | noAction
  | blankCondition (index : Nat) (part : ConditionField)
  | blankAction (index : Nat) (part : ActionField)
  | noEdgeToCondition
  | noEdgeToAction
deriving DecidableEq

/-- The message of a defect. -/
def Defect.message : Defect → String
  | .noRule => "At least one rule node is required"
  | .unnamedRule => "Rule must have a name"
  | .noCondition => "At least one condition is required"
  | .noAction => "At least one action is required"
  | .blankCondition index part =>
    "Condition " ++ toString index ++ ": " ++ part.label ++ " is required"
  | .blankAction index part => "Action " ++ toString index ++ ": " ++ part.label ++ " is required"
  | .noEdgeToCondition => "Rules must be connected to conditions"
  | .noEdgeToAction => "Rules must be connected to actions"

namespace Graph

/-- The blank fields of a condition. -/
def conditionDefects (index : Nat) (c : Condition) : List Defect :=
  (ConditionField.all.filter fun f => Text.isBlankText (f.of c)).map (.blankCondition index)

/-- The blank fields of an action. -/
def actionDefects (index : Nat) (a : Action) : List Defect :=
  (ActionField.all.filter fun f => Text.isBlankText (f.of a)).map (.blankAction index)

/-- Applies a check to every element with its number, counted from the given one. -/
def numbered {α : Type} (check : Nat → α → List Defect) : (first : Nat) → List α → List Defect
  | _, [] => []
  | n, a :: rest => check n a ++ numbered check (n + 1) rest

/-- Whether some edge leads from one of the rules to one of the given nodes. -/
def leadsTo (g : Graph) (targets : List String) : Bool :=
  g.edges.any fun e => (g.rules.map (·.id)).contains e.source && targets.contains e.target

/-- Everything that is missing in a graph. -/
def defects (g : Graph) : List Defect :=
  (if g.rules.isEmpty then [.noRule] else []) ++
  (g.rules.filter fun r => Text.isBlankText r.content.name).map (fun _ => .unnamedRule) ++
  (if g.conditions.isEmpty then [.noCondition] else []) ++
  (if g.actions.isEmpty then [.noAction] else []) ++
  numbered (fun n c => conditionDefects n c.content) 1 g.conditions ++
  numbered (fun n a => actionDefects n a.content) 1 g.actions ++
  (if g.leadsTo (g.conditions.map (·.id)) then [] else [.noEdgeToCondition]) ++
  (if g.leadsTo (g.actions.map (·.id)) then [] else [.noEdgeToAction])

/-- Whether nothing is missing in a graph. -/
def isValid (g : Graph) : Bool :=
  g.defects.isEmpty

end Graph

end Rulebook
