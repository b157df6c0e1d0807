import Rulebook.Condition

/-!
# Rule graphs

What an author draws: rules, conditions and actions as nodes, and edges between them. All texts are
kept as authored. The order of the nodes counts (it is the order of evaluation), that of the edges
does not.
-/

set_option autoImplicit false

namespace Rulebook

/-- What a rule node says about the rule. -/
structure Rule where
  name : String
  description : String
  priority : Int
deriving DecidableEq

/-- A condition as authored: the path of the value, the operator and the literal. -/
structure Condition where
  field : String
  operator : String
  literal : String
deriving DecidableEq

/-- An action as authored: its kind, the path it acts on and the literal. -/
structure Action where
  tag : String
  target : String
  literal : String
deriving DecidableEq

/-- The kinds of actions. -/
inductive ActionKind
  | setProperty
  | callMethod
  | insertFact
  | deleteFact
  | modifyFact
deriving DecidableEq

namespace ActionKind

/-- All kinds of actions. -/
def all : List ActionKind :=
  [.setProperty, .callMethod, .insertFact, .deleteFact, .modifyFact]

/-- How a kind of action is written. -/
def tag : ActionKind → String
  | .setProperty => "setProperty"
  | .callMethod => "callMethod"
  | .insertFact => "insertFact"
  | .deleteFact => "deleteFact"
  | .modifyFact => "modifyFact"

/-- The kind of action that is written in a given way. -/
def ofTag? (tag : String) : Option ActionKind :=
  all.find? (·.tag == tag)

/-- Reading a kind of action undoes writing it. -/
theorem ofTag?_tag (kind : ActionKind) : ofTag? kind.tag = some kind := by
  cases kind <;> rfl

end ActionKind

/-- What a node of a graph holds. -/
inductive Content
  | rule (r : Rule)
  | condition (c : Condition)
  | action (a : Action)
deriving DecidableEq

/-- A node of a graph. -/
structure Node where
  id : String
  content : Content
deriving DecidableEq

/-- An edge of a graph. It may have an id of its own. -/
structure Edge where
  source : String
  target : String
  id : Option String
deriving DecidableEq

/-- A graph as authored. -/
structure Graph where
  nodes : List Node
  edges : List Edge
deriving DecidableEq

/-- Something that a node holds, with the node's id. -/
structure Placed (α : Type) where
  id : String
  content : α
deriving DecidableEq

namespace Node

/-- The rule that a node holds. -/
def rule? (n : Node) : Option (Placed Rule) :=
  match n.content with
  | .rule r => some ⟨n.id, r⟩
  | _ => none

/-- The condition that a node holds. -/
def condition? (n : Node) : Option (Placed Condition) :=
  match n.content with
  | .condition c => some ⟨n.id, c⟩
  | _ => none

/-- The action that a node holds. -/
def action? (n : Node) : Option (Placed Action) :=
  match n.content with
  | .action a => some ⟨n.id, a⟩
  | _ => none

end Node

namespace Graph

/-- The rules of a graph, in order. -/
def rules (g : Graph) : List (Placed Rule) :=
  g.nodes.filterMap Node.rule?

/-- The conditions of a graph, in order. -/
def conditions (g : Graph) : List (Placed Condition) :=
  g.nodes.filterMap Node.condition?

/-- The actions of a graph, in order. -/
def actions (g : Graph) : List (Placed Action) :=
  g.nodes.filterMap Node.action?

end Graph

end Rulebook
