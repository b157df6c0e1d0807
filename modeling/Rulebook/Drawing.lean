import Rulebook.Fault
import Rulebook.Graph.Basic

/-!
# Drawings

The format in which the designer's canvas sends and keeps a graph. A node has an id, a type and
data; the data holds the fields of the rule, condition or action, and values of any kind in them
count as their text. Whatever else the canvas put on nodes and edges is kept, so that a saved
drawing comes back as it was, but plays no part in the graph: `Drawing.toGraph` is all the library
sees of it.
-/

set_option autoImplicit false

namespace Rulebook

/-- A node as drawn. -/
structure DrawnNode where
  id : String
  type : String
  data : Members
  extras : Members

/-- An edge as drawn. -/
structure DrawnEdge where
  id : Option String
  source : String
  target : String
  extras : Members

/-- A graph as drawn. -/
structure Drawing where
  nodes : List DrawnNode
  edges : List DrawnEdge

/-! ## Fields of any kind -/

/-- The text that a field counts as. -/
def Value.fieldText (v : Value) : Except DisplayError String :=
  match v with
  | .null => .ok ""
  | _ => v.display

/-- The whole number that a priority counts as: the fraction is dropped, and what is no number or
out of range counts as zero. An integer goes through the nearest double. -/
def Value.priority (v : Value) : Int :=
  let d : Double := match v with
    | .bool b => .ofInt (if b then 1 else 0)
    | .int n => .ofInt n
    | .double d => d
    | .text s => (Numeral.float? s.toList).getD .nan
    | _ => .nan
  d.truncate?.getD 0

namespace DrawnNode

/-- A field of the node's data; one that is left out counts as null. -/
def field (n : DrawnNode) (key : String) : Value :=
  (n.data.get? key).getD .null

/-- The types of nodes that a graph knows. -/
def ruleType : String := "rule"

/-- The type of condition nodes. -/
def conditionType : String := "condition"

/-- The type of action nodes. -/
def actionType : String := "action"

/-- The node of the graph, if a graph knows the type. -/
def toNode? (n : DrawnNode) : Except DisplayError (Option Node) := do
  if n.type = ruleType then
    let name ← (n.field "name").fieldText
    let description ← (n.field "description").fieldText
    return some ⟨n.id, .rule ⟨name, description, (n.field "priority").priority⟩⟩
  else if n.type = conditionType then
    let field ← (n.field "field").fieldText
    let operator ← (n.field "operator").fieldText
    let literal ← (n.field "value").fieldText
    return some ⟨n.id, .condition ⟨field, operator, literal⟩⟩
  else if n.type = actionType then
    let tag ← (n.field "type").fieldText
    let target ← (n.field "target").fieldText
    let literal ← (n.field "value").fieldText
    return some ⟨n.id, .action ⟨tag, target, literal⟩⟩
  else return none

/-- Reads a node. -/
def ofValue (v : Value) : Checked DrawnNode :=
  match v.members? with
  | some ms =>
    ((ms.required "id" Value.asText).both
      ((ms.required "type" Value.asText).both (ms.optional "data" [] Value.asObject))).map
      fun (id, type, data) => ⟨id, type, data, ms.without ["id", "type", "data"]⟩
  | none => Checked.fail (.notRecord "NodeSchema") v

/-- A node as it is kept. -/
def toValue (n : DrawnNode) : Value :=
  .object ([("id", .text n.id), ("type", .text n.type), ("data", .object n.data)] ++ n.extras)

end DrawnNode

namespace DrawnEdge

/-- The edge of the graph. -/
def toEdge (e : DrawnEdge) : Edge :=
  ⟨e.source, e.target, e.id⟩

/-- Reads an edge. -/
def ofValue (v : Value) : Checked DrawnEdge :=
  match v.members? with
  | some ms =>
    ((ms.optional "id" none Value.asOptionalText).both
      ((ms.required "source" Value.asText).both (ms.required "target" Value.asText))).map
      fun (id, source, target) => ⟨id, source, target, ms.without ["id", "source", "target"]⟩
  | none => Checked.fail (.notRecord "EdgeSchema") v

/-- An edge as it is kept: keys with null are left out. -/
def toValue (e : DrawnEdge) : Value :=
  let id : Members := match e.id with
    | some s => [("id", .text s)]
    | none => []
  .object (id ++ [("source", .text e.source), ("target", .text e.target)] ++
    e.extras.filter fun m => m.2 != .null)

end DrawnEdge

namespace Drawing

/-- The graph of a drawing: its nodes of known types, and its edges. -/
def toGraph (d : Drawing) : Except DisplayError Graph := do
  let nodes ← d.nodes.mapM DrawnNode.toNode?
  return ⟨nodes.filterMap id, d.edges.map DrawnEdge.toEdge⟩

/-- The data of the first rule node. -/
def firstRuleData (d : Drawing) : Members :=
  match d.nodes.find? (·.type == DrawnNode.ruleType) with
  | some n => n.data
  | none => []

/-- Reads the nodes of a drawing. -/
def nodesOf (v : Value) : Checked (List DrawnNode) :=
  v.asListOf DrawnNode.ofValue

/-- Reads the edges of a drawing. -/
def edgesOf (v : Value) : Checked (List DrawnEdge) :=
  v.asListOf DrawnEdge.ofValue

/-- Reads the nodes and edges among the members of an object. -/
def ofMembers (ms : Members) : Checked Drawing :=
  ((ms.optional "nodes" [] nodesOf).both (ms.optional "edges" [] edgesOf)).map
    fun (nodes, edges) => ⟨nodes, edges⟩

/-- Reads a drawing. -/
def ofValue (v : Value) : Checked Drawing :=
  match v.members? with
  | some ms => ofMembers ms
  | none => Checked.fail (.notRecord "RuleGraphSchema") v

end Drawing

/-- A drawing to be saved, with a name and a description of its own if they are given. -/
structure SaveRequest where
  drawing : Drawing
  name : Option String
  description : Option String

namespace SaveRequest

/-- Reads a drawing to be saved. -/
def ofValue (v : Value) : Checked SaveRequest :=
  match v.members? with
  | some ms =>
    ((Drawing.ofMembers ms).both
      ((ms.optional "name" none Value.asOptionalText).both
        (ms.optional "description" none Value.asOptionalText))).map
      fun (drawing, name, description) => ⟨drawing, name, description⟩
  | none => Checked.fail (.notRecord "SaveRuleRequest") v

end SaveRequest

/-- Changes to a saved rule; what is not given stays as it is. -/
structure UpdateRequest where
  name : Option String
  description : Option String
  nodes : Option (List DrawnNode)
  edges : Option (List DrawnEdge)

namespace UpdateRequest

/-- A list, or null for none. -/
def optionalList {α : Type} (check : Value → Checked (List α)) (v : Value) :
    Checked (Option (List α)) :=
  match v with
  | .null => .ok none
  | _ => (check v).map some

/-- Reads changes to a saved rule. -/
def ofValue (v : Value) : Checked UpdateRequest :=
  match v.members? with
  | some ms =>
    ((ms.optional "name" none Value.asOptionalText).both
      ((ms.optional "description" none Value.asOptionalText).both
        ((ms.optional "nodes" none (optionalList Drawing.nodesOf)).both
          (ms.optional "edges" none (optionalList Drawing.edgesOf))))).map
      fun (name, description, nodes, edges) => ⟨name, description, nodes, edges⟩
  | none => Checked.fail (.notRecord "UpdateRuleRequest") v

end UpdateRequest

/-- The input of a run that a request gives, by either of the two names it may have. -/
def inputOf (ms : Members) : Value :=
  match ms.get? "inputData" with
  | some v => v
  | none => (ms.get? "input_data").getD .null

end Rulebook
