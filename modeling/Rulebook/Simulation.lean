import Rulebook.Graph.Linked
import Rulebook.Path

/-!
# Simulation

What happens when a linked rule meets an input. The conditions are evaluated in order, on the input
as it came, up to the first that does not hold. If all hold the rule fires: its actions are applied
in order, each to the tree that the ones before it left. Setting and modifying assign a value; the
other kinds of actions leave the tree alone. An action that fails is reported and changes nothing,
and the next one is tried.

The trace is a list of events. The text of an event is one line of the trace, so what a trace says
can be counted and compared without looking into its lines.
-/

set_option autoImplicit false

namespace Rulebook

namespace Simulation

/-- An event of a simulation. -/
inductive Event
  | started
  | nothingToRun
  | rule (name : String)
  | found (conditions actions : Nat)
  | evaluating (c : Condition)
  | actual (text : String)
  | result (holds : Bool)
  | stopped
  | fired
  | executing (a : Action)
  | assigned (target literal : String)
  | called (method : String)
  | inserted (target : String)
  | deleted (target : String)
  | modified (target literal : String)
  | unknownKind (tag : String)
  | failed (e : AssignError)
deriving DecidableEq

/-- The line of an event in a trace. -/
def Event.text : Event → String
  | .started => "Starting rule execution..."
  | .nothingToRun => "No rules to execute"
  | .rule name => "Executing rule: " ++ name
  | .found conditions actions =>
    "Found " ++ toString conditions ++ " conditions and " ++ toString actions ++ " actions"
  | .evaluating c => "Evaluating condition: " ++ c.field ++ " " ++ c.operator ++ " " ++ c.literal
  | .actual text => "Actual value: " ++ text
  | .result holds => "Condition result: " ++ (if holds then "true" else "false")
  | .stopped => "Not all conditions were met. Rule execution stopped."
  | .fired => "All conditions met. Executing actions..."
  | .executing a =>
    "Executing action: " ++ a.tag ++ " on " ++ a.target ++ " with value " ++ a.literal
  | .assigned target literal => "Set " ++ target ++ " = " ++ literal
  | .called method => "Called method: " ++ method ++ " (simulated)"
  | .inserted target => "Inserted fact: " ++ target ++ " (simulated)"
  | .deleted target => "Deleted fact: " ++ target ++ " (simulated)"
  | .modified target literal => "Modified " ++ target ++ " = " ++ literal
  | .unknownKind tag => "Unknown action type: " ++ tag
  | .failed e => "Error executing action: " ++ e.kind ++ ": " ++ e.message

/-- What a simulation comes to. -/
structure Outcome where
  success : Bool
  output : Value
  trace : List Event
deriving DecidableEq

/-- How many rules fired. -/
def Outcome.rulesExecuted (o : Outcome) : Nat :=
  if o.success then 1 else 0

/-- Evaluates one condition: whether it holds, and the three events that tell. -/
def evaluate (input : Value) (c : Condition) :
    Except Condition.Failure (Bool × List Event) := do
  let actual := input.resolve c.field
  let shown ← Condition.text actual
  let holds ← Condition.evaluate actual c.operator c.literal
  return (holds, [.evaluating c, .actual shown, .result holds])

/-- Evaluates conditions up to the first that does not hold. -/
def evaluateAll (input : Value) :
    List (Placed Condition) → Except Condition.Failure (Bool × List Event)
  | [] => .ok (true, [])
  | c :: rest => do
    let (holds, events) ← evaluate input c.content
    if holds then
      let (met, more) ← evaluateAll input rest
      return (met, events ++ more)
    else return (false, events)

/-- The tree after an action, and the event that tells what it did. -/
def effect (tree : Value) (a : Action) : Value × Event :=
  let assign (done : Event) : Value × Event :=
    match tree.assign a.target (.ofLiteral a.literal) with
    | .ok changed => (changed, done)
    | .error e => (tree, .failed e)
  match ActionKind.ofTag? a.tag with
  | some .setProperty => assign (.assigned a.target a.literal)
  | some .callMethod => (tree, .called a.literal)
  | some .insertFact => (tree, .inserted a.target)
  | some .deleteFact => (tree, .deleted a.target)
  | some .modifyFact => assign (.modified a.target a.literal)
  | none => (tree, .unknownKind a.tag)

/-- The tree after a list of actions, and two events for each of them. -/
def applyAll (tree : Value) : List (Placed Action) → Value × List Event
  | [] => (tree, [])
  | a :: rest =>
    let (changed, event) := effect tree a.content
    let (final, more) := applyAll changed rest
    (final, .executing a.content :: event :: more)

/-- Runs a linked rule on an input. -/
def run (rule : Option LinkedRule) (input : Value) : Except Condition.Failure Outcome :=
  match rule with
  | none => .ok ⟨false, input, [.started, .nothingToRun]⟩
  | some r => do
    let opening : List Event :=
      [.started, .rule r.rule.content.name, .found r.conditions.length r.actions.length]
    let (met, events) ← evaluateAll input r.conditions
    if met then
      let (output, more) := applyAll input r.actions
      return ⟨true, output, opening ++ events ++ .fired :: more⟩
    else return ⟨false, input, opening ++ events ++ [.stopped]⟩

/-- Runs a linked rule on an input that is written down before, to show that a run leaves it alone.
An input that cannot be written out is refused. -/
def runWritten (rule : Option LinkedRule) (input : Value) : Except Condition.Failure Outcome :=
  if input.isWritable then run rule input else .error (.display .tooManyDigits)

end Simulation

end Rulebook
