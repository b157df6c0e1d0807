import Rulebook.Drl
import Rulebook.Graph.Validation
import Rulebook.Sample
import Rulebook.Service.Reply
import Rulebook.Service.Request
import Rulebook.Simulation

/-!
# Answering requests

The service on top of the store. `Service.handle` answers one request: it finds the endpoint, reads
and checks the body, and does the work. Only saving, updating and deleting touch the database, and
saving demands a valid graph.
-/

set_option autoImplicit false

namespace Rulebook

/-- Whether a value counts as given where a name or a description is looked for. -/
def Value.isTruthy : Value → Bool
  | .absent => false
  | .null => false
  | .bool b => b
  | .int n => n != 0
  | .double d => d.toRat? != some 0
  | .text s => s != ""
  | .list items => !items.isEmpty
  | .object ms => !ms.isEmpty

namespace SavedRule

/-- A stored rule as clients see it. -/
def toValue (r : SavedRule) : Value :=
  .object [("id", .text r.id), ("name", .text r.name), ("description", .text r.description),
    ("nodes", r.nodes), ("edges", r.edges), ("createdAt", .text r.createdAt.text),
    ("updatedAt", .text r.updatedAt.text)]

/-- The drawing of a stored rule. -/
def drawing (r : SavedRule) : Checked Drawing :=
  Drawing.ofMembers [("nodes", r.nodes), ("edges", r.edges)]

end SavedRule

namespace SaveRequest

/-- The name of the first rule node, as it is in the node's data. -/
def dataName (r : SaveRequest) : Value :=
  (r.drawing.firstRuleData.get? "name").getD .null

/-- The description of the first rule node, as it is in the node's data. -/
def dataDescription (r : SaveRequest) : Value :=
  (r.drawing.firstRuleData.get? "description").getD .null

/-- The name to save under: the given one, or the rule node's, or a stand-in. -/
def savedName (r : SaveRequest) : Value :=
  match r.name with
  | some s => if s = "" then fallback else .text s
  | none => fallback
where
  fallback : Value := if r.dataName.isTruthy then r.dataName else .text "Untitled Rule"

/-- The description to save: the given one, or the rule node's, or none. -/
def savedDescription (r : SaveRequest) : Value :=
  match r.description with
  | some s => .text s
  | none => if r.dataDescription.isTruthy then r.dataDescription else .text ""

/-- What is stored of a drawing to be saved. -/
def draft (r : SaveRequest) : Draft where
  name := r.savedName
  description := r.savedDescription
  nodes := .list (r.drawing.nodes.map DrawnNode.toValue)
  edges := .list (r.drawing.edges.map DrawnEdge.toValue)

end SaveRequest

namespace UpdateRequest

/-- What is to be changed in the store. -/
def changes (r : UpdateRequest) : Changes where
  name := (r.name.map Value.text).getD .null
  description := (r.description.map Value.text).getD .null
  nodes := (r.nodes.map fun ns => Value.list (ns.map DrawnNode.toValue)).getD .null
  edges := (r.edges.map fun es => Value.list (es.map DrawnEdge.toValue)).getD .null

end UpdateRequest

namespace Service

/-- What a request does to the database, and what comes of it. -/
abbrev Answer := Database × Except ServiceError Reply

/-- The name under which a rule source is downloaded when there is no better one. -/
def defaultFileName : String := "rule.drl"

/-- The graph of a drawing. -/
def graphOf (d : Drawing) : Except ServiceError Graph :=
  d.toGraph.mapError .display

/-- The reply about a rule that is not stored. -/
def notFound (id : String) : Reply :=
  .detail 404 ("Rule '" ++ id ++ "' not found")

/-- Reports whether a drawing is a valid graph. -/
def validate (d : Drawing) : Except ServiceError Reply := do
  let g ← graphOf d
  Reply.send 200 (.object [("isValid", .bool g.isValid),
    ("errors", .list (g.defects.map fun x => .text x.message))])

/-- The rule source of a drawing. -/
def source (d : Drawing) : Except ServiceError String := do
  let g ← graphOf d
  return Drl.generate g.link

/-- The input that is used for a given one. -/
def effectiveInput (v : Value) : Value :=
  if v = .null then Sample.defaultInput else v

/-- Runs a drawing's rule and reports what came of it. -/
def execute (d : Drawing) (input : Value) : Except ServiceError Reply := do
  let g ← graphOf d
  let input := effectiveInput input
  let outcome ← (Simulation.run g.link input).mapError .condition
  Reply.send 200 (.object [("success", .bool outcome.success), ("inputData", input),
    ("outputData", outcome.output), ("rulesExecuted", .int outcome.rulesExecuted),
    ("logs", .list (outcome.trace.map fun e => .text e.text))])

/-- Reports a stored rule after a change. -/
def changedReply (message : String) (r : SavedRule) : Except ServiceError Reply :=
  Reply.send 200 (.object [("message", .text message), ("rule", r.toValue)])

/-- Saves a drawing if it is a valid graph. -/
def save (db : Database) (now : Timestamp) (r : SaveRequest) : Answer :=
  match graphOf r.drawing with
  | .error e => (db, .error e)
  | .ok g =>
    if g.isValid then
      match db.add now none r.draft with
      | (db, .ok rule) => (db, changedReply "Rule saved successfully" rule)
      | (db, .error e) => (db, .error (.store e))
    else
      (db, .ok (.json 400 (.object [("detail", .object
        [("errors", .list (g.defects.map fun x => .text x.message))])])))

/-- Updates a stored rule. -/
def update (db : Database) (now : Timestamp) (id : String) (r : UpdateRequest) : Answer :=
  match db.store.update true now id r.changes with
  | .error e => (db, .error (.store e))
  | .ok none => (db, .ok (notFound id))
  | .ok (some (store, rule)) =>
    ({ db with store }, changedReply "Rule updated successfully" rule)

/-- Deletes a stored rule. -/
def delete (db : Database) (id : String) : Answer :=
  match db.store.remove id with
  | (true, store) =>
    ({ db with store },
      Reply.send 200 (.object [("message", .text ("Rule '" ++ id ++ "' deleted successfully"))]))
  | (false, _) => (db, .ok (notFound id))

/-- Uses a stored rule, if there is one. -/
def withStored (db : Database) (id : String)
    (use : SavedRule → Except ServiceError Reply) : Except ServiceError Reply :=
  match db.store.get? id with
  | some r => use r
  | none => .ok (notFound id)

/-- The drawing of a stored rule. -/
def storedDrawing (r : SavedRule) : Except ServiceError Drawing :=
  r.drawing.mapError .storedGraph

/-- A checked body, or what to answer about what is wrong with it. -/
def decoded {α : Type} (body : Body) (check : Value → Checked α) :
    Except (Except ServiceError Reply) α :=
  match body.content with
  | .error (.fault f) => .error (Reply.faulty [f])
  | .error .unreadable => .error (.ok (.detail 400 "There was an error parsing the body"))
  | .ok v => (check v).mapError Reply.faulty

/-- Answers a request with a body, if the body is right. -/
def checked {α : Type} (body : Body) (check : Value → Checked α)
    (use : α → Except ServiceError Reply) : Except ServiceError Reply :=
  match decoded body check with
  | .ok a => use a
  | .error answer => answer

/-- Like `checked`, for what changes the database. -/
def checkedAnswer {α : Type} (db : Database) (body : Body) (check : Value → Checked α)
    (use : α → Answer) : Answer :=
  match decoded body check with
  | .ok a => use a
  | .error answer => (db, answer)

/-- A drawing with the input of a run. -/
def drawingWithInput (v : Value) : Checked (Drawing × Value) :=
  match v.members? with
  | some ms => (Drawing.ofMembers ms).map fun d => (d, inputOf ms)
  | none => Checked.fail .notRequest v

/-- The input of a run. -/
def inputOnly (v : Value) : Checked Value :=
  match v.members? with
  | some ms => .ok (inputOf ms)
  | none => Checked.fail .notRequest v

/-- Answers a request about an endpoint. -/
def answer (db : Database) (now : Timestamp) (body : Body) : Endpoint → Answer
  | .health => (db, Reply.send 200 (.object [("status", .text "ok")]))
  | .templates => (db, Reply.send 200 Sample.offered)
  | .validate => (db, checked body Drawing.ofValue validate)
  | .generate => (db, checked body Drawing.ofValue fun d => do
      let text ← source d
      Reply.send 200 (.object [("drl", .text text)]))
  | .download => (db, checked body Drawing.ofValue fun d => do
      let text ← source d
      return .file defaultFileName text)
  | .execute => (db, checked body drawingWithInput fun (d, input) => execute d input)
  | .list =>
    let rules := db.store.list
    (db, Reply.send 200 (.object [("rules", .list (rules.map SavedRule.toValue)),
      ("count", .int rules.length)]))
  | .save => checkedAnswer db body SaveRequest.ofValue (save db now)
  | .fetch id => (db, withStored db id fun r => Reply.send 200 r.toValue)
  | .update id => checkedAnswer db body UpdateRequest.ofValue (update db now id)
  | .delete id => delete db id
  | .source id => (db, withStored db id fun r => do
      let d ← storedDrawing r
      let text ← source d
      return .file (Drl.fileName defaultFileName (some r.name)) text)
  | .executeSaved id => (db, checked body inputOnly fun input => withStored db id fun r => do
      let d ← storedDrawing r
      execute d input)

/-- Answers a request. -/
def handle (db : Database) (now : Timestamp) (r : Request) : Answer :=
  match Endpoint.of r.method r.segments with
  | .error .unknownPath => (db, .ok (.detail 404 "Not Found"))
  | .error .unknownMethod => (db, .ok (.detail 405 "Method Not Allowed"))
  | .ok endpoint => answer db now r.body endpoint

end Service

end Rulebook
