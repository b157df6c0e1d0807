import Rulebook.Condition
import Rulebook.Fault
import Rulebook.Store

/-!
# Replies

What a client gets back: a tree that is sent as JSON, or a text to download. Numbers that JSON does
not have are sent as null. A request that fails inside the service gets no reply but a
`ServiceError`.
-/

set_option autoImplicit false

namespace Rulebook

/-- A failure inside the service. -/
inductive ServiceError
  | display (e : DisplayError)
  | condition (e : Condition.Failure)
  | store (e : StoreError)
  /-- A stored graph that cannot be read. -/
  | storedGraph (faults : List Fault)
  /-- Faults in a request that contain numbers that JSON does not have. -/
  | unsendableFaults

/-- The message for faults that cannot be sent. -/
def ServiceError.unsendableMessage : String :=
  "Out of range float values are not JSON compliant"

/-- A reply. -/
inductive Reply
  | json (status : Nat) (body : Value)
  | file (name : String) (text : String)

namespace Reply

/-- The type of a text to download. -/
def contentType : String := "text/plain; charset=utf-8"

/-- How a client is told to keep a text under a name. -/
def disposition (name : String) : String :=
  "attachment; filename=\"" ++ name ++ "\""

end Reply

namespace Value

mutual

/-- A tree with null for every number that JSON does not have. -/
def sendable : Value → Value
  | .double d => if d.isExceptional then .null else .double d
  | .list items => .list (sendableItems items)
  | .object ms => .object (sendableMembers ms)
  | v => v
termination_by structural x => x

/-- `sendable` on the items of a list. -/
def sendableItems : List Value → List Value
  | [] => []
  | v :: rest => sendable v :: sendableItems rest
termination_by structural x => x

/-- `sendable` on the members of an object. -/
def sendableMembers : List (String × Value) → List (String × Value)
  | [] => []
  | (k, v) :: rest => (k, sendable v) :: sendableMembers rest
termination_by structural x => x

end

mutual

/-- Whether JSON has all numbers in a tree. -/
def isSendable : Value → Bool
  | .double d => !d.isExceptional
  | .list items => allSendable items
  | .object ms => allMembersSendable ms
  | _ => true
termination_by structural x => x

/-- Whether JSON has all numbers in some trees. -/
def allSendable : List Value → Bool
  | [] => true
  | v :: rest => isSendable v && allSendable rest
termination_by structural x => x

/-- Whether JSON has all numbers in the values of some members. -/
def allMembersSendable : List (String × Value) → Bool
  | [] => true
  | (_, v) :: rest => isSendable v && allMembersSendable rest
termination_by structural x => x

end

end Value

namespace Reply

/-- A tree as a reply with a status. -/
def send (status : Nat) (body : Value) : Except ServiceError Reply :=
  if body.isWritable then .ok (.json status body.sendable)
  else .error (.display .tooManyDigits)

/-- A reply that says in words what went wrong. -/
def detail (status : Nat) (message : String) : Reply :=
  .json status (.object [("detail", .text message)])

/-- A step of a location as a tree. -/
def stepValue : Step → Value
  | .key name => .text name
  | .index n => .int n

/-- A fault in the body of a request as a tree. -/
def faultValue (f : Fault) : Value :=
  .object [("type", .text f.kind.code), ("loc", .list (.text "body" :: f.location.map stepValue)),
    ("msg", .text f.kind.message)]

/-- A fault as it is worded for requests, which do not name records. -/
def requestFault (f : Fault) : Fault :=
  match f.kind with
  | .notRecord _ => { f with kind := .notRequest }
  | _ => f

/-- The reply to a request with a faulty body. -/
def faulty (faults : List Fault) : Except ServiceError Reply :=
  if faults.all (·.found.isSendable) then
    .ok (.json 422
      (.object [("detail", .list (faults.map fun f => faultValue (requestFault f)))]))
  else .error .unsendableFaults

end Reply

end Rulebook
