import Rulebook.Drawing
import Rulebook.Json.Reader
import Rulebook.Text.Percent

/-!
# Requests

What a client asks for: a method, a path and perhaps a body. `Endpoint.of` finds what a method and a
path stand for. A path that is known under other methods only is told apart from one that is not
known at all; where several endpoints share a path, the first in the table that knows the method
answers.

The body is a tree, read from JSON if the client sent text. `Body.content` says what is wrong with a
body that is no JSON.
-/

set_option autoImplicit false

namespace Rulebook

/-- The body of a request. -/
inductive Body
  | nothing
  | tree (v : Value)
  | text (s : String)

/-- A request. -/
structure Request where
  method : String
  path : String
  body : Body

/-- What a request can be about. -/
inductive Endpoint
  | health
  | templates
  | validate
  | generate
  | download
  | execute
  | list
  | save
  | fetch (id : String)
  | update (id : String)
  | delete (id : String)
  | source (id : String)
  | executeSaved (id : String)
deriving DecidableEq

/-- Why there is nothing at a path. -/
inductive RouteError
  | unknownPath
  | unknownMethod
deriving DecidableEq

namespace Endpoint

/-- The endpoints at a path below the rules, with their methods. -/
def below (segments : List String) : List (String × Endpoint) :=
  match segments with
  | [""] => [("GET", .list), ("POST", .save)]
  | ["generate", "download"] => [("POST", .download)]
  | [id] =>
    (if id = "templates" then [("GET", .templates)] else []) ++
    (if id = "validate" then [("POST", .validate)] else []) ++
    (if id = "generate" then [("POST", .generate)] else []) ++
    (if id = "execute" then [("POST", .execute)] else []) ++
    [("GET", .fetch id), ("PUT", .update id), ("DELETE", .delete id)]
  | [id, "drl"] => if id = "" then [] else [("GET", .source id)]
  | [id, "execute"] => if id = "" then [] else [("POST", .executeSaved id)]
  | _ => []

/-- The endpoints at a path, with their methods. -/
def at? (segments : List String) : List (String × Endpoint) :=
  match segments with
  | ["", "health"] => [("GET", .health)]
  | "" :: "api" :: "rules" :: rest => below rest
  | _ => []

/-- What a method and the segments of a path stand for. -/
def of (method : String) (segments : List String) : Except RouteError Endpoint :=
  match at? segments with
  | [] => .error .unknownPath
  | known =>
    match known.find? (·.1 == method) with
    | some (_, endpoint) => .ok endpoint
    | none => .error .unknownMethod

end Endpoint

namespace Request

/-- The segments of a path, between its slashes. -/
def segments (r : Request) : List String :=
  let path := r.path.toList.takeWhile fun c => c != '?' && c != '#'
  ((Text.percentDecoded path).splitOn '/').map String.ofList

end Request

/-- Why a body cannot be used. -/
inductive BodyError
  | fault (f : Fault)
  /-- An integer with too many digits. -/
  | unreadable

namespace Body

/-- The message for a text that is no JSON. -/
def malformedMessage : String := "JSON decode error"

/-- The tree in a body. -/
def content : Body → Except BodyError Value
  | .nothing => .error (.fault ⟨[], .missing, .null⟩)
  | .tree v => .ok v
  | .text s =>
    if s = "" then .error (.fault ⟨[], .missing, .null⟩)
    else
      let unmarked := match s.toList with
        | '\uFEFF' :: rest => String.ofList rest
        | _ => s
      match Json.read unmarked with
      | .ok v => .ok v
      | .error ⟨.tooManyDigits _, _⟩ => .error .unreadable
      | .error f => .error (.fault ⟨[.index f.position], .malformed malformedMessage, .null⟩)

end Body

end Rulebook
