import Rulebook.Value

/-!
# Faults in structured input

When a tree does not have the shape that was asked for, every place where it deviates is reported:
where it is, what was expected there, and what was found. `Checked` is a result or the faults that
stand in its way; `Checked.both` and `Checked.each` go on after a fault, so that none is missed.
-/

set_option autoImplicit false

namespace Rulebook

/-- A step on the way to a place in a tree. -/
inductive Step
  | key (name : String)
  | index (n : Nat)
deriving DecidableEq

/-- What is wrong at a place. -/
inductive FaultKind
  | missing
  | notText
  | notObject
  | notList
  /-- No object where a record of the named kind was expected. -/
  | notRecord (record : String)
  /-- No object where the record of a request was expected. -/
  | notRequest
  | notInteger
  | unreadableInteger
  | integerTooLarge
  | fractionalInteger
  | notFinite
  | unexpected
  | malformed (message : String)
  | rejected (message : String)
deriving DecidableEq

namespace FaultKind

/-- The short name of a kind of fault. -/
def code : FaultKind → String
  | .missing => "missing"
  | .notText => "string_type"
  | .notObject => "dict_type"
  | .notList => "list_type"
  | .notRecord _ => "model_type"
  | .notRequest => "model_attributes_type"
  | .notInteger => "int_type"
  | .unreadableInteger => "int_parsing"
  | .integerTooLarge => "int_parsing_size"
  | .fractionalInteger => "int_from_float"
  | .notFinite => "finite_number"
  | .unexpected => "extra_forbidden"
  | .malformed _ => "json_invalid"
  | .rejected _ => "value_error"

/-- The message of a kind of fault. -/
def message : FaultKind → String
  | .missing => "Field required"
  | .notText => "Input should be a valid string"
  | .notObject => "Input should be a valid dictionary"
  | .notList => "Input should be a valid list"
  | .notRecord record => "Input should be a valid dictionary or instance of " ++ record
  | .notRequest => "Input should be a valid dictionary or object to extract fields from"
  | .notInteger => "Input should be a valid integer"
  | .unreadableInteger =>
    "Input should be a valid integer, unable to parse string as an integer"
  | .integerTooLarge => "Unable to parse input string as an integer, exceeded maximum size"
  | .fractionalInteger => "Input should be a valid integer, got a number with a fractional part"
  | .notFinite => "Input should be a finite number"
  | .unexpected => "Extra inputs are not permitted"
  | .malformed message => message
  | .rejected message => "Value error, " ++ message

end FaultKind

/-- A place where a tree does not have the expected shape. -/
structure Fault where
  location : List Step
  kind : FaultKind
  /-- What was found there; for something missing, what it is missing from. -/
  found : Value

/-- A result, or the faults that stand in its way. -/
abbrev Checked (α : Type) := Except (List Fault) α

namespace Checked

/-- A single fault at the current place. -/
def fail {α : Type} (kind : FaultKind) (found : Value) : Checked α :=
  .error [⟨[], kind, found⟩]

/-- A result of a part, its faults located from the whole. -/
def under {α : Type} (step : Step) (c : Checked α) : Checked α :=
  c.mapError (·.map fun f => { f with location := step :: f.location })

/-- Two results, or the faults of both. -/
def both {α β : Type} (a : Checked α) (b : Checked β) : Checked (α × β) :=
  match a, b with
  | .ok x, .ok y => .ok (x, y)
  | .ok _, .error fs => .error fs
  | .error es, .ok _ => .error es
  | .error es, .error fs => .error (es ++ fs)

/-- A function of a result applied to it, or the faults of both. -/
def ap {α β : Type} (f : Checked (α → β)) (a : Checked α) : Checked β :=
  (f.both a).map fun p => p.1 p.2

/-- The results for all items of a list, or the faults of all. -/
def each {α β : Type} (check : α → Checked β) : (first : Nat) → List α → Checked (List β)
  | _, [] => .ok []
  | n, a :: rest =>
    ((under (.index n) (check a)).both (each check (n + 1) rest)).map fun p => p.1 :: p.2

end Checked

namespace Value

/-- A text. -/
def asText (v : Value) : Checked String :=
  match v with
  | .text s => .ok s
  | _ => Checked.fail .notText v

/-- A text or null. -/
def asOptionalText (v : Value) : Checked (Option String) :=
  match v with
  | .null => .ok none
  | _ => v.asText.map some

/-- An object that stands for a mapping. -/
def asObject (v : Value) : Checked Members :=
  match v with
  | .object ms => .ok ms
  | _ => Checked.fail .notObject v

/-- A list all of whose items pass a check. -/
def asListOf {α : Type} (check : Value → Checked α) (v : Value) : Checked (List α) :=
  match v with
  | .list items => Checked.each check 0 items
  | _ => Checked.fail .notList v

end Value

namespace Members

/-- A member that has to be there. -/
def required {α : Type} (ms : Members) (key : String) (check : Value → Checked α) : Checked α :=
  Checked.under (.key key) <|
    match ms.get? key with
    | some v => check v
    | none => Checked.fail .missing (.object ms)

/-- A member that may be left out. -/
def optional {α : Type} (ms : Members) (key : String) (default : α) (check : Value → Checked α) :
    Checked α :=
  Checked.under (.key key) <|
    match ms.get? key with
    | some v => check v
    | none => .ok default

/-- The members with other keys than the given ones. -/
def without (ms : Members) (keys : List String) : Members :=
  ms.filter fun m => !keys.contains m.1

end Members

end Rulebook
