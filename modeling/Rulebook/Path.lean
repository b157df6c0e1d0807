import Rulebook.Text.Blank
import Rulebook.Value

/-!
# Paths into value trees

A path names a place in a tree by the keys that lead to it, with points between them. Only objects
have places below them. `Value.resolve` reads a place, `Value.assign` writes one and creates the
objects on the way; a null on the way gives way to an object, anything else that is no object is a
conflict.

`assign` either gives the new tree or fails without one, so a failed assignment leaves nothing
behind. `assignInPlace` works on one tree as it goes and gives the tree that it leaves also when it
fails. A path that is blank throughout names no place: assigning to it changes nothing.
-/

set_option autoImplicit false

namespace Rulebook

namespace Path

/-- The keys of a path. There is always at least one. -/
def segments (path : String) : List String :=
  (path.toList.splitOn '.').map String.ofList

end Path

/-- Why an assignment fails. -/
inductive AssignError
  /-- The value under a key on the way is no object. -/
  | blocked (path key : String) (held : Value)
  /-- The tree itself is no object, and the path has more than one key. -/
  | rootWithoutMembers (root : Value)
  /-- The tree itself is no object, and the path is a single key. -/
  | rootNotAssignable (root : Value)
deriving DecidableEq

namespace AssignError

/-- The word for the kind of failure, as traces show it. -/
def kind : AssignError → String
  | .blocked _ _ _ => "PathConflictError"
  | .rootWithoutMembers _ => "AttributeError"
  | .rootNotAssignable _ => "TypeError"

/-- The message of a failed assignment. -/
def message : AssignError → String
  | .blocked path key held =>
    "Cannot set '" ++ path ++ "': '" ++ key ++ "' holds a " ++ held.kindName ++ ", not an object"
  | .rootWithoutMembers root => "'" ++ root.kindName ++ "' object has no attribute 'get'"
  | .rootNotAssignable (.list _) => "list indices must be integers or slices, not str"
  | .rootNotAssignable root => "'" ++ root.kindName ++ "' object does not support item assignment"

end AssignError

namespace Value

/-- The value under a key; there is none in anything but an object. -/
def child (v : Value) (key : String) : Value :=
  match v with
  | .object ms => (Members.get? ms key).getD .absent
  | _ => .absent

/-- The value at the end of a sequence of keys. -/
def follow (v : Value) : List String → Value
  | [] => v
  | key :: rest => (v.child key).follow rest

/-- The value at a path. -/
def resolve (v : Value) (path : String) : Value :=
  v.follow (Path.segments path)

/-- The value that is there at the end of a sequence of keys; there may be none. -/
def at? (v : Value) : List String → Option Value
  | [] => some v
  | key :: rest =>
    match v with
    | .object ms => (Members.get? ms key).bind (·.at? rest)
    | _ => none

/-- Members with the value at the end of a sequence of keys replaced. The keys are those of `path`,
which is named in the message if something is in the way. -/
def assignMembers (path : String) (ms : Members) (v : Value) :
    List String → Except AssignError Members
  | [] => .ok ms
  | [key] => .ok (ms.insert key v)
  | key :: rest => do
    let below ← match ms.get? key with
      | none => .ok []
      | some .null => .ok []
      | some (.object inner) => .ok inner
      | some held => .error (.blocked path key held)
    let below ← assignMembers path below v rest
    return ms.insert key (.object below)

/-- The tree with the value at a path replaced. -/
def assign (tree : Value) (path : String) (v : Value) : Except AssignError Value :=
  if Text.isBlankText path then .ok tree
  else
    let keys := Path.segments path
    match tree with
    | .object ms => do
      let ms ← assignMembers path ms v keys
      return .object ms
    | root =>
      if keys.length = 1 then .error (.rootNotAssignable root)
      else .error (.rootWithoutMembers root)

/-! ## In place

The same as a walk down one tree that is changed on the way. An object that is missing is made as
soon as its key is reached, before the next key is looked at, and nothing is taken back when the
walk stops further down. -/

/-- The tree with the value at the end of a sequence of keys replaced. All keys but the last have to
lead through objects. -/
def put (tree : Value) (v : Value) : List String → Value
  | [] => v
  | key :: rest =>
    match tree with
    | .object ms => .object (Members.insert ms key (((Members.get? ms key).getD .null).put v rest))
    | _ => tree

/-- Goes on from the object at the end of `place` with the keys that are left. What comes back is
the tree as it then is, and whether the value has been assigned. -/
def assignFrom (path : String) (v tree : Value) (place : List String) :
    List String → Value × Except AssignError Unit
  | [] => (tree, .ok ())
  | [key] => (tree.put v (place ++ [key]), .ok ())
  | key :: rest =>
    let below := place ++ [key]
    match tree.at? below with
    | none => assignFrom path v (tree.put (.object []) below) below rest
    | some .null => assignFrom path v (tree.put (.object []) below) below rest
    | some (.object _) => assignFrom path v tree below rest
    | some held => (tree, .error (.blocked path key held))

/-- Replaces the value at a path in a tree. -/
def assignInPlace (tree : Value) (path : String) (v : Value) : Value × Except AssignError Unit :=
  if Text.isBlankText path then (tree, .ok ())
  else
    let keys := Path.segments path
    match tree with
    | .object _ => assignFrom path v tree [] keys
    | root =>
      if keys.length = 1 then (root, .error (.rootNotAssignable root))
      else (root, .error (.rootWithoutMembers root))

end Value

end Rulebook
