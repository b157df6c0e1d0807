import Rulebook.Display
import Rulebook.Timestamp

/-!
# The store of saved rules

Saved rules by id. `Store` is what is stored; `Database` adds the number from which the next id is
made. Every operation takes the current moment where it needs one.

A rule's name and description are texts. What is handed over for them may be any value: a number is
kept as its text, a truth value as `0` or `1`, a list or an object is refused. Nodes and edges are
kept as they are.

An update writes a column only if the given value differs from the kept one as values differ under
`Value.sameAs`, and it moves `updatedAt` only if it writes a column. A failed operation leaves the
store as it was; `add` has used up its number all the same.
-/

set_option autoImplicit false

namespace Rulebook

/-- A rule as it is stored. -/
structure SavedRule where
  id : String
  name : String
  description : String
  nodes : Value
  edges : Value
  createdAt : Timestamp
  updatedAt : Timestamp
deriving DecidableEq

/-- Why the store refuses an operation. -/
inductive StoreError
  /-- The id is taken, or a text is missing. -/
  | constraint
  /-- A list or an object where a text is kept. -/
  | unsupportedValue
  /-- An integer beyond 64 bits where a text is kept. -/
  | integerTooLarge
  /-- Nodes or edges with an integer too long to be written. -/
  | unwritable
  /-- The table of saved rules is not there. -/
  | noTable
deriving DecidableEq

/-- The message of a refusal, where there is one. -/
def StoreError.message? : StoreError → Option String
  | .integerTooLarge => some "Python int too large to convert to SQLite INTEGER"
  | _ => none

namespace Value

/-- What a text column keeps of a value; nothing if the value counts as missing. -/
def columnText? : Value → Except StoreError (Option String)
  | .text s => .ok (some s)
  | .null => .ok none
  | .bool b => .ok (some (if b then "1" else "0"))
  | .int n =>
    if -0x8000000000000000 ≤ n ∧ n < 0x8000000000000000 then .ok (some (toString n))
    else .error .integerTooLarge
  | .double d => .ok d.columnText?
  | _ => .error .unsupportedValue

/-- A text that must not be missing. -/
def present (s : Option String) : Except StoreError String :=
  match s with
  | some t => .ok t
  | none => .error .constraint

/-- Fails if a tree cannot be written out. -/
def checkWritable (v : Value) : Except StoreError Unit :=
  if v.isWritable then .ok () else .error .unwritable

/-- Whether a value stands for a given one, rather than for none. -/
def given? : Value → Option Value
  | .null => none
  | v => some v

end Value

/-- What is to be added. -/
structure Draft where
  name : Value
  description : Value
  nodes : Value
  edges : Value

/-- What is to be changed; null stands for no change. -/
structure Changes where
  name : Value
  description : Value
  nodes : Value
  edges : Value

/-- The rules that are stored. -/
structure Store where
  rules : List SavedRule
deriving DecidableEq

namespace Store

/-- A store without rules. -/
def empty : Store := ⟨[]⟩

/-- The rule with an id. -/
def get? (s : Store) (id : String) : Option SavedRule :=
  s.rules.find? (·.id == id)

/-- Whether an id is taken. -/
def contains (s : Store) (id : String) : Bool :=
  s.rules.any (·.id == id)

/-- Adds a rule under an id. A description that is missing is empty. -/
def add (s : Store) (now : Timestamp) (id : String) (d : Draft) :
    Except StoreError (Store × SavedRule) := do
  d.nodes.checkWritable
  d.edges.checkWritable
  let name ← d.name.columnText?
  let description ← (d.description.given?.getD (.text "")).columnText?
  let name ← Value.present name
  let description ← Value.present description
  if s.contains id then .error .constraint
  else
    let rule : SavedRule := ⟨id, name, description, d.nodes, d.edges, now, now⟩
    return (⟨s.rules ++ [rule]⟩, rule)

/-- Whether a column changes: something is given, and it is not the same as what is kept. -/
def changed (oneNaN : Bool) (kept given : Value) : Bool :=
  match given.given? with
  | some v => !v.sameAs oneNaN kept
  | none => false

/-- A changed text column. -/
def newText (oneNaN : Bool) (kept : String) (given : Value) : Except StoreError (Option String) :=
  if changed oneNaN (.text kept) given then given.columnText? else .ok (some kept)

/-- A changed tree column. -/
def newTree (oneNaN : Bool) (kept given : Value) : Except StoreError Value :=
  if changed oneNaN kept given then do
    given.checkWritable
    return given
  else .ok kept

/-- A rule after an update. -/
def revise (oneNaN : Bool) (now : Timestamp) (r : SavedRule) (c : Changes) :
    Except StoreError SavedRule := do
  let nodes ← newTree oneNaN r.nodes c.nodes
  let edges ← newTree oneNaN r.edges c.edges
  let name ← newText oneNaN r.name c.name
  let description ← newText oneNaN r.description c.description
  let name ← Value.present name
  let description ← Value.present description
  let touched := changed oneNaN (.text r.name) c.name ||
    changed oneNaN (.text r.description) c.description ||
    changed oneNaN r.nodes c.nodes || changed oneNaN r.edges c.edges
  return { r with
    name, description, nodes, edges, updatedAt := if touched then now else r.updatedAt }

/-- Updates the rule with an id; without such a rule there is no result. -/
def update (s : Store) (oneNaN : Bool) (now : Timestamp) (id : String) (c : Changes) :
    Except StoreError (Option (Store × SavedRule)) :=
  match s.get? id with
  | none => .ok none
  | some r => do
    let revised ← revise oneNaN now r c
    return some (⟨s.rules.map fun x => if x.id == id then revised else x⟩, revised)

/-- Removes the rule with an id, if there is one. -/
def remove (s : Store) (id : String) : Bool × Store :=
  (s.contains id, ⟨s.rules.filter (·.id != id)⟩)

/-- Whether a rule is listed before another or in its place: the older first, and of two of the same
age the one with the lesser id. -/
def listedBefore (a b : SavedRule) : Bool :=
  a.createdAt.seconds < b.createdAt.seconds ||
    (a.createdAt.seconds == b.createdAt.seconds && !(b.id < a.id))

/-- All rules, oldest first. -/
def list (s : Store) : List SavedRule :=
  s.rules.mergeSort listedBefore

end Store

/-- A store with the number from which the next id is made. -/
structure Database where
  store : Store
  nextId : Nat
deriving DecidableEq

namespace Database

/-- A database without rules. -/
def empty : Database := ⟨.empty, 1⟩

/-- The id made from a number: 32 hexadecimal digits. -/
def idOf (n : Nat) : String :=
  let ds := Nat.toDigits 16 n
  String.ofList (List.replicate (32 - ds.length) '0' ++ ds)

/-- Adds a rule under the given id, or under a new one. A new id is used up even if adding fails. -/
def add (db : Database) (now : Timestamp) (id : Option String) (d : Draft) :
    Database × Except StoreError SavedRule :=
  let used := match id with
    | some _ => db
    | none => { db with nextId := db.nextId + 1 }
  match db.store.add now (id.getD (idOf db.nextId)) d with
  | .ok (store, rule) => ({ used with store }, .ok rule)
  | .error e => (used, .error e)

end Database

/-! ## Calls -/

/-- What can be asked of the database. -/
inductive StoreCall
  | add (id : Option String) (d : Draft)
  | fetch (id : String)
  | list
  | update (id : String) (c : Changes)
  | remove (id : String)
  | clear

/-- What comes of a call. -/
inductive StoreResult
  | rule (r : SavedRule)
  | noRule
  | rules (rs : List SavedRule)
  | removed (found : Bool)
  | cleared
  | refused (e : StoreError)
deriving DecidableEq

namespace Database

/-- The result of an operation that gives a rule. -/
def ruleResult : Except StoreError SavedRule → StoreResult
  | .ok rule => .rule rule
  | .error e => .refused e

/-- Does what a call asks for. Here two doubles that are no number always differ: a value that is
handed over never shares its doubles with a stored one. -/
def perform (db : Database) (now : Timestamp) : StoreCall → Database × StoreResult
  | .add id d =>
    match db.add now id d with
    | (db, result) => (db, ruleResult result)
  | .fetch id =>
    match db.store.get? id with
    | some rule => (db, .rule rule)
    | none => (db, .noRule)
  | .list => (db, .rules db.store.list)
  | .update id c =>
    match db.store.update false now id c with
    | .ok (some (store, rule)) => ({ db with store }, .rule rule)
    | .ok none => (db, .noRule)
    | .error e => (db, .refused e)
  | .remove id =>
    match db.store.remove id with
    | (found, store) => ({ db with store }, .removed found)
  | .clear => ({ db with store := .empty }, .cleared)

end Database

end Rulebook
