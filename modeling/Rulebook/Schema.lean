import Rulebook.Store

/-!
# The database file

What is in the file that holds the saved rules: the table of the rules, with its columns, and the
table in which migrations record how far they have come. Either may be absent. Rules can only be
added and listed while their table is there.

`DatabaseFile.create` is how the service itself makes the table; the other way is a migration.
-/

set_option autoImplicit false

namespace Rulebook

/-- The types of columns. -/
inductive ColumnType
  | boundedText (limit : Nat)
  | text
  | tree
  | moment
deriving DecidableEq

/-- How a type is written. -/
def ColumnType.name : ColumnType → String
  | .boundedText limit => "VARCHAR(" ++ toString limit ++ ")"
  | .text => "TEXT"
  | .tree => "JSON"
  | .moment => "DATETIME"

/-- A column of a table. -/
structure Column where
  name : String
  type : ColumnType
  nullable : Bool
  isKey : Bool
deriving DecidableEq

/-- The columns in which a saved rule is kept. -/
def SavedRule.columns : List Column := [
  ⟨"id", .boundedText 64, false, true⟩,
  ⟨"name", .boundedText 255, false, false⟩,
  ⟨"description", .text, false, false⟩,
  ⟨"nodes", .tree, false, false⟩,
  ⟨"edges", .tree, false, false⟩,
  ⟨"created_at", .moment, false, false⟩,
  ⟨"updated_at", .moment, false, false⟩
]

/-- The table of saved rules. -/
structure RuleTable where
  columns : List Column
  store : Store
deriving DecidableEq

/-- A database file. -/
structure DatabaseFile where
  rules : Option RuleTable
  /-- The rows of the table in which migrations are recorded. -/
  stamps : Option (List String)
  nextId : Nat
deriving DecidableEq

namespace DatabaseFile

/-- A file that is not there yet. -/
def empty : DatabaseFile := ⟨none, none, 1⟩

/-- The name of the table of saved rules. -/
def rulesName : String := "saved_rules"

/-- The name of the table in which migrations are recorded. -/
def stampsName : String := "alembic_version"

/-- The columns of the table in which migrations are recorded. -/
def stampsColumns : List Column := [⟨"version_num", .boundedText 32, false, true⟩]

/-- The tables that are there, by name. -/
def tables (f : DatabaseFile) : List (String × List Column) :=
  (if f.stamps.isSome then [(stampsName, stampsColumns)] else []) ++
  (match f.rules with
    | some t => [(rulesName, t.columns)]
    | none => [])

/-- The file with a table of saved rules. One that is there stays as it is; a new one gets the given
columns. -/
def withRules (f : DatabaseFile) (columns : List Column) : DatabaseFile :=
  match f.rules with
  | some _ => f
  | none => { f with rules := some ⟨columns, .empty⟩ }

/-- The file with all tables that the service needs. -/
def create (f : DatabaseFile) : DatabaseFile :=
  f.withRules SavedRule.columns

/-- Adds a rule. Without the table a new id is used up all the same. -/
def add (f : DatabaseFile) (now : Timestamp) (id : Option String) (d : Draft) :
    DatabaseFile × Except StoreError SavedRule :=
  match f.rules with
  | some t =>
    match (Database.mk t.store f.nextId).add now id d with
    | (db, result) =>
      ({ f with rules := some { t with store := db.store }, nextId := db.nextId }, result)
  | none =>
    let nextId := match id with
      | some _ => f.nextId
      | none => f.nextId + 1
    ({ f with nextId }, .error .noTable)

/-- All rules, oldest first. -/
def list (f : DatabaseFile) : Except StoreError (List SavedRule) :=
  match f.rules with
  | some t => .ok t.store.list
  | none => .error .noTable

end DatabaseFile

end Rulebook
