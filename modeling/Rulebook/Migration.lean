import Rulebook.Engine
import Rulebook.Schema

/-!
# Migrations

The commands that bring the schema of a database file up or down. There is one revision, which adds
the table of saved rules, so the schema is at one of two levels: `base`, before the revision, or
`head`. The level is what the stamps in the file say, not which tables are there: a table that the
service has made does not move it.

A command names the level it is to reach, by the revision (or the start of its name), as `head` or
`base`, or by a number of steps. On a file it works at once (`upgrade`, `downgrade`), and leaves the
table of stamps behind even if it fails or has nothing to do. It can also just write down what it
would do (`upgradeScript`, `downgradeScript`); then the level to start from is given with the one to
reach, and the file is not touched.
-/

set_option autoImplicit false

namespace Rulebook.Migration

/-- The name of the revision. -/
def revision : String := "3c1f9a7d2b40"

/-- The columns of the table that the revision adds. -/
def columns : List Column := [
  ⟨"id", .boundedText 64, false, true⟩,
  ⟨"name", .boundedText 255, false, false⟩,
  ⟨"description", .text, false, false⟩,
  ⟨"nodes", .tree, false, false⟩,
  ⟨"edges", .tree, false, false⟩,
  ⟨"created_at", .moment, false, false⟩,
  ⟨"updated_at", .moment, false, false⟩
]

/-- How far the schema has come. -/
inductive Level
  | base
  | head
deriving DecidableEq

/-- Why a command is refused. -/
inductive CommandError
  | unknownRevision (name : String)
  /-- There are not that many steps to go. -/
  | tooFar (given : String) (steps : Nat)
  /-- The schema has not come as far as the level that it is to go down to. -/
  | notReached (name : String)
  | rangeRefused
  | rangeNeeded
deriving DecidableEq

/-- The message of a refused command. -/
def CommandError.message : CommandError → String
  | .unknownRevision name => "Can't locate revision identified by '" ++ name ++ "'"
  | .tooFar given steps =>
    "Relative revision " ++ given ++ " didn't produce " ++ toString steps ++ " migrations"
  | .notReached name =>
    "Destination " ++ name ++ " is not a valid downgrade target from current head(s)"
  | .rangeRefused => "Range revision not allowed"
  | .rangeNeeded => "downgrade with --sql requires <fromrev>:<torev>"

/-- Why a command fails. -/
inductive Failure
  | command (e : CommandError)
  | url (e : UrlError)
  /-- What the revision does depends on a database that is not there. -/
  | noInspection
deriving DecidableEq

/-! ## Levels -/

/-- The level that stamps stand for. -/
def levelOf (stamps : List String) : Level :=
  if stamps.contains revision then .head else .base

/-- The level with a name. -/
def named (name : String) : Except CommandError Level :=
  if name = "base" then .ok .base
  else if name = "head" ∨ name = "heads" then .ok .head
  else if name ≠ "" ∧ name.toList.isPrefixOf revision.toList then .ok .head
  else .error (.unknownRevision name)

/-- A number of steps at the start of a text: as written and as a number. -/
def steps? (s : String) : Option (String × Int) :=
  match s.toList with
  | c :: rest =>
    if c = '+' ∨ c = '-' then
      match Numeral.digits rest with
      | ([], _) => none
      | (ds, _) =>
        let n : Int := Text.ofDigits 10 ds
        some (String.ofList (c :: rest.take ds.length), if c = '-' then -n else n)
    else none
  | [] => none

/-- The level that is a number of steps away. -/
def Level.walk? (l : Level) (steps : Int) : Option Level :=
  let place : Int := match l with
    | .base => steps
    | .head => steps + 1
  if place = 0 then some .base else if place = 1 then some .head else none

/-- The level that an upgrade is to reach. -/
def upgradeGoal (current : Level) (text : String) : Except CommandError Level :=
  match steps? text with
  | none => named text
  | some (given, n) =>
    if 0 < n then
      match current.walk? n with
      | some l => .ok l
      | none => .error (.tooFar given n.natAbs)
    else .error (.tooFar (toString n) n.natAbs)

/-- The level that a downgrade is to reach, which must not be above the current one. -/
def downgradeGoal (current : Level) (text : String) : Except CommandError Level :=
  match steps? text with
  | none => do
    let goal ← named text
    if goal = .head ∧ current = .base then .error (.notReached text) else return goal
  | some (given, n) =>
    match (if n < 0 then current.walk? n else none) with
    | some l => .ok l
    | none => .error (.tooFar given n.natAbs)

/-! ## Changing a file -/

/-- The file with a table of stamps. -/
def withStamps (f : DatabaseFile) : DatabaseFile :=
  { f with stamps := some (f.stamps.getD []) }

/-- What the revision does: the table of saved rules is added if it is not there. -/
def apply (f : DatabaseFile) : DatabaseFile :=
  let f := f.withRules columns
  { f with stamps := f.stamps.map (· ++ [revision]) }

/-- What taking the revision back does: the table of saved rules is dropped. -/
def revert (f : DatabaseFile) : DatabaseFile :=
  { f with rules := none, stamps := f.stamps.map (·.erase revision) }

/-- Whether a command names where to start from. -/
def isRange (text : String) : Bool :=
  text.toList.contains ':'

/-- Checks the configured address, as the service does when it starts. -/
def checkUrl (url : String) : Except Failure Unit :=
  match Engine.forUrl 0 url with
  | .ok _ => .ok ()
  | .error e => .error (.url e)

/-- Runs a command on a file, given which level it is to reach from the current one and what it does
when it goes from one level to the other. -/
def command (goal : Level → String → Except CommandError Level)
    (step : Level → Level → DatabaseFile → DatabaseFile) (f : DatabaseFile) (url text : String) :
    DatabaseFile × Except Failure Unit :=
  if isRange text then (f, .error (.command .rangeRefused))
  else match checkUrl url with
    | .error e => (f, .error e)
    | .ok () =>
      let f := withStamps f
      let current := levelOf (f.stamps.getD [])
      match goal current text with
      | .error e => (f, .error (.command e))
      | .ok reached => (step current reached f, .ok ())

/-- Brings a file up. -/
def upgrade : DatabaseFile → (url text : String) → DatabaseFile × Except Failure Unit :=
  command upgradeGoal fun current reached f =>
    if current = .base ∧ reached = .head then apply f else f

/-- Brings a file down. -/
def downgrade : DatabaseFile → (url text : String) → DatabaseFile × Except Failure Unit :=
  command downgradeGoal fun current reached f =>
    if current = .head ∧ reached = .base then revert f else f

/-! ## Writing down a script -/

/-- The statements that take the revision back. -/
def revertStatements : List String := [
  "-- Running downgrade " ++ revision ++ " -> ",
  "DROP TABLE " ++ DatabaseFile.rulesName ++ ";",
  "DELETE FROM " ++ DatabaseFile.stampsName ++ " WHERE " ++ DatabaseFile.stampsName ++
    ".version_num = '" ++ revision ++ "';"
]

/-- The statements of a script for a kind of database. A server gets them as one transaction. -/
def transaction (kind : DatabaseUrl.Kind) (statements : List String) : List String :=
  match kind with
  | .server => ["BEGIN;"] ++ statements ++ ["COMMIT;"]
  | .file => statements

/-- A script in writing. -/
def scriptText (statements : List String) : String :=
  String.join (statements.map (· ++ "\n\n"))

/-- Where a command is to start from and what it is to reach; without a start, from the base. -/
def range (text : String) : String × String :=
  if isRange text then
    (String.ofList (text.toList.takeWhile (· != ':')),
      String.ofList ((text.toList.dropWhile (· != ':')).drop 1))
  else ("base", text)

/-- The script of a command, given which level it is to reach and the statements that lead there. -/
def script (goal : Level → String → Except CommandError Level)
    (statements : Level → Level → Except Failure (List String)) (url text : String) :
    Except Failure String := do
  checkUrl url
  let (kind, _) ← (DatabaseUrl.serviceUrl url).mapError .url
  let (first, last) := range text
  let current ← (named first).mapError .command
  let reached ← (goal current last).mapError .command
  let body ← statements current reached
  return scriptText (transaction kind body)

/-- The script of an upgrade. What the revision adds depends on what is there, so it has no script.
-/
def upgradeScript : (url text : String) → Except Failure String :=
  script upgradeGoal fun current reached =>
    if current = .base ∧ reached = .head then .error .noInspection else .ok []

/-- The script of a downgrade, for which the start has to be given. -/
def downgradeScript (url text : String) : Except Failure String :=
  if isRange text then
    script downgradeGoal (fun current reached =>
      .ok (if current = .head ∧ reached = .base then revertStatements else [])) url text
  else .error (.command .rangeNeeded)

/-! ## Steps -/

/-- What can be done with a database file. -/
inductive Step
  | upgrade (url text : String)
  | downgrade (url text : String)
  | upgradeScript (url text : String)
  | downgradeScript (url text : String)
  | create
  | add (id : Option String) (d : Draft)
  | list

/-- What comes of a step. -/
inductive Result
  | done
  | created
  | script (text : String)
  | failed (e : Failure)
  | stored (r : StoreResult)
deriving DecidableEq

/-- The result of a command that works on the file. -/
def commandResult : Except Failure Unit → Result
  | .ok () => .done
  | .error e => .failed e

/-- The result of a command that writes down a script. -/
def scriptResult : Except Failure String → Result
  | .ok text => .script text
  | .error e => .failed e

/-- Takes a step. -/
def perform (f : DatabaseFile) (now : Timestamp) : Step → DatabaseFile × Result
  | .upgrade url text => (upgrade f url text).map id commandResult
  | .downgrade url text => (downgrade f url text).map id commandResult
  | .upgradeScript url text => (f, scriptResult (upgradeScript url text))
  | .downgradeScript url text => (f, scriptResult (downgradeScript url text))
  | .create => (f.create, .created)
  | .add id d =>
    match f.add now id d with
    | (f, result) => (f, .stored (Database.ruleResult result))
  | .list =>
    match f.list with
    | .ok rules => (f, .stored (.rules rules))
    | .error e => (f, .stored (.refused e))

end Rulebook.Migration
