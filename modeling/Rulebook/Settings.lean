import Rulebook.DatabaseUrl
import Rulebook.Display
import Rulebook.Fault
import Rulebook.Json.Reader

/-!
# Settings

What can be configured, where it is read from, and which database it leads to. A setting comes from
the arguments if it is given there, otherwise from the environment, where the case of names does not
count and of several spellings the last one wins, and otherwise it has its default. All faults are
reported, in the order of the settings.

From the environment everything arrives as text. `Settings.integerOfText` is the grammar of whole
numbers there, and the list of allowed origins may be written as JSON or with commas.
-/

set_option autoImplicit false

namespace Rulebook

/-- The configuration of the service. -/
structure Settings where
  host : String
  port : Int
  corsOrigins : List Value
  logLevel : String
  databaseUrl : String
  postgresHost : Option String
  postgresPort : Int
  postgresUser : String
  postgresPassword : String
  postgresDatabase : String
  poolSize : Int
  poolOverflow : Int
  drlFileName : String
deriving DecidableEq

namespace Settings

/-! ## Whole numbers as text -/

/-- Whether a character may stand around a number. Information separators may not. -/
def isMargin (c : Char) : Bool :=
  Text.isBlank c && !(0x1C ≤ c.toNat && c.toNat ≤ 0x1F)

/-- A text without what may stand around a number. -/
def withoutMargin (s : List Char) : List Char :=
  ((s.dropWhile isMargin).reverse.dropWhile isMargin).reverse

/-- A text without a plus sign at its start, which no minus sign may follow. -/
def withoutPlus? : List Char → Option (List Char)
  | '+' :: '-' :: _ => none
  | '+' :: rest => some rest
  | s => some s

/-- Whether a character is an ASCII digit. -/
def isPlainDigit (c : Char) : Bool :=
  '0' ≤ c && c ≤ '9'

/-- What is left after zeros and underscores at the start, of which `last` is the one before. -/
def afterZeros? (last : Char) : List Char → Option (List Char)
  | [] => some [last]
  | c :: rest =>
    if c = '0' ∨ c = '_' then afterZeros? c rest
    else if isPlainDigit c then some (c :: rest)
    else if c = '.' then some (last :: c :: rest)
    else none

/-- A text that starts like a number, without needless zeros in front. A number below zero keeps
its zeros. -/
def withoutZeros? : List Char → Option (List Char)
  | '0' :: rest => afterZeros? '0' rest
  | c :: rest => if isPlainDigit c || c == '-' then some (c :: rest) else none
  | [] => none

/-- A text without a point and the zeros after it at the end. -/
def withoutFraction (s : List Char) : List Char :=
  match s.dropWhile (· != '.') with
  | _ :: places => if places.all (· == '0') then s.takeWhile (· != '.') else s
  | [] => s

/-- Whether two underscores stand side by side. -/
def hasDoubleUnderscore : List Char → Bool
  | '_' :: '_' :: _ => true
  | _ :: rest => hasDoubleUnderscore rest
  | [] => false

/-- A text without the underscores that group its digits. -/
def withoutGrouping (s : List Char) : List Char :=
  if s.head? = some '_' ∨ s.getLast? = some '_' ∨ hasDoubleUnderscore s then s
  else s.filter (· != '_')

/-- The whole number that is written as digits without needless zeros, with a minus sign perhaps. -/
def plainInteger? (s : List Char) : Option Int :=
  let (negative, body) := match s with
    | '-' :: rest => (true, rest)
    | _ => (false, s)
  match body.mapM (Text.radixDigit? 10) with
  | none => none
  | some [] => none
  | some (d :: ds) =>
    if d = 0 ∧ ds ≠ [] then none
    else
      let n : Int := Text.ofDigits 10 (d :: ds)
      some (if negative then -n else n)

/-- The longest text, in bytes, that is read as a number. -/
def longestNumber : Nat := 4300

/-- The whole number that a text denotes. It may have a plus sign, zeros in front, digits grouped by
underscores, and a point with nothing but zeros after it. -/
def integerOfText (s : String) : Except FaultKind Int :=
  let body := withoutMargin s.toList
  if longestNumber < (String.ofList body).utf8ByteSize then .error .integerTooLarge
  else
    let cleaned := (withoutPlus? body).bind fun t =>
      (withoutZeros? t).map fun u => withoutGrouping (withoutFraction u)
    match cleaned.bind plainInteger? with
    | some n => .ok n
    | none => .error .unreadableInteger

/-! ## Reading single settings -/

/-- The whole number that a double stands for. -/
def integerOfDouble (d : Double) : Except FaultKind Int :=
  if d.isExceptional then .error .notFinite
  else match d.toInt? with
    | none => .error .fractionalInteger
    | some n =>
      if -0x8000000000000000 < n ∧ n < 0x8000000000000000 then .ok n
      else .error .integerTooLarge

/-- The whole number that a value stands for. -/
def asInteger (v : Value) : Checked Int :=
  let read : Except FaultKind Int := match v with
    | .int n => .ok n
    | .bool b => .ok (if b then 1 else 0)
    | .double d => integerOfDouble d
    | .text s => integerOfText s
    | _ => .error .notInteger
  match read with
  | .ok n => .ok n
  | .error kind => Checked.fail kind v

/-- The origins that are allowed by default. -/
def defaultOrigins : List Value :=
  [.text "http://localhost:3000"]

/-- The items of a text with commas between them, without the blanks around them; blank items do not
count. -/
def separated (s : String) : List Value :=
  ((s.toList.splitOn ',').map Text.trim).filterMap fun item =>
    if item.isEmpty then none else some (.text (String.ofList item))

/-- Whether a text is in square brackets. -/
def isBracketed (s : String) : Bool :=
  s.toList.head? == some '[' && s.toList.getLast? == some ']'

/-- The allowed origins. A text in brackets is read as JSON if it is that; any other text is a list
with commas. What is neither a text nor a list counts as nothing given. -/
def asOrigins (v : Value) : Checked (List Value) :=
  match v with
  | .list items => .ok items
  | .text s =>
    if isBracketed s then
      match Json.read s with
      | .ok (.list items) => .ok items
      | .error ⟨.tooManyDigits digits, _⟩ =>
        Checked.fail (.rejected (Numeral.tooLongMessage digits)) v
      | _ => .ok (separated s)
    else .ok (separated s)
  | _ => .ok defaultOrigins

/-! ## Reading all settings -/

/-- Where settings are read from. -/
structure Source where
  environment : List (String × String)
  arguments : Members

/-- Whether two names are the same but for the case of ASCII letters. -/
def sameName (a b : String) : Bool :=
  a.toList.map Char.toLower == b.toList.map Char.toLower

/-- What is given for a setting. -/
def Source.find? (s : Source) (name : String) : Option Value :=
  match s.arguments.get? name with
  | some v => some v
  | none => (s.environment.reverse.find? fun p => sameName p.1 name).map fun p => .text p.2

/-- A setting, with a default. -/
def Source.setting {α : Type} (s : Source) (name : String) (default : α)
    (check : Value → Checked α) : Checked α :=
  match s.find? name with
  | some v => Checked.under (.key name) (check v)
  | none => .ok default

/-- The names of all settings. -/
def names : List String :=
  ["HOST", "PORT", "CORS_ORIGINS", "LOG_LEVEL", "DATABASE_URL", "POSTGRES_HOST", "POSTGRES_PORT",
   "POSTGRES_USER", "POSTGRES_PASSWORD", "POSTGRES_DB", "DB_POOL_SIZE", "DB_MAX_OVERFLOW",
   "DRL_FILENAME"]

/-- Fails for every argument that is no setting. -/
def Source.noOthers (s : Source) : Checked Unit :=
  match s.arguments.without names with
  | [] => .ok ()
  | others => .error (others.map fun m => ⟨[.key m.1], .unexpected, m.2⟩)

/-- Reads the settings. -/
def read (s : Source) : Checked Settings :=
  let all := Checked.ap (.ok Settings.mk) (s.setting "HOST" "0.0.0.0" Value.asText)
    |>.ap (s.setting "PORT" 8000 asInteger)
    |>.ap (s.setting "CORS_ORIGINS" defaultOrigins asOrigins)
    |>.ap (s.setting "LOG_LEVEL" "INFO" Value.asText)
    |>.ap (s.setting "DATABASE_URL" "sqlite:///./rule_designer.db" Value.asText)
    |>.ap (s.setting "POSTGRES_HOST" none Value.asOptionalText)
    |>.ap (s.setting "POSTGRES_PORT" 5432 asInteger)
    |>.ap (s.setting "POSTGRES_USER" "postgres" Value.asText)
    |>.ap (s.setting "POSTGRES_PASSWORD" "postgres" Value.asText)
    |>.ap (s.setting "POSTGRES_DB" "rule_designer" Value.asText)
    |>.ap (s.setting "DB_POOL_SIZE" 10 asInteger)
    |>.ap (s.setting "DB_MAX_OVERFLOW" 20 asInteger)
    |>.ap (s.setting "DRL_FILENAME" "rule.drl" Value.asText)
  (Checked.both all s.noOthers).map (·.1)

/-! ## What the settings say -/

/-- All settings by name. -/
def toMembers (s : Settings) : Members :=
  [("HOST", .text s.host), ("PORT", .int s.port), ("CORS_ORIGINS", .list s.corsOrigins),
   ("LOG_LEVEL", .text s.logLevel), ("DATABASE_URL", .text s.databaseUrl),
   ("POSTGRES_HOST", (s.postgresHost.map Value.text).getD .null),
   ("POSTGRES_PORT", .int s.postgresPort), ("POSTGRES_USER", .text s.postgresUser),
   ("POSTGRES_PASSWORD", .text s.postgresPassword), ("POSTGRES_DB", .text s.postgresDatabase),
   ("DB_POOL_SIZE", .int s.poolSize), ("DB_MAX_OVERFLOW", .int s.poolOverflow),
   ("DRL_FILENAME", .text s.drlFileName)]

/-- The address of the database: that of the server if its host is given, otherwise the one that is
set. -/
def effectiveUrl (s : Settings) : Except DisplayError String :=
  match s.postgresHost with
  | some host =>
    if host = "" then .ok s.databaseUrl
    else do
      let port ← displayInt s.postgresPort
      return "postgresql+asyncpg://" ++ s.postgresUser ++ ":" ++ s.postgresPassword ++ "@" ++
        host ++ ":" ++ port ++ "/" ++ s.postgresDatabase
  | none => .ok s.databaseUrl

end Settings

end Rulebook
