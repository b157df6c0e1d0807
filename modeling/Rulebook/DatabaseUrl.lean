import Rulebook.Numeral
import Rulebook.Text.Percent
import Rulebook.Text.Quoted
import Rulebook.Text.Replace

/-!
# Database addresses

An address names a driver and, after `://`, whatever of these is there: a user with perhaps a
password, a host, a port, the name of a database, and options. `DatabaseUrl.read` takes an address
apart and `DatabaseUrl.text` writes it down again, escaping what needs it.

Two programs open the database of one configured address, with drivers of their own: the service
(`serviceUrl`) and the schema migrations (`migrationUrl`).
-/

set_option autoImplicit false

namespace Rulebook

/-- The parts of an address. -/
structure DatabaseUrl where
  driver : String
  user : Option String
  password : Option String
  host : Option String
  port : Option Int
  database : Option String
  query : List (String × String)
deriving DecidableEq

/-- Why an address cannot be used. -/
inductive UrlError
  | unsupportedScheme (url : String)
  | unreadablePort (port : String)
  | longPort (digits : Nat)
  | emptyPort
  /-- A database in a file has a user, a password, a host or a port. -/
  | misplacedServer
deriving DecidableEq

/-- The message about an address, where there is one. -/
def UrlError.message? : UrlError → Option String
  | .unsupportedScheme url => some ("Unsupported database URL scheme: " ++ url)
  | .unreadablePort port =>
    some ("invalid literal for int() with base 10: " ++
      String.ofList ((Text.quoted port).toList.take 200))
  | .longPort digits => some (Numeral.tooLongMessage digits)
  | .emptyPort => some "Port argument must be an integer or None"
  | .misplacedServer => none

namespace DatabaseUrl

/-! ## Taking an address apart -/

/-- The last part of a text that a character separates from what is before it. -/
def splitLast? (separator : Char) (s : List Char) : Option (List Char × List Char) :=
  match s.reverse.dropWhile (· != separator) with
  | _ :: before => some (before.reverse, (s.reverse.takeWhile (· != separator)).reverse)
  | [] => none

/-- What a character introduces at the start of a text, up to the first character that ends it. -/
def introduced? (start : Char) (ends : Char → Bool) (s : List Char) :
    Option (List Char) × List Char :=
  match s with
  | c :: rest =>
    if c = start then (some (rest.takeWhile (!ends ·)), rest.dropWhile (!ends ·)) else (none, s)
  | [] => (none, [])

/-- A user without a password, which ends at the last `@` before any `:` or `/`. -/
def userAlone (s : List Char) : Option (List Char) × Option (List Char) × List Char :=
  let stop (c : Char) : Bool := c == ':' || c == '/'
  match splitLast? '@' (s.takeWhile (!stop ·)) with
  | some (user, after) => (some user, none, after ++ s.dropWhile (!stop ·))
  | none => (none, none, s)

/-- The user and the password at the start of a text, and the rest. -/
def credentials (s : List Char) : Option (List Char) × Option (List Char) × List Char :=
  let stop (c : Char) : Bool := c == ':' || c == '/'
  match introduced? ':' (· == '@') (s.dropWhile (!stop ·)) with
  | (some password, _ :: rest) => (some (s.takeWhile (!stop ·)), some password, rest)
  | _ => userAlone s

/-- A host between brackets. -/
def bracketedHost? (s : List Char) : Option (List Char × List Char) :=
  let stop (c : Char) : Bool := c == '/' || c == '?'
  match s with
  | '[' :: inner =>
    match splitLast? ']' (inner.takeWhile (!stop ·)) with
    | some ([], _) => none
    | some (host, after) => some (host, after ++ inner.dropWhile (!stop ·))
    | none => none
  | _ => none

/-- The host at the start of a text, and the rest. -/
def hostPart (s : List Char) : Option (List Char) × List Char :=
  let stop (c : Char) : Bool := c == '/' || c == ':' || c == '?'
  match bracketedHost? s with
  | some (host, rest) => (some host, rest)
  | none =>
    match s.takeWhile (!stop ·) with
    | [] => (none, s)
    | host => (some host, s.dropWhile (!stop ·))

/-- An option's name or value, in which a plus sign stands for a space. -/
def optionPart (s : List Char) : String :=
  String.ofList (Text.percentDecoded (s.map fun c => if c = '+' then ' ' else c))

/-- An option; without a value it is none. -/
def option? (s : List Char) : Option (String × String) :=
  match s.dropWhile (· != '=') with
  | _ :: value =>
    if value.isEmpty then none else some (optionPart (s.takeWhile (· != '=')), optionPart value)
  | [] => none

/-- The options in the last part of an address. -/
def options (s : List Char) : List (String × String) :=
  (s.splitOn '&').filterMap option?

/-- The most digits that a port may have. -/
def portDigitLimit : Nat := 4300

/-- The port that a text denotes. -/
def readPort (s : List Char) : Except UrlError Int :=
  if s.isEmpty then .error .emptyPort
  else match Numeral.integer? s with
    | some n =>
      let digits := s.countP Text.isDigit
      if portDigitLimit < digits then .error (.longPort digits) else .ok n
    | none => .error (.unreadablePort (String.ofList s))

/-- The address with a driver and the given text after `://`. Text that fits nowhere is ignored. -/
def read (driver : String) (s : List Char) : Except UrlError DatabaseUrl := do
  let (user, password, s) := credentials s
  let (host, s) := hostPart s
  let (port, s) := introduced? ':' (fun c => c == '/' || c == '?') s
  let (database, s) := introduced? '/' (· == '?') s
  let (query, _) := introduced? '?' (· == '\n') s
  let port ← match port with
    | some p => (readPort p).map some
    | none => .ok none
  let decoded (part : List Char) : String := String.ofList (Text.percentDecoded part)
  return {
    driver
    user := user.map decoded
    password := password.map decoded
    host := host.map String.ofList
    port
    database := database.map String.ofList
    query := (query.map options).getD [] }

/-! ## Writing an address -/

/-- A user or a password in an address. -/
def credentialText (s : String) : String :=
  String.ofList (Text.percentEncoded [' ', '+'] s.toList)

/-- The name or the value of an option in an address. -/
def optionText (s : String) : String :=
  String.ofList ((Text.percentEncoded [' '] s.toList).map fun c => if c = ' ' then '+' else c)

/-- The options of an address in the order of their names. -/
def queryText (query : List (String × String)) : String :=
  if query.isEmpty then ""
  else
    let sorted := query.mergeSort fun a b => !(b.1 < a.1)
    "?" ++ String.intercalate "&" (sorted.map fun p => optionText p.1 ++ "=" ++ optionText p.2)

/-- The credentials in an address. A password alone is not written. -/
def credentialsText (u : DatabaseUrl) : String :=
  match u.user, u.password with
  | some user, some password => credentialText user ++ ":" ++ credentialText password ++ "@"
  | some user, none => credentialText user ++ "@"
  | none, _ => ""

/-- The host in an address. -/
def hostText (host : Option String) : String :=
  match host with
  | some h => if h.toList.contains ':' then "[" ++ h ++ "]" else h
  | none => ""

/-- An address in writing. -/
def text (u : DatabaseUrl) : String :=
  u.driver ++ "://" ++ u.credentialsText ++ hostText u.host ++
    (match u.port with | some n => ":" ++ toString n | none => "") ++
    (match u.database with | some d => "/" ++ d | none => "") ++ queryText u.query

/-- Whether an address names a server or someone to log in there. -/
def namesServer (u : DatabaseUrl) : Bool :=
  let filled (s : Option String) : Bool := s.getD "" != ""
  filled u.user || filled u.password || filled u.host || u.port.getD 0 != 0

/-! ## Drivers -/

/-- What an address for a database server starts with. -/
def server : List Char := "postgresql://".toList

/-- The same with the service's driver. -/
def serverForService : List Char := "postgresql+asyncpg://".toList

/-- The same with the migrations' driver. -/
def serverForMigration : List Char := "postgresql+psycopg://".toList

/-- What an address for a database file starts with. -/
def file : List Char := "sqlite://".toList

/-- The same with the service's driver. -/
def fileForService : List Char := "sqlite+aiosqlite://".toList

/-- The address in a text that starts with a driver and `://`. -/
def readAfter (start : List Char) (url : String) : Except UrlError DatabaseUrl :=
  read (String.ofList (start.takeWhile (· != ':'))) (url.toList.drop start.length)

/-- The kinds of databases. -/
inductive Kind
  | server
  | file
deriving DecidableEq

/-- The address that the service opens for a configured one. -/
def serviceUrl (url : String) : Except UrlError (Kind × String) :=
  let s := url.toList
  if server.isPrefixOf s then
    .ok (.server, String.ofList (Text.replaced server serverForService s))
  else if serverForService.isPrefixOf s then .ok (.server, url)
  else match Text.swapStart? file fileForService s with
    | some t => .ok (.file, String.ofList t)
    | none =>
      if fileForService.isPrefixOf s then .ok (.file, url) else .error (.unsupportedScheme url)

/-- The address that the schema migrations open for a configured one. -/
def migrationUrl (url : String) : String :=
  let s := url.toList
  if serverForService.isPrefixOf s then
    String.ofList (Text.replaced serverForService serverForMigration s)
  else String.ofList ((Text.swapStart? fileForService file s).getD s)

end DatabaseUrl

end Rulebook
