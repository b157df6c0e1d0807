import Rulebook.Settings

/-!
# The database engine and the server

What the settings lead to when the service starts: an engine for the database, and the call that
starts the server. A database server gets a pool of connections, a file gets none.
-/

set_option autoImplicit false

namespace Rulebook

/-- How connections are kept. -/
inductive Pool
  | none
  | queue (size : Int)
deriving DecidableEq

/-- The engine for a database. -/
structure Engine where
  url : DatabaseUrl
  pool : Pool
deriving DecidableEq

/-- Why no engine can be made. -/
inductive EngineError
  | display (e : DisplayError)
  | url (e : UrlError)
deriving DecidableEq

namespace Engine

/-- The engine for the address that a service opens, with a pool of the given size for a server. -/
def forUrl (poolSize : Int) (url : String) : Except UrlError Engine := do
  let (kind, opened) ← DatabaseUrl.serviceUrl url
  match kind with
  | .server =>
    let parts ← DatabaseUrl.readAfter DatabaseUrl.serverForService opened
    return ⟨parts, .queue poolSize⟩
  | .file =>
    let parts ← DatabaseUrl.readAfter DatabaseUrl.fileForService opened
    if parts.namesServer then .error .misplacedServer else return ⟨parts, .none⟩

/-- The engine that settings lead to. -/
def ofSettings (s : Settings) : Except EngineError Engine := do
  let url ← s.effectiveUrl.mapError .display
  (forUrl s.poolSize url).mapError .url

end Engine

/-- What a server is started with: the application by its name, or the application itself. -/
inductive Application
  | named (name : String)
  | itself (title : String) (allowedOrigins : List Value)
deriving DecidableEq

/-- The call that starts the server. -/
structure Launch where
  application : Application
  host : String
  port : Int
  /-- Whether the server watches for changes, if the call says so. -/
  reload : Option Bool
deriving DecidableEq

namespace Launch

/-- The call of the program that starts the service. -/
def ofService (s : Settings) : Launch :=
  ⟨.named "rule_designer.main:app", s.host, s.port, some true⟩

/-- The call of the application itself, which makes its engine first. -/
def ofApplication (s : Settings) : Except EngineError Launch := do
  let _ ← Engine.ofSettings s
  return ⟨.itself "Rule Designer API" s.corsOrigins, s.host, s.port, none⟩

end Launch

end Rulebook
