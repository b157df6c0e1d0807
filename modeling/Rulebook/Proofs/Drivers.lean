import Mathlib.Data.List.Infix
import Rulebook.DatabaseUrl

/-!
# One database under two drivers

The service and the schema migrations open the configured database with drivers of their own. Each
gives the address another start, and all that follows the start should stay as it is, or the two
would work on different databases. The start of an address for a file is replaced in its place. The
start of an address for a server is replaced wherever it occurs, so the rest of the address stays
as it is exactly if the start does not occur in it again (`DatabaseUrl.drivers_differ_iff`).
-/

set_option autoImplicit false

namespace Rulebook

/-! ## Replacing parts -/

namespace Text

theorem replacedAfter_length (old new front rest : List Char) :
    replacedAfter old new front.length (front ++ rest) = replaced old new rest := by
  induction front with
  | nil => rfl
  | cons c front ih => simpa [replacedAfter] using ih

/-- A part at the start of a text is replaced, and so are those in the rest. -/
theorem replaced_append {old : List Char} (hold : old ≠ []) (new rest : List Char) :
    replaced old new (old ++ rest) = new ++ replaced old new rest := by
  cases old with
  | nil => exact absurd rfl hold
  | cons c old =>
    have hstart : (c :: old).isPrefixOf (c :: (old ++ rest)) = true := by
      rw [List.isPrefixOf_iff_prefix]
      exact List.prefix_append (c :: old) rest
    rw [replaced, List.cons_append, replacedAfter, if_pos hstart]
    exact congrArg (new ++ ·) (replacedAfter_length (c :: old) new old rest)

theorem replaced_cons {old s : List Char} {c : Char} (h : ¬ old <+: c :: s) (new : List Char) :
    replaced old new (c :: s) = c :: replaced old new s := by
  have hstart : ¬ old.isPrefixOf (c :: s) = true := by
    rwa [List.isPrefixOf_iff_prefix]
  rw [replaced, replacedAfter, if_neg hstart]
  rfl

/-- Replacing one part by another, of which neither starts with the other, leaves just those texts
as they are in which the part does not occur. -/
theorem replaced_eq_self_iff {old new : List Char} (hold : old ≠ [])
    (hdiffer : ∀ a b, new ++ a ≠ old ++ b) (s : List Char) :
    replaced old new s = s ↔ ¬ old <:+: s := by
  induction s with
  | nil => simpa [replaced, replacedAfter] using hold
  | cons c s ih =>
    rw [List.infix_cons_iff, not_or]
    by_cases hstart : old <+: c :: s
    · obtain ⟨rest, hrest⟩ := hstart
      rw [← hrest, replaced_append hold]
      constructor
      · intro h
        exact absurd h (hdiffer _ _)
      · intro h
        exact absurd (List.prefix_append old rest) h.1
    · rw [replaced_cons hstart, List.cons.injEq, ih]
      simp [hstart]

/-! ## Starts of texts -/

theorem isPrefixOf_append (start s : List Char) : start.isPrefixOf (start ++ s) = true := by
  rw [List.isPrefixOf_iff_prefix]
  exact List.prefix_append start s

/-- A text that starts in one way does not start in another, unless one of the two starts with the
other. -/
theorem not_isPrefixOf_append {start other : List Char} (h : ¬ start <+: other ∧ ¬ other <+: start)
    (s : List Char) : ¬ start.isPrefixOf (other ++ s) = true := by
  rw [List.isPrefixOf_iff_prefix]
  intro hstart
  rcases List.prefix_or_prefix_of_prefix hstart (List.prefix_append other s) with hfirst | hfirst
  · exact h.1 hfirst
  · exact h.2 hfirst

theorem swapStart?_append (old new s : List Char) :
    swapStart? old new (old ++ s) = some (new ++ s) := by
  simp [swapStart?, afterStart?, isPrefixOf_append]

theorem swapStart?_eq_none {old s : List Char} (h : ¬ old.isPrefixOf s = true) (new : List Char) :
    swapStart? old new s = none := by
  rw [swapStart?, afterStart?, if_neg h, Option.map_none]

end Text

/-! ## Addresses by their starts -/

namespace DatabaseUrl

/-- The ways in which a configured address may start. -/
inductive Scheme
  | server
  | serverForService
  | file
  | fileForService
deriving DecidableEq

namespace Scheme

/-- The kind of database that an address is for. -/
def kind : Scheme → Kind
  | .server | .serverForService => .server
  | .file | .fileForService => .file

/-- What stands before `://` in the configured address. -/
def configured : Scheme → String
  | .server => "postgresql"
  | .serverForService => "postgresql+asyncpg"
  | .file => "sqlite"
  | .fileForService => "sqlite+aiosqlite"

/-- What the service has in its place. -/
def service : Scheme → String
  | .server | .serverForService => "postgresql+asyncpg"
  | .file | .fileForService => "sqlite+aiosqlite"

/-- What the migrations have in its place. The short names stand for drivers that they can use. -/
def migration : Scheme → String
  | .server => "postgresql"
  | .serverForService => "postgresql+psycopg"
  | .file | .fileForService => "sqlite"

end Scheme

/-- An address by what stands before and after `://`. -/
def address (scheme rest : String) : String :=
  scheme ++ "://" ++ rest

theorem toList_address (scheme rest : String) :
    (address scheme rest).toList = (scheme ++ "://").toList ++ rest.toList := by
  simp [address]

theorem address_eq_ofList (scheme rest : String) :
    address scheme rest = String.ofList ((scheme ++ "://").toList ++ rest.toList) := by
  rw [← toList_address, String.ofList_toList]

/-- A text after the start of an address is the rest of it. -/
theorem ofList_append_eq_address_iff {start s : List Char} {scheme rest : String}
    (hstart : start = (scheme ++ "://").toList) :
    String.ofList (start ++ s) = address scheme rest ↔ s = rest.toList := by
  rw [address_eq_ofList, hstart, String.ofList_inj, List.append_cancel_left_eq]

/-- Where the start of an address is replaced throughout, the address is the same under the new
start exactly if the old one does not occur in the rest. -/
theorem ofList_append_replaced_eq_address_iff {old : List Char} (new : List Char)
    (scheme : String) (hnew : new = (scheme ++ "://").toList) (hold : old ≠ [])
    (hapart : ¬ old <+: new ∧ ¬ new <+: old) (rest : String) :
    String.ofList (new ++ Text.replaced old new rest.toList) = address scheme rest ↔
      ¬ old <:+: rest.toList := by
  have hdiffer : ∀ a b, new ++ a ≠ old ++ b := by
    intro a b h
    apply Text.not_isPrefixOf_append hapart a
    rw [h]
    exact Text.isPrefixOf_append old b
  rw [ofList_append_eq_address_iff hnew]
  exact Text.replaced_eq_self_iff hold hdiffer rest.toList

/-! ## What the service opens -/

theorem serviceUrl_server (rest : String) :
    serviceUrl (address "postgresql" rest) =
      .ok (.server, String.ofList (serverForService ++
        Text.replaced server serverForService rest.toList)) := by
  have hurl : (address "postgresql" rest).toList = server ++ rest.toList :=
    toList_address "postgresql" rest
  rw [serviceUrl, hurl, if_pos (Text.isPrefixOf_append server rest.toList),
    Text.replaced_append (by decide)]

theorem serviceUrl_serverForService (rest : String) :
    serviceUrl (address "postgresql+asyncpg" rest) =
      .ok (.server, address "postgresql+asyncpg" rest) := by
  have hurl : (address "postgresql+asyncpg" rest).toList = serverForService ++ rest.toList :=
    toList_address "postgresql+asyncpg" rest
  rw [serviceUrl, hurl, if_neg (Text.not_isPrefixOf_append (by decide) rest.toList),
    if_pos (Text.isPrefixOf_append serverForService rest.toList)]

theorem serviceUrl_file (rest : String) :
    serviceUrl (address "sqlite" rest) = .ok (.file, address "sqlite+aiosqlite" rest) := by
  have hurl : (address "sqlite" rest).toList = file ++ rest.toList :=
    toList_address "sqlite" rest
  have hswapped : address "sqlite+aiosqlite" rest = String.ofList (fileForService ++ rest.toList) :=
    address_eq_ofList "sqlite+aiosqlite" rest
  rw [serviceUrl, hurl, if_neg (Text.not_isPrefixOf_append (by decide) rest.toList),
    if_neg (Text.not_isPrefixOf_append (by decide) rest.toList), Text.swapStart?_append, hswapped]

theorem serviceUrl_fileForService (rest : String) :
    serviceUrl (address "sqlite+aiosqlite" rest) =
      .ok (.file, address "sqlite+aiosqlite" rest) := by
  have hurl : (address "sqlite+aiosqlite" rest).toList = fileForService ++ rest.toList :=
    toList_address "sqlite+aiosqlite" rest
  have hstart : ¬ file.isPrefixOf (fileForService ++ rest.toList) = true :=
    Text.not_isPrefixOf_append (by decide) rest.toList
  rw [serviceUrl, hurl, if_neg (Text.not_isPrefixOf_append (by decide) rest.toList),
    if_neg (Text.not_isPrefixOf_append (by decide) rest.toList), Text.swapStart?_eq_none hstart]
  exact if_pos (Text.isPrefixOf_append fileForService rest.toList)

/-! ## What the migrations open -/

theorem migrationUrl_serverForService (rest : String) :
    migrationUrl (address "postgresql+asyncpg" rest) =
      String.ofList (serverForMigration ++
        Text.replaced serverForService serverForMigration rest.toList) := by
  have hurl : (address "postgresql+asyncpg" rest).toList = serverForService ++ rest.toList :=
    toList_address "postgresql+asyncpg" rest
  rw [migrationUrl, hurl, if_pos (Text.isPrefixOf_append serverForService rest.toList),
    Text.replaced_append (by decide)]

theorem migrationUrl_fileForService (rest : String) :
    migrationUrl (address "sqlite+aiosqlite" rest) = address "sqlite" rest := by
  have hurl : (address "sqlite+aiosqlite" rest).toList = fileForService ++ rest.toList :=
    toList_address "sqlite+aiosqlite" rest
  have hswapped : address "sqlite" rest = String.ofList (file ++ rest.toList) :=
    address_eq_ofList "sqlite" rest
  rw [migrationUrl, hurl, if_neg (Text.not_isPrefixOf_append (by decide) rest.toList),
    Text.swapStart?_append, hswapped, Option.getD_some]

/-- An address whose driver is not the service's own stays as it is. -/
theorem migrationUrl_of_apart (scheme : String)
    (hserver : ¬ serverForService <+: (scheme ++ "://").toList ∧
      ¬ (scheme ++ "://").toList <+: serverForService)
    (hfile : ¬ fileForService <+: (scheme ++ "://").toList ∧
      ¬ (scheme ++ "://").toList <+: fileForService) (rest : String) :
    migrationUrl (address scheme rest) = address scheme rest := by
  rw [migrationUrl, toList_address, if_neg (Text.not_isPrefixOf_append hserver rest.toList),
    Text.swapStart?_eq_none (Text.not_isPrefixOf_append hfile rest.toList), Option.getD_none,
    ← toList_address, String.ofList_toList]

/-! ## The rest of the address -/

/-- **The service and the migrations open the configured address with nothing but another driver,
unless the start that is replaced occurs again after `://`.** The rest of an address for a file
always stays as it is. For a server the service rewrites the addresses without its driver, and the
migrations those with it. -/
theorem drivers_differ_iff (scheme : Scheme) (rest : String) :
    (serviceUrl (address scheme.configured rest) =
        .ok (scheme.kind, address scheme.service rest) ↔
      ¬ (scheme = .server ∧ "postgresql://".toList <:+: rest.toList)) ∧
    (migrationUrl (address scheme.configured rest) = address scheme.migration rest ↔
      ¬ (scheme = .serverForService ∧ "postgresql+asyncpg://".toList <:+: rest.toList)) := by
  cases scheme with
  | server =>
    constructor
    · show serviceUrl (address "postgresql" rest) = .ok (.server, _) ↔ _
      rw [serviceUrl_server, Except.ok.injEq, Prod.mk.injEq, and_iff_right rfl, and_iff_right rfl]
      exact ofList_append_replaced_eq_address_iff serverForService "postgresql+asyncpg" rfl
        (by decide) (by decide) rest
    · apply iff_of_true
      · exact migrationUrl_of_apart "postgresql" (by decide) (by decide) rest
      · exact fun hagain => absurd hagain.1 (by decide)
  | serverForService =>
    constructor
    · apply iff_of_true
      · exact serviceUrl_serverForService rest
      · exact fun hagain => absurd hagain.1 (by decide)
    · show migrationUrl (address "postgresql+asyncpg" rest) = _ ↔ _
      rw [migrationUrl_serverForService, and_iff_right rfl]
      exact ofList_append_replaced_eq_address_iff serverForMigration "postgresql+psycopg" rfl
        (by decide) (by decide) rest
  | file =>
    constructor
    · apply iff_of_true
      · exact serviceUrl_file rest
      · exact fun hagain => absurd hagain.1 (by decide)
    · apply iff_of_true
      · exact migrationUrl_of_apart "sqlite" (by decide) (by decide) rest
      · exact fun hagain => absurd hagain.1 (by decide)
  | fileForService =>
    constructor
    · apply iff_of_true
      · exact serviceUrl_fileForService rest
      · exact fun hagain => absurd hagain.1 (by decide)
    · apply iff_of_true
      · exact migrationUrl_fileForService rest
      · exact fun hagain => absurd hagain.1 (by decide)

/-- **An address may hold its own start a second time,** here in an option, and then that is
replaced as well: the service opens a database with another option than the configured one. -/
theorem service_replaces_option :
    serviceUrl (address "postgresql" "db/rules?application_name=postgresql://rules") =
        .ok (.server,
          address "postgresql+asyncpg" "db/rules?application_name=postgresql+asyncpg://rules") ∧
      ¬ ∀ (scheme : Scheme) (rest : String),
        serviceUrl (address scheme.configured rest) =
            .ok (scheme.kind, address scheme.service rest) ∧
          migrationUrl (address scheme.configured rest) = address scheme.migration rest := by
  have hopened : serviceUrl (address "postgresql" "db/rules?application_name=postgresql://rules") =
      .ok (.server,
        address "postgresql+asyncpg" "db/rules?application_name=postgresql+asyncpg://rules") := by
    decide
  refine ⟨hopened, fun h => ?_⟩
  have hkept := (h .server "db/rules?application_name=postgresql://rules").1
  have hsame := hopened.symm.trans hkept
  exact absurd hsame (by decide)

end DatabaseUrl

end Rulebook
