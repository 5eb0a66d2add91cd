import TechCatalog.Request.Scalar

/-!
# Settings

The settings of the service, each with a value of its own that counts unless another is given. They
are read from two sources: explicit values, and variables of the environment, which hold text. An
explicit value wins; explicit values that are no settings are faults, and variables that are none
are ignored.
-/

namespace TechCatalog.Service

open Request

/-- The settings of the service. -/
structure Settings where
  /-- The environment the service runs in. -/
  env : String := "dev"
  /-- What every path begins with. -/
  apiPrefix : String := "/api"
  /-- Where the store is. -/
  databaseUrl : String := "sqlite:///./data/builtwith.db"
  /-- Where the queue of tasks is. -/
  redisUrl : String := "redis://localhost:6379/0"
  /-- The size of a page unless another is asked for. -/
  defaultPageSize : Int := 25
  /-- The greatest size of a page. -/
  maxPageSize : Int := 100
  /-- The length of a list of options unless another is asked for. -/
  optionsDefaultLimit : Int := 50
  /-- The origins that may call the service from a browser. -/
  frontendOrigin : Option String := none
  /-- Whether any origin may call the service. -/
  corsAllowAllOrigins : Bool := false
  deriving DecidableEq, Repr

/-- The names of the settings, in order. -/
def Settings.names : List String :=
  ["ENV", "API_PREFIX", "DATABASE_URL", "REDIS_URL", "DEFAULT_PAGE_SIZE", "MAX_PAGE_SIZE",
    "OPTIONS_DEFAULT_LIMIT", "FRONTEND_ORIGIN", "CORS_ALLOW_ALL_ORIGINS"]

/-- The faults of explicit values that are no settings. -/
def unknownSettings (given : Json.Members) : List Fault :=
  (given.filter fun m => !Settings.names.contains m.1).map fun m => ⟨.unknownMember, [.key m.1]⟩

/-- Reads settings from explicit values and from variables of the environment. -/
def Settings.read (environment given : Json.Members) : Checked Settings :=
  let known := given ++ environment
  let text (name absent : String) := (Key.only name).optional absent readText known
  let number (name : String) (absent : Int) := (Key.only name).optional absent readInteger known
  let settings := (((((((((text "ENV" "dev").map Settings.mk).both
    (text "API_PREFIX" "/api")).both
    (text "DATABASE_URL" "sqlite:///./data/builtwith.db")).both
    (text "REDIS_URL" "redis://localhost:6379/0")).both
    (number "DEFAULT_PAGE_SIZE" 25)).both
    (number "MAX_PAGE_SIZE" 100)).both
    (number "OPTIONS_DEFAULT_LIMIT" 50)).both
    ((Key.only "FRONTEND_ORIGIN").optional none (nullable readText) known)).both
    ((Key.only "CORS_ALLOW_ALL_ORIGINS").optional false readBool known)
  match unknownSettings given, settings with
  | [], settings => settings
  | unknown, .accept _ => .reject unknown
  | unknown, .reject faults => .reject (faults ++ unknown)

/-- Writes settings. -/
def Settings.dump (s : Settings) : Json :=
  .obj [("ENV", .str s.env), ("API_PREFIX", .str s.apiPrefix),
    ("DATABASE_URL", .str s.databaseUrl), ("REDIS_URL", .str s.redisUrl),
    ("DEFAULT_PAGE_SIZE", .int s.defaultPageSize), ("MAX_PAGE_SIZE", .int s.maxPageSize),
    ("OPTIONS_DEFAULT_LIMIT", .int s.optionsDefaultLimit),
    ("FRONTEND_ORIGIN", .ofText? s.frontendOrigin),
    ("CORS_ALLOW_ALL_ORIGINS", .bool s.corsAllowAllOrigins)]

/-- Whether the address of a store names a file that is opened by one thread; it is then opened for
all. -/
def opensForAllThreads (url : String) : Bool :=
  "sqlite".toList.isPrefixOf url.toList

end TechCatalog.Service
