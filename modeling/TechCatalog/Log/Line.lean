import TechCatalog.Json.Writer
import TechCatalog.Log.Record
import TechCatalog.Text.Quoted

/-!
# Log lines

Every record is written as one document on a line of its own: when, at what level and by whom it was
logged, the message, the name of the service, the structured fields that were attached to it, and
what is known of the error it is about. Fields that are not structured fields are left out.
-/

namespace TechCatalog.Log

/-- The structured fields, in the order in which they are written. -/
def structuredFields : List String :=
  ["request_id", "phase", "step", "total_count", "page_size", "domains_processed"]

/-- The names of the levels by their numbers. -/
def levelNames : List (Int × String) :=
  [(0, "NOTSET"), (10, "DEBUG"), (20, "INFO"), (30, "WARNING"), (40, "ERROR"), (50, "CRITICAL")]

/-- The name of a level. -/
def levelName (n : Int) : String :=
  (levelNames.lookup n).getD ("Level " ++ toString n)

/-- The number of a level. -/
def Level.number : Level → Int
  | .debug => 10
  | .info => 20
  | .warning => 30
  | .error => 40

/-- The name of the service in log lines. -/
def serviceName : String := "domain_search"

/-- An error that a line reports. -/
structure Report where
  /-- The class of the error. -/
  kind : String
  /-- What is said of it. -/
  text : String
  /-- Where it arose, the outermost place first. -/
  places : List String := []
  deriving DecidableEq, Repr

/-- What the report of an error begins with. -/
def reportHead : String := "Traceback (most recent call last):"

/-- What the report of an error ends with. The text of a missing key is shown in quotes. -/
def Report.last (r : Report) : String :=
  let text := if r.kind = "KeyError" then Text.quoted r.text else r.text
  if text = "" then r.kind else r.kind ++ ": " ++ text

/-- The report of an error. -/
def Report.write (r : Report) : String :=
  "\n".intercalate (reportHead :: r.places ++ [r.last])

/-- What a log line is made of. -/
structure Line where
  /-- When it was logged. -/
  timestamp : String
  /-- The number of the level. -/
  level : Int
  /-- Who logged it. -/
  logger : String
  message : String
  /-- What was attached to it. -/
  extra : Json.Members := []
  /-- The report of the error it is about. -/
  report : Option String := none

/-- The structured fields among what is attached. -/
def structured (extra : Json.Members) : Json.Members :=
  structuredFields.filterMap fun name =>
    (Json.Members.get? name extra).map fun v => (name, v)

/-- The members of a log line, in order. The name of the service can be attached, too. -/
def Line.members (l : Line) : Json.Members :=
  [("timestamp", .str l.timestamp), ("level", .str (levelName l.level)), ("logger", .str l.logger),
    ("message", .str l.message),
    ("service", (Json.Members.get? "service" l.extra).getD (.str serviceName))] ++
    structured l.extra ++
    (match l.report with | some text => [("exc_info", .str text)] | none => [])

/-- A log line. -/
def Line.write (l : Line) : String :=
  Json.write Json.spaced (.obj l.members)

/-- The line of a record. -/
def Record.line (r : Record) (timestamp : String) (report : Option String) : Line where
  timestamp := timestamp
  level := r.level.number
  logger := r.logger
  message := r.message
  extra := r.fields
  report := report

end TechCatalog.Log
