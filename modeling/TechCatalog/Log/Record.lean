import TechCatalog.Json.Value

/-!
# Log records

A record says at what level, by whom and in what words something was logged, which error it is
about, and which structured fields were attached to it.
-/

namespace TechCatalog.Log

/-- How serious a record is. -/
inductive Level where
  /-- Of interest to developers. -/
  | debug
  /-- The usual course of things. -/
  | info
  /-- Something that may be a mistake. -/
  | warning
  /-- Something that failed. -/
  | error
  deriving DecidableEq, Repr

/-- The name of a level. -/
def Level.name : Level → String
  | .debug => "DEBUG"
  | .info => "INFO"
  | .warning => "WARNING"
  | .error => "ERROR"

/-- A record of the log. -/
structure Record where
  /-- How serious it is. -/
  level : Level
  /-- Who logged it. -/
  logger : String
  /-- The words. -/
  message : String
  /-- The class of the error it is about. -/
  exception : Option String := none
  /-- The structured fields. -/
  fields : List (String × Json) := []

end TechCatalog.Log
