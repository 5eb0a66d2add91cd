import TechCatalog.Log.Display

/-!
# Setting up the log

The log is set up once: one handler that writes lines as documents takes the place of whatever was
there, the level of the log is set, and the store's own log is kept down to warnings. Once it is set
up, doing so again changes nothing. A level that does not exist leaves the new handler in place and
everything else as it was.
-/

namespace TechCatalog.Log

/-- From which level on records are written: a number, or a truth value that counts as one. -/
inductive Threshold where
  | number (i : Int)
  /-- A truth value. -/
  | flag (b : Bool)
  deriving DecidableEq, Repr

/-- What takes the records. -/
inductive Handler where
  /-- Writes lines as documents. -/
  | documents
  /-- Writes lines in some other form. -/
  | other
  deriving DecidableEq, Repr

/-- The state of the log. -/
structure Setup where
  /-- What takes the records. -/
  handlers : List Handler
  /-- The level of the log. -/
  level : Threshold := .number 30
  /-- The level of the store's own log. -/
  engineLevel : Int := 0
  /-- Whether the log is set up. -/
  configured : Bool := false
  deriving DecidableEq, Repr

/-- Why a value is no level. -/
inductive LevelError where
  /-- No level has this name. -/
  | unknown (name : String)
  /-- The value is neither a number nor a name. -/
  | notLevel (shown : String)
  deriving DecidableEq, Repr

/-- What is said of a value that is no level. -/
def LevelError.message : LevelError → String
  | .unknown name => "Unknown level: " ++ Text.quoted name
  | .notLevel shown => "Level not an integer or a valid string: " ++ shown

/-- The levels by name. -/
def namedLevels : List (String × Int) :=
  [("CRITICAL", 50), ("FATAL", 50), ("ERROR", 40), ("WARN", 30), ("WARNING", 30), ("INFO", 20),
    ("DEBUG", 10), ("NOTSET", 0)]

/-- Reads a level: a number or a name. -/
def readLevel : Json → Except LevelError Threshold
  | .int i => .ok (.number i)
  | .bool b => .ok (.flag b)
  | .str name =>
    match namedLevels.lookup name with
    | some i => .ok (.number i)
    | none => .error (.unknown name)
  | v => .error (.notLevel (display v))

/-- Sets up the log. -/
def Setup.configure (s : Setup) (level : Json) : Setup × Option LevelError :=
  if s.configured then (s, none)
  else
    match readLevel level with
    | .error e => ({ s with handlers := [.documents] }, some e)
    | .ok level =>
      ({ handlers := [.documents], level, engineLevel := 30, configured := true }, none)

end TechCatalog.Log
