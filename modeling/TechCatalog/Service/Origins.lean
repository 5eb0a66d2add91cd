import TechCatalog.Service.Settings
import TechCatalog.Text.Case

/-!
# Origins

Which web pages may call the service from a browser. The origins are named in one setting, separated
by commas. In production at least one must be named; elsewhere every origin is allowed unless some
are named, or even if some are, when the settings say so.
-/

namespace TechCatalog.Service

/-- The parts of a text between the occurrences of a character. -/
def partsBetween (mark : Char) : List Char → List (List Char)
  | [] => [[]]
  | c :: rest =>
    if c = mark then [] :: partsBetween mark rest
    else
      match partsBetween mark rest with
      | [] => [[c]]
      | part :: parts => (c :: part) :: parts

/-- The origins that a setting names: its parts between commas without the blanks around them, blank
parts left out. -/
def splitOrigins (raw : String) : List String :=
  ((partsBetween ',' raw.toList).map fun part => Text.strip (String.ofList part)).filter (· ≠ "")

/-- What stands for every origin. -/
def everyOrigin : String := "*"

/-- Whether the service runs in production; the letter case of the setting does not count. -/
def Settings.isProduction (s : Settings) : Bool :=
  Text.lower s.env == "prod"

/-- What is said when no origin is named in production. -/
def noOriginMessage : String :=
  "FRONTEND_ORIGIN must be set in production, refusing to start with wide-open CORS."

/-- The origins that may call the service; none where production names none. -/
def allowedOrigins (s : Settings) : Option (List String) :=
  let raw := s.frontendOrigin.getD ""
  if s.isProduction then
    match splitOrigins raw with
    | [] => none
    | named => some named
  else if s.corsAllowAllOrigins || raw == "" then some [everyOrigin]
  else some (splitOrigins raw)

end TechCatalog.Service
