import TechCatalog.Service.Exchange
import TechCatalog.Service.Origins

/-!
# Sharing with other origins

A browser lets a page of one origin read the responses of another only if the headers of the
response allow it, and it may ask beforehand. `Policy.preflight` answers that question, and
`Policy.headers` are the headers of any other response to a page.
-/

namespace TechCatalog.Service

/-- Which origins may read responses. -/
structure Policy where
  /-- The origins; one of them may stand for all. -/
  origins : List String
  deriving DecidableEq, Repr

/-- Whether all origins may read responses. -/
def Policy.allowsAll (p : Policy) : Bool :=
  p.origins.contains everyOrigin

/-- Whether an origin may read responses. -/
def Policy.allows (p : Policy) (origin : String) : Bool :=
  p.allowsAll || p.origins.contains origin

/-- The methods that pages may use. -/
def sharedMethods : List String := ["GET", "POST", "OPTIONS"]

/-- For how many seconds the answer to a question may be remembered. -/
def rememberedFor : Nat := 600

/-- The headers that let an origin read a response. -/
def Policy.headers (p : Policy) (origin : String) : List (String × String) :=
  if p.allowsAll then [("access-control-allow-origin", everyOrigin)]
  else if p.origins.contains origin then [("access-control-allow-origin", origin)]
  else []

/-- Answers a page of an origin that asks whether it may use a method and send headers. -/
def Policy.preflight (p : Policy) (origin method : String) (requested : Option String) : Response :=
  let faults := (if p.allows origin then [] else ["origin"]) ++
    (if sharedMethods.contains method then [] else ["method"])
  { status := if faults.isEmpty then 200 else 400
    content := .text
      (if faults.isEmpty then "OK" else "Disallowed CORS " ++ ", ".intercalate faults)
    headers := p.headers origin ++
      [("access-control-allow-methods", ", ".intercalate sharedMethods),
        ("access-control-max-age", toString rememberedFor)] ++
      (requested.map fun h => ("access-control-allow-headers", h)).toList }

/-- The origin and the method that a call asks about, if it only asks for permission. -/
def Call.question? (c : Call) : Option (String × String) :=
  match c.method, c.header? "origin", c.header? "access-control-request-method" with
  | "OPTIONS", some origin, some method => some (origin, method)
  | _, _, _ => none

/-- A response with the headers for the origin of the call it answers. -/
def Policy.share (p : Policy) (c : Call) (r : Response) : Response :=
  match c.header? "origin" with
  | some origin => { r with headers := r.headers ++ p.headers origin }
  | none => r

end TechCatalog.Service
