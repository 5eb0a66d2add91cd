import TechCatalog.Decimal.Binary
import TechCatalog.Json.Value
import TechCatalog.Request.Fault
import TechCatalog.Text.Case

/-!
# Requests and responses

`Call` is a request as it comes over the network, and `Response` what is sent back. The names of
headers are found whatever their letter case.
-/

namespace TechCatalog.Service

/-- A request. -/
structure Call where
  method : String
  path : String
  /-- The parameters of the query, in order; names may be repeated. -/
  query : List (String × String) := []
  headers : List (String × String) := []
  body : String := ""

/-- The value of a header. -/
def Call.header? (c : Call) (name : String) : Option String :=
  (c.headers.find? fun h => Text.asciiLower h.1 == name).map (·.2)

/-- What a response says. -/
inductive Content where
  | document (v : Json)
  /-- Plain text. -/
  | text (s : String)

/-- A response. -/
structure Response where
  /-- The number that tells how the request went. -/
  status : Nat
  /-- What the response says. -/
  content : Content
  /-- The headers that say who may read it. -/
  headers : List (String × String) := []

/-- A floating-point number in a response; what is not finite is sent as null. -/
def sentFloat (x : Float) : Json :=
  if Decimal.isFinite x then .num x else .null

/-- A response with a document. -/
def Response.ofDocument (status : Nat) (v : Json) : Response where
  status := status
  content := .document (v.mapFloats sentFloat)

/-- A response that only says what is the matter. -/
def Response.ofDetail (status : Nat) (detail : String) : Response :=
  .ofDocument status (.obj [("detail", .str detail)])

/-- There is nothing at the path. -/
def Response.notFound : Response := .ofDetail 404 "Not Found"

/-- There is something at the path, but not for the method. -/
def Response.notAllowed : Response := .ofDetail 405 "Method Not Allowed"

/-- The body could not be taken apart. -/
def Response.unreadableBody : Response := .ofDetail 400 "There was an error parsing the body"

/-- The service broke down. -/
def Response.breakdown : Response where
  status := 500
  content := .text "Internal Server Error"

/-- One step of the path to a value. -/
def stepDocument : Request.Step → Json
  | .key name => .str name
  | .index i => .int i

/-- A fault as it is reported. -/
def faultDocument (f : Request.Fault) : Json :=
  .obj [("type", .str f.kind.code), ("loc", .arr (f.path.map stepDocument)),
    ("msg", .str f.kind.message)]

/-- A request that is rejected for its faults. -/
def Response.rejected (faults : List Request.Fault) : Response :=
  .ofDocument 422 (.obj [("detail", .arr (faults.map faultDocument))])

/-- The response as it is sent for a method; one of them asks for no content. -/
def Response.forMethod (r : Response) (method : String) : Response :=
  if method = "HEAD" then { r with content := .text "" } else r

end TechCatalog.Service
