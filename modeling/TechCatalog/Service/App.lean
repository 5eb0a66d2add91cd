import TechCatalog.Service.Endpoints
import TechCatalog.Service.Sharing

/-!
# The service

An `App` is the service as it was started with some settings: the path it is found at and the
policy for pages of other origins. `App.answer` answers a call. A path that only differs from that
of an endpoint by slashes at its end leads to the endpoint, too.
-/

namespace TechCatalog.Service

open Store

/-- The service as it was started. -/
structure App where
  /-- What every path begins with. -/
  base : String
  /-- Which origins may read responses. -/
  policy : Policy
  deriving DecidableEq, Repr

/-- The title of the service. -/
def App.title : String := "Domain Search API"

/-- Why the service does not start. -/
inductive StartError where
  /-- No origin is named in production. -/
  | noOrigin
  /-- The path does not begin with a slash. -/
  | noSlashFirst
  /-- The path ends with a slash. -/
  | slashLast
  deriving DecidableEq, Repr

/-- What is said when the service does not start. -/
def StartError.message : StartError → String
  | .noOrigin => noOriginMessage
  | .noSlashFirst => "A path prefix must start with '/'"
  | .slashLast => "A path prefix must not end with '/', as the routes will start with '/'"

/-- Starts the service. The origins are looked at first, then the path, which may be empty. -/
def App.start (s : Settings) : Except StartError App :=
  match allowedOrigins s with
  | none => .error .noOrigin
  | some origins =>
    let path := s.apiPrefix.toList
    if path = [] then .ok ⟨s.apiPrefix, ⟨origins⟩⟩
    else if path.head? ≠ some '/' then .error .noSlashFirst
    else if path.getLast? = some '/' then .error .slashLast
    else .ok ⟨s.apiPrefix, ⟨origins⟩⟩

/-- The path of an endpoint in the service. -/
def App.pathOf (a : App) (e : Endpoint) : String :=
  a.base ++ e.path

/-- The endpoints with their methods and paths, in alphabetical order. -/
def App.routes (a : App) : List String :=
  (Endpoint.all.map fun e => e.method ++ " " ++ a.pathOf e).mergeSort fun s t => decide (s ≤ t)

/-- A path without the slashes at its end. -/
def withoutLastSlashes (path : String) : String :=
  String.ofList ((path.toList.reverse.dropWhile (· == '/')).reverse)

/-- The endpoint of a path. -/
def App.endpoint? (a : App) (path : String) : Option Endpoint :=
  (Endpoint.all.find? fun e => a.pathOf e == path).or
    (Endpoint.all.find? fun e => a.pathOf e == withoutLastSlashes path)

/-- Answers a call from within the service. -/
def App.serve (a : App) (db : Database) (s : Settings) (requestId : Option String) (c : Call) :
    Log.Traced Breakdown Response :=
  match a.endpoint? c.path with
  | none => .ofExcept (.ok .notFound)
  | some e =>
    if c.method = e.method then e.serve db s requestId c else .ofExcept (.ok .notAllowed)

/-- Answers a call. A service that breaks down tells nobody who may read of it. -/
def App.answer (a : App) (db : Database) (s : Settings) (requestId : Option String) (c : Call) :
    Log.Traced Empty Response :=
  let served : Log.Traced Breakdown Response :=
    match c.question? with
    | some (origin, method) =>
      let requested := c.header? "access-control-request-headers"
      .ofExcept (.ok (a.policy.preflight origin method requested))
    | none => (a.serve db s requestId c).map (a.policy.share c)
  { result := .ok ((served.result.toOption.getD .breakdown).forMethod c.method)
    records := served.records
    statements := served.statements }

end TechCatalog.Service
