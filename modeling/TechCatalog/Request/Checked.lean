import TechCatalog.Json.Value
import TechCatalog.Request.Fault

/-!
# Checked values

A value that was checked is either accepted or comes with its faults. Unlike an error that stops at
the first fault, `Checked.both` reads two parts and keeps the faults of both, in order. Members of
an object are found by `Key`: under the wire spelling if the object has it, and otherwise under the
plain one; faults are reported under the spelling that was read.
-/

namespace TechCatalog.Request

/-- A value that was accepted, or the faults for which it was not. -/
inductive Checked (α : Type) where
  | accept (value : α)
  /-- The value has these faults. -/
  | reject (faults : List Fault)
  deriving Repr

namespace Checked

variable {α β : Type}

/-- Rejects for one reason, at the value itself. -/
def fail (kind : FaultKind) : Checked α :=
  .reject [⟨kind, []⟩]

/-- Applies a function to an accepted value. -/
def map (f : α → β) : Checked α → Checked β
  | .accept a => .accept (f a)
  | .reject faults => .reject faults

/-- Goes on with an accepted value. -/
def andThen (x : Checked α) (f : α → Checked β) : Checked β :=
  match x with
  | .accept a => f a
  | .reject faults => .reject faults

/-- Applies a checked function to a checked value; the faults of both count, in this order. -/
def both (f : Checked (α → β)) (x : Checked α) : Checked β :=
  match f, x with
  | .accept f, .accept a => .accept (f a)
  | .accept _, .reject faults => .reject faults
  | .reject faults, .accept _ => .reject faults
  | .reject first, .reject second => .reject (first ++ second)

/-- Reports the faults of a part as faults of the whole. -/
def within (step : Step) : Checked α → Checked α
  | .accept a => .accept a
  | .reject faults => .reject (faults.map fun f => { f with path := step :: f.path })

/-- Checks every item of a list, positions counted from `i`; the faults of all items count. -/
def items (read : Json → Checked α) (i : Nat) : List Json → Checked (List α)
  | [] => .accept []
  | v :: rest => both (((read v).within (.index i)).map List.cons) (items read (i + 1) rest)

/-- Checks every member of an object. -/
def members (read : Json → Checked α) : Json.Members → Checked (List (String × α))
  | [] => .accept []
  | (k, v) :: rest =>
    both (((read v).within (.key k)).map fun a => List.cons (k, a)) (members read rest)

/-- A rule about a whole value that is checked once all of its parts are accepted. -/
def require (rule : α → Bool) (reason : String) (x : Checked α) : Checked α :=
  x.andThen fun a => if rule a then .accept a else fail (.broken reason)

end Checked

/-- The two spellings under which a member may be sent. -/
structure Key where
  /-- The spelling of the wire format. -/
  wire : String
  /-- The plain spelling. -/
  plain : String
  deriving DecidableEq, Repr

/-- A key that is spelled in one way only. -/
def Key.only (name : String) : Key := ⟨name, name⟩

/-- The spelling under which an object has a member, and the member. -/
def Key.find? (k : Key) (o : Json.Members) : Option (String × Json) :=
  match Json.Members.get? k.wire o with
  | some v => some (k.wire, v)
  | none => (Json.Members.get? k.plain o).map fun v => (k.plain, v)

/-- Reads a member that must be present. -/
def Key.required {α : Type} (k : Key) (read : Json → Checked α) (o : Json.Members) : Checked α :=
  match k.find? o with
  | some (name, v) => (read v).within (.key name)
  | none => .reject [⟨.missing, [.key k.wire]⟩]

/-- Reads a member that has a value of its own when it is absent. -/
def Key.optional {α : Type} (k : Key) (absent : α) (read : Json → Checked α) (o : Json.Members) :
    Checked α :=
  match k.find? o with
  | some (name, v) => (read v).within (.key name)
  | none => .accept absent

/-- Where a value comes from; objects that are expected and not found are reported accordingly. -/
inductive Origin where
  /-- A value at hand. -/
  | value
  /-- The body of a request. -/
  | body
  deriving DecidableEq, Repr

/-- Reads the members of an object of the given form. -/
def readForm {α : Type} (origin : Origin) (form : String) (read : Json.Members → Checked α) :
    Json → Checked α
  | .obj o => read o
  | _ => .fail (match origin with | .value => .notModel form | .body => .notAttributes)

end TechCatalog.Request
