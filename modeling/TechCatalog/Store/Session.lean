import TechCatalog.Store.Write

/-!
# Sessions

A session works on a copy of the store and makes its changes permanent when it commits. Whatever
goes wrong takes it back to the last commit.
-/

namespace TechCatalog.Store

/-- A session on a store. -/
structure Session where
  /-- The store as of the last commit. -/
  committed : Database
  /-- The store with the changes since. -/
  working : Database

/-- A session on a store without changes. -/
def Session.start (db : Database) : Session := ⟨db, db⟩

/-- Makes all changes permanent. -/
def Session.commit (s : Session) : Session := ⟨s.working, s.working⟩

/-- Gives up all changes since the last commit. -/
def Session.rollback (s : Session) : Session := ⟨s.committed, s.committed⟩

/-- Ends a piece of work: one that failed takes back everything that was not committed, and one that
succeeded is committed if asked to. -/
def Session.settle {α ε : Type} (s : Session) (commit : Bool) :
    Except ε α → Session
  | .error _ => s.rollback
  | .ok _ => if commit then s.commit else s

/-- Runs a write and commits it if asked to; a write that fails takes back everything that was not
committed. -/
def Session.write {α ε : Type} (s : Session) (commit : Bool)
    (run : Database → Except ε (Database × α)) : Session × Except ε α :=
  match run s.working with
  | .error e => (s.rollback, .error e)
  | .ok (db, a) => (({ s with working := db } : Session).settle commit (.ok (ε := ε) a), .ok a)

/-- Runs a read; one that fails takes back everything that was not committed. -/
def Session.read {α ε : Type} (s : Session) (run : Database → Except ε α) :
    Session × Except ε α :=
  let r := run s.working
  (s.settle false r, r)

end TechCatalog.Store
