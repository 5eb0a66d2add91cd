import TechCatalog.Service.Settings

/-!
# Work in the background

The statistics are rebuilt by a task that runs apart from the requests: after bulk loads, and every
night for whatever was written in between.
-/

namespace TechCatalog.Service

/-- When a task runs, as lists of the minutes, hours and days of the week. -/
structure Timetable where
  /-- The minutes of the hour. -/
  minutes : List Nat
  /-- The hours of the day. -/
  hours : List Nat
  /-- The days of the week, Sunday being day zero. -/
  weekdays : List Nat
  deriving DecidableEq, Repr

/-- The module of the task that rebuilds the statistics. -/
def statsModule : String := "domain_search.services.stats"

/-- The task that rebuilds the statistics. -/
def rebuildTaskName : String := statsModule ++ ".rebuild_domain_stats_task"

/-- All tasks. -/
def taskNames : List String := [rebuildTaskName]

/-- The queue of the task. -/
def maintenanceQueue : String := "maintenance"

/-- The format in which tasks and their results are sent. -/
def messageFormat : String := "json"

/-- The time zone of the timetable. -/
def timeZone : String := "UTC"

/-- Whether moments are sent in the time zone of the timetable. -/
def sendsInTimeZone : Bool := true

/-- The name of the nightly run. -/
def nightlyName : String := "rebuild-domain-stats-nightly"

/-- The nightly run: four o'clock on every day. -/
def nightly : Timetable where
  minutes := [0]
  hours := [4]
  weekdays := List.range 7

end TechCatalog.Service
