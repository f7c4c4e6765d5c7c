import WorkerTelemetry.Activity.Metrics
import WorkerTelemetry.Log.Filter

/-!
What a worker tells about itself: its metrics and its log. How long executions take is not computed
here; the lengths are given in the order in which executions end.
-/

namespace WorkerTelemetry

/-- The lengths of executions in the order in which they end, and how many are used up. -/
structure Stopwatch where
  length : Nat → Duration
  used : Nat := 0

instance : Inhabited Stopwatch := ⟨{ length := fun _ => default }⟩

/-- The metrics and the log of a worker. -/
structure Telemetry where
  store : Metric.Store := {}
  console : Log.Console
  time : Log.Timestamp
  stopwatch : Stopwatch := default

namespace Telemetry

def emit (t : Telemetry) (e : Log.Event) : Telemetry :=
  { t with console := t.console.emit t.time e }

/-- The event at the end of an instrumented execution. -/
def finished (kind : String) (o : Activity.Outcome) (d : Duration) : Log.Event :=
  ⟨.debug, "activity_telemetry::activity::interceptor",
    [("activity_name", .text kind), ("result", .text o.label),
      ("elapsed_ms", .unsigned d.wholeMillis), (Log.messageField, .text "Activity finished")]⟩

/-- Records the end of an execution: in the metrics of all kinds, after a success also in the
metric of a special kind. -/
def record (m : Activity.Metrics) (store : Metric.Store) (kind : String) (o : Activity.Outcome)
    (d : Duration) : Metric.Store :=
  let store := m.recordActivity store kind o d
  match o, Activity.Special.ofKind? kind with
  | .success, some special => m.recordSpecial store d special
  | _, _ => store

/-- Notes the end of an instrumented execution, which takes the next length. -/
def finish (t : Telemetry) (m : Activity.Metrics) (kind : String) (o : Activity.Outcome) :
    Telemetry :=
  let d := t.stopwatch.length t.stopwatch.used
  emit { t with
    store := record m t.store kind o d
    stopwatch := { t.stopwatch with used := t.stopwatch.used + 1 } } (finished kind o d)

end Telemetry

end WorkerTelemetry
