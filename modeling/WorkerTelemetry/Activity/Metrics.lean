import WorkerTelemetry.Activity.Outcome
import WorkerTelemetry.Duration
import WorkerTelemetry.Metric.Store

/-!
The metrics of activities: how often activities of a kind ended well or not and how long they took,
how many pull requests were created, and how long sandboxes took to be provisioned. Questions about
them are answered from the families that a scrape would show.
-/

namespace WorkerTelemetry.Activity

open WorkerTelemetry.Metric

def kindLabel : String := "activity_name"

def outcomeLabel : String := "result"

/-- The bounds of the buckets for activities, in seconds. -/
def durationBounds : List Float := [1.0, 5.0, 10.0, 30.0, 60.0, 120.0, 300.0, 600.0]

/-- The bounds of the buckets for sandboxes, in seconds. -/
def provisionBounds : List Float := [1.0, 5.0, 10.0, 30.0, 60.0, 120.0, 300.0]

/-- The places of the four metrics. -/
structure Metrics where
  duration : CollectorId
  total : CollectorId
  pullRequests : CollectorId
  provision : CollectorId
  deriving DecidableEq, Repr, Inhabited

namespace Metrics

/-- How long activities took. -/
def durationMetric : Metric :=
  { descriptor := ⟨"activity_duration_seconds", "Duration of activity executions in seconds",
      [kindLabel, outcomeLabel]⟩
    exposedName := "activity_duration_seconds"
    kind := .histogram durationBounds }

/-- How many activities ended. -/
def totalMetric : Metric :=
  { descriptor := ⟨"activity_total", "Total number of activity executions",
      [kindLabel, outcomeLabel]⟩
    exposedName := "activity_total"
    kind := .counter }

/-- How many pull requests were created. -/
def pullRequestsMetric : Metric :=
  { descriptor := ⟨"prs_created_total", "Total number of pull requests created", []⟩
    exposedName := "prs_created_total"
    kind := .counter
    series := [⟨[], .counter 0⟩] }

/-- How long sandboxes took to be provisioned. -/
def provisionMetric : Metric :=
  { descriptor := ⟨"sandbox_provision_duration_seconds",
      "Duration of successful sandbox provisioning in seconds", []⟩
    exposedName := "sandbox_provision_duration_seconds"
    kind := .histogram provisionBounds
    series := [⟨[], .histogram (.ofBounds provisionBounds)⟩] }

theorem labelled_durationMetric :
    Metric.labelled "activity_duration_seconds" "Duration of activity executions in seconds"
      [kindLabel, outcomeLabel] (.histogram durationBounds) = .ok durationMetric := rfl

theorem labelled_totalMetric :
    Metric.labelled "activity_total" "Total number of activity executions"
      [kindLabel, outcomeLabel] .counter = .ok totalMetric := rfl

theorem single_pullRequestsMetric :
    Metric.single "prs_created_total" "Total number of pull requests created" .counter =
      .ok pullRequestsMetric := rfl

theorem single_provisionMetric :
    Metric.single "sandbox_provision_duration_seconds"
      "Duration of successful sandbox provisioning in seconds" (.histogram provisionBounds) =
      .ok provisionMetric := rfl

def create (s : Store) : Store × Metrics :=
  let (s, duration) := s.addCollector ⟨[durationMetric]⟩
  let (s, total) := s.addCollector ⟨[totalMetric]⟩
  let (s, pullRequests) := s.addCollector ⟨[pullRequestsMetric]⟩
  let (s, provision) := s.addCollector ⟨[provisionMetric]⟩
  (s, ⟨duration, total, pullRequests, provision⟩)

/-- The four places in the order of registration. -/
def collectors (m : Metrics) : List CollectorId :=
  [m.duration, m.total, m.pullRequests, m.provision]

/-- Registers the metrics, up to the first that is refused. -/
def register (m : Metrics) (s : Store) (r : RegistryId) : Store × Except Metric.Error Unit :=
  s.registerAll r m.collectors

def registered (s : Store) (r : RegistryId) : Store × Except Metric.Error Metrics :=
  let (s, m) := create s
  let (s, answer) := m.register s r
  (s, answer.map fun _ => m)

def recordActivity (m : Metrics) (s : Store) (kind : String) (o : Outcome) (d : Duration) :
    Store :=
  let values := [kind, o.label]
  (s.update m.duration values (.observe d.inSeconds)).update m.total values (.increase 1)

def recordPullRequest (m : Metrics) (s : Store) : Store :=
  s.update m.pullRequests [] (.increase 1)

def recordProvision (m : Metrics) (s : Store) (d : Duration) : Store :=
  s.update m.provision [] (.observe d.inSeconds)

def recordSpecial (m : Metrics) (s : Store) (d : Duration) : Special → Store
  | .provisionSandbox => m.recordProvision s d
  | .createPullRequest => m.recordPullRequest s

/-- The series of a kind and an outcome, as a scrape would show it. -/
def series? (s : Store) (c : CollectorId) (kind : String) (o : Outcome) : Option FamilySeries :=
  Family.find? (s.families c) [(kindLabel, kind), (outcomeLabel, o.label)]

def countLimit : Nat := 0xffffffffffffffff

/-- How often activities of a kind ended with an outcome. The count passes through a double. -/
def count (m : Metrics) (s : Store) (kind : String) (o : Outcome) : Nat :=
  ((series? s m.total kind o).map fun f =>
    min (Decimal.nearestDouble f.reading.count) countLimit).getD 0

def durationSamples (m : Metrics) (s : Store) (kind : String) (o : Outcome) : Nat :=
  ((series? s m.duration kind o).map fun f => f.reading.samples).getD 0

def durationSum (m : Metrics) (s : Store) (kind : String) (o : Outcome) : Float :=
  ((series? s m.duration kind o).map fun f => f.reading.sum).getD 0.0

def reading (s : Store) (c : CollectorId) : Option Reading := do
  let m ← (s.collector c).metrics.head?
  let series ← m.series.head?
  return series.reading

/-- How many pull requests were created. -/
def pullRequestsCreated (m : Metrics) (s : Store) : Nat :=
  ((reading s m.pullRequests).map Reading.count).getD 0

/-- How many sandboxes were provisioned. -/
def provisionSamples (m : Metrics) (s : Store) : Nat :=
  ((reading s m.provision).map Reading.samples).getD 0

def listing (m : Metrics) (s : Store) : String :=
  "ActivityMetrics \x7b prs_created: " ++ toString (m.pullRequestsCreated s) ++
    ", sandbox_provision_samples: " ++ toString (m.provisionSamples s) ++ ", .. \x7d"

end Metrics

end WorkerTelemetry.Activity
