import WorkerTelemetry.Metric.Histogram
import WorkerTelemetry.Metric.Refusal

/-!
Metrics and collectors. A metric is a family of series that differ in their label values; without
labels it has one series from the start, with labels each series begins with its first update. A
series is found by a fingerprint, so label values with one fingerprint share the series that began
first. A collector holds one or more metrics that are registered together.
-/

namespace WorkerTelemetry

/-- What a series shows. -/
inductive Metric.Reading
  | counter (n : UInt64)
  | gauge (x : Float)
  | histogram (h : Metric.Histogram)
  deriving Inhabited

/-- What the series of a metric show; histograms come with the bounds of their buckets. -/
inductive Metric.Kind
  | counter
  | gauge
  | histogram (bounds : List Float)

structure Metric.Series where
  /-- The values of the labels in the order of the descriptor. -/
  values : List String
  reading : Metric.Reading
  deriving Inhabited

structure Metric where
  descriptor : Metric.Descriptor
  exposedName : String
  kind : Metric.Kind
  series : List Metric.Series := []

namespace Metric

namespace Reading

/-- Adds to a counter, modulo `2 ^ 64`. -/
def increase (n : UInt64) : Reading → Reading
  | .counter m => .counter (m + n)
  | r => r

/-- Sets a gauge, or adds an observation to a histogram. -/
def observe (x : Float) : Reading → Reading
  | .gauge _ => .gauge x
  | .histogram h => .histogram (h.observe x)
  | r => r

def count : Reading → Nat
  | .counter n => n.toNat
  | _ => 0

/-- The number of observations of a histogram. -/
def samples : Reading → Nat
  | .histogram h => h.samples
  | _ => 0

def sum : Reading → Float
  | .histogram h => h.sum
  | _ => 0.0

end Reading

def Kind.name : Kind → String
  | .counter => "counter"
  | .gauge => "gauge"
  | .histogram _ => "histogram"

/-- The label that buckets use. -/
def bucketLabel : String := "le"

def startHistogram (labels : List String) (bounds : List Float) : Except Refusal Histogram :=
  if bucketLabel ∈ labels then .error .reservedLabel
  else
    let bounds := if bounds.isEmpty then Histogram.standardBounds else bounds
    match Histogram.disorder bounds with
    | some (x, y) => .error (.bucketOrder x y)
    | none => .ok (.ofBounds (Histogram.dropTop bounds))

def Kind.start (labels : List String) : Kind → Except Refusal Reading
  | .counter => .ok (.counter 0)
  | .gauge => .ok (.gauge 0.0)
  | .histogram bounds => (startHistogram labels bounds).map .histogram

def single (name help : String) (kind : Kind) : Except Refusal Metric := do
  let d : Descriptor := ⟨name, help, []⟩
  if let some f := d.fault then throw (.descriptor f)
  let reading ← kind.start []
  return ⟨d, name, kind, [⟨[], reading⟩]⟩

def labelled (name help : String) (labels : List String) (kind : Kind) : Except Refusal Metric :=
  let d : Descriptor := ⟨name, help, labels⟩
  match d.fault with
  | some f => .error (.descriptor f)
  | none => .ok ⟨d, name, kind, []⟩

/-- What a series is found by: the fingerprint of its label values one after the other. -/
def Series.key (values : List String) : UInt64 := fingerprint (joined values)

/-- Changes the first series with a key; nothing if there is none. -/
def changeSeries (key : UInt64) (f : Reading → Reading) : List Series → Option (List Series)
  | [] => none
  | s :: ss =>
    if Series.key s.values = key then some (⟨s.values, f s.reading⟩ :: ss)
    else (changeSeries key f ss).map (s :: ·)

/-- Changes the series with some label values; the first change begins the series. -/
def update (m : Metric) (values : List String) (f : Reading → Reading) : Except Refusal Metric :=
  if values.length ≠ m.descriptor.labels.length then
    .error (.labelCount m.descriptor.labels.length values.length)
  else
    match changeSeries (Series.key values) f m.series with
    | some series => .ok { m with series := series }
    | none =>
      match m.kind.start m.descriptor.labels with
      | .error r => .error r
      | .ok reading => .ok { m with series := m.series ++ [⟨values, f reading⟩] }

theorem update_descriptor {m m' : Metric} {values : List String} {f : Reading → Reading}
    (h : m.update values f = .ok m') : m'.descriptor = m.descriptor := by
  unfold update at h
  split at h
  · cases h
  · split at h
    · cases h; rfl
    · split at h
      · cases h
      · cases h; rfl

/-- Metrics that are registered together. -/
structure Collector where
  metrics : List Metric

namespace Collector

instance : Inhabited Collector := ⟨⟨[]⟩⟩

def descriptors (c : Collector) : List Descriptor := c.metrics.map Metric.descriptor

def names (c : Collector) : List String := c.descriptors.map Descriptor.name

/-- Changes one series of one of the metrics. -/
def update (c : Collector) (part : Nat) (values : List String) (f : Reading → Reading) :
    Except Refusal Collector :=
  match c.metrics[part]? with
  | none => .ok c
  | some m => (m.update values f).map fun m => ⟨c.metrics.set part m⟩

end Collector

end Metric

end WorkerTelemetry
