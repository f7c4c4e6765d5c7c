import WorkerTelemetry.Metric.Basic

/-!
Families: what a metric shows at one moment. The labels of a series are in the order of their
names, the series in the order of their label values, and families with one name are one family.
A family without series is not shown.
-/

namespace WorkerTelemetry.Metric

structure FamilySeries where
  labels : List (String × String)
  reading : Reading
  deriving Inhabited

/-- A metric as it is shown. -/
structure Family where
  name : String
  help : String
  type : String
  series : List FamilySeries
  deriving Inhabited

def labelPairs (names values : List String) : List (String × String) :=
  (names.zip values).mergeSort fun a b => decide (a.1 ≤ b.1)

/-- The family of a metric, with its series in the order in which they began. -/
def family (m : Metric) : Family :=
  ⟨m.exposedName, m.descriptor.help, m.kind.name,
    m.series.map fun s => ⟨labelPairs m.descriptor.labels s.values, s.reading⟩⟩

def Collector.families (c : Collector) : List Family := c.metrics.map family

namespace FamilySeries

def values (s : FamilySeries) : List String := s.labels.map (·.2)

/-- The order of label values, the first counting most. -/
def valuesAtMost : List String → List String → Bool
  | [], _ => true
  | _ :: _, [] => false
  | a :: as, b :: bs => decide (a < b) || (a == b && valuesAtMost as bs)

/-- The order of series: fewer labels first, then by their values. -/
def atMost (s t : FamilySeries) : Bool :=
  decide (s.labels.length < t.labels.length) ||
    (s.labels.length == t.labels.length && valuesAtMost s.values t.values)

end FamilySeries

namespace Family

/-- Puts a family among others; one of the same name takes up its series. -/
def gather (found : NameMap Family) (f : Family) : NameMap Family :=
  if f.series.isEmpty then found
  else
    match found.find? f.name with
    | none => found.insert f.name f
    | some g => found.insert f.name { g with series := g.series ++ f.series }

def ordered (f : Family) : Family :=
  { f with series := f.series.mergeSort FamilySeries.atMost }

/-- The families with series, in the order of their names. -/
def snapshot (fs : List Family) : List Family :=
  ((fs.foldl gather .empty).entries.map (·.2)).map ordered

/-- The first series among families with the given values of two labels. -/
def find? (fs : List Family) (wanted : List (String × String)) : Option FamilySeries :=
  (fs.flatMap Family.series).find? fun s =>
    wanted.all fun w => (s.labels.reverse.find? fun l => l.1 == w.1).map (·.2) == some w.2

end Family

end WorkerTelemetry.Metric
