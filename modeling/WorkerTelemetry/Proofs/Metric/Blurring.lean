import WorkerTelemetry.Metric.Store

/-!
Stores whose readings are seen through a function, so that something of them is lost. If what is
left after a change depends on what was left before it, then the store that is seen can be changed
in its place. Main statements: this, and that stores which differ only in what was observed, and not
in how often, still do so after further observations, whatever these are.
-/

namespace WorkerTelemetry.Metric

variable {see f h : Reading → Reading}

def Series.through (see : Reading → Reading) (s : Series) : Series := ⟨s.values, see s.reading⟩

def through (see : Reading → Reading) (m : Metric) : Metric :=
  { m with series := m.series.map (Series.through see) }

def Collector.through (see : Reading → Reading) (c : Collector) : Collector :=
  ⟨c.metrics.map (Metric.through see)⟩

/-- The same store with all readings seen through a function. -/
def Store.through (see : Reading → Reading) (s : Store) : Store :=
  { s with collectors := s.collectors.map (Collector.through see) }

/-- What is seen after a change is another change of what was seen before it. -/
structure Shown (see f h : Reading → Reading) : Prop where
  after : ∀ r, see (f r) = h r
  before : ∀ r, h (see r) = h r

theorem Store.collector_through (see : Reading → Reading) (s : Store) (c : CollectorId) :
    (s.through see).collector c = (s.collector c).through see := by
  simp only [Store.collector, Store.through, List.getD_eq_getElem?_getD, List.getElem?_map]
  cases s.collectors[c.index]? <;> rfl

namespace Shown

theorem changeSeries (shown : Shown see f h) (key : UInt64) (ss : List Series) :
    (changeSeries key f ss).map (List.map (Series.through see)) =
      changeSeries key h (ss.map (Series.through see)) := by
  induction ss with
  | nil => rfl
  | cons s ss ih =>
    by_cases found : Series.key s.values = key
    · simp [Metric.changeSeries, Series.through, found, shown.after, shown.before]
    · simp only [Metric.changeSeries, Series.through, found, if_false, List.map_cons]
      rw [← ih, Option.map_map, Option.map_map]
      rfl

theorem metric (shown : Shown see f h) (m : Metric) (values : List String) :
    (m.update values f).map (Metric.through see) = (m.through see).update values h := by
  unfold Metric.update
  simp only [Metric.through, ← shown.changeSeries]
  split
  · rfl
  · cases Metric.changeSeries (Series.key values) f m.series with
    | some ss => rfl
    | none =>
      cases m.kind.start m.descriptor.labels with
      | error r => rfl
      | ok r => simp [Except.map, Metric.through, Series.through, shown.after]

theorem collector (shown : Shown see f h) (c : Collector) (part : Nat) (values : List String) :
    (c.update part values f).map (Collector.through see) =
      (c.through see).update part values h := by
  unfold Collector.update
  simp only [Collector.through, List.getElem?_map]
  cases c.metrics[part]? with
  | none => rfl
  | some m =>
    simp only [Option.map_some, ← shown.metric]
    cases m.update values f with
    | error r => rfl
    | ok m' => simp [Except.map, Collector.through]

/-- The store that is seen can be changed in place of the store. -/
theorem update (shown : Shown see f h) (s : Store) (c : CollectorId) (values : List String) :
    (s.update c values f).through see = (s.through see).update c values h := by
  unfold Store.update Store.tryUpdate
  rw [Store.collector_through, ← shown.collector]
  cases (s.collector c).update 0 values f with
  | error r => rfl
  | ok k => simp [Except.map, Store.through]

end Shown

/-! ### Readings without what was observed -/

def Bucket.emptied (b : Bucket) : Bucket := ⟨b.bound, 0⟩

theorem Histogram.emptied_place (x : Float) (bs : List Bucket) :
    (place x bs).map Bucket.emptied = bs.map Bucket.emptied := by
  induction bs with
  | nil => rfl
  | cons b bs ih =>
    by_cases here : Decimal.atMost x b.bound <;> simp [place, here, ih, Bucket.emptied]

namespace Reading

/-- How often a reading was changed; what was observed is left out. -/
def untimed : Reading → Reading
  | .counter n => .counter n
  | .gauge _ => .gauge 0.0
  | .histogram h => .histogram ⟨h.buckets.map Bucket.emptied, h.samples, 0.0⟩

@[simp] theorem count_untimed (r : Reading) : r.untimed.count = r.count := by
  cases r <;> rfl

@[simp] theorem samples_untimed (r : Reading) : r.untimed.samples = r.samples := by
  cases r <;> rfl

theorem untimed_untimed (r : Reading) : r.untimed.untimed = r.untimed := by
  cases r with
  | histogram h => simp [untimed, Bucket.emptied]
  | _ => rfl

theorem shown_increase (n : UInt64) :
    Shown untimed (increase n) fun r => (r.increase n).untimed where
  after _ := rfl
  before r := by
    cases r with
    | histogram h => exact untimed_untimed (.histogram h)
    | _ => rfl

/-- What is left of an observation does not depend on what was observed. -/
theorem untimed_observe (x y : Float) (r : Reading) :
    (r.observe x).untimed = (r.untimed.observe y).untimed := by
  cases r with
  | counter n => rfl
  | gauge z => rfl
  | histogram h =>
    have emptied : (h.buckets.map Bucket.emptied).map Bucket.emptied =
        h.buckets.map Bucket.emptied := by simp [Bucket.emptied]
    simp only [untimed, observe, Histogram.observe, Histogram.emptied_place, emptied]

theorem shown_observe (x : Float) :
    Shown untimed (observe x) fun r => (r.untimed.observe 0.0).untimed where
  after := untimed_observe x 0.0
  before r := by rw [untimed_untimed]

end Reading

namespace Store

variable {s t : Store}

/-- The same counts and numbers of observations in the same series. -/
def SameCounts (s t : Store) : Prop := s.through Reading.untimed = t.through Reading.untimed

theorem SameCounts.increase (same : SameCounts s t) (c : CollectorId) (values : List String)
    (n : UInt64) :
    SameCounts (s.update c values (.increase n)) (t.update c values (.increase n)) := by
  have shown := Reading.shown_increase n
  rw [SameCounts, shown.update, shown.update, same]

theorem SameCounts.observe (same : SameCounts s t) (c : CollectorId) (values : List String)
    (x y : Float) :
    SameCounts (s.update c values (.observe x)) (t.update c values (.observe y)) := by
  rw [SameCounts, (Reading.shown_observe x).update, (Reading.shown_observe y).update, same]

end Store

end WorkerTelemetry.Metric
