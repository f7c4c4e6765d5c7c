import Mathlib.Data.List.Basic
import WorkerTelemetry.Proofs.Metric.Growth
import WorkerTelemetry.Telemetry

/-!
Recordings in the metrics of activities. A store holds recordings in a set of metrics if each of
the four metrics is what the changes of these recordings have made of it. Main statements: every
recording is held afterwards, also beside other sets of metrics, and the queries are functions of
what is held. Kinds and outcomes with one fingerprint share a series, so the queries for one of
them count all of these.
-/

namespace WorkerTelemetry.Activity

open WorkerTelemetry.Metric

/-- What is recorded in a set of metrics. -/
inductive Recording
  | activity (kind : String) (o : Outcome) (d : Duration)
  | pullRequest
  | provision (d : Duration)

/-- A kind of activity and how an execution of it ended. -/
abbrev Ending := String × Outcome

namespace Ending

/-- The values of the labels. -/
def values (e : Ending) : List String := [e.1, e.2.label]

theorem values_injective {e f : Ending} (h : e.values = f.values) : e = f := by
  obtain ⟨k, o⟩ := e
  obtain ⟨l, p⟩ := f
  simp only [values, List.cons.injEq, and_true] at h
  rw [h.1, Outcome.label_injective h.2]

/-- What the series is found by. -/
def key (e : Ending) : UInt64 := Series.key e.values

/-- The endings that fall into the series of an ending. -/
def sharing (es : List Ending) (e : Ending) : List Ending := es.filter fun f => f.key == e.key

/-- What the series of an ending counts; all is counted for the ending that began it. -/
def tally (es : List Ending) (e : Ending) : Nat :=
  if (sharing es e).head? = some e then (sharing es e).length else 0

/-- An ending that shares its fingerprint with no other is counted by itself. -/
theorem tally_eq_count {es : List Ending} {e : Ending} (h : ∀ f ∈ es, f.key = e.key → f = e) :
    tally es e = es.count e := by
  have same : sharing es e = es.filter (· == e) := by
    refine List.filter_congr fun f hf => ?_
    rw [Bool.eq_iff_iff, beq_iff_eq, beq_iff_eq]
    exact ⟨h f hf, congrArg key⟩
  unfold tally
  rw [same, ← List.countP_eq_length_filter, List.count]
  split
  · rfl
  · next hhead =>
    -- the first ending that equals `e` can only be `e`
    cases hf : es.filter (· == e) with
    | nil => rw [List.countP_eq_length_filter, hf, List.length_nil]
    | cons f fs =>
      have hfe : f = e := by
        have hmem : f ∈ es.filter (· == e) := hf ▸ List.mem_cons_self
        exact eq_of_beq (List.mem_filter.1 hmem).2
      rw [hf, hfe] at hhead
      exact absurd rfl hhead

end Ending

/-- The four metrics of a set. -/
inductive Part
  | duration
  | total
  | pullRequests
  | provision
  deriving DecidableEq

def Part.metric : Part → Metric
  | .duration => Metrics.durationMetric
  | .total => Metrics.totalMetric
  | .pullRequests => Metrics.pullRequestsMetric
  | .provision => Metrics.provisionMetric

namespace Recording

/-- The changes that a recording makes. -/
def changes : Recording → List (Part × Change)
  | .activity kind o d =>
    [(.duration, ⟨Ending.values (kind, o), .observe d.inSeconds⟩),
      (.total, ⟨Ending.values (kind, o), .increase 1⟩)]
  | .pullRequest => [(.pullRequests, ⟨[], .increase 1⟩)]
  | .provision d => [(.provision, ⟨[], .observe d.inSeconds⟩)]

def ending? : Recording → Option Ending
  | .activity kind o _ => some (kind, o)
  | _ => none

def isPullRequest : Recording → Bool
  | .pullRequest => true
  | _ => false

def isProvision : Recording → Bool
  | .provision _ => true
  | _ => false

/-- What is recorded when an execution ends. -/
def ofEnding (kind : String) (o : Outcome) (d : Duration) : List Recording :=
  .activity kind o d ::
    match o, Special.ofKind? kind with
    | .success, some .provisionSandbox => [.provision d]
    | .success, some .createPullRequest => [.pullRequest]
    | _, _ => []

/-- The changes of one of the metrics. -/
def changesOf (p : Part) (rs : List Recording) : List Change :=
  ((rs.flatMap changes).filter fun x => decide (x.1 = p)).map Prod.snd

theorem changesOf_cons (p : Part) (r : Recording) (rs : List Recording) :
    changesOf p (r :: rs) = changesOf p [r] ++ changesOf p rs := by
  simp [changesOf]

theorem values_changesOf_total (rs : List Recording) :
    (changesOf .total rs).map Change.values = (rs.filterMap ending?).map Ending.values := by
  induction rs with
  | nil => rfl
  | cons r rs ih =>
    rw [changesOf_cons, List.map_append, ih]
    cases r <;> rfl

theorem values_changesOf_duration (rs : List Recording) :
    (changesOf .duration rs).map Change.values = (rs.filterMap ending?).map Ending.values := by
  induction rs with
  | nil => rfl
  | cons r rs ih =>
    rw [changesOf_cons, List.map_append, ih]
    cases r <;> rfl

theorem length_changesOf_pullRequests (rs : List Recording) :
    (changesOf .pullRequests rs).length = rs.countP isPullRequest := by
  induction rs with
  | nil => rfl
  | cons r rs ih =>
    rw [changesOf_cons, List.length_append, ih, List.countP_cons, Nat.add_comm]
    cases r <;> rfl

theorem length_changesOf_provision (rs : List Recording) :
    (changesOf .provision rs).length = rs.countP isProvision := by
  induction rs with
  | nil => rfl
  | cons r rs ih =>
    rw [changesOf_cons, List.length_append, ih, List.countP_cons, Nat.add_comm]
    cases r <;> rfl

/-- A change of one of the metrics is a change that some recording makes. -/
theorem exists_changes_of_mem {p : Part} {rs : List Recording} {u : Change}
    (h : u ∈ changesOf p rs) : ∃ r ∈ rs, (p, u) ∈ r.changes := by
  obtain ⟨x, hx, rfl⟩ := List.mem_map.1 h
  obtain ⟨hx, hp⟩ := List.mem_filter.1 hx
  obtain ⟨r, hr, hxr⟩ := List.mem_flatMap.1 hx
  exact ⟨r, hr, of_decide_eq_true hp ▸ hxr⟩

/-- How every metric is changed: with a value for every label, and counters by one. -/
theorem changesOf_spec (p : Part) (rs : List Recording) : ∀ u ∈ changesOf p rs,
    u.values.length = p.metric.descriptor.labels.length ∧
      match p with
      | .total | .pullRequests => u.act = .increase 1
      | .duration | .provision => ∃ x, u.act = .observe x := by
  intro u h
  obtain ⟨r, _, hr⟩ := exists_changes_of_mem h
  cases r with
  | activity kind o d =>
    rcases List.mem_cons.1 hr with heq | hr
    · cases heq; exact ⟨rfl, _, rfl⟩
    · cases List.mem_singleton.1 hr; exact ⟨rfl, rfl⟩
  | pullRequest => cases List.mem_singleton.1 hr; exact ⟨rfl, rfl⟩
  | provision d => cases List.mem_singleton.1 hr; exact ⟨rfl, _, rfl⟩

end Recording

namespace Metrics

/-- The store after a recording. -/
def take (m : Metrics) (s : Store) : Recording → Store
  | .activity kind o d => m.recordActivity s kind o d
  | .pullRequest => m.recordPullRequest s
  | .provision d => m.recordProvision s d

theorem record_eq_foldl_take (m : Metrics) (s : Store) (kind : String) (o : Outcome)
    (d : Duration) :
    Telemetry.record m s kind o d = (Recording.ofEnding kind o d).foldl m.take s := by
  unfold Telemetry.record Recording.ofEnding
  cases o with
  | failure => rfl
  | success =>
    cases Special.ofKind? kind with
    | none => rfl
    | some special => cases special <;> rfl

/-! ### What a store holds -/

def place (m : Metrics) : Part → CollectorId
  | .duration => m.duration
  | .total => m.total
  | .pullRequests => m.pullRequests
  | .provision => m.provision

theorem place_mem (m : Metrics) (p : Part) : m.place p ∈ m.collectors := by
  cases p <;> simp [place, collectors]

/-- The store after a change of one of the metrics. -/
def change (m : Metrics) (s : Store) (x : Part × Change) : Store :=
  s.update (m.place x.1) x.2.values x.2.act

theorem take_eq_foldl_change (m : Metrics) (s : Store) (r : Recording) :
    m.take s r = r.changes.foldl m.change s := by
  cases r <;> rfl

/-- The four metrics have places of their own, and are what recordings have made of them. -/
structure Holds (m : Metrics) (s : Store) (rs : List Recording) : Prop where
  distinct : Function.Injective m.place
  collector : ∀ p, s.collector (m.place p) = ⟨[p.metric.after (Recording.changesOf p rs)]⟩

/-- Metrics in which nothing was recorded. -/
def Fresh (m : Metrics) (s : Store) : Prop := m.Holds s []

/-- Sets of metrics that have no place in common. -/
def Apart (m n : Metrics) : Prop := m.collectors.Disjoint n.collectors

/-- Changes are made in the metrics they are of. -/
theorem collector_foldl_change {m : Metrics} (distinct : Function.Injective m.place) {p : Part}
    {k : Metric} (xs : List (Part × Change)) {s : Store} (h : s.collector (m.place p) = ⟨[k]⟩) :
    (xs.foldl m.change s).collector (m.place p) =
      ⟨[k.after ((xs.filter fun x => decide (x.1 = p)).map Prod.snd)]⟩ := by
  induction xs generalizing s k with
  | nil => exact h
  | cons x xs ih =>
    obtain ⟨q, u⟩ := x
    rw [List.foldl_cons]
    by_cases hq : q = p
    · subst hq
      rw [List.filter_cons_of_pos (by simp)]
      exact ih (Store.collector_update_self h u)
    · have hne : m.place p ≠ m.place q := fun heq => hq (distinct heq).symm
      rw [List.filter_cons_of_neg (by simpa)]
      exact ih ((Store.collector_update_of_ne hne _ _).trans h)

/-- They are made nowhere else. -/
theorem collector_foldl_change_of_notMem {m : Metrics} {c : CollectorId} (h : c ∉ m.collectors)
    (xs : List (Part × Change)) (s : Store) :
    (xs.foldl m.change s).collector c = s.collector c := by
  induction xs generalizing s with
  | nil => rfl
  | cons x xs ih =>
    have hne : c ≠ m.place x.1 := fun heq => h (heq ▸ m.place_mem x.1)
    rw [List.foldl_cons, ih]
    exact Store.collector_update_of_ne hne _ _

namespace Holds

variable {m n : Metrics} {s : Store} {rs : List Recording}

/-- What is recorded is held. -/
theorem take (h : m.Holds s rs) (r : Recording) : m.Holds (m.take s r) (rs ++ [r]) := by
  refine ⟨h.distinct, fun p => ?_⟩
  rw [take_eq_foldl_change, collector_foldl_change h.distinct _ (h.collector p)]
  simp [Recording.changesOf, Metric.after, List.foldl_append]

theorem foldl_take (h : m.Holds s rs) (more : List Recording) :
    m.Holds (more.foldl m.take s) (rs ++ more) := by
  induction more generalizing s rs with
  | nil => rwa [List.append_nil]
  | cons r more ih =>
    rw [List.foldl_cons, ← List.singleton_append, ← List.append_assoc]
    exact ih (h.take r)

/-- Recordings in other metrics leave what is held. -/
theorem take_apart (h : m.Holds s rs) (apart : m.Apart n) (r : Recording) :
    m.Holds (n.take s r) rs := by
  refine ⟨h.distinct, fun p => ?_⟩
  rw [take_eq_foldl_change, collector_foldl_change_of_notMem (apart (m.place_mem p))]
  exact h.collector p

theorem foldl_take_apart (h : m.Holds s rs) (apart : m.Apart n) (more : List Recording) :
    m.Holds (more.foldl n.take s) rs := by
  induction more generalizing s with
  | nil => exact h
  | cons r more ih => exact ih (h.take_apart apart r)

end Holds

theorem fresh_create (s : Store) : (create s).2.Fresh (create s).1 := by
  refine ⟨?_, ?_⟩
  · intro p q h
    cases p <;> cases q <;> simp [create, Store.addCollector, place] at h ⊢
  · intro p
    cases p <;> simp [create, Store.addCollector, place, Store.collector] <;> rfl

/-! ### What the queries answer -/

theorem labelPairs_two (v w : String) :
    labelPairs [kindLabel, outcomeLabel] [v, w] = [(kindLabel, v), (outcomeLabel, w)] := by
  unfold labelPairs
  apply List.mergeSort_of_pairwise
  simp [kindLabel, outcomeLabel]

theorem asked_labelPairs (e : Ending) (v w : String) :
    ([(kindLabel, e.1), (outcomeLabel, e.2.label)].all fun x =>
        ((labelPairs [kindLabel, outcomeLabel] [v, w]).reverse.find? fun l => l.1 == x.1).map
          (·.2) == some x.2) =
      decide ([v, w] = e.values) := by
  have apart : outcomeLabel ≠ kindLabel := by decide
  rw [labelPairs_two, Bool.eq_iff_iff]
  simp [Ending.values, apart]

/-- A scrape finds a series by its two labels where the metric finds it by its values. -/
theorem series?_reading {s : Store} {c : CollectorId} {m : Metric} (hc : s.collector c = ⟨[m]⟩)
    (hl : m.descriptor.labels = [kindLabel, outcomeLabel])
    (hs : ∀ t ∈ m.series, t.values.length = 2) (e : Ending) :
    (series? s c e.1 e.2).map FamilySeries.reading =
      (m.series.find? fun t => decide (t.values = e.values)).map Series.reading := by
  simp only [series?, Store.families, hc, Collector.families, List.map_cons, List.map_nil,
    Family.find?, List.flatMap_singleton, family, hl]
  generalize m.series = ss at hs
  induction ss with
  | nil => rfl
  | cons t ss ih =>
    obtain ⟨ht, hss⟩ := List.forall_mem_cons.1 hs
    obtain ⟨values, r⟩ := t
    obtain ⟨v, w, rfl⟩ := List.length_eq_two.1 ht
    rw [List.map_cons, List.find?_cons, List.find?_cons, asked_labelPairs]
    cases decide ([v, w] = e.values) with
    | true => rfl
    | false => exact ih hss

theorem values_among {us : List Change} {es : List Ending}
    (hv : us.map Change.values = es.map Ending.values) (e : Ending) :
    (Change.among us e.key).map Change.values = (Ending.sharing es e).map Ending.values :=
  calc (Change.among us e.key).map Change.values
      = (us.map Change.values).filter fun v => decide (Series.key v = e.key) := by
        rw [List.filter_map]; rfl
    _ = (es.map Ending.values).filter fun v => decide (Series.key v = e.key) := by rw [hv]
    _ = (Ending.sharing es e).map Ending.values := by rw [List.filter_map]; rfl

/-- A measure that counts changes gives what the series of an ending counts. -/
theorem getD_measure {us : List Change} {es : List Ending} {start : Reading} {ss : List Series}
    (g : Grown start us ss) (hv : us.map Change.values = es.map Ending.values)
    {measure : Reading → Nat}
    (hm : ∀ vs, vs.Sublist us → measure (Change.reading start vs) = vs.length) (e : Ending) :
    (((ss.find? fun t => decide (t.values = e.values)).map Series.reading).map measure).getD 0 =
      Ending.tally es e := by
  have among := values_among hv e
  have head : (Change.among us e.key).head?.map Change.values = some e.values ↔
      (Ending.sharing es e).head? = some e := by
    rw [← List.head?_map, among, List.head?_map, Option.map_eq_some_iff]
    constructor
    · rintro ⟨f, hf, hfe⟩
      rw [hf, Ending.values_injective hfe]
    · intro he
      exact ⟨e, he, rfl⟩
  have length : (Change.among us e.key).length = (Ending.sharing es e).length := by
    rw [← List.length_map (f := Change.values), among, List.length_map]
  have found := g.find_reading e.values
  rw [show Series.key e.values = e.key from rfl] at found
  rw [found, Ending.tally]
  by_cases h : (Ending.sharing es e).head? = some e
  · rw [if_pos (head.2 h), if_pos h, ← length]
    exact hm _ List.filter_sublist
  · rw [if_neg (mt head.1 h), if_neg h]
    rfl

/-- After changes of a metric with the two labels, a measure that counts changes gives for every
ending what its series counts. -/
theorem getD_series?_measure (measure : Reading → Nat) {s : Store} {c : CollectorId} {m : Metric}
    {us : List Change} {es : List Ending} {start : Reading} (hc : s.collector c = ⟨[m.after us]⟩)
    (hl : m.descriptor.labels = [kindLabel, outcomeLabel]) (hn : m.series = [])
    (hstart : m.kind.start m.descriptor.labels = .ok start)
    (hlen : ∀ u ∈ us, u.values.length = m.descriptor.labels.length)
    (hv : us.map Change.values = es.map Ending.values)
    (hm : ∀ vs, vs.Sublist us → measure (Change.reading start vs) = vs.length) (e : Ending) :
    ((series? s c e.1 e.2).map fun f => measure f.reading).getD 0 = Ending.tally es e := by
  have g := Grown.foldl_grow start us
  rw [after_eq_grow hstart hlen, hn] at hc
  have values : ∀ t ∈ us.foldl (grow start) [], t.values.length = 2 := by
    intro t ht
    obtain ⟨u, hu, hut⟩ := g.exists_change ht
    rw [← hut, hlen u hu, hl]
    rfl
  have found := series?_reading hc hl values e
  calc ((series? s c e.1 e.2).map fun f => measure f.reading).getD 0
      = (((series? s c e.1 e.2).map FamilySeries.reading).map measure).getD 0 := by
        rw [Option.map_map]; rfl
    _ = Ending.tally es e := by
        rw [found]
        exact getD_measure g hv hm e

theorem count_reading_increase {us : List Change} (h : ∀ u ∈ us, u.act = .increase 1)
    (few : us.length < Decimal.exactLimit) :
    (Change.reading (.counter 0) us).count = us.length := by
  have small : us.length < 2 ^ 64 := Nat.lt_trans few (by decide)
  rw [Change.reading_increase h, Reading.count, UInt64.zero_add, UInt64.toNat_ofNat']
  exact Nat.mod_eq_of_lt small

theorem min_nearestDouble {n : Nat} (few : n < Decimal.exactLimit) :
    min (Decimal.nearestDouble n) countLimit = n := by
  have le : n ≤ countLimit := Nat.le_trans (Nat.le_of_lt few) (by decide)
  rw [Decimal.nearestDouble_eq_self few, Nat.min_eq_left le]

theorem reading_unlabelled {s : Store} {c : CollectorId} {m : Metric} {us : List Change}
    {start : Reading} (hc : s.collector c = ⟨[m.after us]⟩) (hn : m.series = [⟨[], start⟩])
    (hl : m.descriptor.labels = []) (hstart : m.kind.start m.descriptor.labels = .ok start)
    (hlen : ∀ u ∈ us, u.values.length = m.descriptor.labels.length) :
    reading s c = some (Change.reading start us) := by
  have values : ∀ u ∈ us, u.values = [] := by
    intro u hu
    have len := hlen u hu
    rwa [hl, List.length_nil, List.length_eq_zero_iff] at len
  rw [after_eq_grow hstart hlen, hn, foldl_grow_unlabelled start start values] at hc
  simp [reading, hc]

namespace Holds

variable {m : Metrics} {s : Store} {rs : List Recording}

theorem count_eq (h : m.Holds s rs) (e : Ending)
    (few : (rs.filterMap Recording.ending?).length < Decimal.exactLimit) :
    m.count s e.1 e.2 = Ending.tally (rs.filterMap Recording.ending?) e := by
  have spec := Recording.changesOf_spec .total rs
  have values := Recording.values_changesOf_total rs
  refine getD_series?_measure (fun r => min (Decimal.nearestDouble r.count) countLimit)
    (h.collector .total) rfl rfl rfl (fun u hu => (spec u hu).1) values ?_ e
  intro vs hvs
  have fewer : vs.length < Decimal.exactLimit := by
    refine Nat.lt_of_le_of_lt hvs.length_le ?_
    rwa [← List.length_map (f := Change.values), values, List.length_map]
  have exact_count := count_reading_increase (fun u hu => (spec u (hvs.subset hu)).2) fewer
  change min (Decimal.nearestDouble (Change.reading (.counter 0) vs).count) countLimit = vs.length
  rw [exact_count]
  exact min_nearestDouble fewer

theorem durationSamples_eq (h : m.Holds s rs) (e : Ending) :
    m.durationSamples s e.1 e.2 = Ending.tally (rs.filterMap Recording.ending?) e := by
  have spec := Recording.changesOf_spec .duration rs
  refine getD_series?_measure Reading.samples (h.collector .duration) rfl rfl rfl
    (fun u hu => (spec u hu).1) (Recording.values_changesOf_duration rs) ?_ e
  intro vs hvs
  have samples := Change.samples_reading_observe (fun u hu => (spec u (hvs.subset hu)).2)
    (.ofBounds durationBounds)
  rw [show (Histogram.ofBounds durationBounds).samples = 0 from rfl, Nat.zero_add] at samples
  exact samples

theorem pullRequestsCreated_eq (h : m.Holds s rs)
    (few : rs.countP Recording.isPullRequest < Decimal.exactLimit) :
    m.pullRequestsCreated s = rs.countP Recording.isPullRequest := by
  have spec := Recording.changesOf_spec .pullRequests rs
  have shown := reading_unlabelled (c := m.pullRequests) (h.collector .pullRequests) rfl rfl rfl
    fun u hu => (spec u hu).1
  rw [← Recording.length_changesOf_pullRequests] at few ⊢
  rw [pullRequestsCreated, shown]
  exact count_reading_increase (fun u hu => (spec u hu).2) few

theorem provisionSamples_eq (h : m.Holds s rs) :
    m.provisionSamples s = rs.countP Recording.isProvision := by
  have spec := Recording.changesOf_spec .provision rs
  have shown := reading_unlabelled (c := m.provision) (h.collector .provision) rfl rfl rfl
    fun u hu => (spec u hu).1
  have samples := Change.samples_reading_observe (fun u hu => (spec u hu).2)
    (.ofBounds provisionBounds)
  rw [show (Histogram.ofBounds provisionBounds).samples = 0 from rfl, Nat.zero_add,
    Recording.length_changesOf_provision] at samples
  rw [provisionSamples, shown]
  exact samples

end Holds

end Metrics

end WorkerTelemetry.Activity
