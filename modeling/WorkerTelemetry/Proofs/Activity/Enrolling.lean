import Mathlib.Data.List.TakeWhile
import WorkerTelemetry.Proofs.Activity.Parts
import WorkerTelemetry.Proofs.Metric.Closing

/-!
Sets of metrics that are brought to a registry. The four metrics are registered one after the other,
up to the first that is refused, and their names do not hinder each other. Main statements: a
registry accepts the metrics in front of the first that would be refused by itself, and answers as
it would answer this one; after a set was brought to it, whatever came of it, it accepts no set in
full.
-/

namespace WorkerTelemetry.Activity

open WorkerTelemetry.Metric

namespace Part

/-- The four metrics in the order of registration. -/
def all : List Part := [.duration, .total, .pullRequests, .provision]

theorem mem_all (p : Part) : p ∈ all := by
  cases p <;> simp [all]

def name (p : Part) : String := p.metric.descriptor.name

/-- No two of the metrics share a name, or the fingerprint of one. -/
theorem apart : all.Pairwise fun p q =>
    q.name ≠ p.name ∧
      q.metric.descriptor.nameFingerprint ≠ p.metric.descriptor.nameFingerprint := by
  decide +kernel

end Part

namespace Metrics

variable {m n : Metrics} {s : Store} {r : RegistryId} {p : Part}

/-- The four places describe the four metrics; what was recorded in them is left open. -/
def Described (m : Metrics) (s : Store) : Prop :=
  ∀ p, (s.collector (m.place p)).descriptors = [p.metric.descriptor]

theorem Holds.described {rs : List Recording} (h : m.Holds s rs) : m.Described s :=
  h.descriptors_place

theorem described_create (s : Store) : (create s).2.Described (create s).1 :=
  (fresh_create s).described

/-- What a set of metrics describes never changes. -/
theorem Described.run (h : m.Described s) (xs : List Step) : m.Described (s.run xs) := by
  intro p
  have used : (m.place p).index < s.collectors.length := by
    by_contra unused
    have described := h p
    rw [Store.collector, List.getD, List.getElem?_eq_none (Nat.le_of_not_lt unused)] at described
    cases described
  have same := congrArg Offer.descriptors (Store.offer_run used xs)
  exact same.trans (h p)

theorem Described.names (h : m.Described s) (p : Part) :
    (s.collector (m.place p)).names = [p.name] := by
  rw [Collector.names, h p]
  rfl

/-- What the registration of one of the metrics is answered. -/
theorem Described.verdict (h : m.Described s) (p : Part) :
    (s.register r (m.place p)).2 = (s.registry r).verdict p.metric.descriptor := by
  change ((s.registry r).register _ _).2 = _
  rw [h p, Registry.register_singleton]

theorem Described.alone_eq_duplicate_iff (h : m.Described s) (p : Part) :
    (s.register r (m.place p)).2 = .error (.duplicate p.name) ↔
      p.name ∈ (s.registry r).metricNames := by
  rw [h.verdict p]
  exact Registry.verdict_eq_duplicate_iff

/-- A metric that is accepted has a new name. -/
theorem Described.name_notMem (h : m.Described s) (accepted : (s.register r (m.place p)).2.isOk) :
    p.name ∉ (s.registry r).metricNames := by
  intro taken
  rw [(h.alone_eq_duplicate_iff p).2 taken] at accepted
  cases accepted

/-- The four metrics do not hinder each other. -/
theorem Described.beside (h : m.Described s) : m.collectors.Pairwise s.Beside := by
  refine (List.pairwise_map (f := m.place) (l := Part.all)).2 (Part.apart.imp ?_)
  rintro p q ⟨name, fingerprint⟩
  exact ⟨_, _, h p, h q, name, fingerprint⟩

/-- Of the four metrics a registry accepts those in front of the first that it would refuse by
itself. -/
theorem Described.register_front (h : m.Described s) (r : RegistryId) :
    s.welcome r m.collectors =
        (Part.all.takeWhile fun p => (s.register r (m.place p)).2.isOk).map m.place ∧
      (m.register s r).2 =
        Store.firstError (Part.all.map fun p => (s.register r (m.place p)).2) := by
  obtain ⟨welcomed, answer⟩ := Store.registerAll_of_beside (r := r) h.beside
  have parts : m.collectors = Part.all.map m.place := rfl
  refine ⟨?_, answer⟩
  rw [welcomed, parts, List.takeWhile_map]
  rfl

theorem Described.mem_metricNames_register (h : m.Described s)
    (used : r.index < s.registries.length) {n : String} :
    n ∈ ((m.register s r).1.registry r).metricNames ↔ n ∈ (s.registry r).metricNames ∨
      n ∈ (Part.all.takeWhile fun p => (s.register r (m.place p)).2.isOk).map Part.name := by
  rw [register, Store.mem_metricNames_registerAll used, (h.register_front r).1]
  simp only [List.mem_map, exists_exists_and_eq_and, h.names, List.mem_singleton, eq_comm (a := n)]

/-! ### What closes a registry to sets of metrics -/

/-- A registry that would refuse the first metric of every set. -/
def Closed (s : Store) (r : RegistryId) : Prop :=
  ¬ (s.registry r).Open durationMetric.descriptor

theorem Closed.run (h : Closed s r) (xs : List Step) : Closed (s.run xs) r :=
  mt Store.open_of_run h

theorem closed_register (used : r.index < s.registries.length) (described : m.Described s) :
    Closed (m.register s r).1 r :=
  Store.not_open_registerAll used (described .duration)

theorem closed_registered (used : r.index < s.registries.length) :
    Closed (registered s r).1 r :=
  closed_register (s := (create s).1) used (described_create s)

theorem Closed.register (h : Closed s r) (described : m.Described s) :
    ∃ e, (m.register s r).2 = .error e :=
  Store.registerAll_of_not_open h (described .duration) _

theorem Closed.registered (h : Closed s r) : ∃ e, (Metrics.registered s r).2 = .error e := by
  have closed : Closed (create s).1 r := h
  obtain ⟨e, refused⟩ := closed.register (described_create s)
  refine ⟨e, ?_⟩
  change Except.map _ ((create s).2.register (create s).1 r).2 = _
  rw [refused, Except.map]

/-- What a registry does with a set of metrics: it accepts those in front of the first that it would
refuse by itself, and answers as it would answer this one. After any attempt to register a set, all
further attempts fail, with whatever set of metrics and whatever happened in between. -/
theorem register_once (before : List Step) {r : RegistryId} {m : Metrics}
    (used : r.index < (Store.run {} before).registries.length)
    (described : m.Described (.run {} before)) :
    let s := Store.run {} before
    let names (t : Store) := (t.registry r).metricNames
    let alone (p : Part) := (s.register r (m.place p)).2
    let front := Part.all.takeWhile fun p => (alone p).isOk
    (∀ n, n ∈ names (m.register s r).1 ↔ n ∈ names s ∨ n ∈ front.map Part.name) ∧
      (∀ p ∈ front, p.name ∉ names s) ∧
      (m.register s r).2 = Store.firstError (Part.all.map alone) ∧
      (∀ p, alone p = .error (.duplicate p.name) ↔ p.name ∈ names s) ∧
      ((m.register s r).2 = .ok () ↔ ∀ p, alone p = .ok ()) ∧
      ∀ t, t = (m.register s r).1 ∨ t = (registered s r).1 → ∀ after,
        (∀ n : Metrics, n.Described (t.run after) →
            ∃ e, (n.register (t.run after) r).2 = .error e) ∧
          ∃ e, (registered (t.run after) r).2 = .error e := by
  intro s names alone front
  have answer : (m.register s r).2 = Store.firstError (Part.all.map alone) :=
    (described.register_front r).2
  refine ⟨fun n => described.mem_metricNames_register used, ?_, answer,
    described.alone_eq_duplicate_iff, ?_, ?_⟩
  · intro p hp
    have accepted : (alone p).isOk = true :=
      List.mem_takeWhile_imp (p := fun p => (alone p).isOk) hp
    exact described.name_notMem accepted
  · rw [answer, Store.firstError_eq_ok_iff, List.forall_mem_map]
    exact ⟨fun all p => all p p.mem_all, fun all p _ => all p⟩
  · intro t attempt after
    have closed : Closed (t.run after) r := by
      rcases attempt with rfl | rfl
      · exact (closed_register used described).run after
      · exact (closed_registered used).run after
    exact ⟨fun n described' => closed.register described', closed.registered⟩

/-- A registry that has accepted a metric of another origin under the name of a part, and a set of
metrics. -/
def contested : List Step :=
  [.registry, .collector ⟨[pullRequestsMetric]⟩, .register ⟨0⟩ ⟨0⟩, .collector ⟨[durationMetric]⟩,
    .collector ⟨[totalMetric]⟩, .collector ⟨[pullRequestsMetric]⟩, .collector ⟨[provisionMetric]⟩]

/-- The set of metrics that it makes. -/
def rival : Metrics := ⟨⟨1⟩, ⟨2⟩, ⟨3⟩, ⟨4⟩⟩

/-- A set of which two metrics are accepted before the third is refused, and the attempt that
fails after it. -/
theorem register_once_contested :
    0 < (Store.run {} contested).registries.length ∧ rival.Described (.run {} contested) ∧
      ((rival.register (.run {} contested) ⟨0⟩).1.registry ⟨0⟩).metricNames =
        ["activity_duration_seconds", "activity_total", "prs_created_total"] ∧
      "activity_total" ∉ ((Store.run {} contested).registry ⟨0⟩).metricNames ∧
      (rival.register (.run {} contested) ⟨0⟩).2 = .error (.duplicate "prs_created_total") ∧
      ∃ e, (registered (rival.register (.run {} contested) ⟨0⟩).1 ⟨0⟩).2 = .error e := by
  have used : 0 < (Store.run {} contested).registries.length := by decide +kernel
  have described : rival.Described (.run {} contested) := by
    intro p
    cases p <;> decide +kernel
  obtain ⟨-, new, answer, duplicate, -, later⟩ := register_once contested used described
  have first : ((Store.run {} contested).register ⟨0⟩ (rival.place .duration)).2.isOk = true := by
    decide +kernel
  have second : ((Store.run {} contested).register ⟨0⟩ (rival.place .total)).2.isOk = true := by
    decide +kernel
  have third := (duplicate .pullRequests).2 (by decide +kernel)
  refine ⟨used, described, by decide +kernel, new .total (by decide +kernel), ?_,
    (later _ (.inl rfl) []).2⟩
  rw [answer]
  simp only [Part.all, List.map_cons, Store.firstError, List.find?_cons, first, second, third]
  rfl

end Metrics

end WorkerTelemetry.Activity
