import WorkerTelemetry.Proofs.Activity.Parts
import WorkerTelemetry.Proofs.Metric.Keeping

/-!
A registry that lists the metrics of activities. It may hold other collectors, as long as these show
nothing under the names of the samples. Main statement: the samples that tell how much was recorded
in a part are those of its series, in the order of the scrape.
-/

namespace WorkerTelemetry

namespace Metric

/-- A reading of a kind. -/
def Kind.Fits : Kind → Reading → Prop
  | .counter, .counter _ => True
  | .gauge, .gauge _ => True
  | .histogram _, .histogram _ => True
  | _, _ => False

namespace Kind

variable {k : Kind} {r : Reading}

theorem Fits.increase (h : k.Fits r) (n : UInt64) : k.Fits (r.increase n) := by
  cases k <;> cases r <;> exact h

theorem Fits.observe (h : k.Fits r) (x : Float) : k.Fits (r.observe x) := by
  cases k <;> cases r <;> exact h

theorem Fits.eq_counter (h : Kind.counter.Fits r) : ∃ n, r = .counter n := by
  cases r with
  | counter n => exact ⟨n, rfl⟩
  | gauge x => cases h
  | histogram g => cases h

theorem Fits.eq_histogram {bounds : List Float} (h : (Kind.histogram bounds).Fits r) :
    ∃ g, r = .histogram g := by
  cases r with
  | counter n => cases h
  | gauge x => cases h
  | histogram g => exact ⟨g, rfl⟩

end Kind

/-- A list in which one member alone contributes. -/
theorem flatMap_eq_of_pairwise {α β : Type} {R : α → α → Prop} {f : α → List β} {l : List α} {a : α}
    (h : l.Pairwise R) (ha : a ∈ l) (other : ∀ b ∈ l, R a b ∨ R b a → f b = []) :
    l.flatMap f = f a := by
  obtain ⟨before, behind, rfl⟩ := List.append_of_mem ha
  obtain ⟨-, right, across⟩ := List.pairwise_append.1 h
  have none_before : before.flatMap f = [] := by
    rw [List.flatMap_eq_nil_iff]
    intro b hb
    exact other b (List.mem_append_left _ hb) (.inr (across b hb a List.mem_cons_self))
  have none_behind : behind.flatMap f = [] := by
    rw [List.flatMap_eq_nil_iff]
    intro b hb
    have later : b ∈ before ++ a :: behind :=
      List.mem_append_right before (List.mem_cons_of_mem a hb)
    exact other b later (.inl (List.rel_of_pairwise_cons right hb))
  rw [List.flatMap_append, List.flatMap_cons, none_before, none_behind, List.nil_append,
    List.append_nil]

/-- A histogram has one sample that counts. -/
theorem countSamples_histogram (name : String) {t : FamilySeries} {g : Histogram}
    (h : t.reading = .histogram g) :
    (t.samples name).filter (fun s => s.name == name ++ "_count") =
      [countSample (name ++ "_count") t.labels g.samples] := by
  have other {x : String} (hx : x ≠ "_count") : (name ++ x == name ++ "_count") = false := by
    rw [beq_eq_false_iff_ne]
    intro heq
    exact hx ((String.append_right_inj name).1 heq)
  have buckets :
      (bucketSamples name t.labels g).filter (fun s => s.name == name ++ "_count") = [] := by
    rw [List.filter_eq_nil_iff]
    intro s hs
    obtain ⟨bound, n, rfl⟩ := Family.mem_bucketSamples hs
    simp [countSample, other (show "_bucket" ≠ "_count" by decide)]
  unfold FamilySeries.samples
  rw [h]
  dsimp only
  rw [List.filter_append, buckets, List.nil_append]
  simp [countSample, other (show "_sum" ≠ "_count" by decide)]

end Metric

namespace Activity

open WorkerTelemetry.Metric

namespace Part

variable {p q : Part} {rs : List Recording}

/-- How many changes a series has seen. -/
def measure : Part → Reading → Nat
  | .duration | .provision => Reading.samples
  | .total | .pullRequests => Reading.count

/-- The name of the samples that tell this number. -/
def countName : Part → String
  | .duration => "activity_duration_seconds_count"
  | .total => "activity_total"
  | .pullRequests => "prs_created_total"
  | .provision => "sandbox_provision_duration_seconds_count"

theorem fits_start (p : Part) : p.metric.kind.Fits p.start := by
  cases p <;> trivial

theorem isMetricName_exposedName (p : Part) : isMetricName p.metric.exposedName = true := by
  cases p <;> decide +kernel

theorem isLabelName_labels {l : String} (h : l ∈ p.metric.descriptor.labels) :
    isLabelName l = true := by
  have all : p.metric.descriptor.labels.all isLabelName = true := by
    cases p <;> decide +kernel
  exact List.all_eq_true.1 all l h

theorem fits_reading (p : Part) (rs : List Recording) :
    ∀ s ∈ (p.after rs).series, p.metric.kind.Fits s.reading := by
  rw [after_eq]
  refine forall_foldl_grow p.fits_start ?_ ?_
  · intro u hu r hr
    have spec := (Recording.changesOf_spec p rs u hu).2
    cases p with
    | duration => obtain ⟨x, hx⟩ := spec; rw [hx]; exact hr.observe x
    | provision => obtain ⟨x, hx⟩ := spec; rw [hx]; exact hr.observe x
    | total => rw [spec]; exact hr.increase 1
    | pullRequests => rw [spec]; exact hr.increase 1
  · cases p <;> simp [Part.metric, Metrics.durationMetric, Metrics.totalMetric,
      Metrics.pullRequestsMetric, Metrics.provisionMetric, Kind.Fits]

/-- The number that a series tells is the number of its changes. -/
theorem measure_reading {vs : List Change} (sub : vs.Sublist (Recording.changesOf p rs))
    (few : vs.length < Decimal.exactLimit) : p.measure (Change.reading p.start vs) = vs.length := by
  have spec : ∀ u ∈ vs, _ := fun u hu => (Recording.changesOf_spec p rs u (sub.subset hu)).2
  cases p with
  | duration => exact (Change.samples_reading_observe spec _).trans (Nat.zero_add _)
  | provision => exact (Change.samples_reading_observe spec _).trans (Nat.zero_add _)
  | total => exact Metrics.count_reading_increase spec few
  | pullRequests => exact Metrics.count_reading_increase spec few

/-- The sample that tells the number of a series. -/
def sample (p : Part) (s : FamilySeries) : Sample :=
  countSample p.countName s.labels (p.measure s.reading)

/-- Every series has one sample that tells its number. -/
theorem countSamples_series {t : FamilySeries} (h : p.metric.kind.Fits t.reading) :
    (t.samples p.metric.exposedName).filter (fun s => s.name == p.countName) = [p.sample t] := by
  cases p with
  | duration =>
    obtain ⟨g, hg⟩ := h.eq_histogram
    have found := countSamples_histogram "activity_duration_seconds" hg
    rw [sample, hg]
    exact found
  | provision =>
    obtain ⟨g, hg⟩ := h.eq_histogram
    have found := countSamples_histogram "sandbox_provision_duration_seconds" hg
    rw [sample, hg]
    exact found
  | total =>
    obtain ⟨n, hn⟩ := h.eq_counter
    simp [FamilySeries.samples, hn, sample, countSample, Part.metric, Metrics.totalMetric,
      countName, measure, Reading.count]
  | pullRequests =>
    obtain ⟨n, hn⟩ := h.eq_counter
    simp [FamilySeries.samples, hn, sample, countSample, Part.metric, Metrics.pullRequestsMetric,
      countName, measure, Reading.count]

end Part

namespace Metrics

/-- The names of the samples. -/
def sampleNames : List String :=
  ["activity_duration_seconds_bucket", "activity_duration_seconds_sum",
    "activity_duration_seconds_count", "activity_total", "prs_created_total",
    "sandbox_provision_duration_seconds_bucket", "sandbox_provision_duration_seconds_sum",
    "sandbox_provision_duration_seconds_count"]

/-- A collector whose families have names of metrics, or none, but not those of the samples, and
whose labels have names of labels. If it shows a family of the metrics, it describes it, which keeps
it from being accepted beside them. -/
structure Foreign (k : Collector) : Prop where
  name : ∀ x ∈ k.metrics, x.exposedName = "" ∨ isMetricName x.exposedName = true
  labels : ∀ x ∈ k.metrics, ∀ l ∈ x.descriptor.labels, isLabelName l = true
  apart : ∀ x ∈ k.metrics, x.exposedName ∉ sampleNames
  described : ∀ x ∈ k.metrics, ∀ p : Part, x.exposedName = p.metric.exposedName →
    x.exposedName ∈ k.names

/-- A registry shows metrics in which recordings were made, and foreign collectors. -/
structure Listed (m : Metrics) (t : Store) (r : RegistryId) (rs : List Recording) : Prop where
  holds : m.Holds t rs
  offers : ∃ os, (t.registry r).Keeps os ∧ ∀ o ∈ os, t.offer o.collector = o
  accepted : m.collectors ⊆ (t.registry r).collectors
  others : ∀ c ∈ (t.registry r).collectors, c ∉ m.collectors → Foreign (t.collector c)

end Metrics

namespace Part

variable {p q : Part} {n : String}

/-- Only a family of the metrics, or one with the name of a sample, can have a sample of a name. -/
theorem mem_sampleNames_cases (h : p.countName ∈ Family.sampleNames n) :
    n = p.metric.exposedName ∨ n ∈ Metrics.sampleNames := by
  -- a name with another end is none of the four
  have other {x y : String} (hend : y.toList.isSuffixOf x.toList = false) : x ≠ n ++ y := by
    rintro rfl
    rw [String.toList_append] at hend
    have ends : y.toList <:+ n.toList ++ y.toList := List.suffix_append n.toList y.toList
    rw [List.isSuffixOf_iff_suffix.2 ends] at hend
    cases hend
  have same {x y : String} (heq : x ++ y = n ++ y) : n = x :=
    ((String.append_left_inj y).1 heq).symm
  simp only [Family.sampleNames, List.mem_cons, List.not_mem_nil, or_false] at h
  rcases h with rfl | h | h | h
  · right
    cases p <;> decide +kernel
  · cases p <;> exact absurd h (other (by decide +kernel))
  · cases p <;> exact absurd h (other (by decide +kernel))
  · left
    cases p with
    | duration =>
      have whole : countName .duration = "activity_duration_seconds" ++ "_count" := by
        decide +kernel
      exact same (whole.symm.trans h)
    | provision =>
      have whole : countName .provision = "sandbox_provision_duration_seconds" ++ "_count" := by
        decide +kernel
      exact same (whole.symm.trans h)
    | total => exact absurd h (other (by decide +kernel))
    | pullRequests => exact absurd h (other (by decide +kernel))

theorem countName_notMem_sampleNames (h : p ≠ q) :
    p.countName ∉ Family.sampleNames q.metric.exposedName := by
  cases p <;> cases q <;> first | exact absurd rfl h | decide +kernel

end Part

namespace Metrics.Listed

variable {m : Metrics} {t : Store} {r : RegistryId} {rs : List Recording} {p : Part}

theorem place_mem (h : m.Listed t r rs) (p : Part) : m.place p ∈ (t.registry r).collectors :=
  h.accepted (m.place_mem p)

/-- Every family in the registry is that of a part, or of a foreign collector that does not
describe the names of the parts. -/
theorem family_cases (h : m.Listed t r rs) {c : CollectorId} (hc : c ∈ (t.registry r).collectors)
    {f : Family} (hf : f ∈ t.families c) :
    (∃ p, c = m.place p ∧ f = family (p.after rs)) ∨
      (c ∉ m.collectors ∧ Foreign (t.collector c) ∧
        ∃ x ∈ (t.collector c).metrics, f = family x) := by
  by_cases own : c ∈ m.collectors
  · left
    obtain ⟨p, rfl⟩ := exists_place own
    rw [h.holds.families_place p] at hf
    exact ⟨p, rfl, List.mem_singleton.1 hf⟩
  · right
    obtain ⟨x, hx, rfl⟩ := List.mem_map.1 hf
    exact ⟨own, h.others c hc own, x, hx, rfl⟩

/-- The names in a snapshot are made of the characters of names. -/
theorem named (h : m.Listed t r rs) : ∀ f ∈ t.snapshot r, f.Named := by
  refine Family.named_snapshot fun f hf => ?_
  obtain ⟨c, hc, hf⟩ := List.mem_flatMap.1 hf
  rcases h.family_cases hc hf with ⟨p, -, rfl⟩ | ⟨-, foreign, x, hx, rfl⟩
  · refine WellNamed.named_family ⟨fun l hl => ?_, ?_⟩
    · rw [p.descriptor_after] at hl
      exact p.isLabelName_labels hl
    · rw [show (p.after rs).exposedName = p.metric.exposedName from p.name_family rs]
      exact isNameChar_of_isMetricName p.isMetricName_exposedName
  · refine WellNamed.named_family ⟨foreign.labels x hx, ?_⟩
    rcases foreign.name x hx with unnamed | word
    · rw [unnamed]
      exact fun c hc => nomatch hc
    · exact isNameChar_of_isMetricName word

/-- No other collector shows a family with the name of a part. -/
theorem shown_other (h : m.Listed t r rs) {c : CollectorId}
    (hc : c ∈ (t.registry r).collectors)
    (disjoint : (t.offer c).names.Disjoint (t.offer (m.place p)).names) :
    Family.shown p.metric.exposedName (t.families c) = [] := by
  have own := h.holds.exposedName_mem_offer
  rw [Family.shown, List.filter_eq_nil_iff]
  intro f hf shown
  rw [Bool.and_eq_true, beq_iff_eq] at shown
  obtain ⟨name, -⟩ := shown
  rcases h.family_cases hc hf with ⟨q, rfl, rfl⟩ | ⟨-, foreign, x, hx, rfl⟩
  · rw [q.name_family] at name
    have mem := own q
    rw [name] at mem
    exact disjoint mem (own p)
  · have described : x.exposedName ∈ (t.offer c).names := foreign.described x hx p name
    have shared : x.exposedName = p.metric.exposedName := name
    rw [shared] at described
    exact disjoint described (own p)

/-- Under the name of a part, the registry has the family of this part. -/
theorem shown_place (h : m.Listed t r rs) (p : Part) :
    Family.shown p.metric.exposedName ((t.registry r).collectors.flatMap t.families) =
      Family.shown p.metric.exposedName
        [family (p.after rs)] := by
  obtain ⟨os, keeps, current⟩ := h.offers
  have collectors : (t.registry r).collectors = os.map Offer.collector := keeps.collectors
  have place := h.place_mem p
  rw [collectors] at place
  obtain ⟨o, ho, hplace⟩ := List.mem_map.1 place
  have offered : t.offer (m.place p) = o := hplace ▸ current o ho
  rw [Family.shown_flatMap, ← h.holds.families_place p, ← hplace, collectors, List.flatMap_map]
  refine flatMap_eq_of_pairwise keeps.disjoint ho ?_
  intro b hb disjoint
  refine h.shown_other (collectors ▸ List.mem_map_of_mem hb) ?_
  rw [current b hb, offered]
  exact disjoint.elim List.disjoint_symm id

/-- No other family has samples that tell the numbers of a part. -/
theorem countName_notMem_snapshot (h : m.Listed t r rs) {f : Family} (hf : f ∈ t.snapshot r)
    (other : f.name ≠ p.metric.exposedName) : p.countName ∉ Family.sampleNames f.name := by
  obtain ⟨g, hg, name, -, -⟩ := Family.of_mem_snapshot hf
  obtain ⟨c, hc, hg⟩ := List.mem_flatMap.1 hg
  rw [← name] at other ⊢
  rcases h.family_cases hc hg with ⟨q, -, rfl⟩ | ⟨-, foreign, x, hx, rfl⟩
  · rw [q.name_family] at other ⊢
    refine Part.countName_notMem_sampleNames ?_
    rintro rfl
    exact other rfl
  · intro mem
    rcases Part.mem_sampleNames_cases mem with part | sample
    · exact other part
    · exact foreign.apart x hx sample

/-- The samples that tell the numbers of a part are those of its series, in their order. -/
theorem countSamples_snapshot (h : m.Listed t r rs) (p : Part) :
    ((t.snapshot r).flatMap Family.samples).filter (fun s => s.name == p.countName) =
      (p.scraped rs).map p.sample := by
  have other : ∀ f ∈ t.snapshot r, f.name ≠ p.metric.exposedName →
      f.samples.filter (fun s => s.name == p.countName) = [] := by
    intro f hf hne
    rw [List.filter_eq_nil_iff]
    intro s hs named
    refine h.countName_notMem_snapshot (p := p) hf hne ?_
    rw [← beq_iff_eq.1 named]
    exact Family.name_mem_sampleNames (h.named f hf) hs
  have fits : ∀ s ∈ (family (p.after rs)).series,
      p.metric.kind.Fits s.reading := by
    intro s hs
    obtain ⟨x, hx, rfl⟩ := List.mem_map.1 hs
    exact p.fits_reading rs x hx
  rw [List.filter_flatMap, Store.snapshot, Family.flatMap_snapshot other, h.shown_place p,
    ← p.name_family rs]
  rw [Family.united_shown_self, Part.scraped]
  have name := p.name_family rs
  generalize family (p.after rs) = f at fits name
  by_cases empty : f.series = []
  · rw [if_pos empty, empty]
    simp
  · have each : ∀ s ∈ f.series.mergeSort FamilySeries.atMost,
        (s.samples f.name).filter (fun s => s.name == p.countName) =
          [p.sample s] := by
      intro s hs
      rw [name]
      exact Part.countSamples_series (fits s (List.mem_mergeSort.1 hs))
    rw [if_neg empty, Option.map_some, Option.toList_some, List.flatMap_singleton, Family.samples,
      List.filter_flatMap]
    exact (List.flatMap_congr each).trans List.map_eq_flatMap.symm

end Metrics.Listed

end Activity

end WorkerTelemetry
