import WorkerTelemetry.Proofs.Decimal.Enclosing
import WorkerTelemetry.Proofs.Metric.Keeping
import WorkerTelemetry.Proofs.Metric.Naming

/-!
Which lines of a scrape may look alike. The series of one metric are told apart by their labels, the
buckets of one histogram by the texts of their bounds. A registry compares the names of metrics
only, and a histogram shows samples of three more names, so a counter or a gauge may have one of
these names. Main statements: only so can two samples of a scrape have one name and the same labels,
and so they do.
-/

namespace WorkerTelemetry

namespace Decimal

variable {x y : Float}

theorem orderKey_congr (h : x.toBits = y.toBits) : orderKey x = orderKey y := by
  unfold orderKey Binary64.ofFloat
  rw [h]

theorem orderKey_of_isFinite (h : isFinite x = true) : ∃ k, orderKey x = some k := by
  obtain ⟨negative, m, e, value⟩ := finite_of_isFinite h
  unfold orderKey
  rw [value]
  exact ⟨_, rfl⟩

theorem atMost_total (hx : isFinite x = true) (hy : isFinite y = true) :
    atMost x y = true ∨ atMost y x = true := by
  obtain ⟨j, hj⟩ := orderKey_of_isFinite hx
  obtain ⟨k, hk⟩ := orderKey_of_isFinite hy
  simp only [atMost, hj, hk, decide_eq_true_eq]
  exact Int.le_total j k

theorem atMost_of_plainText (hx : isFinite x = true) (hy : isFinite y = true)
    (same : plainText x = plainText y) : atMost y x = true := by
  obtain ⟨k, hk⟩ := orderKey_of_isFinite hx
  have hk' : orderKey y = some k := orderKey_congr (toBits_eq_of_plainText hx hy same) ▸ hk
  simp only [atMost, hk, hk', Int.le_refl, decide_true]

/-- The text of a number is not that of the bucket without a bound. -/
theorem plainText_ne_top (hx : isFinite x = true) : plainText x ≠ "+Inf" := by
  obtain ⟨negative, m, e, value⟩ := finite_of_isFinite hx
  intro same
  rw [plainText_of_finite value, Numeral.toText] at same
  have chars := congrArg String.toList same
  rw [String.toList_ofList] at chars
  have letter : 'I' ∈ (finiteNumeral plain negative m e).chars := by
    rw [chars]
    decide +kernel
  have allowed := Numeral.mem_chars (finiteNumeral_wellFormed plain negative m e) letter
  exact absurd allowed (by decide)

end Decimal

namespace Metric

/-! ### The bounds of a histogram -/

namespace Histogram

open Decimal

variable {bounds : List Float} {h : Histogram}

theorem not_isTop_of_isFinite {x : Float} (hx : isFinite x = true) : isTop x = false := by
  obtain ⟨negative, m, e, value⟩ := finite_of_isFinite hx
  rw [isTop, value]
  rfl

theorem dropTop_of_finite (finite : ∀ x ∈ bounds, isFinite x = true) : dropTop bounds = bounds := by
  have bounded : (bounds.getLast?.map isTop).getD false = false := by
    cases hx : bounds.getLast? with
    | none => rfl
    | some x => exact not_isTop_of_isFinite (finite x (List.mem_of_getLast? hx))
  rw [dropTop, bounded]
  rfl

/-- Bounds without a disorder lie one below the other. -/
theorem pairwise_of_disorder (finite : ∀ x ∈ bounds, isFinite x = true)
    (h : disorder bounds = none) : bounds.Pairwise fun x y => atMost y x = false := by
  induction bounds with
  | nil => exact .nil
  | cons x rest ih =>
    cases rest with
    | nil => exact List.pairwise_singleton _ x
    | cons y rest =>
      obtain ⟨hx, finite⟩ := List.forall_mem_cons.1 finite
      rw [disorder] at h
      split at h
      · cases h
      next below =>
      have below := Bool.not_eq_true _ ▸ below
      have later := ih finite h
      refine List.pairwise_cons.2 ⟨?_, later⟩
      refine List.forall_mem_cons.2 ⟨below, fun z hz => ?_⟩
      rw [Bool.eq_false_iff]
      intro above
      have step : atMost x y = true := by
        refine (atMost_total hx (finite y List.mem_cons_self)).resolve_right ?_
        rw [below]
        exact Bool.false_ne_true
      have between := (List.pairwise_cons.1 later).1 z hz
      rw [atMost_trans above step] at between
      cases between

theorem finite_standardBounds : ∀ x ∈ standardBounds, isFinite x = true := by
  decide +kernel

/-- A histogram that is made has no label of the name that its buckets use, and its bounds lie one
below the other. -/
theorem spec_of_start {labels : List String} (finite : ∀ x ∈ bounds, isFinite x = true)
    (started : startHistogram labels bounds = .ok h) :
    bucketLabel ∉ labels ∧ (∀ x ∈ h.buckets.map Bucket.bound, isFinite x = true) ∧
      (h.buckets.map Bucket.bound).Pairwise fun x y => atMost y x = false := by
  unfold startHistogram at started
  split at started
  · cases started
  next free =>
  dsimp only at started
  have finite' : ∀ x ∈ (if bounds.isEmpty then standardBounds else bounds), isFinite x = true := by
    split
    · exact finite_standardBounds
    · exact finite
  generalize (if bounds.isEmpty then standardBounds else bounds) = used at started finite'
  split at started
  · cases started
  next ordered =>
  cases started
  have kept : (ofBounds (dropTop used)).buckets.map Bucket.bound = used := by
    rw [ofBounds, dropTop_of_finite finite', List.map_map]
    exact List.map_id used
  rw [kept]
  exact ⟨free, finite', pairwise_of_disorder finite' ordered⟩

end Histogram

/-! ### What changes leave as it is -/

/-- What a reading is one of: its kind, with the bounds of its buckets. -/
def Reading.form : Reading → Kind
  | .counter _ => .counter
  | .gauge _ => .gauge
  | .histogram h => .histogram (h.buckets.map Bucket.bound)

/-- A change of what was read, not of what it is one of. -/
def KeepsForm (act : Reading → Reading) : Prop := ∀ r, (act r).form = r.form

theorem keepsForm_increase (n : UInt64) : KeepsForm (.increase n) := by
  intro r
  cases r <;> rfl

theorem keepsForm_observe (x : Float) : KeepsForm (.observe x) := by
  intro r
  cases r with
  | counter n => rfl
  | gauge y => rfl
  | histogram h => exact congrArg Kind.histogram (Histogram.place_bounds x h.buckets)

/-- A counter, a gauge or a histogram as it is made, alone or with labels, and exposed by the name
that it describes. The bounds of its buckets are finite. -/
structure Ordinary (m : Metric) : Prop where
  made : m.IsSingle ∨ m.IsVector
  named : m.exposedName = m.descriptor.name
  finite : ∀ bounds, m.kind = .histogram bounds → ∀ x ∈ bounds, Decimal.isFinite x = true

/-- What is left of this after changes. -/
structure Regular (m : Metric) : Prop where
  formed : m.Formed
  named : m.exposedName = m.descriptor.name
  finite : ∀ bounds, m.kind = .histogram bounds → ∀ x ∈ bounds, Decimal.isFinite x = true
  started : ∀ s ∈ m.series, ∃ r,
    m.kind.start m.descriptor.labels = .ok r ∧ s.reading.form = r.form

theorem Ordinary.regular {m : Metric} (h : m.Ordinary) : m.Regular := by
  have formed : m.Formed := h.made.elim IsSingle.formed IsVector.formed
  refine ⟨formed, h.named, h.finite, ?_⟩
  rcases h.made with ⟨name, help, kind, k, made, same⟩ | vector
  · obtain ⟨r, -, started, rfl⟩ := of_single made
    rw [same]
    exact List.forall_mem_singleton.2 ⟨r, started, rfl⟩
  · rw [vector.series_eq_nil]
    exact fun s hs => nomatch hs

theorem Regular.update {m m' : Metric} (h : m.Regular) {values : List String}
    {act : Reading → Reading} (keeps : KeepsForm act) (changed : m.update values act = .ok m') :
    m'.Regular := by
  have formed := h.formed.update changed
  rcases (update_cases changed).2 with ⟨ss, known, rfl⟩ | ⟨r, -, started, rfl⟩
  · refine ⟨formed, h.named, h.finite, fun s hs => ?_⟩
    rcases of_mem_changeSeries known hs with old | ⟨t, ht, reading⟩
    · exact h.started s old
    · rw [reading, keeps]
      exact h.started t ht
  · refine ⟨formed, h.named, h.finite, fun s hs => ?_⟩
    rcases List.mem_append.1 hs with old | new
    · exact h.started s old
    · rw [List.mem_singleton.1 new]
      exact ⟨r, started, keeps r⟩

theorem Regular.wellNamed {m : Metric} (h : m.Regular) : m.WellNamed := by
  refine .of_fault h.formed.described ?_
  rw [h.named]
  exact isNameChar_of_isMetricName (Descriptor.labelFault_of_fault h.formed.described).1

/-- Collectors of ordinary metrics are made, and readings keep their forms. -/
def Step.Ordinary : Step → Prop
  | .collector k => ∀ m ∈ k.metrics, m.Ordinary
  | .update _ _ _ act => KeepsForm act
  | _ => True

theorem Step.Ordinary.keeps {x : Step} (h : x.Ordinary) : x.Keeps Metric.Regular := by
  cases x with
  | collector k => exact fun m hm => (h m hm).regular
  | registry => trivial
  | update c part values act => exact fun m m' regular changed => regular.update h changed
  | register r c => trivial

namespace Store

variable {s : Store} {r : RegistryId} {x : Step} {xs : List Step}

/-- All metrics are regular. -/
def Regular (s : Store) : Prop := ∀ k ∈ s.collectors, ∀ m ∈ k.metrics, m.Regular

theorem Regular.collector (h : s.Regular) (c : CollectorId) :
    ∀ m ∈ (s.collector c).metrics, m.Regular :=
  Everywhere.collector h c

theorem regular_run (hxs : ∀ x ∈ xs, x.Ordinary) : (run {} xs).Regular :=
  (Everywhere.start Metric.Regular).run fun x hx => (hxs x hx).keeps

theorem Regular.named (h : s.Regular) (r : RegistryId) : s.Named r :=
  fun c _ m hm => (h.collector c m hm).named

end Store

/-! ### The names of samples -/

/-- What a histogram appends to its name for the names of its samples. -/
def suffixes : List String := ["_bucket", "_sum", "_count"]

/-- The names of the samples that a histogram shows. -/
def histogramNames (name : String) : List String := suffixes.map (name ++ ·)

theorem eq_of_mem_histogramNames {m n p : String} (hm : p ∈ histogramNames m)
    (hn : p ∈ histogramNames n) : m = n := by
  obtain ⟨a, ha, rfl⟩ := List.mem_map.1 hm
  obtain ⟨b, hb, same⟩ := List.mem_map.1 hn
  have apart : ∀ a ∈ suffixes, ∀ b ∈ suffixes, a.toList <:+ b.toList → a = b := by
    decide +kernel
  have chars := congrArg String.toList same
  rw [String.toList_append, String.toList_append] at chars
  obtain rfl : a = b := by
    rcases List.append_eq_append_iff.1 chars with ⟨cs, -, tail⟩ | ⟨cs, -, tail⟩
    · exact apart a ha b hb ⟨cs, tail.symm⟩
    · exact (apart b hb a ha ⟨cs, tail.symm⟩).symm
  exact String.toList_inj.1 (List.append_cancel_right chars).symm

/-- The names of the samples that a metric of a kind shows. -/
def Kind.sampleNames (name : String) : Kind → List String
  | .histogram _ => histogramNames name
  | _ => [name]

theorem Kind.sampleNames_of_histogram {k : Kind} {name : String} (h : k.name = "histogram") :
    k.sampleNames name = histogramNames name := by
  cases k with
  | histogram bounds => rfl
  | _ => exact absurd h (by decide)

theorem Kind.sampleNames_of_other {k : Kind} {name : String} (h : k.name ≠ "histogram") :
    k.sampleNames name = [name] := by
  cases k with
  | histogram bounds => exact absurd rfl h
  | _ => rfl

theorem Kind.sampleNames_start {k : Kind} {labels : List String} {r : Reading}
    (h : k.start labels = .ok r) (name : String) :
    r.form.sampleNames name = k.sampleNames name := by
  cases k with
  | counter => cases h; rfl
  | gauge => cases h; rfl
  | histogram bounds =>
    cases hs : startHistogram labels bounds with
    | error e => rw [start, hs] at h; cases h
    | ok g => rw [start, hs] at h; cases h; rfl

section Samples

variable {name : String} {labels : List (String × String)} {h : Histogram} {t : FamilySeries}
  {x : Sample}

theorem mem_samples_histogram (hx : x ∈ FamilySeries.samples name ⟨labels, .histogram h⟩) :
    (∃ bound n, x = countSample (name ++ "_bucket") (labels ++ [(bucketLabel, bound)]) n) ∨
      x = ⟨name ++ "_sum", labels, Decimal.plainText h.sum⟩ ∨
      x = countSample (name ++ "_count") labels h.samples := by
  rcases List.mem_append.1 hx with bucket | other
  · exact .inl (Family.mem_bucketSamples bucket)
  · exact .inr (by simpa using other)

theorem name_mem_of_mem_samples (hx : x ∈ t.samples name) :
    x.name ∈ t.reading.form.sampleNames name := by
  obtain ⟨labels, reading⟩ := t
  cases reading with
  | counter n => exact List.mem_singleton.2 (congrArg Sample.name (List.mem_singleton.1 hx))
  | gauge y => exact List.mem_singleton.2 (congrArg Sample.name (List.mem_singleton.1 hx))
  | histogram h =>
    rcases mem_samples_histogram hx with ⟨bound, n, rfl⟩ | rfl | rfl
    · exact List.mem_map_of_mem (a := "_bucket") (by decide)
    · exact List.mem_map_of_mem (a := "_sum") (by decide)
    · exact List.mem_map_of_mem (a := "_count") (by decide)

/-- The labels of a series are those of its samples that its metric has names for. -/
theorem filter_labels_of_mem_samples {names : List String} (hx : x ∈ t.samples name)
    (known : ∀ l ∈ t.labels, l.1 ∈ names)
    (free : ∀ h, t.reading = .histogram h → bucketLabel ∉ names) :
    x.labels.filter (fun l => decide (l.1 ∈ names)) = t.labels := by
  obtain ⟨labels, reading⟩ := t
  have all : labels.filter (fun l => decide (l.1 ∈ names)) = labels :=
    List.filter_eq_self.2 fun l hl => decide_eq_true (known l hl)
  cases reading with
  | counter n => rwa [List.mem_singleton.1 hx]
  | gauge y => rwa [List.mem_singleton.1 hx]
  | histogram h =>
    rcases mem_samples_histogram hx with ⟨bound, n, rfl⟩ | rfl | rfl
    · have new := free h rfl
      simpa [countSample, new] using all
    · exact all
    · exact all

/-! ### Samples that look alike -/

/-- Samples with one name and the same labels, whatever their order. -/
def Sample.Same (s t : Sample) : Prop := s.name = t.name ∧ ∀ l, l ∈ s.labels ↔ l ∈ t.labels

theorem Sample.Same.symm {s t : Sample} (h : s.Same t) : t.Same s :=
  ⟨h.1.symm, fun l => (h.2 l).symm⟩

theorem eq_of_same_bucket {bound bound' : String} {n n' : Nat} {bucketName : String}
    (free : ∀ l ∈ labels, l.1 ≠ bucketLabel)
    (same : (countSample bucketName (labels ++ [(bucketLabel, bound)]) n).Same
      (countSample bucketName (labels ++ [(bucketLabel, bound')]) n')) : bound = bound' := by
  have found : (bucketLabel, bound) ∈ labels ++ [(bucketLabel, bound')] :=
    (same.2 _).1 (List.mem_append_right _ List.mem_cons_self)
  rcases List.mem_append.1 found with early | last
  · exact absurd rfl (free _ early)
  · exact congrArg Prod.snd (List.mem_singleton.1 last)

/-- The samples of the buckets of one histogram do not look alike. -/
theorem pairwise_bucketSamples (free : ∀ l ∈ labels, l.1 ≠ bucketLabel)
    (finite : ∀ x ∈ h.buckets.map Bucket.bound, Decimal.isFinite x = true)
    (ordered : (h.buckets.map Bucket.bound).Pairwise fun x y => Decimal.atMost y x = false) :
    (bucketSamples name labels h).Pairwise fun s t => ¬ s.Same t := by
  have top : (h.buckets.any fun b => Histogram.isTop b.bound) = false := by
    refine List.any_eq_false.2 fun b hb => ?_
    rw [Histogram.not_isTop_of_isFinite (finite b.bound (List.mem_map_of_mem hb))]
    exact Bool.false_ne_true
  have bounds : h.cumulative.map (·.1) = h.buckets.map Bucket.bound :=
    Histogram.cumulate_bounds 0 h.buckets
  rw [← bounds] at finite ordered
  rw [List.forall_mem_map] at finite
  have texts : h.cumulative.Pairwise fun b c => Decimal.plainText b.1 ≠ Decimal.plainText c.1 := by
    refine (List.pairwise_map.1 ordered).imp_of_mem fun hb hc below same => ?_
    rw [Decimal.atMost_of_plainText (finite _ hb) (finite _ hc) same] at below
    cases below
  rw [bucketSamples, top]
  refine List.pairwise_append.2 ⟨?_, List.pairwise_singleton _ _, ?_⟩
  · refine List.pairwise_map.2 (texts.imp fun apart same => apart ?_)
    exact eq_of_same_bucket free same
  · intro s hs t ht same
    obtain ⟨b, hb, rfl⟩ := List.mem_map.1 hs
    rw [List.mem_singleton.1 ht] at same
    exact Decimal.plainText_ne_top (finite b hb) (eq_of_same_bucket free same)

/-- The samples of one histogram do not look alike. -/
theorem pairwise_samples_histogram (free : ∀ l ∈ labels, l.1 ≠ bucketLabel)
    (finite : ∀ x ∈ h.buckets.map Bucket.bound, Decimal.isFinite x = true)
    (ordered : (h.buckets.map Bucket.bound).Pairwise fun x y => Decimal.atMost y x = false) :
    (FamilySeries.samples name ⟨labels, .histogram h⟩).Pairwise fun s t => ¬ s.Same t := by
  have other {a b : String} (ne : a ≠ b) : name ++ a ≠ name ++ b := by
    intro same
    have chars := congrArg String.toList same
    rw [String.toList_append, String.toList_append] at chars
    exact ne (String.toList_inj.1 (List.append_cancel_left chars))
  refine List.pairwise_append.2 ⟨pairwise_bucketSamples free finite ordered, ?_, ?_⟩
  · exact List.pairwise_pair.2 fun same => other (by decide) same.1
  · intro s hs t ht same
    obtain ⟨bound, n, rfl⟩ := Family.mem_bucketSamples hs
    rcases List.mem_cons.1 ht with rfl | ht
    · exact other (by decide) same.1
    · rw [List.mem_singleton.1 ht] at same
      exact other (by decide) same.1

end Samples

namespace Regular

variable {m : Metric} {s : Series}

theorem sampleNames_form (h : m.Regular) (hs : s ∈ m.series) (name : String) :
    s.reading.form.sampleNames name = m.kind.sampleNames name := by
  obtain ⟨r, started, form⟩ := h.started s hs
  rw [form, Kind.sampleNames_start started]

theorem spec_of_histogram (h : m.Regular) (hs : s ∈ m.series) {g : Histogram}
    (reading : s.reading = .histogram g) : bucketLabel ∉ m.descriptor.labels ∧
      (∀ x ∈ g.buckets.map Bucket.bound, Decimal.isFinite x = true) ∧
        (g.buckets.map Bucket.bound).Pairwise fun x y => Decimal.atMost y x = false := by
  obtain ⟨r, started, form⟩ := h.started s hs
  rw [reading] at form
  cases kind : m.kind with
  | counter => rw [kind] at started; cases started; cases form
  | gauge => rw [kind] at started; cases started; cases form
  | histogram bounds =>
    rw [kind, Kind.start] at started
    cases hg : startHistogram m.descriptor.labels bounds with
    | error e => rw [hg] at started; cases started
    | ok g' =>
      rw [hg] at started
      cases started
      have same : g.buckets.map Bucket.bound = g'.buckets.map Bucket.bound :=
        Kind.histogram.inj form
      rw [same]
      exact Histogram.spec_of_start (h.finite bounds kind) hg

/-- The samples of one series do not look alike. -/
theorem pairwise_samples_series (h : m.Regular) (hs : s ∈ m.series) (name : String) :
    (FamilySeries.samples name ⟨labelPairs m.descriptor.labels s.values, s.reading⟩).Pairwise
      fun s t => ¬ s.Same t := by
  cases reading : s.reading with
  | counter n => exact List.pairwise_singleton _ _
  | gauge x => exact List.pairwise_singleton _ _
  | histogram g =>
    obtain ⟨free, finite, ordered⟩ := h.spec_of_histogram hs reading
    refine pairwise_samples_histogram (fun l hl own => free ?_) finite ordered
    exact own ▸ fst_mem_of_mem_labelPairs hl

/-- Samples of one metric that look alike are of one series. -/
theorem values_eq_of_same (h : m.Regular) {t : Series} (hs : s ∈ m.series) (ht : t ∈ m.series)
    {name : String} {x y : Sample}
    (hx : x ∈ FamilySeries.samples name ⟨labelPairs m.descriptor.labels s.values, s.reading⟩)
    (hy : y ∈ FamilySeries.samples name ⟨labelPairs m.descriptor.labels t.values, t.reading⟩)
    (same : x.Same y) : s.values = t.values := by
  have own := filter_labels_of_mem_samples hx (fun l hl => fst_mem_of_mem_labelPairs hl)
    fun g hg => (h.spec_of_histogram hs hg).1
  have own' := filter_labels_of_mem_samples hy (fun l hl => fst_mem_of_mem_labelPairs hl)
    fun g hg => (h.spec_of_histogram ht hg).1
  dsimp only at own own'
  refine eq_of_labelPairs_subset (Descriptor.nodup_labels h.formed.described)
    (h.formed.length _ (List.mem_map_of_mem hs)) (h.formed.length _ (List.mem_map_of_mem ht)) ?_
  intro l hl
  rw [← own] at hl
  rw [← own']
  obtain ⟨found, named⟩ := List.mem_filter.1 hl
  exact List.mem_filter.2 ⟨(same.2 l).1 found, named⟩

/-- The samples of one metric do not look alike. -/
theorem pairwise_samples (h : m.Regular) :
    (family m).ordered.samples.Pairwise fun s t => ¬ s.Same t := by
  have unordered : (family m).samples.Pairwise fun s t => ¬ s.Same t := by
    refine List.pairwise_flatMap.2 ⟨?_, ?_⟩
    · intro t ht
      obtain ⟨s, hs, rfl⟩ := List.mem_map.1 ht
      exact h.pairwise_samples_series hs _
    · refine List.pairwise_map.2 ((List.pairwise_map.1 h.formed.distinct).imp_of_mem ?_)
      intro s t hs ht keys x hx y hy same
      exact keys (congrArg Series.key (h.values_eq_of_same hs ht hx hy same))
  have perm : (family m).ordered.samples.Perm (family m).samples :=
    (List.mergeSort_perm (family m).series _).flatMap_right _
  exact perm.symm.pairwise unordered fun apart same => apart same.symm

theorem name_mem_sampleNames (h : m.Regular) {x : Sample} (hx : x ∈ (family m).ordered.samples) :
    x.name ∈ m.kind.sampleNames m.descriptor.name := by
  obtain ⟨t, ht, hx⟩ := List.mem_flatMap.1 hx
  obtain ⟨s, hs, rfl⟩ := List.mem_map.1 (List.mem_mergeSort.1 ht)
  have name := name_mem_of_mem_samples hx
  rw [h.sampleNames_form hs] at name
  exact h.named ▸ name

end Regular

/-- A family that is not a histogram and has the name of samples that a histogram shows. -/
structure Family.Shadows (g f : Family) : Prop where
  histogram : f.type = "histogram"
  other : g.type ≠ "histogram"
  name : g.name ∈ histogramNames f.name

/-- Samples of two metrics have a name in common only if one of the metrics has the name of samples
that the other shows. -/
theorem shadows_of_name {m k : Metric} (hm : m.Regular) (hk : k.Regular)
    (names : m.descriptor.name ≠ k.descriptor.name) {p : String}
    (hp : p ∈ m.kind.sampleNames m.descriptor.name)
    (hp' : p ∈ k.kind.sampleNames k.descriptor.name) :
    (family m).ordered.Shadows (family k).ordered ∨
      (family k).ordered.Shadows (family m).ordered := by
  have name {m : Metric} (h : m.Regular) : (family m).ordered.name = m.descriptor.name := h.named
  by_cases type : m.kind.name = "histogram" <;> by_cases type' : k.kind.name = "histogram"
  · rw [Kind.sampleNames_of_histogram type] at hp
    rw [Kind.sampleNames_of_histogram type'] at hp'
    exact absurd (eq_of_mem_histogramNames hp hp') names
  · rw [Kind.sampleNames_of_histogram type] at hp
    rw [Kind.sampleNames_of_other type', List.mem_singleton] at hp'
    exact .inr ⟨type, type', by rwa [name hm, name hk, ← hp']⟩
  · rw [Kind.sampleNames_of_other type, List.mem_singleton] at hp
    rw [Kind.sampleNames_of_histogram type'] at hp'
    exact .inl ⟨type', type, by rwa [name hm, name hk, ← hp]⟩
  · rw [Kind.sampleNames_of_other type, List.mem_singleton] at hp
    rw [Kind.sampleNames_of_other type', List.mem_singleton] at hp'
    exact absurd (hp.symm.trans hp') names

/-! ### Runs -/

namespace Store

variable {s : Store} {r : RegistryId} {xs : List Step}

theorem exists_metric_of_mem_snapshot (regular : s.Regular) (distinct : (s.heldNames r).Nodup)
    {f : Family} (hf : f ∈ s.snapshot r) : ∃ m : Metric, m.Regular ∧ f = (family m).ordered := by
  obtain ⟨c, -, m, hm, -, rfl⟩ := (mem_snapshot_of_named (regular.named r) distinct).1 hf
  exact ⟨m, regular.collector c m hm, rfl⟩

/-- The samples of ordinary metrics are read from a scrape. -/
theorem samplesOf_run (ordinary : ∀ x ∈ xs, x.Ordinary) {text : String}
    (encoded : (run {} xs).encode r = .ok text) :
    Family.samplesOf text = ((run {} xs).snapshot r).flatMap Family.samples := by
  have wellNamed := Everywhere.imp (regular_run ordinary) fun m => Metric.Regular.wellNamed
  rw [Family.eq_textOfLines_of_exposition encoded]
  exact Family.samplesOf_exposition (named_snapshot fun c _ => wellNamed.collector c)

/-- In a scrape of ordinary metrics, samples of one family do not look alike, and those of two
families only if one of these is no histogram and has the name of samples that the other shows. So
without such families no two lines have one name and the same labels. -/
theorem samples_apart (ordinary : ∀ x ∈ xs, x.Ordinary) (r : RegistryId) {text : String}
    (encoded : (run {} xs).encode r = .ok text) :
    let fs := (run {} xs).snapshot r
    Family.samplesOf text = fs.flatMap Family.samples ∧
      (∀ f ∈ fs, f.samples.Pairwise fun s t => ¬ s.Same t) ∧
      (fs.Pairwise fun f g => (∃ s ∈ f.samples, ∃ t ∈ g.samples, s.Same t) →
        f.Shadows g ∨ g.Shadows f) ∧
      ((∀ f ∈ fs, ∀ g ∈ fs, ¬ f.Shadows g) →
        (Family.samplesOf text).Pairwise fun s t => ¬ s.Same t) := by
  intro fs
  have metric {f : Family} (hf : f ∈ fs) : ∃ m : Metric, m.Regular ∧ f = (family m).ordered :=
    exists_metric_of_mem_snapshot (regular_run ordinary) (heldNames_run r xs).1 hf
  have read := samplesOf_run ordinary encoded
  have own : ∀ f ∈ fs, f.samples.Pairwise fun s t => ¬ s.Same t := by
    intro f hf
    obtain ⟨m, hm, rfl⟩ := metric hf
    exact hm.pairwise_samples
  have across : fs.Pairwise fun f g => (∃ s ∈ f.samples, ∃ t ∈ g.samples, s.Same t) →
      f.Shadows g ∨ g.Shadows f := by
    refine (List.pairwise_map.1 (Family.names_snapshot _)).imp_of_mem ?_
    rintro f g hf hg lt ⟨s, hs, t, ht, same⟩
    obtain ⟨m, hm, rfl⟩ := metric hf
    obtain ⟨k, hk, rfl⟩ := metric hg
    refine shadows_of_name hm hk ?_ (hm.name_mem_sampleNames hs)
      (same.1 ▸ hk.name_mem_sampleNames ht)
    intro names
    have same : (family m).ordered.name = (family k).ordered.name :=
      hm.named.trans (names.trans hk.named.symm)
    rw [same] at lt
    exact String.lt_irrefl _ lt
  refine ⟨read, own, across, fun none => ?_⟩
  rw [read]
  refine List.pairwise_flatMap.2 ⟨own, across.imp_of_mem fun hf hg alike s hs t ht same => ?_⟩
  rcases alike ⟨s, hs, t, ht, same⟩ with shadows | shadows
  · exact none _ hf _ hg shadows
  · exact none _ hg _ hf shadows

/-- A histogram, and a counter of a given name, in one registry. -/
def latencySteps (name : String) : List Step :=
  [.collector ⟨[⟨⟨"latency", "time taken", []⟩, "latency", .histogram [1.0],
      [⟨[], .histogram (.ofBounds [1.0])⟩]⟩]⟩,
    .collector ⟨[⟨⟨name, "answers", []⟩, name, .counter, [⟨[], .counter 0⟩]⟩]⟩,
    .registry, .register ⟨0⟩ ⟨0⟩, .register ⟨0⟩ ⟨1⟩,
    .update ⟨0⟩ 0 [] (.observe 0.5), .update ⟨1⟩ 0 [] (.increase 1)]

theorem ordinary_latencySteps {name : String} (h : name ∈ ["latency_count", "answers_total"]) :
    ∀ x ∈ latencySteps name, x.Ordinary := by
  have histogram : ∀ m ∈ [(⟨⟨"latency", "time taken", []⟩, "latency", .histogram [1.0],
      [⟨[], .histogram (.ofBounds [1.0])⟩]⟩ : Metric)], m.Ordinary := by
    refine List.forall_mem_singleton.2
      ⟨.inl ⟨"latency", "time taken", .histogram [1.0], _, rfl, rfl⟩, rfl, ?_⟩
    rintro bounds ⟨⟩
    decide +kernel
  have counter : ∀ m ∈ [(⟨⟨name, "answers", []⟩, name, .counter, [⟨[], .counter 0⟩]⟩ : Metric)],
      m.Ordinary := by
    refine List.forall_mem_singleton.2 ⟨.inl ?_, rfl, fun bounds kind => nomatch kind⟩
    rcases List.mem_pair.1 h with rfl | rfl
    · exact ⟨"latency_count", "answers", .counter, _, rfl, rfl⟩
    · exact ⟨"answers_total", "answers", .counter, _, rfl, rfl⟩
  simp [latencySteps, Step.Ordinary, keepsForm_observe, keepsForm_increase, histogram, counter]

theorem exists_encode_latencySteps {name : String} (h : name ∈ ["latency_count", "answers_total"]) :
    ∃ text, (run {} (latencySteps name)).encode ⟨0⟩ = .ok text := by
  have named : (((run {} (latencySteps name)).snapshot ⟨0⟩).any fun f => f.name == "") = false := by
    rcases List.mem_pair.1 h with rfl | rfl <;> decide +kernel
  exact ⟨_, Family.exposition_of_named named⟩

/-- A counter of another name has lines of its own. -/
theorem samples_apart_answers : ∃ text,
    (run {} (latencySteps "answers_total")).encode ⟨0⟩ = .ok text ∧
      (Family.samplesOf text).map Sample.name =
        ["answers_total", "latency_bucket", "latency_bucket", "latency_sum", "latency_count"] ∧
      (Family.samplesOf text).Pairwise fun s t => ¬ s.Same t := by
  have listed : "answers_total" ∈ ["latency_count", "answers_total"] := by decide
  obtain ⟨text, encoded⟩ := exists_encode_latencySteps listed
  obtain ⟨read, -, -, apart⟩ := samples_apart (ordinary_latencySteps listed) ⟨0⟩ encoded
  refine ⟨text, encoded, ?_, apart ?_⟩
  · rw [read]
    decide +kernel
  · rintro f hf g hg ⟨histogram, other, name⟩
    have names : ∀ f ∈ (run {} (latencySteps "answers_total")).snapshot ⟨0⟩,
        ∀ g ∈ (run {} (latencySteps "answers_total")).snapshot ⟨0⟩,
          g.name ∉ histogramNames f.name := by
      decide +kernel
    exact names g hg f hf name

/-- A counter that has the name of the number of observations of a histogram is accepted, and has a
line that looks like that of this number. -/
theorem same_samples_latency : ∃ xs text, (∀ x ∈ xs, x.Ordinary) ∧
    ((run {} xs).registry ⟨0⟩).metricNames = ["latency", "latency_count"] ∧
      (run {} xs).encode ⟨0⟩ = .ok text ∧
        ¬ (Family.samplesOf text).Pairwise fun s t => ¬ s.Same t := by
  have listed : "latency_count" ∈ ["latency_count", "answers_total"] := by decide
  have ordinary := ordinary_latencySteps listed
  obtain ⟨text, encoded⟩ := exists_encode_latencySteps listed
  have samples : Family.samplesOf text =
      [⟨"latency_bucket", [("le", "1")], "1"⟩, ⟨"latency_bucket", [("le", "+Inf")], "1"⟩,
        ⟨"latency_sum", [], "0.5"⟩, ⟨"latency_count", [], "1"⟩, ⟨"latency_count", [], "1"⟩] := by
    rw [samplesOf_run ordinary encoded]
    decide +kernel
  refine ⟨_, text, ordinary, by decide +kernel, encoded, ?_⟩
  rw [samples]
  intro apart
  have last := (List.pairwise_cons.1 (List.pairwise_cons.1 (List.pairwise_cons.1
    (List.pairwise_cons.1 apart).2).2).2).1
  exact last _ List.mem_cons_self ⟨rfl, fun _ => Iff.rfl⟩

end Store

end Metric

end WorkerTelemetry
