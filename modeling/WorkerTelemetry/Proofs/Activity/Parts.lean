import Mathlib.Data.List.Nodup
import WorkerTelemetry.Proofs.Activity.Recordings
import WorkerTelemetry.Proofs.Metric.Steps

/-!
The four metrics of a set after recordings. A metric with labels has one series for every ending
that leads, that is, one which comes before all others with its fingerprint; a metric without labels
has one series. Main statements: these, and what the series look like in a scrape.
-/

namespace WorkerTelemetry.Activity

open WorkerTelemetry.Metric

namespace Ending

variable {e : Ending} {es : List Ending}

/-- The labels of the series of an ending. -/
def labels (e : Ending) : List (String × String) :=
  [(kindLabel, e.1), (outcomeLabel, e.2.label)]

/-- An ending that comes before all others with its fingerprint. -/
def Leads (es : List Ending) (e : Ending) : Prop := (sharing es e).head? = some e

instance (es : List Ending) (e : Ending) : Decidable (e.Leads es) :=
  inferInstanceAs (Decidable (_ = _))

theorem Leads.mem (h : e.Leads es) : e ∈ es :=
  (List.mem_filter.1 (List.mem_of_mem_head? h)).1

theorem tally_of_leads (h : e.Leads es) : e.tally es = (sharing es e).length := if_pos h

/-- An ending that shares its fingerprint with no other leads as soon as it is recorded. -/
theorem leads_iff_mem (alone : ∀ f ∈ es, f.key = e.key → f = e) : e.Leads es ↔ e ∈ es := by
  refine ⟨Leads.mem, fun he => ?_⟩
  have shared : e ∈ sharing es e := List.mem_filter.2 ⟨he, beq_self_eq_true e.key⟩
  cases hs : sharing es e with
  | nil =>
    rw [hs] at shared
    cases shared
  | cons f fs =>
    have first : f ∈ sharing es e := hs ▸ List.mem_cons_self
    obtain ⟨hf, key⟩ := List.mem_filter.1 first
    rw [Leads, hs, alone f hf (eq_of_beq key)]
    rfl

theorem labels_injective {f : Ending} (h : e.labels = f.labels) : e = f := by
  simp only [labels, List.cons.injEq, Prod.mk.injEq, true_and, and_true] at h
  exact Prod.ext h.1 (Outcome.label_injective h.2)

end Ending

namespace Part

variable {p : Part} {rs : List Recording}

/-- What the first reading of a series is. -/
def start : Part → Reading
  | .duration => .histogram (.ofBounds durationBounds)
  | .provision => .histogram (.ofBounds provisionBounds)
  | .total | .pullRequests => .counter 0

theorem start_eq (p : Part) : p.metric.kind.start p.metric.descriptor.labels = .ok p.start := by
  cases p <;> rfl

/-- A part after recordings. -/
def after (p : Part) (rs : List Recording) : Metric :=
  p.metric.after (Recording.changesOf p rs)

theorem after_eq (p : Part) (rs : List Recording) :
    p.after rs =
      { p.metric with
        series := (Recording.changesOf p rs).foldl (grow p.start) p.metric.series } :=
  after_eq_grow p.start_eq fun u hu => (Recording.changesOf_spec p rs u hu).1

theorem descriptor_after (p : Part) (rs : List Recording) :
    (p.after rs).descriptor = p.metric.descriptor := by
  rw [after_eq]

theorem name_family (p : Part) (rs : List Recording) :
    (family (p.after rs)).name = p.metric.exposedName := by
  rw [after_eq]
  rfl

/-- The series of a part after recordings, as a scrape shows them. -/
def scraped (p : Part) (rs : List Recording) : List FamilySeries :=
  (family (p.after rs)).series.mergeSort FamilySeries.atMost

/-- The series of an ending, as it is found by its values. -/
def found (p : Part) (rs : List Recording) (e : Ending) : Option Series :=
  (p.after rs).series.find? fun s => decide (s.values = e.values)

/-- A series as it is shown. -/
def shown (p : Part) (s : Series) : FamilySeries :=
  ⟨labelPairs p.metric.descriptor.labels s.values, s.reading⟩

theorem series_family (p : Part) (rs : List Recording) :
    (family (p.after rs)).series = (p.after rs).series.map p.shown := by
  rw [family, p.descriptor_after]
  rfl

section Labelled

variable (labelled : p.metric.descriptor.labels = [kindLabel, outcomeLabel])

include labelled

theorem values_changesOf : (Recording.changesOf p rs).map Change.values =
    (rs.filterMap Recording.ending?).map Ending.values := by
  cases p with
  | duration => exact Recording.values_changesOf_duration rs
  | total => exact Recording.values_changesOf_total rs
  | pullRequests => cases labelled
  | provision => cases labelled

theorem grown : Grown p.start (Recording.changesOf p rs) (p.after rs).series := by
  have none : p.metric.series = [] := by
    cases p with
    | duration => rfl
    | total => rfl
    | pullRequests => cases labelled
    | provision => cases labelled
  rw [after_eq, none]
  exact Grown.foldl_grow p.start (Recording.changesOf p rs)

theorem map_among (e : Ending) :
    (Change.among (Recording.changesOf p rs) e.key).map Change.values =
      (Ending.sharing (rs.filterMap Recording.ending?) e).map Ending.values :=
  Metrics.values_among (values_changesOf labelled) e

theorem head_among_iff (e : Ending) :
    (Change.among (Recording.changesOf p rs) e.key).head?.map Change.values = some e.values ↔
      e.Leads (rs.filterMap Recording.ending?) := by
  rw [← List.head?_map, map_among labelled, List.head?_map, Option.map_eq_some_iff, Ending.Leads]
  constructor
  · rintro ⟨f, hf, hfe⟩
    rw [hf, Ending.values_injective hfe]
  · intro he
    exact ⟨e, he, rfl⟩

/-- An ending that leads has a series, which has all changes with its fingerprint. -/
theorem reading_found (e : Ending) : (p.found rs e).map Series.reading =
    if e.Leads (rs.filterMap Recording.ending?) then
      some (Change.reading p.start (Change.among (Recording.changesOf p rs) e.key))
    else none := by
  rw [Part.found, (grown labelled).find_reading]
  exact if_congr (head_among_iff labelled e) rfl rfl

/-- Every series is that of an ending that leads. -/
theorem exists_leads {s : Series} (hs : s ∈ (p.after rs).series) :
    ∃ e : Ending, e.Leads (rs.filterMap Recording.ending?) ∧ s.values = e.values := by
  have led := (grown labelled).led s hs
  obtain ⟨u, hu, values⟩ := (grown labelled).exists_change hs
  have recorded : u.values ∈ (rs.filterMap Recording.ending?).map Ending.values := by
    rw [← values_changesOf labelled]
    exact List.mem_map_of_mem hu
  obtain ⟨e, -, he⟩ := List.mem_map.1 recorded
  have same : s.values = e.values := values.symm.trans he.symm
  rw [same] at led
  exact ⟨e, (head_among_iff labelled e).1 led, same⟩

/-- The labels of a series are those of the ending that leads it. -/
theorem labels_shown {s : Series} (hs : s ∈ (p.after rs).series) :
    ∃ e : Ending, e.Leads (rs.filterMap Recording.ending?) ∧ s.values = e.values ∧
      (p.shown s).labels = e.labels := by
  obtain ⟨e, leads, values⟩ := exists_leads labelled hs
  refine ⟨e, leads, values, ?_⟩
  rw [shown, labelled, values]
  exact Metrics.labelPairs_two e.1 e.2.label

theorem labels_found {e : Ending} {s : Series} (h : p.found rs e = some s) :
    (p.shown s).labels = e.labels := by
  obtain ⟨f, -, values, labels⟩ := labels_shown labelled (List.mem_of_find?_eq_some h)
  have found : s.values = e.values := by simpa using List.find?_some h
  rw [labels, Ending.values_injective (values.symm.trans found)]

end Labelled

/-- A part without labels has one series. -/
theorem series_unlabelled (unlabelled : p.metric.descriptor.labels = []) :
    (p.after rs).series = [⟨[], Change.reading p.start (Recording.changesOf p rs)⟩] := by
  have one : p.metric.series = [⟨[], p.start⟩] := by
    cases p with
    | duration => cases unlabelled
    | total => cases unlabelled
    | pullRequests => rfl
    | provision => rfl
  have values : ∀ u ∈ Recording.changesOf p rs, u.values = [] := by
    intro u hu
    have length := (Recording.changesOf_spec p rs u hu).1
    rwa [unlabelled, List.length_nil, List.length_eq_zero_iff] at length
  rw [after_eq, one]
  exact foldl_grow_unlabelled p.start p.start values

theorem labelled_or_unlabelled (p : Part) :
    p.metric.descriptor.labels = [kindLabel, outcomeLabel] ∨ p.metric.descriptor.labels = [] := by
  cases p with
  | duration => exact .inl rfl
  | total => exact .inl rfl
  | pullRequests => exact .inr rfl
  | provision => exact .inr rfl

theorem distinct (p : Part) (rs : List Recording) :
    (p.after rs).series.Pairwise fun s t => Series.key s.values ≠ Series.key t.values := by
  rcases p.labelled_or_unlabelled with labelled | unlabelled
  · exact (grown labelled).distinct
  · rw [series_unlabelled unlabelled]
    exact List.pairwise_singleton _ _

theorem eq_of_values {s t : Series} (hs : s ∈ (p.after rs).series) (ht : t ∈ (p.after rs).series)
    (values : s.values = t.values) : s = t := by
  have nodup : ((p.after rs).series.map fun s => Series.key s.values).Nodup :=
    List.pairwise_map.2 (p.distinct rs)
  exact List.inj_on_of_nodup_map nodup hs ht (congrArg Series.key values)

/-- The series of an ending is what is found of it. -/
theorem found_of_mem {e : Ending} {s : Series} (hs : s ∈ (p.after rs).series)
    (values : s.values = e.values) : p.found rs e = some s := by
  have some_found : (p.found rs e).isSome :=
    List.find?_isSome.2 ⟨s, hs, decide_eq_true values⟩
  obtain ⟨t, ht⟩ := Option.isSome_iff_exists.1 some_found
  have same : t.values = e.values := by simpa using List.find?_some ht
  rw [ht, eq_of_values (List.mem_of_find?_eq_some ht) hs (same.trans values.symm)]

end Part

namespace Metrics

theorem exists_place {m : Metrics} {c : CollectorId} (h : c ∈ m.collectors) :
    ∃ p, c = m.place p := by
  simp only [collectors, List.mem_cons, List.not_mem_nil, or_false] at h
  rcases h with rfl | rfl | rfl | rfl
  · exact ⟨.duration, rfl⟩
  · exact ⟨.total, rfl⟩
  · exact ⟨.pullRequests, rfl⟩
  · exact ⟨.provision, rfl⟩

namespace Holds

variable {m : Metrics} {t : Store} {rs : List Recording}

/-- The family of a part. -/
theorem families_place (h : m.Holds t rs) (p : Part) :
    t.families (m.place p) = [family (p.after rs)] := by
  rw [Store.families, h.collector p]
  rfl

theorem descriptors_place (h : m.Holds t rs) (p : Part) :
    (t.collector (m.place p)).descriptors = [p.metric.descriptor] := by
  have here : t.collector (m.place p) = ⟨[p.after rs]⟩ := h.collector p
  rw [here, Collector.descriptors, List.map_singleton, p.descriptor_after]

/-- A part describes the family that it shows. -/
theorem exposedName_mem_offer (h : m.Holds t rs) (p : Part) :
    p.metric.exposedName ∈ (t.offer (m.place p)).names := by
  rw [Offer.names, Store.offer, h.descriptors_place p]
  cases p <;> exact List.mem_singleton.2 rfl

end Holds

end Metrics

end WorkerTelemetry.Activity
