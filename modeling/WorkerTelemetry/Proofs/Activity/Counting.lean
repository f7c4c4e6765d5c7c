import Mathlib.Data.List.Dedup
import Mathlib.Data.List.Find
import WorkerTelemetry.Proofs.Activity.Holdings
import WorkerTelemetry.Proofs.Activity.Parts
import WorkerTelemetry.Proofs.Metric.Buckets

/-!
What a set of metrics counts. A set is recorded in through any of its handles, in any order with
everything else that a process does. Main statement: unless fingerprints collide, the set answers
for every kind and outcome by the recordings of just these, its buckets hold the lengths up to their
bounds, and every recorded kind and outcome has a series of its own. The two label values are
fingerprinted as one text, but no outcome is the end of another, so the text tells them apart.
-/

namespace WorkerTelemetry.Activity

open WorkerTelemetry.Metric

/-! ### Label values as one text -/

namespace Ending

variable {e f : Ending} {es : List Ending}

theorem length_label (o : Outcome) : o.label.toList.length = 7 := by
  cases o <;> rfl

/-- The label values can be told from their texts put together: the outcome is what the last seven
characters say, whatever the kind ends in. -/
theorem joined_values_injective (h : joined e.values = joined f.values) : e = f := by
  rw [joined_eq_utf8, joined_eq_utf8] at h
  have texts := congrArg Text.ofUtf8? h
  rw [Text.ofUtf8?_utf8, Text.ofUtf8?_utf8, Option.some.injEq, String.ofList_inj] at texts
  simp only [values, List.flatMap_cons, List.flatMap_nil, List.append_nil] at texts
  obtain ⟨kinds, labels⟩ := List.append_inj' texts (by rw [length_label, length_label])
  exact Prod.ext (String.toList_inj.1 kinds) (Outcome.label_injective (String.toList_inj.1 labels))

/-- No two different texts of label values share a fingerprint. -/
def CollisionFree (es : List Ending) : Prop :=
  ∀ e ∈ es, ∀ f ∈ es, fingerprint (joined e.values) = fingerprint (joined f.values) →
    joined e.values = joined f.values

instance (es : List Ending) : Decidable (CollisionFree es) :=
  inferInstanceAs (Decidable (∀ e ∈ es, ∀ f ∈ es, _ → _))

theorem CollisionFree.eq (free : CollisionFree es) (he : e ∈ es) (hf : f ∈ es)
    (h : e.key = f.key) : e = f :=
  joined_values_injective (free e he f hf h)

theorem CollisionFree.alone (free : CollisionFree es) (he : e ∈ es) :
    ∀ f ∈ es, f.key = e.key → f = e :=
  fun _ hf => free.eq hf he

/-- Whatever was not recorded is not counted, even if it shares its fingerprint with what was. -/
theorem CollisionFree.tally_eq_count (free : CollisionFree es) (e : Ending) :
    tally es e = es.count e := by
  by_cases he : e ∈ es
  · exact Ending.tally_eq_count (free.alone he)
  · rw [List.count_eq_zero.2 he]
    exact if_neg fun leads => he (Leads.mem leads)

end Ending

/-! ### Recordings of one ending -/

namespace Recording

variable {e : Ending} {rs : List Recording}

/-- How long an activity took, if this is its ending. -/
def length? (e : Ending) : Recording → Option Duration
  | .activity kind o d => if (kind, o) = e then some d else none
  | _ => none

/-- How long it took to provision a sandbox. -/
def provision? : Recording → Option Duration
  | .provision d => some d
  | _ => none

/-- How long the activities took that had an ending. -/
def lengths (e : Ending) (rs : List Recording) : List Duration := rs.filterMap (length? e)

/-- How long the sandboxes took to be provisioned. -/
def provisions (rs : List Recording) : List Duration := rs.filterMap provision?

theorem lengths_activity (kind : String) (o : Outcome) (d : Duration) :
    lengths e (.activity kind o d :: rs) =
      if (kind, o) = e then d :: lengths e rs else lengths e rs := by
  rw [lengths, List.filterMap_cons, length?]
  split
  · next same =>
    split at same
    · cases same
    · next other => rw [if_neg other, lengths]
  · next d' same =>
    split at same
    · next here => cases same; rw [if_pos here, lengths]
    · cases same

theorem count_endings (e : Ending) (rs : List Recording) :
    (rs.filterMap ending?).count e = (lengths e rs).length := by
  induction rs with
  | nil => rfl
  | cons r rs ih =>
    cases r with
    | activity kind o d =>
      have endings : (Recording.activity kind o d :: rs).filterMap ending? =
          (kind, o) :: rs.filterMap ending? := rfl
      simp only [endings, List.count_cons, ih, lengths_activity, beq_iff_eq]
      split <;> rfl
    | pullRequest => exact ih
    | provision d => exact ih

theorem countP_isProvision (rs : List Recording) :
    rs.countP isProvision = (provisions rs).length := by
  induction rs with
  | nil => rfl
  | cons r rs ih =>
    rw [List.countP_cons, ih]
    cases r <;> rfl

theorem lengths_eq_nil_iff : lengths e rs = [] ↔ e ∉ rs.filterMap ending? := by
  rw [← List.count_eq_zero, count_endings, List.length_eq_zero_iff]

theorem length_lengths_le (e : Ending) (rs : List Recording) :
    (lengths e rs).length ≤ rs.length := List.length_filterMap_le ..

theorem length_provisions_le (rs : List Recording) : (provisions rs).length ≤ rs.length :=
  List.length_filterMap_le ..

/-- An ending that shares its fingerprint with no other is observed by itself. -/
theorem among_changesOf_duration (alone : ∀ f ∈ rs.filterMap ending?, f.key = e.key → f = e) :
    Change.among (changesOf .duration rs) e.key =
      (lengths e rs).map fun d => ⟨e.values, .observe d.inSeconds⟩ := by
  induction rs with
  | nil => rfl
  | cons r rs ih =>
    cases r with
    | activity kind o d =>
      obtain ⟨first, rest⟩ := List.forall_mem_cons.1 alone
      have changes : changesOf .duration (.activity kind o d :: rs) =
          ⟨Ending.values (kind, o), .observe d.inSeconds⟩ :: changesOf .duration rs := rfl
      have later := ih rest
      rw [Change.among] at later
      rw [changes, Change.among, List.filter_cons, later, lengths_activity]
      change (if decide (Ending.key (kind, o) = e.key) = true then _ else _) = _
      by_cases here : (kind, o) = e
      · subst here
        rw [if_pos rfl, if_pos (decide_eq_true rfl), List.map_cons]
      · rw [if_neg here, if_neg fun same => here (first (of_decide_eq_true same))]
    | pullRequest => exact ih alone
    | provision d => exact ih alone

theorem changesOf_provision (rs : List Recording) :
    changesOf .provision rs = (provisions rs).map fun d => ⟨[], .observe d.inSeconds⟩ := by
  induction rs with
  | nil => rfl
  | cons r rs ih =>
    rw [changesOf_cons, ih]
    cases r <;> rfl

end Recording

open Recording (lengths provisions)

/-! ### Parts of a set -/

theorem durationBounds_eq :
    durationBounds = [1, 5, 10, 30, 60, 120, 300, 600].map Nat.toFloat := by decide +kernel

theorem provisionBounds_eq :
    provisionBounds = [1, 5, 10, 30, 60, 120, 300].map Nat.toFloat := by decide +kernel

theorem wholeBounds_duration : WholeBounds [1, 5, 10, 30, 60, 120, 300, 600] :=
  ⟨by decide, by decide, by decide +kernel, by decide +kernel⟩

theorem wholeBounds_provision : WholeBounds [1, 5, 10, 30, 60, 120, 300] :=
  ⟨by decide, by decide, by decide +kernel, by decide +kernel⟩

namespace Part

variable {p : Part} {rs : List Recording} {e : Ending}

section Labelled

variable (labelled : p.metric.descriptor.labels = [kindLabel, outcomeLabel])

include labelled

/-- A series that is found is shown with the labels of its ending. -/
theorem shown_found (e : Ending) : (p.found rs e).map p.shown =
    ((p.found rs e).map Series.reading).map fun r => ⟨e.labels, r⟩ := by
  cases hf : p.found rs e with
  | none => rfl
  | some s =>
    exact congrArg (fun ls => some (FamilySeries.mk ls s.reading)) (labels_found labelled hf)

/-- Unless fingerprints collide, every recorded ending has one series, and no other has one. -/
theorem perm_labels (free : Ending.CollisionFree (rs.filterMap Recording.ending?)) :
    ((family (p.after rs)).series.map FamilySeries.labels).Perm
      ((rs.filterMap Recording.ending?).dedup.map Ending.labels) := by
  refine (List.perm_ext_iff_of_nodup ?_ ?_).2 fun ls => ?_
  · rw [p.series_family, List.map_map]
    refine List.pairwise_map.2 ((p.distinct rs).imp_of_mem fun {s t} hs ht apart same => ?_)
    obtain ⟨e, -, hse, hle⟩ := labels_shown labelled hs
    obtain ⟨f, -, htf, hlf⟩ := labels_shown labelled ht
    rw [Function.comp_apply, Function.comp_apply, hle, hlf] at same
    exact apart (by rw [hse, htf, Ending.labels_injective same])
  · exact (List.nodup_dedup _).map fun e f same => Ending.labels_injective same
  · rw [p.series_family, List.map_map, List.mem_map, List.mem_map]
    constructor
    · rintro ⟨s, hs, rfl⟩
      obtain ⟨e, leads, -, labels⟩ := labels_shown labelled hs
      exact ⟨e, List.mem_dedup.2 leads.mem, labels.symm⟩
    · rintro ⟨e, he, rfl⟩
      have recorded := List.mem_dedup.1 he
      have leads := (Ending.leads_iff_mem (free.alone recorded)).2 recorded
      have found : (p.found rs e).map Series.reading = some _ :=
        (reading_found labelled e).trans (if_pos leads)
      obtain ⟨s, hs, -⟩ := Option.map_eq_some_iff.1 found
      exact ⟨s, List.mem_of_find?_eq_some hs, labels_found labelled hs⟩

end Labelled

/-- Unless fingerprints collide, the series of an ending has all that was observed of it, and
nothing else. -/
theorem shown_duration (free : Ending.CollisionFree (rs.filterMap Recording.ending?)) (e : Ending) :
    (Part.duration.found rs e).map Part.duration.shown =
      if lengths e rs = [] then none
      else some ⟨e.labels, .histogram <|
        (Histogram.ofBounds durationBounds).observed ((lengths e rs).map Duration.inSeconds)⟩ := by
  rw [shown_found rfl, reading_found rfl]
  by_cases he : e ∈ rs.filterMap Recording.ending?
  · have readings := Change.reading_observe e.values (.ofBounds durationBounds)
      ((lengths e rs).map Duration.inSeconds)
    rw [List.map_map] at readings
    have nonempty : lengths e rs ≠ [] := fun none => Recording.lengths_eq_nil_iff.1 none he
    rw [if_pos ((Ending.leads_iff_mem (free.alone he)).2 he), if_neg nonempty,
      Recording.among_changesOf_duration (free.alone he)]
    exact congrArg (fun r => some (FamilySeries.mk e.labels r)) readings
  · rw [if_neg fun leads => he leads.mem, if_pos (Recording.lengths_eq_nil_iff.2 he)]
    rfl

/-- The one series without labels has all that was observed. -/
theorem series_provision (rs : List Recording) : (family (Part.provision.after rs)).series =
    [⟨[], .histogram ((Histogram.ofBounds provisionBounds).observed
      ((provisions rs).map Duration.inSeconds))⟩] := by
  have readings := Change.reading_observe [] (.ofBounds provisionBounds)
    ((provisions rs).map Duration.inSeconds)
  rw [List.map_map] at readings
  rw [Part.series_family, series_unlabelled rfl, Recording.changesOf_provision, List.map_singleton,
    Part.shown, labelPairs, List.zip_nil_right, List.mergeSort_nil]
  exact congrArg (fun r => [FamilySeries.mk [] r]) readings

end Part

namespace Metrics.Holds

variable {m : Metrics} {s : Store} {rs : List Recording}

/-- The series that a query finds is the one that is found by the values of the ending. -/
theorem series?_eq (h : m.Holds s rs) {p : Part}
    (labelled : p.metric.descriptor.labels = [kindLabel, outcomeLabel]) (e : Ending) :
    series? s (m.place p) e.1 e.2 = (p.found rs e).map p.shown := by
  have asked : ∀ t ∈ (p.after rs).series,
      ([(kindLabel, e.1), (outcomeLabel, e.2.label)].all fun x =>
        ((p.shown t).labels.reverse.find? fun l => l.1 == x.1).map (·.2) == some x.2) =
      decide (t.values = e.values) := by
    intro t ht
    obtain ⟨f, -, values, labels⟩ := Part.labels_shown labelled ht
    rw [labels, values]
    have pairs := asked_labelPairs e f.1 f.2.label
    rwa [labelPairs_two] at pairs
  rw [series?, h.families_place, Family.find?, List.flatMap_singleton, p.series_family,
    List.find?_map, Part.found]
  exact congrArg (Option.map p.shown) (List.find?_congr asked)

/-- Unless fingerprints collide, a query for the lengths of an ending finds all of them. -/
theorem series?_duration (h : m.Holds s rs)
    (free : Ending.CollisionFree (rs.filterMap Recording.ending?)) (e : Ending) :
    series? s m.duration e.1 e.2 =
      if lengths e rs = [] then none
      else some ⟨e.labels, .histogram <|
        (Histogram.ofBounds durationBounds).observed ((lengths e rs).map Duration.inSeconds)⟩ :=
  (h.series?_eq (p := .duration) rfl e).trans (Part.shown_duration free e)

end Metrics.Holds

/-- What a set of metrics says of recordings in it. -/
structure Metrics.Counts (m : Metrics) (s : Store) (rs : List Recording) : Prop where
  /-- Every ending is counted by itself, in the buckets too. -/
  endings : Ending.CollisionFree (rs.filterMap Recording.ending?) → ∀ e : Ending,
    m.count s e.1 e.2 = (lengths e rs).length ∧
      m.durationSamples s e.1 e.2 = (lengths e rs).length ∧
      (series? s m.duration e.1 e.2).map (FamilySeries.samples "activity_duration_seconds") =
        if lengths e rs = [] then none
        else some (lengthSamples "activity_duration_seconds" e.labels
          [1, 5, 10, 30, 60, 120, 300, 600] (lengths e rs))
  /-- Every recorded ending has a series of its own, and no other has one. -/
  series : Ending.CollisionFree (rs.filterMap Recording.ending?) →
    ∀ c ∈ [m.duration, m.total],
      (((s.families c).flatMap Family.series).map FamilySeries.labels).Perm
        ((rs.filterMap Recording.ending?).dedup.map Ending.labels)
  pullRequests : m.pullRequestsCreated s = rs.countP Recording.isPullRequest
  provisionSamples : m.provisionSamples s = (provisions rs).length
  provisionBuckets : (s.families m.provision).flatMap Family.samples =
    lengthSamples "sandbox_provision_duration_seconds" [] [1, 5, 10, 30, 60, 120, 300]
      (provisions rs)

theorem Metrics.Holds.counts {m : Metrics} {s : Store} {rs : List Recording} (h : m.Holds s rs)
    (few : rs.length < Decimal.exactLimit) : m.Counts s rs := by
  have fewer {n : Nat} (le : n ≤ rs.length) : n < Decimal.exactLimit := Nat.lt_of_le_of_lt le few
  refine ⟨?_, ?_, ?_, ?_, ?_⟩
  · intro free e
    have tally := free.tally_eq_count e
    rw [Recording.count_endings] at tally
    refine ⟨?_, ?_, ?_⟩
    · rw [h.count_eq e (fewer (List.length_filterMap_le ..)), tally]
    · rw [h.durationSamples_eq e, tally]
    · rw [h.series?_duration free]
      by_cases none : lengths e rs = []
      · rw [if_pos none, if_pos none, Option.map_none]
      · rw [if_neg none, if_neg none, Option.map_some, durationBounds_eq,
          samples_observed_inSeconds wholeBounds_duration
            (fewer (Recording.length_lengths_le e rs))]
  · intro free c hc
    have perm {p : Part} (labelled : p.metric.descriptor.labels = [kindLabel, outcomeLabel]) :
        (((s.families (m.place p)).flatMap Family.series).map FamilySeries.labels).Perm
          ((rs.filterMap Recording.ending?).dedup.map Ending.labels) := by
      rw [h.families_place, List.flatMap_singleton]
      exact Part.perm_labels labelled free
    rcases List.mem_cons.1 hc with rfl | hc
    · exact perm (p := .duration) rfl
    · rw [List.mem_singleton.1 hc]
      exact perm (p := .total) rfl
  · exact h.pullRequestsCreated_eq (fewer List.countP_le_length)
  · rw [h.provisionSamples_eq, Recording.countP_isProvision]
  · have family := h.families_place .provision
    have samples := samples_observed_inSeconds wholeBounds_provision
      (fewer (Recording.length_provisions_le rs)) "sandbox_provision_duration_seconds" []
    change s.families m.provision = _ at family
    rw [family, List.flatMap_singleton, Family.samples, Part.series_provision, Part.name_family,
      List.flatMap_singleton, provisionBounds_eq]
    exact samples

/-! ### Sums -/

/-- Lengths of time, added up in seconds one after the other. -/
def addedUp (ds : List Duration) : Float := (ds.map Duration.inSeconds).foldl (· + ·) 0.0

/-- The sums of a set of metrics add up the lengths that were recorded, in the order in which they
were. -/
structure Metrics.Sums (m : Metrics) (s : Store) (rs : List Recording) : Prop where
  answer : ∀ e : Ending, m.durationSum s e.1 e.2 = addedUp (lengths e rs)
  duration : ∀ x ∈ (s.families m.duration).flatMap Family.series, ∃ e : Ending,
    x.labels = e.labels ∧ x.reading.sum = addedUp (lengths e rs)
  provision : ∀ x ∈ (s.families m.provision).flatMap Family.series,
    x.reading.sum = addedUp (provisions rs)

theorem Metrics.Holds.sums {m : Metrics} {s : Store} {rs : List Recording} (h : m.Holds s rs)
    (free : Ending.CollisionFree (rs.filterMap Recording.ending?)) : m.Sums s rs := by
  have observed (bounds : List Float) (ds : List Duration) :
      ((Histogram.ofBounds bounds).observed (ds.map Duration.inSeconds)).sum = addedUp ds :=
    Histogram.sum_observed _ _
  refine ⟨?_, ?_, ?_⟩
  · intro e
    rw [durationSum, h.series?_duration free]
    by_cases none : lengths e rs = []
    · rw [if_pos none, none]
      rfl
    · rw [if_neg none]
      exact observed durationBounds (lengths e rs)
  · have family : s.families m.duration = _ := h.families_place .duration
    rw [family, List.flatMap_singleton, Part.series_family]
    intro x hx
    obtain ⟨t, ht, rfl⟩ := List.mem_map.1 hx
    obtain ⟨e, leads, values, labels⟩ := Part.labels_shown (p := .duration) rfl ht
    have shown := Part.shown_duration free e
    have recorded : lengths e rs ≠ [] := fun none => Recording.lengths_eq_nil_iff.1 none leads.mem
    rw [Part.found_of_mem ht values, Option.map_some, if_neg recorded, Option.some.injEq] at shown
    refine ⟨e, labels, ?_⟩
    rw [shown]
    exact observed durationBounds (lengths e rs)
  · have family : s.families m.provision = _ := h.families_place .provision
    rw [family, List.flatMap_singleton, Part.series_provision]
    intro x hx
    rw [List.mem_singleton.1 hx]
    exact observed provisionBounds (provisions rs)

/-! ### Recordings through handles -/

namespace Holdings

variable {d : Holdings} {m : Metrics} {rs : List Recording}

/-- What an act records in a set of metrics, through any of its handles. -/
def recordings (d : Holdings) (m : Metrics) : Act → List Recording
  | .record h x => if d.sets[h]? = some m then [x] else []
  | _ => []

/-- What some acts record in a set of metrics. -/
def recorded (d : Holdings) (m : Metrics) : List Act → List Recording
  | [] => []
  | a :: as => d.recordings m a ++ (d.step a).recorded m as

theorem recorded_append (d : Holdings) (m : Metrics) (as bs : List Act) :
    d.recorded m (as ++ bs) = d.recorded m as ++ (d.run as).recorded m bs := by
  induction as generalizing d with
  | nil => rfl
  | cons a as ih =>
    rw [List.cons_append, recorded, recorded, ih, List.append_assoc]
    rfl

/-- Sets of metrics are kept, and there is a new one only if it is created. -/
theorem sets_step (d : Holdings) (a : Act) :
    d.sets ⊆ (d.step a).sets ∧
      ∀ m ∈ (d.step a).sets, m ∈ d.sets ∨ a = .newSet ∧ m = (Metrics.create d.store).2 := by
  have same (h : (d.step a).sets = d.sets) : d.sets ⊆ (d.step a).sets ∧
      ∀ m ∈ (d.step a).sets, m ∈ d.sets ∨ a = .newSet ∧ m = (Metrics.create d.store).2 := by
    rw [h]
    exact ⟨List.Subset.refl _, fun m hm => .inl hm⟩
  cases a with
  | newSet =>
    refine ⟨List.subset_append_left .., fun m hm => ?_⟩
    rcases List.mem_append.1 hm with hm | hm
    · exact .inl hm
    · exact .inr ⟨rfl, List.mem_singleton.1 hm⟩
  | cloneSet h =>
    refine ⟨List.subset_append_left .., fun m hm => ?_⟩
    rcases List.mem_append.1 hm with hm | hm
    · exact .inl hm
    · exact .inl (List.mem_of_getElem? (Option.mem_toList.1 hm))
  | newRegistry | cloneRegistry g | newCollector k | cloneCollector h | query h | scrape g =>
    exact same rfl
  | register g h | registerSet g h | change h part u | record h x =>
    refine same ?_
    rw [step]
    split <;> rfl

theorem sets_run (d : Holdings) (as : List Act) : d.sets ⊆ (d.run as).sets := by
  induction as generalizing d with
  | nil => exact List.Subset.refl _
  | cons a as ih => exact List.Subset.trans (sets_step d a).1 (ih (d.step a))

theorem recordings_eq_nil (hm : m ∉ d.sets) (a : Act) : d.recordings m a = [] := by
  cases a with
  | record h x => exact if_neg fun found => hm (List.mem_of_getElem? found)
  | _ => rfl

/-- Nothing is recorded in a set of metrics before it is created. -/
theorem recorded_eq_nil (as : List Act) (hm : m ∉ (d.run as).sets) : d.recorded m as = [] := by
  induction as generalizing d with
  | nil => rfl
  | cons a as ih =>
    have later : (d.step a).recorded m as = [] := ih hm
    rw [recorded, later, List.append_nil]
    exact recordings_eq_nil (fun known => hm (sets_run d (a :: as) known)) a

/-- An act leaves what a set of metrics holds, and adds what it records in it. -/
theorem holds_step (sound : d.Sound) (hm : m ∈ d.sets) (holds : m.Holds d.store rs) (a : Act) :
    m.Holds (d.step a).store (rs ++ d.recordings m a) := by
  have other (apart : ∀ h x, a = .record h x → d.sets[h]? ≠ some m)
      (none : d.recordings m a = []) : m.Holds (d.step a).store (rs ++ d.recordings m a) := by
    rw [none, List.append_nil]
    refine ⟨holds.distinct, fun p => ?_⟩
    rw [collector_step sound (sound.places m hm _ (m.place_mem p)) fun changed => ?_]
    · exact holds.collector p
    · obtain ⟨x, hx, same⟩ := List.mem_map.1 changed
      exact notMem_changes sound hm apart x hx (same ▸ m.place_mem p)
  cases a with
  | record h x =>
    by_cases found : d.sets[h]? = some m
    · rw [recordings, if_pos found, step, found]
      exact holds.take x
    · refine other ?_ (if_neg found)
      rintro g y same
      cases same
      exact found
  | _ => exact other (fun h x same => by cases same) rfl

/-- A set of metrics holds what was recorded in it through its handles. -/
theorem holds_run (as : List Act) :
    ∀ m ∈ (run {} as).sets, m.Holds (run {} as).store (recorded {} m as) := by
  induction as using List.reverseRecOn with
  | nil => exact fun m hm => absurd hm List.not_mem_nil
  | append_singleton as a ih =>
    intro m hm
    have sound : (run {} as).Sound := sound_empty.run as
    have after : run {} (as ++ [a]) = (run {} as).step a := List.foldl_append
    have all : recorded {} m (as ++ [a]) = recorded {} m as ++ (run {} as).recordings m a := by
      rw [recorded_append, recorded, recorded, List.append_nil]
    rw [after] at hm ⊢
    rw [all]
    by_cases known : m ∈ (run {} as).sets
    · exact holds_step sound known (ih m known) a
    · obtain ⟨rfl, rfl⟩ := ((sets_step _ a).2 m hm).resolve_left known
      rw [recorded_eq_nil as known, recordings_eq_nil known]
      exact Metrics.fresh_create (run {} as).store

/-- After all that was done by handles, a set of metrics says of every kind and outcome what was
recorded in it with just these, through any handle of the set. -/
theorem recordings_counted (as : List Act) {m : Metrics} (hm : m ∈ (run {} as).sets)
    (few : (recorded {} m as).length < Decimal.exactLimit) :
    m.Counts (run {} as).store (recorded {} m as) :=
  (holds_run as m hm).counts few

/-- A length of so many nanoseconds. -/
def lasting (n : Nat) : Duration :=
  ⟨(n / 1000000000).toUInt64, n % 1000000000, Nat.mod_lt n (by decide)⟩

/-- Two sets of metrics, of which the first has two handles, and kinds that end in an outcome. -/
def handleActs : List Act :=
  [.newSet, .cloneSet 0, .newSet,
    .record 0 (.activity "Build" .success (lasting 5000000000)),
    .record 1 (.activity "Build" .success (lasting 5000000001)),
    .record 2 (.activity "Build" .success (lasting 5000000000)),
    .record 1 (.activity "Buildsuccess" .failure (lasting 700000000000)),
    .record 0 (.activity "Buildfailure" .success (lasting 1000000000)),
    .record 0 .pullRequest,
    .query 1,
    .record 1 (.provision (lasting 300000000000)),
    .record 0 (.provision (lasting 300000000001))]

theorem recordings_counted_handleActs :
    let s := (run {} handleActs).store
    let m := (Metrics.create {}).2
    m ∈ (run {} handleActs).sets ∧
      (recorded {} m handleActs).length = 7 ∧
      Ending.CollisionFree ((recorded {} m handleActs).filterMap Recording.ending?) ∧
      m.count s "Build" .success = 2 ∧ m.durationSamples s "Build" .success = 2 ∧
      m.count s "Buildsuccess" .failure = 1 ∧ m.count s "Build" .failure = 0 ∧
      (Metrics.series? s m.duration "Build" .success).map
          (fun f => (f.samples "activity_duration_seconds").map fun x => x.value) =
        some ["0", "1", "2", "2", "2", "2", "2", "2", "2", "10.000000001", "2"] ∧
      (((s.families m.duration).flatMap Family.series).map FamilySeries.labels).Perm
        (List.map Ending.labels
          [("Build", .success), ("Buildsuccess", .failure), ("Buildfailure", .success)]) ∧
      m.pullRequestsCreated s = 1 ∧ m.provisionSamples s = 2 := by
  have known : (Metrics.create {}).2 ∈ (run {} handleActs).sets := by decide +kernel
  have counts := recordings_counted handleActs known (by decide +kernel)
  have free : Ending.CollisionFree
      ((recorded {} (Metrics.create {}).2 handleActs).filterMap Recording.ending?) := by
    decide +kernel
  obtain ⟨count, samples, shown⟩ := counts.endings free ("Build", .success)
  refine ⟨known, by decide +kernel, free, count, samples, ?_, ?_, ?_, ?_, ?_, ?_⟩
  · exact (counts.endings free ("Buildsuccess", .failure)).1
  · exact (counts.endings free ("Build", .failure)).1
  · have values := congrArg (Option.map (List.map fun x => x.value)) shown
    rw [Option.map_map] at values
    exact values.trans (by decide +kernel)
  · exact counts.series free _ List.mem_cons_self
  · exact counts.pullRequests
  · exact counts.provisionSamples

end Holdings

end WorkerTelemetry.Activity
