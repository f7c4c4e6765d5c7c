import Mathlib.Data.List.Perm.Basic
import WorkerTelemetry.Proofs.Metric.Masking

/-!
Metrics as they are made, and what becomes of them. A metric without labels is made with one series,
one with labels is made with none, and a change that is carried out begins a series if there is none
to change. Main statements: every metric that was made and changed gives each series a value for
every label and keys its series apart; so its family lists them by their label values, none twice.
-/

namespace WorkerTelemetry.Metric

/-! ### Descriptions without a fault -/

namespace Descriptor

variable {d : Descriptor}

theorem labels_of_labelFault {seen ls : List String} (h : labelFault seen ls = none) :
    ls.Nodup ∧ (∀ l ∈ ls, l ∉ seen) ∧ ∀ l ∈ ls, isLabelName l = true := by
  induction ls generalizing seen with
  | nil => simp
  | cons l ls ih =>
    rw [labelFault] at h
    split at h
    · cases h
    next name =>
    split at h
    · cases h
    next new =>
    obtain ⟨distinct, later, names⟩ := ih h
    have first : l ∉ ls := fun hl => later l hl List.mem_cons_self
    refine ⟨List.nodup_cons.2 ⟨first, distinct⟩, ?_, ?_⟩
    · exact List.forall_mem_cons.2
        ⟨new, fun k hk known => later k hk (List.mem_cons_of_mem l known)⟩
    · exact List.forall_mem_cons.2 ⟨by simpa using name, names⟩

theorem labelFault_of_fault (h : d.fault = none) :
    isMetricName d.name = true ∧ labelFault [] d.labels = none := by
  unfold fault at h
  split at h
  · cases h
  split at h
  · cases h
  next name => exact ⟨by simpa using name, h⟩

theorem nodup_labels (h : d.fault = none) : d.labels.Nodup :=
  (labels_of_labelFault (labelFault_of_fault h).2).1

end Descriptor

/-! ### Metrics as they are made -/

/-- A metric as it is made without labels; what it is exposed as is left open. -/
def IsSingle (m : Metric) : Prop :=
  ∃ name help kind k, single name help kind = .ok k ∧ m = { k with exposedName := m.exposedName }

/-- A metric as it is made with labels; what it is exposed as is left open. -/
def IsVector (m : Metric) : Prop :=
  ∃ name help labels kind k,
    labelled name help labels kind = .ok k ∧ m = { k with exposedName := m.exposedName }

theorem of_single {name help : String} {kind : Kind} {m : Metric}
    (h : single name help kind = .ok m) : ∃ r, (⟨name, help, []⟩ : Descriptor).fault = none ∧
      kind.start [] = .ok r ∧ m = ⟨⟨name, help, []⟩, name, kind, [⟨[], r⟩]⟩ := by
  unfold single at h
  dsimp only at h
  cases hf : (⟨name, help, []⟩ : Descriptor).fault with
  | some f => rw [hf] at h; cases h
  | none =>
    rw [hf] at h
    cases hr : kind.start [] with
    | error e => rw [hr] at h; cases h
    | ok r =>
      rw [hr] at h
      cases h
      exact ⟨r, rfl, rfl, rfl⟩

theorem of_labelled {name help : String} {labels : List String} {kind : Kind} {m : Metric}
    (h : labelled name help labels kind = .ok m) :
    (⟨name, help, labels⟩ : Descriptor).fault = none ∧
      m = ⟨⟨name, help, labels⟩, name, kind, []⟩ := by
  unfold labelled at h
  dsimp only at h
  cases hf : (⟨name, help, labels⟩ : Descriptor).fault with
  | some f => rw [hf] at h; cases h
  | none =>
    rw [hf] at h
    cases h
    exact ⟨rfl, rfl⟩

theorem IsSingle.series_ne_nil {m : Metric} (h : m.IsSingle) : m.series ≠ [] := by
  obtain ⟨name, help, kind, k, made, same⟩ := h
  obtain ⟨r, -, -, rfl⟩ := of_single made
  rw [same]
  exact List.cons_ne_nil _ _

theorem IsVector.series_eq_nil {m : Metric} (h : m.IsVector) : m.series = [] := by
  obtain ⟨name, help, labels, kind, k, made, same⟩ := h
  obtain ⟨-, rfl⟩ := of_labelled made
  rw [same]

/-- A metric that is described without a fault, whose series have a value for every label, and keys
of their own. -/
structure Formed (m : Metric) : Prop where
  described : m.descriptor.fault = none
  length : ∀ v ∈ m.series.map Series.values, v.length = m.descriptor.labels.length
  distinct : (m.series.map Series.values).Pairwise fun v w => Series.key v ≠ Series.key w

theorem IsSingle.formed {m : Metric} (h : m.IsSingle) : m.Formed := by
  obtain ⟨name, help, kind, k, made, same⟩ := h
  obtain ⟨r, fault, -, rfl⟩ := of_single made
  rw [same]
  exact ⟨fault, by simp, List.pairwise_singleton _ _⟩

theorem IsVector.formed {m : Metric} (h : m.IsVector) : m.Formed := by
  obtain ⟨name, help, labels, kind, k, made, same⟩ := h
  obtain ⟨fault, rfl⟩ := of_labelled made
  rw [same]
  exact ⟨fault, by simp, .nil⟩

/-! ### Changes -/

section Update

variable {m m' : Metric} {values : List String} {act : Reading → Reading} {k : UInt64}
  {ss ss' : List Series}

theorem values_changeSeries (h : changeSeries k act ss = some ss') :
    ss'.map Series.values = ss.map Series.values := by
  induction ss generalizing ss' with
  | nil => cases h
  | cons s ss ih =>
    rw [changeSeries] at h
    split at h
    · cases h
      rfl
    · obtain ⟨ts, hts, rfl⟩ := Option.map_eq_some_iff.1 h
      rw [List.map_cons, List.map_cons, ih hts]

/-- A change that is carried out changes a series, or begins one. -/
theorem update_cases (h : m.update values act = .ok m') :
    values.length = m.descriptor.labels.length ∧
      ((∃ ss, changeSeries (Series.key values) act m.series = some ss ∧
          m' = { m with series := ss }) ∨
        ∃ r, (∀ s ∈ m.series, Series.key s.values ≠ Series.key values) ∧
          m.kind.start m.descriptor.labels = .ok r ∧
          m' = { m with series := m.series ++ [⟨values, act r⟩] }) := by
  unfold update at h
  split at h
  · cases h
  next length =>
  refine ⟨not_not.1 length, ?_⟩
  cases hc : changeSeries (Series.key values) act m.series with
  | some ss =>
    rw [hc] at h
    cases h
    exact .inl ⟨ss, rfl, rfl⟩
  | none =>
    rw [hc] at h
    cases hr : m.kind.start m.descriptor.labels with
    | error e => rw [hr] at h; cases h
    | ok r =>
      rw [hr] at h
      cases h
      exact .inr ⟨r, changeSeries_eq_none_iff.1 hc, rfl, rfl⟩

theorem exposedName_update (h : m.update values act = .ok m') : m'.exposedName = m.exposedName := by
  rcases (update_cases h).2 with ⟨ss, -, rfl⟩ | ⟨r, -, -, rfl⟩
  · rfl
  · rfl

/-- After a change that is carried out there is a series. -/
theorem series_ne_nil_of_update (h : m.update values act = .ok m') : m'.series ≠ [] := by
  rcases (update_cases h).2 with ⟨ss, changed, rfl⟩ | ⟨r, -, -, rfl⟩
  · rintro rfl
    have none : m.series = [] := List.map_eq_nil_iff.1 (values_changeSeries changed).symm
    rw [none] at changed
    cases changed
  · exact List.append_ne_nil_of_right_ne_nil _ (List.cons_ne_nil _ _)

theorem Formed.update (h : m.Formed) (changed : m.update values act = .ok m') : m'.Formed := by
  obtain ⟨length, cases⟩ := update_cases changed
  rcases cases with ⟨ss, known, rfl⟩ | ⟨r, new, -, rfl⟩
  · refine ⟨h.described, ?_, ?_⟩
    · rw [values_changeSeries known]
      exact h.length
    · rw [values_changeSeries known]
      exact h.distinct
  · refine ⟨h.described, ?_, ?_⟩
    · rw [List.map_append, List.forall_mem_append]
      exact ⟨h.length, List.forall_mem_singleton.2 length⟩
    · rw [List.map_append]
      refine List.pairwise_append.2 ⟨h.distinct, List.pairwise_singleton _ _, ?_⟩
      intro v hv w hw
      obtain ⟨s, hs, rfl⟩ := List.mem_map.1 hv
      rw [List.mem_singleton.1 hw]
      exact new s hs

end Update

/-! ### The labels of a series -/

section Labels

variable {names v w : List String}

theorem mem_labelPairs {l : String × String} : l ∈ labelPairs names v ↔ l ∈ names.zip v :=
  List.mem_mergeSort

theorem fst_mem_of_mem_labelPairs {l : String × String} (h : l ∈ labelPairs names v) :
    l.1 ∈ names :=
  (List.of_mem_zip (mem_labelPairs.1 h)).1

theorem length_labelPairs (h : v.length = names.length) :
    (labelPairs names v).length = names.length := by
  rw [labelPairs, List.length_mergeSort, List.length_zip, h, Nat.min_self]

/-- The names of the labels do not depend on the values. -/
theorem map_fst_labelPairs (h : v.length = names.length) :
    (labelPairs names v).map (·.1) = names.mergeSort fun a b => decide (a ≤ b) := by
  have zipped : (names.zip v).map (·.1) = names := List.map_fst_zip (Nat.le_of_eq h.symm)
  rw [labelPairs, List.map_mergeSort (s := fun a b => decide (a ≤ b)) fun _ _ _ _ => rfl, zipped]

/-- Values are a function of the set of labels. -/
theorem eq_of_labelPairs_subset (distinct : names.Nodup) (hv : v.length = names.length)
    (hw : w.length = names.length) (sub : labelPairs names v ⊆ labelPairs names w) : v = w := by
  refine List.ext_getElem (hv.trans hw.symm) fun i hi hi' => ?_
  have hn : i < names.length := hv ▸ hi
  have zipped : (names[i], v[i]) ∈ names.zip v :=
    List.mem_iff_getElem.2 ⟨i, by simp [hn, hi], List.getElem_zip⟩
  have found : (names[i], v[i]) ∈ names.zip w := mem_labelPairs.1 (sub (mem_labelPairs.2 zipped))
  obtain ⟨j, hj, same⟩ := List.mem_iff_getElem.1 found
  rw [List.getElem_zip, Prod.mk.injEq] at same
  have index : j = i := (distinct.getElem_inj_iff).1 same.1
  subst index
  exact same.2.symm

/-- They are a function of the values of the labels alone. -/
theorem eq_of_map_snd_labelPairs (distinct : names.Nodup) (hv : v.length = names.length)
    (hw : w.length = names.length)
    (same : (labelPairs names v).map (·.2) = (labelPairs names w).map (·.2)) : v = w := by
  have pairs : labelPairs names v = labelPairs names w := by
    have fst := (map_fst_labelPairs hv).trans (map_fst_labelPairs hw).symm
    rw [← List.zip_unzip (labelPairs names v), ← List.zip_unzip (labelPairs names w),
      List.unzip_eq_map, List.unzip_eq_map, fst, same]
  exact eq_of_labelPairs_subset distinct hv hw (pairs ▸ List.Subset.refl _)

/-- The labels of a family are those of its metric. -/
theorem mem_labels_family {m : Metric} {t : FamilySeries} (ht : t ∈ (family m).series)
    {l : String × String} (hl : l ∈ t.labels) : l.1 ∈ m.descriptor.labels := by
  obtain ⟨s, -, rfl⟩ := List.mem_map.1 ht
  exact fst_mem_of_mem_labelPairs hl

end Labels

/-- The family of a metric lists its series by their label values, and none twice. -/
theorem Formed.ordered_family {m : Metric} (h : m.Formed) :
    (family m).ordered.series.Pairwise fun s t =>
      FamilySeries.valuesAtMost s.values t.values = true ∧ s.values ≠ t.values := by
  have length : ∀ s ∈ (family m).series, s.labels.length = m.descriptor.labels.length := by
    intro s hs
    obtain ⟨x, hx, rfl⟩ := List.mem_map.1 hs
    exact length_labelPairs (h.length x.values (List.mem_map_of_mem hx))
  have apart : (family m).series.Pairwise fun s t => s.values ≠ t.values := by
    refine List.pairwise_map.2 ((List.pairwise_map.1 h.distinct).imp_of_mem ?_)
    intro x y hx hy keys same
    refine keys (congrArg Series.key ?_)
    exact eq_of_map_snd_labelPairs (Descriptor.nodup_labels h.described)
      (h.length x.values (List.mem_map_of_mem hx)) (h.length y.values (List.mem_map_of_mem hy)) same
  have sorted : (family m).ordered.series.Pairwise fun s t => FamilySeries.atMost s t = true :=
    @List.pairwise_mergeSort _ FamilySeries.atMost (fun _ _ _ => FamilySeries.atMost_trans)
      FamilySeries.atMost_total _
  have apart' : (family m).ordered.series.Pairwise fun s t => s.values ≠ t.values :=
    (List.mergeSort_perm (family m).series _).symm.pairwise apart Ne.symm
  refine (sorted.and apart').imp_of_mem ?_
  rintro s t hs ht ⟨atMost, values⟩
  refine ⟨?_, values⟩
  rcases FamilySeries.atMost_iff.1 atMost with shorter | ⟨-, values⟩
  · rw [length s (List.mem_mergeSort.1 hs), length t (List.mem_mergeSort.1 ht)] at shorter
    exact absurd shorter (Nat.lt_irrefl _)
  · exact values

end WorkerTelemetry.Metric
