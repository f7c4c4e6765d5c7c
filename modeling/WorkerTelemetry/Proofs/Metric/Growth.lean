import Mathlib.Data.List.Induction
import WorkerTelemetry.Metric.Store

/-!
How the series of a metric grow. Changes whose label values have one fingerprint fall into one
series; the first of them gives the series its label values, and all of them make its reading. Main
statements: this holds after every list of changes, and a change of one collector leaves all other
collectors as they are.
-/

namespace WorkerTelemetry.Metric

/-- A change: the label values of a series, and what becomes of its reading. -/
structure Change where
  values : List String
  act : Reading → Reading

namespace Change

/-- What the series of a change is found by. -/
def key (u : Change) : UInt64 := Series.key u.values

/-- The changes that fall into one series. -/
def among (us : List Change) (k : UInt64) : List Change := us.filter fun u => decide (u.key = k)

/-- A reading after changes of its series. -/
def reading (start : Reading) (us : List Change) : Reading := us.foldl (fun r u => u.act r) start

theorem among_append_same (us : List Change) (u : Change) :
    among (us ++ [u]) u.key = among us u.key ++ [u] := by
  simp [among]

theorem among_append_other {us : List Change} {u : Change} {k : UInt64} (h : u.key ≠ k) :
    among (us ++ [u]) k = among us k := by
  simp [among, h]

theorem reading_append (start : Reading) (us : List Change) (u : Change) :
    reading start (us ++ [u]) = u.act (reading start us) := by
  simp [reading]

theorem reading_increase {us : List Change} (h : ∀ u ∈ us, u.act = .increase 1) (n : UInt64) :
    reading (.counter n) us = .counter (n + UInt64.ofNat us.length) := by
  induction us generalizing n with
  | nil => simp [reading]
  | cons u us ih =>
    obtain ⟨hu, hus⟩ := List.forall_mem_cons.1 h
    have step : reading (.counter n) (u :: us) = reading (.counter (n + 1)) us := by
      simp [reading, hu, Reading.increase]
    have more : UInt64.ofNat (u :: us).length = 1 + UInt64.ofNat us.length := by
      rw [List.length_cons, Nat.add_comm, UInt64.ofNat_add]
      rfl
    rw [step, ih hus, more, UInt64.add_assoc]

theorem samples_reading_observe {us : List Change} (h : ∀ u ∈ us, ∃ x, u.act = .observe x)
    (g : Histogram) : (reading (.histogram g) us).samples = g.samples + us.length := by
  induction us generalizing g with
  | nil => rfl
  | cons u us ih =>
    obtain ⟨⟨x, hx⟩, hus⟩ := List.forall_mem_cons.1 h
    have step : reading (.histogram g) (u :: us) = reading (.histogram (g.observe x)) us := by
      simp [reading, hx, Reading.observe]
    rw [step, ih hus, Histogram.observe_samples, List.length_cons]
    omega

end Change

/-! ### The series of one metric -/

/-- The series that changes have made: each is led by the first change with its fingerprint, and
holds all changes with it. -/
structure Grown (start : Reading) (us : List Change) (ss : List Series) : Prop where
  distinct : ss.Pairwise fun s t => Series.key s.values ≠ Series.key t.values
  led : ∀ s ∈ ss,
    (Change.among us (Series.key s.values)).head?.map Change.values = some s.values
  reading : ∀ s ∈ ss, s.reading = Change.reading start (Change.among us (Series.key s.values))
  complete : ∀ u ∈ us, ∃ s ∈ ss, Series.key s.values = u.key

/-- Changes the reading of a series with a key. -/
def touch (k : UInt64) (f : Reading → Reading) (s : Series) : Series :=
  if Series.key s.values = k then ⟨s.values, f s.reading⟩ else s

@[simp] theorem touch_values (k : UInt64) (f : Reading → Reading) (s : Series) :
    (touch k f s).values = s.values := by
  unfold touch
  split <;> rfl

theorem changeSeries_eq_none_iff {k : UInt64} {f : Reading → Reading} {ss : List Series} :
    changeSeries k f ss = none ↔ ∀ s ∈ ss, Series.key s.values ≠ k := by
  induction ss with
  | nil => simp [changeSeries]
  | cons s ss ih =>
    rw [changeSeries, List.forall_mem_cons]
    split
    · next h => simp [h]
    · next h => simp [h, ih]

theorem map_touch_of_ne {k : UInt64} {f : Reading → Reading} {ss : List Series}
    (h : ∀ s ∈ ss, Series.key s.values ≠ k) : ss.map (touch k f) = ss := by
  refine (List.map_congr_left fun s hs => ?_).trans (List.map_id ss)
  exact if_neg (h s hs)

/-- As the keys are distinct, changing the first series with a key changes all of them. -/
theorem changeSeries_eq_some {k : UInt64} {f : Reading → Reading} {ss ss' : List Series}
    (distinct : ss.Pairwise fun s t => Series.key s.values ≠ Series.key t.values)
    (h : changeSeries k f ss = some ss') :
    ss' = ss.map (touch k f) ∧ ∃ s ∈ ss, Series.key s.values = k := by
  induction ss generalizing ss' with
  | nil => cases h
  | cons s ss ih =>
    obtain ⟨hs, hss⟩ := List.pairwise_cons.1 distinct
    rw [changeSeries] at h
    split at h
    · next hk =>
      cases h
      have rest := map_touch_of_ne (f := f) fun t ht => hk ▸ (hs t ht).symm
      exact ⟨by rw [List.map_cons, rest, touch, if_pos hk], s, List.mem_cons_self, hk⟩
    · next hk =>
      obtain ⟨ts, hts, rfl⟩ := Option.map_eq_some_iff.1 h
      obtain ⟨rfl, t, ht, hkt⟩ := ih hss hts
      exact ⟨by rw [List.map_cons, touch, if_neg hk], t, List.mem_cons_of_mem _ ht, hkt⟩

/-- The series after one more change. -/
def grow (start : Reading) (ss : List Series) (u : Change) : List Series :=
  (changeSeries u.key u.act ss).getD (ss ++ [⟨u.values, u.act start⟩])

namespace Grown

variable {start : Reading} {us : List Change} {ss : List Series}

theorem nil : Grown start [] [] :=
  ⟨.nil, by simp, by simp, by simp⟩

theorem among_eq_nil (h : Grown start us ss) {k : UInt64}
    (hk : ∀ s ∈ ss, Series.key s.values ≠ k) : Change.among us k = [] := by
  refine List.filter_eq_nil_iff.2 fun u hu heq => ?_
  obtain ⟨s, hs, hsu⟩ := h.complete u hu
  exact hk s hs (hsu.trans (of_decide_eq_true heq))

theorem grow_known (h : Grown start us ss) {u : Change} {s : Series} (hs : s ∈ ss)
    (hk : Series.key s.values = u.key) :
    Grown start (us ++ [u]) (ss.map (touch u.key u.act)) := by
  refine ⟨?_, ?_, ?_, ?_⟩
  · rw [List.pairwise_map]
    simpa only [touch_values] using h.distinct
  · intro t ht
    obtain ⟨t', ht', rfl⟩ := List.mem_map.1 ht
    have hled := h.led t' ht'
    rw [touch_values]
    by_cases heq : u.key = Series.key t'.values
    · rw [← heq] at hled ⊢
      rw [Change.among_append_same]
      -- some change has led the series before, and still does
      cases hus : Change.among us u.key with
      | nil => rw [hus] at hled; cases hled
      | cons v vs => rw [hus] at hled; exact hled
    · rw [Change.among_append_other heq]
      exact hled
  · intro t ht
    obtain ⟨t', ht', rfl⟩ := List.mem_map.1 ht
    have hread := h.reading t' ht'
    rw [touch_values]
    by_cases heq : u.key = Series.key t'.values
    · rw [touch, if_pos heq.symm, ← heq, Change.among_append_same, Change.reading_append, heq,
        ← hread]
    · rw [touch, if_neg (Ne.symm heq), Change.among_append_other heq]
      exact hread
  · intro v hv
    rcases List.mem_append.1 hv with hv | hv
    · obtain ⟨t, ht, hkt⟩ := h.complete v hv
      exact ⟨touch u.key u.act t, List.mem_map_of_mem ht, by rw [touch_values, hkt]⟩
    · rw [List.mem_singleton.1 hv]
      exact ⟨touch u.key u.act s, List.mem_map_of_mem hs, by rw [touch_values, hk]⟩

theorem grow_new (h : Grown start us ss) {u : Change}
    (hk : ∀ s ∈ ss, Series.key s.values ≠ u.key) :
    Grown start (us ++ [u]) (ss ++ [⟨u.values, u.act start⟩]) := by
  have alone : Change.among (us ++ [u]) u.key = [u] := by
    rw [Change.among_append_same, h.among_eq_nil hk, List.nil_append]
  refine ⟨?_, ?_, ?_, ?_⟩
  · refine List.pairwise_append.2 ⟨h.distinct, List.pairwise_singleton _ _, fun s hs t ht => ?_⟩
    rw [List.mem_singleton.1 ht]
    exact hk s hs
  · intro t ht
    rcases List.mem_append.1 ht with ht | ht
    · rw [Change.among_append_other (hk t ht).symm]
      exact h.led t ht
    · rw [List.mem_singleton.1 ht]
      change (Change.among (us ++ [u]) u.key).head?.map Change.values = some u.values
      rw [alone]
      rfl
  · intro t ht
    rcases List.mem_append.1 ht with ht | ht
    · rw [Change.among_append_other (hk t ht).symm]
      exact h.reading t ht
    · rw [List.mem_singleton.1 ht]
      change u.act start = Change.reading start (Change.among (us ++ [u]) u.key)
      rw [alone]
      rfl
  · intro v hv
    rcases List.mem_append.1 hv with hv | hv
    · obtain ⟨s, hs, hks⟩ := h.complete v hv
      exact ⟨s, List.mem_append_left _ hs, hks⟩
    · rw [List.mem_singleton.1 hv]
      exact ⟨_, List.mem_append_right _ (List.mem_singleton.2 rfl), rfl⟩

/-- One more change keeps the series grown. -/
theorem grow (h : Grown start us ss) (u : Change) :
    Grown start (us ++ [u]) (grow start ss u) := by
  unfold Metric.grow
  cases hc : changeSeries u.key u.act ss with
  | none => exact h.grow_new (changeSeries_eq_none_iff.1 hc)
  | some ss' =>
    obtain ⟨rfl, s, hs, hk⟩ := changeSeries_eq_some h.distinct hc
    exact h.grow_known hs hk

/-- The reading under some label values: they have to lead the changes with their fingerprint. -/
theorem find_reading (h : Grown start us ss) (v : List String) :
    (ss.find? fun s => decide (s.values = v)).map Series.reading =
      if (Change.among us (Series.key v)).head?.map Change.values = some v then
        some (Change.reading start (Change.among us (Series.key v)))
      else none := by
  split
  · next hv =>
    obtain ⟨u, hu, huv⟩ := Option.map_eq_some_iff.1 hv
    have hmem := List.mem_filter.1 (List.mem_of_mem_head? hu)
    obtain ⟨s, hs, hk⟩ := h.complete u hmem.1
    have hsv : s.values = v := by
      have hled := h.led s hs
      rw [hk, of_decide_eq_true hmem.2, hv] at hled
      exact (Option.some.inj hled).symm
    cases hf : ss.find? fun s => decide (s.values = v) with
    | none => exact absurd hsv (by simpa using List.find?_eq_none.1 hf s hs)
    | some t =>
      have htv : t.values = v := by simpa using List.find?_some hf
      rw [Option.map_some, h.reading t (List.mem_of_find?_eq_some hf), htv]
  · next hv =>
    rw [Option.map_eq_none_iff, List.find?_eq_none]
    intro s hs heq
    have hled := h.led s hs
    rw [of_decide_eq_true heq] at hled
    exact hv hled

theorem exists_change (h : Grown start us ss) {s : Series} (hs : s ∈ ss) :
    ∃ u ∈ us, u.values = s.values := by
  obtain ⟨u, hu, huv⟩ := Option.map_eq_some_iff.1 (h.led s hs)
  exact ⟨u, (List.mem_filter.1 (List.mem_of_mem_head? hu)).1, huv⟩

/-- The series that begin with nothing are grown after any changes. -/
theorem foldl_grow (start : Reading) (us : List Change) :
    Grown start us (us.foldl (Metric.grow start) []) := by
  induction us using List.reverseRecOn with
  | nil => exact .nil
  | append_singleton us u ih =>
    rw [List.foldl_append]
    exact ih.grow u

end Grown

theorem of_mem_changeSeries {k : UInt64} {f : Reading → Reading} {ss ss' : List Series}
    (h : changeSeries k f ss = some ss') {s : Series} (hs : s ∈ ss') :
    s ∈ ss ∨ ∃ t ∈ ss, s.reading = f t.reading := by
  induction ss generalizing ss' with
  | nil => cases h
  | cons t ts ih =>
    rw [changeSeries] at h
    split at h
    · cases h
      rcases List.mem_cons.1 hs with rfl | hs
      · exact .inr ⟨t, List.mem_cons_self, rfl⟩
      · exact .inl (List.mem_cons_of_mem t hs)
    · obtain ⟨ts', hts, rfl⟩ := Option.map_eq_some_iff.1 h
      rcases List.mem_cons.1 hs with rfl | hs
      · exact .inl List.mem_cons_self
      · rcases ih hts hs with old | ⟨x, hx, changed⟩
        · exact .inl (List.mem_cons_of_mem t old)
        · exact .inr ⟨x, List.mem_cons_of_mem t hx, changed⟩

/-- What holds of the first reading and is kept by the changes holds of every series. -/
theorem forall_foldl_grow {P : Reading → Prop} {start : Reading} (hstart : P start)
    {us : List Change} (hact : ∀ u ∈ us, ∀ r, P r → P (u.act r)) {ss : List Series}
    (hss : ∀ s ∈ ss, P s.reading) : ∀ s ∈ us.foldl (grow start) ss, P s.reading := by
  induction us generalizing ss with
  | nil => exact hss
  | cons u us ih =>
    obtain ⟨hu, hus⟩ := List.forall_mem_cons.1 hact
    refine ih hus ?_
    intro s hs
    unfold grow at hs
    cases hc : changeSeries u.key u.act ss with
    | none =>
      rw [hc] at hs
      rcases List.mem_append.1 hs with hs | hs
      · exact hss s hs
      · rw [List.mem_singleton.1 hs]
        exact hu start hstart
    | some ss' =>
      rw [hc] at hs
      rcases of_mem_changeSeries hc hs with old | ⟨t, ht, changed⟩
      · exact hss s old
      · rw [changed]
        exact hu t.reading (hss t ht)

/-- A metric without labels has one series for ever. -/
theorem foldl_grow_unlabelled (start r : Reading) {us : List Change}
    (h : ∀ u ∈ us, u.values = []) :
    us.foldl (grow start) [⟨[], r⟩] = [⟨[], Change.reading r us⟩] := by
  induction us generalizing r with
  | nil => rfl
  | cons u us ih =>
    obtain ⟨hu, hus⟩ := List.forall_mem_cons.1 h
    have step : grow start [⟨[], r⟩] u = [⟨[], u.act r⟩] := by
      simp [grow, changeSeries, Change.key, hu]
    rw [List.foldl_cons, step, ih (u.act r) hus]
    rfl

/-! ### Metrics after changes -/

/-- A metric after a change; a refused change leaves it as it is. -/
def apply (m : Metric) (u : Change) : Metric :=
  match m.update u.values u.act with
  | .ok m' => m'
  | .error _ => m

/-- A metric after changes, one after the other. -/
def after (m : Metric) (us : List Change) : Metric := us.foldl apply m

theorem apply_eq_grow {m : Metric} {u : Change} {start : Reading}
    (hstart : m.kind.start m.descriptor.labels = .ok start)
    (hlen : u.values.length = m.descriptor.labels.length) :
    m.apply u = { m with series := grow start m.series u } := by
  unfold apply update grow Change.key
  rw [if_neg (not_not_intro hlen)]
  cases changeSeries (Series.key u.values) u.act m.series <;> simp [hstart]

theorem after_eq_grow {m : Metric} {us : List Change} {start : Reading}
    (hstart : m.kind.start m.descriptor.labels = .ok start)
    (hlen : ∀ u ∈ us, u.values.length = m.descriptor.labels.length) :
    m.after us = { m with series := us.foldl (grow start) m.series } := by
  unfold after
  induction us generalizing m with
  | nil => rfl
  | cons u us ih =>
    obtain ⟨hu, hus⟩ := List.forall_mem_cons.1 hlen
    rw [List.foldl_cons, apply_eq_grow hstart hu]
    exact ih (m := { m with series := grow start m.series u }) hstart hus

/-! ### One collector of a store -/

namespace Store

variable {s : Store} {c d : CollectorId} {m : Metric}

theorem index_lt_of_collector (h : s.collector c = ⟨[m]⟩) : c.index < s.collectors.length := by
  by_contra hc
  rw [collector, List.getD, List.getElem?_eq_none (Nat.le_of_not_lt hc)] at h
  cases h

theorem collector_update_self (h : s.collector c = ⟨[m]⟩) (u : Change) :
    (s.update c u.values u.act).collector c = ⟨[m.apply u]⟩ := by
  have hlt := index_lt_of_collector h
  unfold update tryUpdate Collector.update apply
  rw [h]
  cases hm : m.update u.values u.act with
  | error r => simp [hm, Except.map, h]
  | ok m' => simp [hm, Except.map, collector, hlt]

theorem collector_update_of_ne (h : d ≠ c) (values : List String) (f : Reading → Reading) :
    (s.update c values f).collector d = s.collector d := by
  have hne : c.index ≠ d.index := fun heq => h (by cases c; cases d; cases heq; rfl)
  unfold update tryUpdate
  cases (s.collector c).update 0 values f with
  | error r => rfl
  | ok k => simp [Except.map, collector, List.getD, List.getElem?_set_ne hne]

end Store

end WorkerTelemetry.Metric
