import WorkerTelemetry.Proofs.Activity.Enrolling
import WorkerTelemetry.Proofs.Activity.Holdings
import WorkerTelemetry.Proofs.Metric.Forming
import WorkerTelemetry.Proofs.Metric.Naming

/-!
What a snapshot contains after all that was done by handles. A metric that a registry has accepted
is shown as soon as it has a series: a metric without labels always, one with labels from the first
change of it that was carried out. Main statements: what has become of every metric that was made,
and from this the names and the series of a snapshot.
-/

namespace WorkerTelemetry

namespace Metric

/-- What has become of a metric, of which changes may have been carried out. -/
structure Becomes (m m' : Metric) (changed : Prop) : Prop where
  descriptor : m'.descriptor = m.descriptor
  exposedName : m'.exposedName = m.exposedName
  formed : m.Formed → m'.Formed
  series : m'.series ≠ [] ↔ m.series ≠ [] ∨ changed

namespace Becomes

variable {m m' m'' : Metric} {p q : Prop}

theorem refl (m : Metric) (none : ¬ p) : m.Becomes m p :=
  ⟨rfl, rfl, id, by simp [none]⟩

theorem trans (h : m.Becomes m' p) (h' : m'.Becomes m'' q) : m.Becomes m'' (p ∨ q) := by
  refine ⟨h'.descriptor.trans h.descriptor, h'.exposedName.trans h.exposedName,
    h'.formed ∘ h.formed, ?_⟩
  rw [h'.series, h.series, or_assoc]

theorem congr (h : m.Becomes m' p) (same : p ↔ q) : m.Becomes m' q :=
  propext same ▸ h

theorem update {values : List String} {act : Reading → Reading}
    (h : m.update values act = .ok m') (carried : p) : m.Becomes m' p := by
  refine ⟨update_descriptor h, exposedName_update h, fun formed => formed.update h, ?_⟩
  exact iff_of_true (series_ne_nil_of_update h) (.inr carried)

end Becomes

/-- What has become of a collector, of whose metrics some may have been changed. -/
structure Collector.Becomes (k k' : Collector) (changed : Nat → Prop) : Prop where
  length : k'.metrics.length = k.metrics.length
  metric : ∀ (i : Nat) (m : Metric), k.metrics[i]? = some m →
    ∃ m', k'.metrics[i]? = some m' ∧ m.Becomes m' (changed i)

namespace Collector.Becomes

variable {k k' k'' : Collector} {p q : Nat → Prop}

theorem congr (h : k.Becomes k' p) (same : ∀ i < k.metrics.length, (p i ↔ q i)) :
    k.Becomes k' q := by
  refine ⟨h.length, fun i m hm => ?_⟩
  obtain ⟨m', hm', becomes⟩ := h.metric i m hm
  exact ⟨m', hm', becomes.congr (same i (List.getElem?_eq_some_iff.1 hm).1)⟩

theorem refl (k : Collector) (none : ∀ i < k.metrics.length, ¬ p i) : k.Becomes k p := by
  have unchanged : k.Becomes k fun _ => False := ⟨rfl, fun i m hm => ⟨m, hm, .refl m id⟩⟩
  exact unchanged.congr fun i hi => (iff_false_intro (none i hi)).symm

theorem trans (h : k.Becomes k' p) (h' : k'.Becomes k'' q) : k.Becomes k'' fun i => p i ∨ q i := by
  refine ⟨h'.length.trans h.length, fun i m hm => ?_⟩
  obtain ⟨m', hm', first⟩ := h.metric i m hm
  obtain ⟨m'', hm'', rest⟩ := h'.metric i m' hm'
  exact ⟨m'', hm'', first.trans rest⟩

/-- A change of one of the metrics. -/
theorem set {part : Nat} {m m' : Metric} {values : List String} {act : Reading → Reading}
    (hm : k.metrics[part]? = some m) (h : m.update values act = .ok m') :
    k.Becomes ⟨k.metrics.set part m'⟩ (part = ·) := by
  refine ⟨List.length_set .., fun i x hx => ?_⟩
  by_cases same : part = i
  · subst same
    cases hm.symm.trans hx
    exact ⟨m', List.getElem?_set_self (List.getElem?_eq_some_iff.1 hm).1, .update h rfl⟩
  · exact ⟨x, (List.getElem?_set_ne same).trans hx, .refl x same⟩

/-- Every metric has come from one that was there. -/
theorem exists_origin (h : k.Becomes k' p) {m' : Metric} (hm : m' ∈ k'.metrics) :
    ∃ m ∈ k.metrics, ∃ i, m.Becomes m' (p i) := by
  obtain ⟨i, hi, rfl⟩ := List.mem_iff_getElem.1 hm
  have hi' : i < k.metrics.length := h.length ▸ hi
  obtain ⟨x, hx, becomes⟩ := h.metric i _ (List.getElem?_eq_getElem hi')
  rw [List.getElem?_eq_getElem hi] at hx
  cases hx
  exact ⟨_, List.getElem_mem hi', i, becomes⟩

end Collector.Becomes

end Metric

namespace Activity

open WorkerTelemetry.Metric

namespace Holdings

/-! ### Acts as steps of the store -/

theorem exists_steps_registerAll {r : RegistryId} {cs : List CollectorId} {s : Store}
    (used : r.index < s.registries.length) (here : ∀ c ∈ cs, c.index < s.collectors.length) :
    ∃ xs, (s.registerAll r cs).1 = s.run xs := by
  induction cs generalizing s with
  | nil => exact ⟨[], rfl⟩
  | cons c cs ih =>
    obtain ⟨first, rest⟩ := List.forall_mem_cons.1 here
    have step : s.step (.register r c) = (s.register r c).1 := if_pos ⟨used, first⟩
    cases answered : (s.register r c).2 with
    | error e =>
      refine ⟨[.register r c], ?_⟩
      rw [Store.registerAll_of_error answered, Store.run_cons, step]
      rfl
    | ok u =>
      have used' : r.index < (s.register r c).1.registries.length := by
        rwa [show (s.register r c).1.registries.length = _ from List.length_set ..]
      obtain ⟨xs, after⟩ := ih used' rest
      refine ⟨.register r c :: xs, ?_⟩
      rw [Store.registerAll_of_ok answered, Store.run_cons, step, after]

theorem exists_steps_amend (xs : List (CollectorId × Nat × Change)) (s : Store) :
    ∃ ys, xs.foldl amend s = s.run ys := by
  refine ⟨xs.map fun x => .update x.1 x.2.1 x.2.2.values x.2.2.act, ?_⟩
  rw [Store.run, List.foldl_map]
  rfl

variable {d : Holdings} {a : Act} {as : List Act} {r : RegistryId} {c : CollectorId}

theorem exists_steps (sound : d.Sound) (a : Act) : ∃ xs, (d.step a).store = d.store.run xs := by
  cases a with
  | newRegistry => exact ⟨[.registry], rfl⟩
  | newCollector k => exact ⟨[.collector k], rfl⟩
  | newSet =>
    exact ⟨[.collector ⟨[Metrics.durationMetric]⟩, .collector ⟨[Metrics.totalMetric]⟩,
      .collector ⟨[Metrics.pullRequestsMetric]⟩, .collector ⟨[Metrics.provisionMetric]⟩], rfl⟩
  | cloneRegistry g | cloneSet h | cloneCollector h | query h | scrape g => exact ⟨[], rfl⟩
  | register g h =>
    rw [step]
    split
    · next r c hr hc =>
      rw [← Store.registerAll_singleton]
      refine exists_steps_registerAll (sound.registries r (List.mem_of_getElem? hr)) ?_
      exact List.forall_mem_singleton.2 (sound.collectors c (List.mem_of_getElem? hc))
    · exact ⟨[], rfl⟩
  | registerSet g h =>
    rw [step]
    split
    · next r m hr hm =>
      exact exists_steps_registerAll (sound.registries r (List.mem_of_getElem? hr))
        (sound.places m (List.mem_of_getElem? hm))
    · exact ⟨[], rfl⟩
  | change h part u =>
    rw [step]
    split
    · next c _ => exact ⟨[.update c part u.values u.act], rfl⟩
    · exact ⟨[], rfl⟩
  | record h x =>
    rw [step]
    split
    · next m _ =>
      dsimp only
      rw [take_eq_foldl_amend]
      exact exists_steps_amend _ _
    · exact ⟨[], rfl⟩

theorem exists_steps_run (sound : d.Sound) (as : List Act) :
    ∃ xs, (d.run as).store = d.store.run xs := by
  induction as generalizing d with
  | nil => exact ⟨[], rfl⟩
  | cons a as ih =>
    obtain ⟨xs, first⟩ := exists_steps sound a
    obtain ⟨ys, rest⟩ := ih (sound.step a)
    exact ⟨xs ++ ys, by rw [Store.run_append, ← first, ← rest]; rfl⟩

/-! ### What has become of a metric -/

/-- The collectors that an act makes. -/
def Act.makes : Act → List Collector
  | .newCollector k => [k]
  | .newSet => Part.all.map fun p => ⟨[p.metric]⟩
  | _ => []

/-- The collectors that acts make, as they are made; each is at its place in this list. -/
def made (as : List Act) : List Collector := as.flatMap Act.makes

theorem made_cons (a : Act) (as : List Act) : made (a :: as) = a.makes ++ made as :=
  List.flatMap_cons

/-- The changes that an act carries out. -/
def carries (d : Holdings) (a : Act) : List (CollectorId × Nat × Change) :=
  (d.changes a).filter fun x =>
    ((d.store.collector x.1).update x.2.1 x.2.2.values x.2.2.act).isOk

/-- The changes that are carried out in the course of some acts. -/
def carried (d : Holdings) : List Act → List (CollectorId × Nat × Change)
  | [] => []
  | a :: as => d.carries a ++ (d.step a).carried as

/-- Collectors keep their places, and new ones come behind them. -/
theorem collectors_step (d : Holdings) (a : Act) : ∃ kept,
    (d.step a).store.collectors = kept ++ a.makes ∧ kept.length = d.store.collectors.length := by
  have unmade (none : a.makes = [])
      (same : (d.step a).store.collectors.length = d.store.collectors.length) : ∃ kept,
      (d.step a).store.collectors = kept ++ a.makes ∧ kept.length = d.store.collectors.length :=
    ⟨_, by rw [none, List.append_nil], same⟩
  cases a with
  | newCollector k => exact ⟨_, rfl, rfl⟩
  | newSet =>
    refine ⟨d.store.collectors, ?_, rfl⟩
    simp [step, Metrics.create, Store.addCollector, Act.makes, Part.all, Part.metric]
  | newRegistry | cloneRegistry g | cloneSet h | cloneCollector h | query h | scrape g =>
    exact unmade rfl rfl
  | register g h =>
    refine unmade rfl ?_
    rw [step]
    split <;> rfl
  | registerSet g h =>
    refine unmade rfl ?_
    rw [step]
    split
    · exact congrArg List.length (Store.collectors_registerAll ..)
    · rfl
  | change h part u =>
    refine unmade rfl ?_
    rw [step]
    split
    · exact length_amend _ (_, part, u)
    · rfl
  | record h x =>
    refine unmade rfl ?_
    rw [step]
    split
    · dsimp only
      rw [take_eq_foldl_amend, length_foldl_amend]
    · rfl

theorem getElem?_collectors {s : Store} {ks : List Collector}
    (used : c.index < s.collectors.length) :
    (s.collectors ++ ks)[c.index]? = some (s.collector c) := by
  rw [List.getElem?_append_left used, Store.collector, List.getD,
    List.getElem?_eq_getElem used, Option.getD_some]

/-- What one change makes of its collector. -/
theorem becomes_amended (k : Collector) (part : Nat) (u : Change) :
    k.Becomes (amended k part u) fun i => part = i ∧ (k.update part u.values u.act).isOk := by
  unfold amended Collector.update
  cases hp : k.metrics[part]? with
  | none =>
    refine .refl k ?_
    rintro i here ⟨rfl, -⟩
    exact absurd (List.getElem?_eq_none_iff.1 hp) (Nat.not_le.2 here)
  | some x =>
    dsimp only
    cases hx : x.update u.values u.act with
    | error e => exact .refl k fun i _ carried => nomatch carried.2
    | ok x' => exact (Collector.Becomes.set hp hx).congr fun i _ => (and_iff_left rfl).symm

/-- What one act makes of a collector. -/
theorem becomes_step (sound : d.Sound) (used : c.index < d.store.collectors.length) (a : Act) :
    (d.store.collector c).Becomes ((d.step a).store.collector c)
      fun i => ∃ u, (c, i, u) ∈ d.carries a := by
  by_cases changed : c ∈ (d.changes a).map (·.1)
  · obtain ⟨⟨c, part, u⟩, hx, rfl⟩ := List.mem_map.1 changed
    have becomes := becomes_amended (d.store.collector c) part u
    rw [← collector_step_of_mem sound hx] at becomes
    refine becomes.congr fun i _ => ⟨?_, ?_⟩
    · rintro ⟨rfl, carried⟩
      exact ⟨u, List.mem_filter.2 ⟨hx, carried⟩⟩
    · rintro ⟨v, hv⟩
      obtain ⟨hv, carried⟩ := List.mem_filter.1 hv
      -- an act changes a collector once
      cases List.inj_on_of_nodup_map (nodup_changes sound a) hx hv rfl
      exact ⟨rfl, carried⟩
  · rw [collector_step sound used changed]
    refine .refl _ ?_
    rintro i - ⟨u, hu⟩
    exact changed (List.mem_map_of_mem (List.mem_filter.1 hu).1)

/-- What acts make of a collector, be it there already or made by one of them. -/
theorem becomes_run (sound : d.Sound) (as : List Act) {k : Collector}
    (hk : (d.store.collectors ++ made as)[c.index]? = some k) :
    k.Becomes ((d.run as).store.collector c) fun i => ∃ u, (c, i, u) ∈ d.carried as := by
  induction as generalizing d k with
  | nil =>
    rw [made, List.flatMap_nil, List.append_nil] at hk
    have here : (d.run []).store.collector c = k := by
      rw [run, List.foldl_nil, Store.collector, List.getD, hk, Option.getD_some]
    rw [here]
    exact .refl k (by simp [carried])
  | cons a as ih =>
    by_cases used : c.index < d.store.collectors.length
    · rw [getElem?_collectors used] at hk
      cases hk
      have used' := Nat.lt_of_lt_of_le used (length_step sound a).2
      have rest := ih (sound.step a) (getElem?_collectors used')
      refine ((becomes_step sound used a).trans rest).congr fun i _ => ?_
      simp only [carried, List.mem_append, exists_or]
    · obtain ⟨kept, after, length⟩ := collectors_step d a
      have later : ((d.step a).store.collectors ++ made as)[c.index]? = some k := by
        have new := Nat.le_of_not_lt used
        rw [made_cons, List.getElem?_append_right new] at hk
        rw [after, List.append_assoc, List.getElem?_append_right (length ▸ new), length]
        exact hk
      have unchanged : ∀ i u, (c, i, u) ∉ d.carries a := fun i u hu =>
        used (used_of_mem_changes sound (List.mem_filter.1 hu).1)
      refine (ih (sound.step a) later).congr fun i _ => ?_
      simp only [carried, List.mem_append, unchanged, false_or]

/-! ### What is shown -/

/-- At every moment a registry holds what it has accepted. -/
theorem collectors_eq_accepted (r : RegistryId) (as : List Act) :
    ((run {} as).store.registry r).collectors = accepted {} r as := by
  have all := collectors_run sound_empty r as
  simpa [Store.registry, Registry.collectors] using all

theorem heldNames_run (r : RegistryId) (as : List Act) :
    ((run {} as).store.heldNames r).Nodup ∧ ∀ n,
      n ∈ (run {} as).store.heldNames r ↔ n ∈ ((run {} as).store.registry r).metricNames := by
  obtain ⟨xs, same⟩ := exists_steps_run sound_empty as
  rw [same]
  exact Store.heldNames_run r xs

theorem length_made (d : Holdings) (as : List Act) :
    (d.run as).store.collectors.length = d.store.collectors.length + (made as).length := by
  induction as generalizing d with
  | nil => rfl
  | cons a as ih =>
    obtain ⟨kept, after, length⟩ := collectors_step d a
    have rest : ((d.run (a :: as)).store.collectors).length = _ := ih (d.step a)
    rw [rest, after, made_cons, List.length_append, List.length_append, length, Nat.add_assoc]

/-- What a registry has accepted has come from a collector that was made. -/
theorem exists_made (hc : c ∈ accepted {} r as) :
    ∃ k ∈ made as, (made as)[c.index]? = some k ∧
      k.Becomes ((run {} as).store.collector c) fun i => ∃ u, (c, i, u) ∈ carried {} as := by
  have used : c.index < (made as).length := by
    have here := (sound_empty.run as).held r c (collectors_eq_accepted r as ▸ hc)
    rwa [length_made, List.length_nil, Nat.zero_add] at here
  have found := List.getElem?_eq_getElem used
  exact ⟨_, List.getElem_mem used, found, becomes_run sound_empty as found⟩

theorem single_or_vector_of_made
    (given : ∀ k, .newCollector k ∈ as → ∀ m ∈ k.metrics, m.IsSingle ∨ m.IsVector)
    {k : Collector} (hk : k ∈ made as) {m : Metric} (hm : m ∈ k.metrics) :
    m.IsSingle ∨ m.IsVector := by
  obtain ⟨a, ha, hk⟩ := List.mem_flatMap.1 hk
  cases a with
  | newCollector k' =>
    cases List.mem_singleton.1 hk
    exact given k ha m hm
  | newSet =>
    obtain ⟨p, -, rfl⟩ := List.mem_map.1 hk
    cases List.mem_singleton.1 hm
    cases p with
    | duration => exact .inr ⟨_, _, _, _, _, Metrics.labelled_durationMetric, rfl⟩
    | total => exact .inr ⟨_, _, _, _, _, Metrics.labelled_totalMetric, rfl⟩
    | pullRequests => exact .inl ⟨_, _, _, _, Metrics.single_pullRequestsMetric, rfl⟩
    | provision => exact .inl ⟨_, _, _, _, Metrics.single_provisionMetric, rfl⟩
  | _ => cases hk

/-- What a snapshot contains, of a registry that shows all it holds under the names it describes. It
lists the names of those metrics the registry has accepted that have a series, in the order of their
bytes. If all metrics are made with one series or with labels, the series of each are in the order
of their label values. A metric without labels is there always; one with labels is there once a
change of it was carried out, be that before or after the registration and through whichever handle.
Nothing comes of what neither changes a collector nor is accepted. -/
theorem snapshot_contents (as : List Act) (r : RegistryId) (named : (run {} as).store.Named r) :
    let d := run {} as
    let shown := (d.store.snapshot r).map Family.name
    shown.Pairwise (fun n k => Text.utf8 n.toList < Text.utf8 k.toList) ∧
      (∀ n, n ∈ shown ↔ n ∈ (d.store.registry r).metricNames ∧ ∃ c ∈ accepted {} r as,
        ∃ m ∈ (d.store.collector c).metrics, m.descriptor.name = n ∧ m.series ≠ []) ∧
      (∀ f ∈ d.store.snapshot r, ∃ c ∈ accepted {} r as, ∃ m ∈ (d.store.collector c).metrics,
        f = (family m).ordered) ∧
      ((∀ k, .newCollector k ∈ as → ∀ m ∈ k.metrics, m.IsSingle ∨ m.IsVector) →
        ∀ f ∈ d.store.snapshot r, f.series.Pairwise fun s t =>
          FamilySeries.valuesAtMost s.values t.values = true ∧ s.values ≠ t.values) ∧
      (∀ c ∈ accepted {} r as, ∃ k ∈ made as, (made as)[c.index]? = some k ∧
        ∀ (i : Nat) (m : Metric), k.metrics[i]? = some m →
          (m.IsSingle → m.descriptor.name ∈ shown) ∧
            (m.IsVector → (m.descriptor.name ∈ shown ↔ ∃ u, (c, i, u) ∈ carried {} as))) ∧
      ∀ a, d.changes a = [] → d.taken r a = [] →
        (d.step a).store.snapshot r = d.store.snapshot r := by
  intro d shown
  have sound : d.Sound := sound_empty.run as
  have held : (d.store.registry r).collectors = accepted {} r as := collectors_eq_accepted r as
  obtain ⟨distinct, names⟩ := heldNames_run r as
  have member {f : Family} := Store.mem_snapshot_of_named (f := f) named distinct
  refine ⟨?_, ?_, ?_, ?_, ?_, ?_⟩
  · exact (Family.names_snapshot _).imp fun lt => Text.utf8_lt lt
  · intro n
    constructor
    · intro hn
      obtain ⟨f, hf, rfl⟩ := List.mem_map.1 hn
      obtain ⟨c, hc, m, hm, series, rfl⟩ := member.1 hf
      have name : (family m).ordered.name = m.descriptor.name := named c hc m hm
      have described : m.descriptor.name ∈ (d.store.collector c).names :=
        List.mem_map_of_mem (List.mem_map_of_mem hm)
      rw [name]
      exact ⟨(names _).1 (List.mem_flatMap.2 ⟨c, hc, described⟩), c, held ▸ hc, m, hm, rfl, series⟩
    · rintro ⟨-, c, hc, m, hm, rfl, series⟩
      exact (Store.name_mem_snapshot_iff named distinct (held.symm ▸ hc) hm).2 series
  · intro f hf
    obtain ⟨c, hc, m, hm, -, rfl⟩ := member.1 hf
    exact ⟨c, held ▸ hc, m, hm, rfl⟩
  · intro given f hf
    obtain ⟨c, hc, m, hm, -, rfl⟩ := member.1 hf
    obtain ⟨k, hk, -, becomes⟩ := exists_made (held ▸ hc)
    obtain ⟨x, hx, i, becomes⟩ := becomes.exists_origin hm
    have formed : x.Formed := (single_or_vector_of_made given hk hx).elim
      IsSingle.formed IsVector.formed
    exact (becomes.formed formed).ordered_family
  · intro c hc
    obtain ⟨k, hk, place, becomes⟩ := exists_made hc
    refine ⟨k, hk, place, fun i m hm => ?_⟩
    obtain ⟨m', hm', becomes⟩ := becomes.metric i m hm
    have listed : m.descriptor.name ∈ shown ↔ m.series ≠ [] ∨ ∃ u, (c, i, u) ∈ carried {} as := by
      rw [← becomes.descriptor, ← becomes.series]
      exact Store.name_mem_snapshot_iff named distinct (held.symm ▸ hc) (List.mem_of_getElem? hm')
    refine ⟨fun single => listed.2 (.inl single.series_ne_nil), fun vector => ?_⟩
    rw [listed, vector.series_eq_nil]
    exact or_iff_right (not_not_intro rfl)
  · intro a unchanged refused
    have view := view_step sound refused (by simp [unchanged])
    exact congrArg (fun v => v.2.1) view

/-- A metric with labels, and one without. -/
def queueMetrics : Collector :=
  ⟨[⟨⟨"queued_total", "jobs queued", ["queue"]⟩, "queued_total", .counter, []⟩,
    ⟨⟨"queue_depth", "jobs waiting", []⟩, "queue_depth", .gauge, [⟨[], .gauge 0.0⟩]⟩]⟩

/-- Changes before and after registrations, through clones too, and a refused registration. -/
def queueActs : List Act :=
  [.newRegistry, .newCollector queueMetrics, .newSet, .cloneCollector 0,
    .change 1 0 ⟨["b"], .increase 1⟩, .register 0 0, .registerSet 0 0,
    .change 0 0 ⟨["a"], .increase 2⟩, .change 1 0 ⟨[], .increase 1⟩, .cloneSet 0,
    .record 1 .pullRequest, .register 0 1, .query 0, .scrape 0]

/-- Of the metrics with labels only that is shown which was changed. -/
theorem snapshot_contents_queueActs :
    (∀ k, .newCollector k ∈ queueActs → ∀ m ∈ k.metrics, m.IsSingle ∨ m.IsVector) ∧
      (run {} queueActs).store.Named ⟨0⟩ ∧
      (∀ f ∈ (run {} queueActs).store.snapshot ⟨0⟩, f.series.Pairwise fun s t =>
        FamilySeries.valuesAtMost s.values t.values = true ∧ s.values ≠ t.values) ∧
      "queued_total" ∈ ((run {} queueActs).store.snapshot ⟨0⟩).map Family.name ∧
      "prs_created_total" ∈ ((run {} queueActs).store.snapshot ⟨0⟩).map Family.name ∧
      "activity_total" ∉ ((run {} queueActs).store.snapshot ⟨0⟩).map Family.name := by
  have given : ∀ k, .newCollector k ∈ queueActs → ∀ m ∈ k.metrics, m.IsSingle ∨ m.IsVector := by
    intro k hk m hm
    have same : k = queueMetrics := by simpa [queueActs] using hk
    subst same
    rcases List.mem_pair.1 hm with rfl | rfl
    · exact .inr ⟨"queued_total", "jobs queued", ["queue"], .counter, _, rfl, rfl⟩
    · exact .inl ⟨"queue_depth", "jobs waiting", .gauge, _, rfl, rfl⟩
  have named : (run {} queueActs).store.Named ⟨0⟩ := by
    unfold Store.Named
    decide +kernel
  obtain ⟨-, -, -, ordered, presence, -⟩ := snapshot_contents queueActs ⟨0⟩ named
  have changed (c : CollectorId) (i : Nat) : (∃ u, (c, i, u) ∈ carried {} queueActs) ↔
      (c, i) ∈ (carried {} queueActs).map fun x => (x.1, x.2.1) := by simp
  refine ⟨given, named, ordered given, ?_, ?_, ?_⟩
  · obtain ⟨k, -, place, shown⟩ := presence ⟨0⟩ (by decide +kernel)
    cases place
    exact ((shown 0 _ rfl).2 ⟨"queued_total", "jobs queued", ["queue"], .counter, _, rfl, rfl⟩).2
      ((changed ⟨0⟩ 0).2 (by decide +kernel))
  · obtain ⟨k, -, place, shown⟩ := presence ⟨3⟩ (by decide +kernel)
    cases place
    exact (shown 0 _ rfl).1 ⟨_, _, _, _, Metrics.single_pullRequestsMetric, rfl⟩
  · obtain ⟨k, -, place, shown⟩ := presence ⟨2⟩ (by decide +kernel)
    cases place
    have vector : Metrics.totalMetric.IsVector :=
      ⟨_, _, _, _, _, Metrics.labelled_totalMetric, rfl⟩
    exact fun listed => absurd ((changed ⟨2⟩ 0).1 (((shown 0 _ rfl).2 vector).1 listed))
      (by decide +kernel)

end Holdings

end Activity

end WorkerTelemetry
