import WorkerTelemetry.Proofs.Metric.Forming
import WorkerTelemetry.Proofs.Metric.SampleLines
import WorkerTelemetry.Proofs.Metric.Steps

/-!
What all metrics of a store have in common. If they are made so and no change takes it from one of
them, they have it after every run. Main statements: this, and that metrics whose names are in order
are shown in families whose names are, whatever registries gather of them.
-/

namespace WorkerTelemetry.Metric

theorem Collector.update_cases {k k' : Collector} {part : Nat} {values : List String}
    {act : Reading → Reading} (h : k.update part values act = .ok k') :
    k' = k ∨ ∃ m m', k.metrics[part]? = some m ∧ m.update values act = .ok m' ∧
      k' = ⟨k.metrics.set part m'⟩ := by
  unfold Collector.update at h
  split at h
  · cases h
    exact .inl rfl
  next m hm =>
  cases hu : m.update values act with
  | error e => rw [hu] at h; cases h
  | ok m' =>
    rw [hu] at h
    cases h
    exact .inr ⟨m, m', hm, hu, rfl⟩

/-- A change of one metric leaves all of a collector what they are, if it leaves this one so. -/
theorem Collector.forall_update {P : Metric → Prop} {k k' : Collector} {part : Nat}
    {values : List String} {act : Reading → Reading} (h : ∀ m ∈ k.metrics, P m)
    (keeps : ∀ m m', P m → m.update values act = .ok m' → P m')
    (changed : k.update part values act = .ok k') : ∀ m ∈ k'.metrics, P m := by
  rcases Collector.update_cases changed with rfl | ⟨m, m', hm, updated, rfl⟩
  · exact h
  · intro n hn
    rcases List.mem_or_eq_of_mem_set hn with old | rfl
    · exact h n old
    · exact keeps m n (h m (List.mem_of_getElem? hm)) updated

/-- Whether a step makes metrics with a property only, and takes it from none that it changes. -/
def Step.Keeps (P : Metric → Prop) : Step → Prop
  | .collector k => ∀ m ∈ k.metrics, P m
  | .update _ _ values act => ∀ m m', P m → m.update values act = .ok m' → P m'
  | _ => True

namespace Store

variable {P Q : Metric → Prop} {s : Store} {x : Step} {xs : List Step}

/-- All metrics have a property. -/
def Everywhere (P : Metric → Prop) (s : Store) : Prop := ∀ k ∈ s.collectors, ∀ m ∈ k.metrics, P m

namespace Everywhere

theorem imp (h : s.Everywhere P) (pq : ∀ m, P m → Q m) : s.Everywhere Q :=
  fun k hk m hm => pq m (h k hk m hm)

theorem collector (h : s.Everywhere P) (c : CollectorId) : ∀ m ∈ (s.collector c).metrics, P m := by
  rw [Store.collector, List.getD_eq_getElem?_getD]
  cases hk : s.collectors[c.index]? with
  | none => exact fun m hm => absurd hm List.not_mem_nil
  | some k => exact h k (List.mem_of_getElem? hk)

theorem step (h : s.Everywhere P) (keeps : x.Keeps P) : (s.step x).Everywhere P := by
  cases x with
  | collector k => exact List.forall_mem_append.2 ⟨h, List.forall_mem_singleton.2 keeps⟩
  | registry => exact h
  | update c part values act =>
    rcases step_update_cases s c part values act with same | ⟨k, changed, same⟩
    · rwa [same]
    · rw [same]
      intro k' hk'
      rcases List.mem_or_eq_of_mem_set hk' with old | rfl
      · exact h k' old
      · exact Collector.forall_update (h.collector c) keeps changed
  | register r c =>
    unfold Everywhere
    rwa [collectors_register]

theorem run (h : s.Everywhere P) (keeps : ∀ x ∈ xs, x.Keeps P) : (s.run xs).Everywhere P := by
  induction xs generalizing s with
  | nil => exact h
  | cons x xs ih =>
    obtain ⟨first, rest⟩ := List.forall_mem_cons.1 keeps
    exact ih (h.step first) rest

/-- A store begins without metrics. -/
theorem start (P : Metric → Prop) : ({} : Store).Everywhere P := fun _ hk => nomatch hk

end Everywhere

end Store

/-! ### Names in order -/

/-- A metric whose labels have names of labels, and that is exposed by a name made of the characters
of names. It may be exposed by none, but then no text shows it. -/
structure WellNamed (m : Metric) : Prop where
  labels : ∀ l ∈ m.descriptor.labels, isLabelName l = true
  exposed : ∀ c ∈ m.exposedName.toList, isNameChar c = true

namespace WellNamed

variable {m m' : Metric} {values : List String} {act : Reading → Reading}

theorem of_fault (described : m.descriptor.fault = none)
    (exposed : ∀ c ∈ m.exposedName.toList, isNameChar c = true) : m.WellNamed :=
  ⟨(Descriptor.labels_of_labelFault (Descriptor.labelFault_of_fault described).2).2.2, exposed⟩

theorem update (h : m.WellNamed) (changed : m.update values act = .ok m') : m'.WellNamed := by
  constructor
  · rw [update_descriptor changed]
    exact h.labels
  · rw [exposedName_update changed]
    exact h.exposed

/-- The names in its family are made of the characters of names. -/
theorem named_family (h : m.WellNamed) : (family m).Named := by
  refine ⟨h.exposed, printable_kindName m.kind, ?_⟩
  intro t ht l hl
  exact isNameChar_of_isLabelName (h.labels l.1 (mem_labels_family ht hl))

end WellNamed

/-- Whether the names of the metrics that a step makes, if it makes some, are in order. -/
def Step.WellNamed : Step → Prop
  | .collector k => ∀ m ∈ k.metrics, m.WellNamed
  | _ => True

theorem Step.WellNamed.keeps {x : Step} (h : x.WellNamed) : x.Keeps Metric.WellNamed := by
  cases x with
  | collector k => exact h
  | registry => trivial
  | update c part values act => exact fun m m' wellNamed changed => wellNamed.update changed
  | register r c => trivial

/-- What families are gathered to has no other names than they have. -/
theorem Family.named_snapshot {fs : List Family} (h : ∀ f ∈ fs, f.Named) :
    ∀ f ∈ snapshot fs, f.Named := by
  intro f hf
  obtain ⟨g, hg, name, type, series⟩ := of_mem_snapshot hf
  refine ⟨?_, ?_, ?_⟩
  · rw [← name]
    exact (h g hg).name
  · rw [← type]
    exact (h g hg).type
  · intro s hs
    obtain ⟨k, hk, -, hs⟩ := series s hs
    exact (h k hk).labels s hs

namespace Store

/-- What a registry does not hold may have any names. -/
theorem named_snapshot {s : Store} {r : RegistryId}
    (h : ∀ c ∈ (s.registry r).collectors, ∀ m ∈ (s.collector c).metrics, m.WellNamed) :
    ∀ f ∈ s.snapshot r, f.Named := by
  refine Family.named_snapshot fun f hf => ?_
  obtain ⟨c, hc, hf⟩ := List.mem_flatMap.1 hf
  obtain ⟨m, hm, rfl⟩ := List.mem_map.1 hf
  exact (h c hc m hm).named_family

end Store

end WorkerTelemetry.Metric
