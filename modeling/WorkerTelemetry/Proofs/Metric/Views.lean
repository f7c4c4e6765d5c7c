import WorkerTelemetry.Proofs.Metric.Gathering
import WorkerTelemetry.Proofs.Metric.Growth
import WorkerTelemetry.Proofs.Metric.Steps

/-!
What is seen of a registry, and what it depends on: the names that were accepted, and the series of
the collectors that are held. Main statements: a registry holds what it has accepted, what is seen
of it is a function of what it holds, and it shows every series of a collector that it holds.
-/

namespace WorkerTelemetry.Metric

/-- What families have is in the family of this name of their snapshot. -/
theorem Family.exists_mem_snapshot {fs : List Family} {g : Family} {x : FamilySeries} (hg : g ∈ fs)
    (hx : x ∈ g.series) : ∃ f ∈ snapshot fs, f.name = g.name ∧ x ∈ f.series := by
  have listed : g ∈ shown g.name fs := by
    refine List.mem_filter.2 ⟨hg, ?_⟩
    have some_series : g.series ≠ [] := List.ne_nil_of_mem hx
    simp [some_series]
  cases same : shown g.name fs with
  | nil => exact absurd (same ▸ listed) List.not_mem_nil
  | cons k ks =>
    let all : Family := { k with series := k.series ++ ks.flatMap Family.series }
    have found : united (shown g.name fs) = some all := by rw [same]; rfl
    obtain ⟨-, -, -, name, -⟩ := of_united found
    have member : all.ordered ∈ snapshot fs :=
      mem_snapshot_iff.2 ⟨all, by rw [name, found], rfl⟩
    refine ⟨all.ordered, member, name, List.mem_mergeSort.2 ?_⟩
    rw [same] at listed
    rcases List.mem_cons.1 listed with rfl | later
    · exact List.mem_append_left _ hx
    · exact List.mem_append_right _ (List.mem_flatMap.2 ⟨g, later, hx⟩)

namespace Registry

variable {g : Registry} {o : Offer}

theorem collectors_of_ok (h : (g.offer o).2 = .ok ()) :
    (g.offer o).1.collectors = g.collectors ++ [o.collector] := by
  rcases offer_cases g o with ⟨m, -, heq⟩ | ⟨-, t, r, heq, -⟩ | ⟨-, t, heq, -, held⟩
  · rw [heq] at h; cases h
  · rw [heq] at h; cases h
  · rw [heq]
    exact held

theorem collectors_of_error {e : Error} (h : (g.offer o).2 = .error e) :
    (g.offer o).1.collectors = g.collectors := by
  rcases offer_cases g o with ⟨m, -, heq⟩ | ⟨-, t, r, heq, noted⟩ | ⟨-, t, heq, -⟩
  · rw [heq]
  · rw [heq]
    exact congrArg (List.map Prod.snd) noted.held
  · rw [heq] at h; cases h

end Registry

namespace Store

variable {s t : Store} {r q : RegistryId} {c : CollectorId} {cs : List CollectorId}

/-- What is seen of a registry: its names, its families and its text. -/
def view (s : Store) (r : RegistryId) : List String × List Family × Except Error String :=
  ((s.registry r).metricNames, s.snapshot r, s.encode r)

/-- A registry shows every series of a collector. -/
def Shows (s : Store) (r : RegistryId) (c : CollectorId) : Prop :=
  ∀ m ∈ (s.collector c).metrics, ∀ x ∈ m.series, ∃ f ∈ s.snapshot r, f.name = m.exposedName ∧
    ⟨labelPairs m.descriptor.labels x.values, x.reading⟩ ∈ f.series

/-- What is seen of a registry is a function of its names and of the collectors that it holds. -/
theorem snapshot_congr (held : (t.registry r).collectors = (s.registry r).collectors)
    (same : ∀ c ∈ (s.registry r).collectors, t.collector c = s.collector c) :
    t.snapshot r = s.snapshot r := by
  have families : (t.registry r).collectors.flatMap t.families =
      (s.registry r).collectors.flatMap s.families := by
    rw [held]
    refine List.flatMap_congr fun c hc => ?_
    rw [Store.families, same c hc, Store.families]
  rw [snapshot, families, snapshot]

theorem view_congr (names : (t.registry r).metricNames = (s.registry r).metricNames)
    (held : (t.registry r).collectors = (s.registry r).collectors)
    (same : ∀ c ∈ (s.registry r).collectors, t.collector c = s.collector c) :
    t.view r = s.view r := by
  rw [view, view, names, encode, encode, snapshot_congr held same]

/-- Every series of a collector that a registry holds is shown. -/
theorem shows_of_mem (held : c ∈ (s.registry r).collectors) : s.Shows r c := by
  intro m hm x hx
  have given : family m ∈ (s.registry r).collectors.flatMap s.families :=
    List.mem_flatMap.2 ⟨c, held, List.mem_map_of_mem hm⟩
  exact Family.exists_mem_snapshot given (List.mem_map_of_mem hx)

/-! ### Registrations -/

/-- The collectors that a registry accepts of several, up to the first that it refuses. -/
def welcome (s : Store) (r : RegistryId) : List CollectorId → List CollectorId
  | [] => []
  | c :: cs =>
    match (s.register r c).2 with
    | .error _ => []
    | .ok () => c :: (s.register r c).1.welcome r cs

section

variable {e : Error}

theorem registerAll_of_ok (accepted : (s.register r c).2 = .ok ()) (cs : List CollectorId) :
    s.registerAll r (c :: cs) = (s.register r c).1.registerAll r cs := by
  rw [registerAll]
  split
  · next t e heq => rw [heq] at accepted; cases accepted
  · next t heq => rw [heq]

theorem registerAll_of_error (refused : (s.register r c).2 = .error e) (cs : List CollectorId) :
    s.registerAll r (c :: cs) = s.register r c := by
  rw [registerAll]
  split
  · next t e heq => rw [heq]
  · next t heq => rw [heq] at refused; cases refused

theorem registerAll_singleton (s : Store) (r : RegistryId) (c : CollectorId) :
    (s.registerAll r [c]).1 = (s.register r c).1 := by
  cases answered : (s.register r c).2 with
  | error e => rw [registerAll_of_error answered]
  | ok u => rw [registerAll_of_ok answered, registerAll]

theorem welcome_of_ok (accepted : (s.register r c).2 = .ok ()) (cs : List CollectorId) :
    s.welcome r (c :: cs) = c :: (s.register r c).1.welcome r cs := by
  rw [welcome, accepted]

theorem welcome_of_error (refused : (s.register r c).2 = .error e) (cs : List CollectorId) :
    s.welcome r (c :: cs) = [] := by
  rw [welcome, refused]

end

theorem welcome_subset (s : Store) (r : RegistryId) (cs : List CollectorId) :
    s.welcome r cs ⊆ cs := by
  induction cs generalizing s with
  | nil => exact List.Subset.refl _
  | cons c cs ih =>
    cases answered : (s.register r c).2 with
    | error e =>
      rw [welcome_of_error answered]
      exact List.nil_subset _
    | ok u =>
      rw [welcome_of_ok answered]
      exact List.cons_subset_cons c (ih _)

theorem length_registerAll (s : Store) (r : RegistryId) (cs : List CollectorId) :
    (s.registerAll r cs).1.registries.length = s.registries.length := by
  induction cs generalizing s with
  | nil => rfl
  | cons c cs ih =>
    have first : (s.register r c).1.registries.length = s.registries.length := List.length_set ..
    cases answered : (s.register r c).2 with
    | error e => rw [registerAll_of_error answered, first]
    | ok u => rw [registerAll_of_ok answered, ih, first]

theorem collectors_registerAll (s : Store) (r : RegistryId) (cs : List CollectorId) :
    (s.registerAll r cs).1.collectors = s.collectors := by
  induction cs generalizing s with
  | nil => rfl
  | cons c cs ih =>
    cases answered : (s.register r c).2 with
    | error e => rw [registerAll_of_error answered]; rfl
    | ok u => rw [registerAll_of_ok answered, ih]; rfl

/-- Nothing is brought to another registry. -/
theorem registry_registerAll_of_ne (other : q ≠ r) (s : Store) (cs : List CollectorId) :
    (s.registerAll r cs).1.registry q = s.registry q := by
  induction cs generalizing s with
  | nil => rfl
  | cons c cs ih =>
    have first : (s.register r c).1.registry q = s.registry q := by
      rw [registry_register, if_neg fun h => other h.1]
    cases answered : (s.register r c).2 with
    | error e => rw [registerAll_of_error answered, first]
    | ok u => rw [registerAll_of_ok answered, ih, first]

/-- A registry holds those that it has accepted, and has new names only if there are any. -/
theorem registry_registerAll (used : r.index < s.registries.length) (cs : List CollectorId) :
    ((s.registerAll r cs).1.registry r).collectors = (s.registry r).collectors ++ s.welcome r cs ∧
      (s.welcome r cs = [] →
        ((s.registerAll r cs).1.registry r).metricNames = (s.registry r).metricNames) := by
  induction cs generalizing s with
  | nil => exact ⟨(List.append_nil _).symm, fun _ => rfl⟩
  | cons c cs ih =>
    have changed : (s.register r c).1.registry r = ((s.registry r).offer (s.offer c)).1 := by
      rw [registry_register, if_pos ⟨rfl, used⟩]
    have offered : ((s.registry r).offer (s.offer c)).2 = (s.register r c).2 := rfl
    cases answered : (s.register r c).2 with
    | error e =>
      have refused := offered.trans answered
      rw [registerAll_of_error answered, welcome_of_error answered, changed, List.append_nil]
      exact ⟨Registry.collectors_of_error refused, fun _ => Registry.metricNames_of_error refused⟩
    | ok u =>
      have accepted := offered.trans answered
      have same : (s.register r c).1.registries.length = s.registries.length := List.length_set ..
      have used' : r.index < (s.register r c).1.registries.length := by rwa [same]
      rw [registerAll_of_ok answered, welcome_of_ok answered]
      refine ⟨?_, fun none => absurd none (List.cons_ne_nil _ _)⟩
      rw [(ih used').1, changed, Registry.collectors_of_ok accepted, List.append_assoc]
      rfl

end Store

end WorkerTelemetry.Metric
