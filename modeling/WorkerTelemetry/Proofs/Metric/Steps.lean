import WorkerTelemetry.Metric.Store
import WorkerTelemetry.Proofs.Metric.Registering

/-!
Runs of a store: collectors and registries are made, series are changed, and collectors are brought
to registries, in any order and through any clones. Main statement: at every moment of a run, the
names in a registry are those of the offers it has accepted, and decide what it answers next. Only
what has been made can be named, so other registrations do nothing here.
-/

namespace WorkerTelemetry.Metric

/-- What a process does to its store. -/
inductive Step
  | collector (k : Collector)
  | registry
  | update (c : CollectorId) (part : Nat) (values : List String) (act : Reading → Reading)
  | register (r : RegistryId) (c : CollectorId)

theorem RegistryId.eq_of_index {r q : RegistryId} (h : r.index = q.index) : r = q := by
  cases r; cases q; cases h; rfl

theorem CollectorId.eq_of_index {c d : CollectorId} (h : c.index = d.index) : c = d := by
  cases c; cases d; cases h; rfl

theorem Collector.descriptors_update {k k' : Collector} {part : Nat} {values : List String}
    {act : Reading → Reading} (h : k.update part values act = .ok k') :
    k'.descriptors = k.descriptors := by
  unfold Collector.update at h
  cases hm : k.metrics[part]? with
  | none =>
    rw [hm] at h
    cases h
    rfl
  | some m =>
    rw [hm] at h
    dsimp only at h
    cases hu : m.update values act with
    | error e => rw [hu] at h; cases h
    | ok m' =>
      rw [hu] at h
      cases h
      have same : m'.descriptor = m.descriptor := update_descriptor hu
      have found : (k.metrics.map Metric.descriptor)[part]? = some m.descriptor := by
        rw [List.getElem?_map, hm]
        rfl
      obtain ⟨hlt, hget⟩ := List.getElem?_eq_some_iff.1 found
      unfold Collector.descriptors
      rw [List.map_set, same, ← hget, List.set_getElem_self]

namespace Store

/-- The places of a registry and of a collector are in use. -/
def Has (s : Store) (r : RegistryId) (c : CollectorId) : Prop :=
  r.index < s.registries.length ∧ c.index < s.collectors.length

instance (s : Store) (r : RegistryId) (c : CollectorId) : Decidable (s.Has r c) :=
  inferInstanceAs (Decidable (_ ∧ _))

/-- What a registration is answered. -/
def answer (s : Store) : Step → Option (Except Error Unit)
  | .register r c => if s.Has r c then some (s.register r c).2 else none
  | _ => none

def step (s : Store) : Step → Store
  | .collector k => (s.addCollector k).1
  | .registry => s.addRegistry.1
  | .update c part values act => (s.tryUpdate c part values act).toOption.getD s
  | .register r c => if s.Has r c then (s.register r c).1 else s

def run (s : Store) (xs : List Step) : Store := xs.foldl step s

/-- What a collector is brought to a registry with. -/
def offer (s : Store) (c : CollectorId) : Offer := ⟨c, (s.collector c).descriptors⟩

/-- The offer that a registry accepts in a step. -/
def acceptance (r : RegistryId) (s : Store) (x : Step) : Option Offer :=
  match x, s.answer x with
  | .register q c, some (.ok ()) => if q = r then some (s.offer c) else none
  | _, _ => none

/-- The offers that a registry accepts in a run, in their order. -/
def accepted (r : RegistryId) (s : Store) : List Step → List Offer
  | [] => []
  | x :: xs => (s.acceptance r x).toList ++ accepted r (s.step x) xs

variable {s : Store} {r q : RegistryId} {c d : CollectorId} {x : Step} {xs ys : List Step}

theorem run_cons : s.run (x :: xs) = (s.step x).run xs := rfl

theorem run_append : s.run (xs ++ ys) = (s.run xs).run ys := List.foldl_append

/-! ### What a step leaves as it is -/

theorem step_update (s : Store) (c : CollectorId) (part : Nat) (values : List String)
    (act : Reading → Reading) :
    s.step (.update c part values act) =
      ((s.collector c).update part values act).toOption.elim s fun k =>
        { s with collectors := s.collectors.set c.index k } := by
  cases hk : (s.collector c).update part values act with
  | error e => simp [step, tryUpdate, hk, Except.map, Except.toOption]
  | ok k => simp [step, tryUpdate, hk, Except.map, Except.toOption]

theorem step_update_cases (s : Store) (c : CollectorId) (part : Nat) (values : List String)
    (act : Reading → Reading) :
    s.step (.update c part values act) = s ∨
      ∃ k, (s.collector c).update part values act = .ok k ∧
        s.step (.update c part values act) =
          { s with collectors := s.collectors.set c.index k } := by
  rw [step_update]
  cases (s.collector c).update part values act with
  | error e => exact .inl rfl
  | ok k => exact .inr ⟨k, rfl, rfl⟩

theorem registries_update (s : Store) (c : CollectorId) (part : Nat) (values : List String)
    (act : Reading → Reading) :
    (s.step (.update c part values act)).registries = s.registries := by
  rcases step_update_cases s c part values act with h | ⟨k, -, h⟩
  · rw [h]
  · rw [h]

theorem collectors_register (s : Store) (r : RegistryId) (c : CollectorId) :
    (s.step (.register r c)).collectors = s.collectors := by
  by_cases has : s.Has r c
  · rw [show s.step (.register r c) = (s.register r c).1 from if_pos has]
    rfl
  · rw [show s.step (.register r c) = s from if_neg has]

/-- Places in use stay in use. -/
theorem length_collectors_le_step (s : Store) (x : Step) :
    s.collectors.length ≤ (s.step x).collectors.length := by
  cases x with
  | collector k => simp [step, addCollector]
  | registry => exact Nat.le_refl _
  | update c part values act =>
    rcases step_update_cases s c part values act with h | ⟨k, -, h⟩
    · exact Nat.le_of_eq (by rw [h])
    · rw [h]
      exact Nat.le_of_eq (List.length_set ..).symm
  | register r c => exact Nat.le_of_eq (by rw [collectors_register])

theorem length_collectors_le_run (s : Store) (xs : List Step) :
    s.collectors.length ≤ (s.run xs).collectors.length := by
  induction xs generalizing s with
  | nil => exact Nat.le_refl _
  | cons x xs ih => exact Nat.le_trans (length_collectors_le_step s x) (ih _)

/-- A collector is changed by its own updates only. -/
theorem collector_step (hc : c.index < s.collectors.length)
    (other : ∀ part values act, x ≠ .update c part values act) :
    (s.step x).collector c = s.collector c := by
  cases x with
  | collector k => simp [step, addCollector, collector, List.getElem?_append_left hc]
  | registry => rfl
  | update d part values act =>
    have hne : d.index ≠ c.index := by
      intro heq
      exact other part values act (by rw [CollectorId.eq_of_index heq])
    rcases step_update_cases s d part values act with h | ⟨k, -, h⟩
    · rw [h]
    · rw [h]
      simp [collector, List.getElem?_set_ne hne]
  | register r d => rw [collector, collectors_register, collector]

/-- What a collector describes never changes. -/
theorem offer_step (hc : c.index < s.collectors.length) (x : Step) :
    (s.step x).offer c = s.offer c := by
  by_cases own : ∃ part values act, x = .update c part values act
  · obtain ⟨part, values, act, rfl⟩ := own
    rcases step_update_cases s c part values act with h | ⟨k, hk, h⟩
    · rw [h]
    · rw [h]
      have same := Collector.descriptors_update hk
      simp only [offer, Offer.mk.injEq, true_and]
      rw [← same]
      simp [collector, hc]
  · rw [offer, collector_step hc fun part values act heq => own ⟨part, values, act, heq⟩, offer]

theorem offer_run (hc : c.index < s.collectors.length) (xs : List Step) :
    (s.run xs).offer c = s.offer c := by
  induction xs generalizing s with
  | nil => rfl
  | cons x xs ih =>
    have later : c.index < (s.step x).collectors.length :=
      Nat.lt_of_lt_of_le hc (length_collectors_le_step s x)
    rw [run_cons, ih later, offer_step hc x]

/-! ### What a registry has accepted -/

theorem registry_addRegistry (s : Store) (r : RegistryId) :
    s.addRegistry.1.registry r = s.registry r := by
  simp only [registry, addRegistry, List.getD_eq_getElem?_getD, List.getElem?_append]
  split
  · rfl
  · next h =>
    rw [List.getElem?_eq_none (Nat.le_of_not_lt h)]
    cases r.index - s.registries.length <;> rfl

theorem registry_register (s : Store) (r q : RegistryId) (c : CollectorId) :
    (s.register r c).1.registry q =
      if q = r ∧ r.index < s.registries.length then ((s.registry r).offer (s.offer c)).1
      else s.registry q := by
  change (s.registries.set r.index ((s.registry r).offer (s.offer c)).1).getD q.index {} = _
  by_cases hq : q = r
  · subst hq
    by_cases hr : q.index < s.registries.length
    · simp [hr]
    · rw [if_neg (fun h => hr h.2), List.set_eq_of_length_le (Nat.le_of_not_lt hr)]
      rfl
  · have hne : r.index ≠ q.index := fun heq => hq (RegistryId.eq_of_index heq.symm)
    rw [if_neg (fun h => hq h.1)]
    simp [registry, List.getElem?_set_ne hne]

/-- A registry is changed by the registrations that are brought to it. -/
theorem registry_step (s : Store) (r : RegistryId) (x : Step) :
    ((s.step x).registry r = s.registry r ∧ s.acceptance r x = none) ∨
    ∃ c, x = .register r c ∧ s.Has r c ∧
      s.answer x = some ((s.registry r).offer (s.offer c)).2 ∧
      (s.step x).registry r = ((s.registry r).offer (s.offer c)).1 := by
  cases x with
  | collector k => exact .inl ⟨rfl, rfl⟩
  | registry => exact .inl ⟨registry_addRegistry s r, rfl⟩
  | update c part values act =>
    exact .inl ⟨by rw [registry, registries_update, registry], rfl⟩
  | register q c =>
    by_cases has : s.Has q c
    · have taken : s.step (.register q c) = (s.register q c).1 := if_pos has
      have answered : s.answer (.register q c) = some (s.register q c).2 := if_pos has
      by_cases hq : q = r
      · subst hq
        refine .inr ⟨c, rfl, has, answered, ?_⟩
        rw [taken, registry_register, if_pos ⟨rfl, has.1⟩]
      · refine .inl ⟨?_, ?_⟩
        · rw [taken, registry_register, if_neg (fun h => hq h.1.symm)]
        · unfold acceptance
          split
          · next heq _ => cases heq; exact if_neg hq
          · rfl
    · have left : s.step (.register q c) = s := if_neg has
      have silent : s.answer (.register q c) = none := if_neg has
      exact .inl ⟨by rw [left], by simp [acceptance, silent]⟩

theorem acceptance_eq_some {o : Offer} (h : s.acceptance r x = some o) :
    ∃ c, x = .register r c ∧ s.Has r c ∧ o = s.offer c := by
  rcases registry_step s r x with ⟨-, hnone⟩ | ⟨c, rfl, has, -, -⟩
  · rw [hnone] at h; cases h
  · refine ⟨c, rfl, has, ?_⟩
    unfold acceptance at h
    split at h
    · next heq _ =>
      cases heq
      rw [if_pos rfl] at h
      exact (Option.some.inj h).symm
    · cases h

theorem keeps_step {os : List Offer} (h : (s.registry r).Keeps os) (x : Step) :
    ((s.step x).registry r).Keeps (os ++ (s.acceptance r x).toList) := by
  rcases registry_step s r x with ⟨same, hnone⟩ | ⟨c, rfl, has, answered, changed⟩
  · rw [same, hnone]
    simpa using h
  · rw [changed]
    cases ho : ((s.registry r).offer (s.offer c)).2 with
    | error e =>
      have hnone : s.acceptance r (.register r c) = none := by
        simp [acceptance, answered, ho]
      rw [hnone]
      simpa using h.error ho
    | ok u =>
      have hsome : s.acceptance r (.register r c) = some (s.offer c) := by
        simp [acceptance, answered, ho]
      rw [hsome]
      exact h.ok ho

/-- At every moment a registry is what it has accepted so far. -/
theorem keeps_run {os : List Offer} (h : (s.registry r).Keeps os) (xs : List Step) :
    ((s.run xs).registry r).Keeps (os ++ accepted r s xs) := by
  induction xs generalizing s os with
  | nil =>
    rw [accepted, List.append_nil]
    exact h
  | cons x xs ih =>
    have next := ih (keeps_step h x)
    rwa [List.append_assoc] at next

/-- What was accepted in a run is still described as it was then. -/
theorem offer_of_mem_accepted {o : Offer} (h : o ∈ accepted r s xs) :
    (s.run xs).offer o.collector = o ∧ o.collector.index < (s.run xs).collectors.length := by
  induction xs generalizing s with
  | nil => cases h
  | cons x xs ih =>
    rcases List.mem_append.1 h with h | h
    · obtain ⟨c, rfl, has, rfl⟩ := acceptance_eq_some (Option.mem_toList.1 h)
      have later : c.index < (s.step (.register r c)).collectors.length :=
        Nat.lt_of_lt_of_le has.2 (length_collectors_le_step s _)
      constructor
      · rw [run_cons]
        exact (offer_run later xs).trans (offer_step has.2 _)
      · exact Nat.lt_of_lt_of_le later (length_collectors_le_run _ xs)
    · exact ih h

theorem mem_metricNames_run {n : String} (h : n ∈ (s.registry r).metricNames) (xs : List Step) :
    n ∈ ((s.run xs).registry r).metricNames := by
  induction xs generalizing s with
  | nil => exact h
  | cons x xs ih =>
    refine ih ?_
    rcases registry_step s r x with ⟨same, -⟩ | ⟨c, -, -, -, changed⟩
    · rwa [same]
    · rw [changed]
      exact Registry.mem_metricNames_offer h

theorem metricNames_register_of_error {e : Error} (h : (s.register r c).2 = .error e) :
    ((s.register r c).1.registry r).metricNames = (s.registry r).metricNames := by
  rw [registry_register]
  split
  · exact Registry.metricNames_of_error h
  · rfl

/-- After every run, the names in a registry are those of the offers it has accepted, each of them
once and in ascending order. They decide which offers are answered that a metric is there already;
an offer that is not accepted adds no name, and no name is ever lost. -/
theorem metricNames_run (r : RegistryId) (xs : List Step) :
    let s := run {} xs
    let names := (s.registry r).metricNames
    names.Pairwise (· < ·) ∧
      (∀ n, n ∈ names ↔ ∃ o ∈ accepted r {} xs, n ∈ o.names) ∧
      (accepted r {} xs).Pairwise (fun o p => o.names.Disjoint p.names) ∧
      (s.registry r).collectors = (accepted r {} xs).map Offer.collector ∧
      (∀ c n, (s.register r c).2 = .error (.duplicate n) ↔
        (s.collector c).names.find? (fun m => decide (m ∈ names)) = some n) ∧
      (∀ c e, (s.register r c).2 = .error e →
        ((s.register r c).1.registry r).metricNames = names) ∧
      ∀ ys, names ⊆ ((s.run ys).registry r).metricNames := by
  intro s names
  have keeps : (s.registry r).Keeps (accepted r {} xs) :=
    keeps_run (s := {}) (r := r) Registry.Keeps.empty xs
  refine ⟨(s.registry r).index.ascending, keeps.names, keeps.disjoint, keeps.collectors, ?_, ?_, ?_⟩
  · intro c n
    exact Registry.offer_eq_duplicate_iff (g := s.registry r) (o := s.offer c)
  · intro c e h
    exact metricNames_register_of_error h
  · intro ys n hn
    exact mem_metricNames_run hn ys

end Store

end WorkerTelemetry.Metric
