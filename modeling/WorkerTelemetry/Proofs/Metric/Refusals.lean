import WorkerTelemetry.Proofs.Metric.Steps

/-!
What refused registrations leave behind. A collector whose name is taken leaves nothing. One that
the tables refuse may leave the shapes of its names, and a later collector that describes one of
these names otherwise is refused for that. Main statement: this is all. Without the registrations
that were refused, a run ends with the same names and the same exposition, and answers the same but
for such a collector.
-/

namespace WorkerTelemetry.Metric

/-! ### Two tables, one with more shapes -/

namespace Tables

variable {t u : Tables} {ds es : List Descriptor}

/-- Some of the descriptors share the name of `d`, and not its shape. -/
def Otherwise (ds : List Descriptor) (d : Descriptor) : Prop :=
  ∃ e ∈ ds, e.name = d.name ∧ e.shapeFingerprint ≠ d.shapeFingerprint

theorem Noted.contradicts {d : Descriptor} (h : Noted ds t u) (hd : t.Contradicts d) :
    u.Contradicts d := by
  obtain ⟨x, hx, hne⟩ := hd
  exact ⟨x, h.kept _ x hx, hne⟩

theorem Noted.contradicts_or {d : Descriptor} (h : Noted ds t u) (hd : u.Contradicts d) :
    t.Contradicts d ∨ Otherwise ds d := by
  obtain ⟨x, hx, hne⟩ := hd
  rcases h.origin _ x hx with old | ⟨e, he, name, shape⟩
  · exact .inl ⟨x, old, hne⟩
  · exact .inr ⟨e, he, name, shape ▸ hne⟩

theorem Noted.noteShape (h : Noted ds t u) (d : Descriptor) :
    Noted ds (t.noteShape d) (u.noteShape d) := by
  have find (v : Tables) (n : String) : (v.noteShape d).shapes.find? n =
      if n = d.name then some d.shapeFingerprint else v.shapes.find? n := NameMap.find?_insert
  refine ⟨h.described, h.held, ?_, ?_⟩
  · intro n x hx
    rw [find] at hx ⊢
    by_cases hn : n = d.name
    · rwa [if_pos hn] at hx ⊢
    · rw [if_neg hn] at hx ⊢
      exact h.kept n x hx
  · intro n x hx
    rw [find] at hx ⊢
    by_cases hn : n = d.name
    · rw [if_pos hn] at hx ⊢
      exact .inl hx
    · rw [if_neg hn] at hx ⊢
      exact h.origin n x hx

/-- Both go through descriptors alike, unless one of these is noted otherwise in the second only. -/
theorem Noted.note (h : Noted ds t u) (names : List UInt64) (es : List Descriptor) :
    (∃ d ∈ es, Otherwise ds d ∧ (u.note names es).2 = .error (.shape d)) ∨
    ((u.note names es).2 = (t.note names es).2 ∧
      Noted ds (t.note names es).1 (u.note names es).1) := by
  induction es generalizing t u names with
  | nil => exact .inr ⟨rfl, h⟩
  | cons d es ih =>
    have described := h.described
    by_cases held : d.nameFingerprint ∈ t.described
    · rw [note_of_described held, note_of_described (described ▸ held)]
      exact .inr ⟨rfl, h⟩
    have held' : d.nameFingerprint ∉ u.described := described ▸ held
    by_cases shape : u.Contradicts d
    · rw [note_of_contradicts held' shape]
      rcases h.contradicts_or shape with old | otherwise
      · rw [note_of_contradicts held old]
        exact .inr ⟨rfl, h⟩
      · exact .inl ⟨d, List.mem_cons_self, otherwise, rfl⟩
    have shape' : ¬ t.Contradicts d := mt h.contradicts shape
    by_cases twice : d.nameFingerprint ∈ names
    · rw [note_of_repeated held shape' twice, note_of_repeated held' shape twice]
      exact .inr ⟨rfl, h.noteShape d⟩
    · rw [note_of_new held shape' twice, note_of_new held' shape twice]
      rcases ih (h.noteShape d) (names ++ [d.nameFingerprint]) with ⟨e, he, found⟩ | same
      · exact .inl ⟨e, List.mem_cons_of_mem _ he, found⟩
      · exact .inr same

theorem Noted.hold (h : Noted ds t u) (c : CollectorId) (es : List Descriptor) :
    (∃ d ∈ es, Otherwise ds d ∧ (u.hold c es).2 = .error (.shape d)) ∨
    ((u.hold c es).2 = (t.hold c es).2 ∧ Noted ds (t.hold c es).1 (u.hold c es).1) := by
  have noted := h.note [] es
  unfold Tables.hold
  cases ht : t.note [] es with
  | mk t' answer =>
    cases hu : u.note [] es with
    | mk u' answer' =>
      rw [ht, hu] at noted
      dsimp only at noted
      rcases noted with ⟨d, hd, otherwise, rfl⟩ | ⟨rfl, after⟩
      · exact .inl ⟨d, hd, otherwise, rfl⟩
      · refine .inr ?_
        cases answer' with
        | error r => exact ⟨rfl, after⟩
        | ok found =>
          dsimp only
          rw [after.held]
          split
          · exact ⟨rfl, after⟩
          · refine ⟨rfl, ?_, ?_, after.kept, after.origin⟩
            · exact congrArg (· ++ found) after.described
            · rfl

end Tables

/-! ### Two registries -/

namespace Registry

variable {g h : Registry} {ds : List Descriptor} {o : Offer}

/-- The second registry is the first with the shapes of some descriptors noted. -/
structure Noted (ds : List Descriptor) (g h : Registry) : Prop where
  index : h.index = g.index
  tables : Tables.Noted ds g.tables h.tables

theorem Noted.refl (g : Registry) : Noted ds g g :=
  ⟨rfl, (Tables.Noted.refl g.tables).mono (List.nil_subset ds)⟩

/-- An offer that is refused leaves shapes of its descriptors at most. -/
theorem Noted.refused (n : Noted ds g h) {e : Error} (he : (h.offer o).2 = .error e) :
    Noted (ds ++ o.descriptors) g (h.offer o).1 := by
  rcases offer_cases h o with ⟨m, -, heq⟩ | ⟨-, t, r, heq, noted⟩ | ⟨-, t, heq, -⟩
  · rw [heq]
    exact ⟨n.index, n.tables.mono (List.subset_append_left _ _)⟩
  · rw [heq]
    exact ⟨n.index, n.tables.trans noted⟩
  · rw [heq] at he
    cases he

/-- Both answer alike, unless one of the descriptors is noted otherwise in the second only. -/
theorem Noted.offer (n : Noted ds g h) (o : Offer) :
    (∃ d ∈ o.descriptors, Tables.Otherwise ds d ∧
      (h.offer o).2 = .error (.refused (.shape d))) ∨
    ((h.offer o).2 = (g.offer o).2 ∧ Noted ds (g.offer o).1 (h.offer o).1) := by
  have held := n.tables.hold o.collector o.descriptors
  obtain ⟨index, tables⟩ := h
  obtain rfl : index = g.index := n.index
  unfold Registry.offer register
  dsimp only at held ⊢
  cases o.descriptors.find? fun d => decide (d.name ∈ g.index) with
  | some d => exact .inr ⟨rfl, n⟩
  | none =>
    cases hg : g.tables.hold o.collector o.descriptors with
    | mk t answer =>
      cases hh : tables.hold o.collector o.descriptors with
      | mk u answer' =>
        rw [hg, hh] at held
        dsimp only at held ⊢
        rcases held with ⟨d, hd, otherwise, rfl⟩ | ⟨rfl, after⟩
        · exact .inl ⟨d, hd, otherwise, rfl⟩
        · refine .inr ?_
          cases answer' with
          | error r => exact ⟨rfl, rfl, after⟩
          | ok found => exact ⟨rfl, rfl, after⟩

end Registry

/-! ### Two runs -/

namespace Store

variable {r : RegistryId} {s t : Store} {ds : List Descriptor} {x : Step} {xs ys : List Step}

/-- A step is a registration that a registry refuses. -/
def refuses (r : RegistryId) (s : Store) (x : Step) : Bool :=
  match x, s.answer x with
  | .register q _, some (.error _) => decide (q = r)
  | _, _ => false

/-- The descriptor for which a registry refuses a registration, as its name was described
otherwise. -/
def clash? (r : RegistryId) (s : Store) (x : Step) : Option Descriptor :=
  match x, s.answer x with
  | .register q _, some (.error (.refused (.shape d))) => if q = r then some d else none
  | _, _ => none

/-- The second run is the first without some of the registrations that a registry refused, in
particular without those it refused because a collector left out before had described a name
otherwise. The first descriptors are those of the collectors left out before, the last those of all
that are left out. -/
inductive Without (r : RegistryId) :
    List Descriptor → Store → List Step → List Step → List Descriptor → Prop
  | nil (es : List Descriptor) (s : Store) : Without r es s [] [] es
  | keep {es ds : List Descriptor} {s : Store} {x : Step} {xs ys : List Step}
      (free : ∀ d, s.clash? r x = some d → ¬ Tables.Otherwise es d)
      (rest : Without r es (s.step x) xs ys ds) : Without r es s (x :: xs) (x :: ys) ds
  | leave {es ds : List Descriptor} {s : Store} {c : CollectorId} {xs ys : List Step}
      (refuses : s.refuses r (.register r c) = true)
      (rest : Without r (es ++ (s.collector c).descriptors) (s.step (.register r c)) xs ys ds) :
      Without r es s (.register r c :: xs) ys ds

/-- The steps of a run but for the registrations that a registry refuses. -/
def granted (r : RegistryId) (s : Store) : List Step → List Step
  | [] => []
  | x :: xs => if s.refuses r x = true then granted r (s.step x) xs
    else x :: granted r (s.step x) xs

/-- All registrations that were refused can be left out of a run. -/
theorem without_granted (r : RegistryId) (es : List Descriptor) (s : Store) (xs : List Step) :
    ∃ ds, Without r es s xs (s.granted r xs) ds := by
  induction xs generalizing es s with
  | nil => exact ⟨es, .nil es s⟩
  | cons x xs ih =>
    by_cases refused : s.refuses r x = true
    · obtain ⟨c, rfl⟩ : ∃ c, x = .register r c := by
        unfold refuses at refused
        split at refused
        · exact ⟨_, by rw [of_decide_eq_true refused]⟩
        · cases refused
      obtain ⟨ds, rest⟩ := ih (es ++ (s.collector c).descriptors) (s.step (.register r c))
      refine ⟨ds, ?_⟩
      rw [granted, if_pos refused]
      exact .leave refused rest
    · obtain ⟨ds, rest⟩ := ih es (s.step x)
      refine ⟨ds, ?_⟩
      rw [granted, if_neg refused]
      refine .keep ?_ rest
      intro d clash
      -- a step that is refused for a shape is refused
      unfold clash? at clash
      split at clash
      · next answered =>
        split at clash
        · next hq =>
          subst hq
          exact absurd (by simp [refuses, answered]) refused
        · cases clash
      · cases clash

/-- The second store is the first with the shapes of some descriptors noted in a registry. -/
structure Noted (r : RegistryId) (ds : List Descriptor) (s t : Store) : Prop where
  collectors : t.collectors = s.collectors
  registries : t.registries.length = s.registries.length
  other : ∀ q, q ≠ r → t.registry q = s.registry q
  registry : Registry.Noted ds (s.registry r) (t.registry r)

namespace Noted

theorem refl (s : Store) : Noted r ds s s := ⟨rfl, rfl, fun _ _ => rfl, .refl _⟩

theorem offer (n : Noted r ds s t) (c : CollectorId) : t.offer c = s.offer c := by
  rw [Store.offer, collector, n.collectors, Store.offer, collector]

theorem has (n : Noted r ds s t) (q : RegistryId) (c : CollectorId) : t.Has q c ↔ s.Has q c := by
  rw [Has, n.registries, n.collectors, Has]

theorem length_registries_register (s : Store) (q : RegistryId) (c : CollectorId) :
    (s.register q c).1.registries.length = s.registries.length := List.length_set ..

/-- A registration in both stores keeps them alike if the registries do. -/
theorem register (n : Noted r ds s t) (q : RegistryId) (c : CollectorId)
    (same : q = r → Registry.Noted ds ((s.registry r).offer (s.offer c)).1
      ((t.registry r).offer (s.offer c)).1) :
    Noted r ds (s.register q c).1 (t.register q c).1 := by
  refine ⟨n.collectors, ?_, ?_, ?_⟩
  · rw [length_registries_register, length_registries_register, n.registries]
  · intro p hp
    rw [registry_register, registry_register, n.registries, n.offer c]
    by_cases hpq : p = q
    · subst hpq
      rw [n.other p hp]
    · rw [if_neg (fun h => hpq h.1), if_neg (fun h => hpq h.1), n.other p hp]
  · rw [registry_register, registry_register, n.registries, n.offer c]
    by_cases hq : r = q ∧ q.index < s.registries.length
    · rw [if_pos hq, if_pos hq, ← hq.1]
      exact hq.1 ▸ same hq.1.symm
    · rw [if_neg hq, if_neg hq]
      exact n.registry

theorem step_update (n : Noted r ds s t) (c : CollectorId) (part : Nat) (values : List String)
    (act : Reading → Reading) :
    Noted r ds (s.step (.update c part values act)) (t.step (.update c part values act)) := by
  have found : t.collector c = s.collector c := by rw [collector, n.collectors, collector]
  rw [Store.step_update, Store.step_update, found, n.collectors]
  cases ((s.collector c).update part values act).toOption with
  | none => exact n
  | some k => exact ⟨rfl, n.registries, n.other, n.registry⟩

/-- A step that is not refused for one of these shapes leaves the stores alike. -/
theorem step (n : Noted r ds s t)
    (free : ∀ d, t.clash? r x = some d → ¬ Tables.Otherwise ds d) :
    Noted r ds (s.step x) (t.step x) := by
  cases x with
  | collector k => exact ⟨congrArg (· ++ [k]) n.collectors, n.registries, n.other, n.registry⟩
  | registry =>
    refine ⟨n.collectors, ?_, ?_, ?_⟩
    · simp [Store.step, addRegistry, n.registries]
    · intro q hq
      exact (registry_addRegistry t q).trans ((n.other q hq).trans (registry_addRegistry s q).symm)
    · have left := registry_addRegistry s r
      have right := registry_addRegistry t r
      exact left.symm ▸ right.symm ▸ n.registry
  | update c part values act => exact n.step_update c part values act
  | register q c =>
    by_cases has : s.Has q c
    · have has' : t.Has q c := (n.has q c).2 has
      rw [show s.step (.register q c) = (s.register q c).1 from if_pos has,
        show t.step (.register q c) = (t.register q c).1 from if_pos has']
      refine n.register q c fun hq => ?_
      subst hq
      rcases n.registry.offer (s.offer c) with ⟨d, -, otherwise, answer⟩ | ⟨-, after⟩
      · have answered : t.answer (.register q c) = some (.error (.refused (.shape d))) := by
          rw [← n.offer c] at answer
          exact (if_pos has').trans (congrArg some answer)
        have clash : t.clash? q (.register q c) = some d := by simp [clash?, answered]
        exact absurd otherwise (free d clash)
      · exact after
    · have has' : ¬ t.Has q c := mt (n.has q c).1 has
      rw [show s.step (.register q c) = s from if_neg has,
        show t.step (.register q c) = t from if_neg has']
      exact n

/-- A registration that is refused leaves shapes at most. -/
theorem refused (n : Noted r ds s t) {c : CollectorId}
    (h : t.refuses r (.register r c) = true) :
    Noted r (ds ++ (t.collector c).descriptors) s (t.step (.register r c)) := by
  have has : t.Has r c := by
    by_contra has
    have silent : t.answer (.register r c) = none := if_neg has
    simp [refuses, silent] at h
  have answered : t.answer (.register r c) = some ((t.registry r).offer (t.offer c)).2 :=
    if_pos has
  rw [show t.step (.register r c) = (t.register r c).1 from if_pos has]
  refine ⟨n.collectors, ?_, ?_, ?_⟩
  · rw [length_registries_register, n.registries]
  · intro q hq
    rw [registry_register, if_neg (fun h => hq h.1), n.other q hq]
  · rw [registry_register, if_pos ⟨rfl, has.1⟩]
    cases answer : ((t.registry r).offer (t.offer c)).2 with
    | error e => exact n.registry.refused answer
    | ok u => simp [refuses, answered, answer] at h

end Noted

/-- What was left out of a run has left shapes at most. -/
theorem Without.noted {es : List Descriptor} (h : Without r es t xs ys ds)
    (n : Noted r es s t) : Noted r ds (s.run ys) (t.run xs) := by
  induction h generalizing s with
  | nil es t => exact n
  | keep free _ ih => exact ih (n.step free)
  | leave refuses _ ih => exact ih (n.refused refuses)

/-- A registration that is answered that a metric is there already leaves the store as it is. -/
theorem register_of_duplicate {c : CollectorId} {n : String}
    (h : (s.register r c).2 = .error (.duplicate n)) : (s.register r c).1 = s := by
  have unchanged : ((s.registry r).offer (s.offer c)).1 = s.registry r := by
    have answer : ((s.registry r).offer (s.offer c)).2 = .error (.duplicate n) := h
    rcases Registry.offer_cases (s.registry r) (s.offer c) with
      ⟨m, -, heq⟩ | ⟨-, u, e, heq, -⟩ | ⟨-, u, heq, -⟩
    · rw [heq]
    · rw [heq] at answer
      cases answer
    · rw [heq] at answer
      cases answer
  change { s with registries := s.registries.set r.index ((s.registry r).offer (s.offer c)).1 } = s
  rw [unchanged]
  by_cases hr : r.index < s.registries.length
  · have same : s.registries.set r.index (s.registry r) = s.registries := by
      rw [registry, List.getD_eq_getElem?_getD, List.getElem?_eq_getElem hr, Option.getD_some,
        List.set_getElem_self]
    rw [same]
  · rw [List.set_eq_of_length_le (Nat.le_of_not_lt hr)]

/-- A run and the run without registrations that were refused end with the same names and the same
exposition. Both then answer a registration alike, unless the first refuses it because one of the
collectors left out described one of its names otherwise. Registrations that are answered that a
metric is there already change nothing at all. -/
theorem without_refused (h : Without r [] s xs ys ds) :
    ((s.run xs).registry r).metricNames = ((s.run ys).registry r).metricNames ∧
      (s.run xs).snapshot r = (s.run ys).snapshot r ∧
      (s.run xs).encode r = (s.run ys).encode r ∧
      (∀ c, ((s.run xs).register r c).2 = ((s.run ys).register r c).2 ∨
        ∃ d ∈ ((s.run xs).collector c).descriptors, Tables.Otherwise ds d ∧
          ((s.run xs).register r c).2 = .error (.refused (.shape d))) ∧
      ∀ c n, ((s.run xs).register r c).2 = .error (.duplicate n) →
        ((s.run xs).register r c).1 = s.run xs := by
  have n : Noted r ds (s.run ys) (s.run xs) := h.noted (Noted.refl s)
  have snapshot : (s.run xs).snapshot r = (s.run ys).snapshot r := by
    have families : (s.run xs).families = (s.run ys).families := by
      funext c
      rw [families, collector, n.collectors, families, collector]
    rw [Store.snapshot, Store.snapshot, families, Registry.collectors, Registry.collectors,
      n.registry.tables.held]
  refine ⟨?_, snapshot, ?_, ?_, ?_⟩
  · rw [Registry.metricNames, n.registry.index, Registry.metricNames]
  · rw [encode, snapshot, encode]
  · intro c
    have offered : (s.run ys).offer c = (s.run xs).offer c := (n.offer c).symm
    rcases n.registry.offer ((s.run xs).offer c) with ⟨d, hd, otherwise, answer⟩ | ⟨same, -⟩
    · exact .inr ⟨d, hd, otherwise, answer⟩
    · refine .inl ?_
      change _ = (((s.run ys).registry r).offer ((s.run ys).offer c)).2
      rw [offered]
      exact same
  · intro c m hm
    exact register_of_duplicate hm

/-- A counter of jobs, with a help text. -/
def jobs (help : String) : Metric :=
  { descriptor := ⟨"jobs_total", help, []⟩
    exposedName := "jobs_total"
    kind := .counter
    series := [⟨[], .counter 0⟩] }

/-- A store with a registry and three collectors for one name: the first describes it twice, the
second with another help text. -/
def contested : Store :=
  { collectors := [⟨[jobs "jobs", jobs "jobs"]⟩, ⟨[jobs "work"]⟩, ⟨[jobs "jobs"]⟩]
    registries := [{}] }

theorem without_refused_contested :
    let xs : List Step := [.register ⟨0⟩ ⟨0⟩, .register ⟨0⟩ ⟨1⟩, .register ⟨0⟩ ⟨2⟩]
    let ys : List Step := [.register ⟨0⟩ ⟨2⟩]
    let ds := [(jobs "jobs").descriptor, (jobs "jobs").descriptor, (jobs "work").descriptor]
    Without ⟨0⟩ [] contested xs ys ds ∧
      ((contested.run xs).registry ⟨0⟩).metricNames = ["jobs_total"] ∧
      ((contested.run ys).registry ⟨0⟩).metricNames = ["jobs_total"] ∧
      (contested.run xs).encode ⟨0⟩ = (contested.run ys).encode ⟨0⟩ := by
  intro xs ys ds
  have h : Without ⟨0⟩ [] contested xs ys ds := by
    refine .leave (by decide +kernel) (.leave (by decide +kernel) (.keep ?_ (.nil _ _)))
    intro d hd
    have none : ((contested.step (.register ⟨0⟩ ⟨0⟩)).step (.register ⟨0⟩ ⟨1⟩)).clash? ⟨0⟩
        (.register ⟨0⟩ ⟨2⟩) = none := by decide +kernel
    rw [none] at hd
    cases hd
  obtain ⟨names, -, encode, -⟩ := without_refused h
  have last : ((contested.run ys).registry ⟨0⟩).metricNames = ["jobs_total"] := by decide +kernel
  exact ⟨h, names.trans last, last, encode⟩

/-- A collector that is refused can keep a name from a collector that could have had it before. -/
theorem refused_collector_blocks_name :
    (contested.register ⟨0⟩ ⟨0⟩).2 = .error (.refused (.repeatedName "jobs_total")) ∧
      (contested.register ⟨0⟩ ⟨1⟩).2 = .ok () ∧
      ((contested.register ⟨0⟩ ⟨0⟩).1.register ⟨0⟩ ⟨1⟩).2 =
        .error (.refused (.shape (jobs "work").descriptor)) :=
  ⟨rfl, rfl, rfl⟩

end Store

end WorkerTelemetry.Metric
