import WorkerTelemetry.Proofs.Metric.Views

/-!
What closes a registry to a metric. A registry never forgets: a name that is taken stays taken, a
shape that is noted stays noted, and what is held stays held. Main statements: a collector of one
metric is refused exactly by a registry that is closed to its description, and a registry that is
closed stays closed; a registration leaves the answers to metrics of other names as they are, so of
collectors that are registered one after the other those are accepted that come in front of the
first which would be refused by itself.
-/

namespace WorkerTelemetry.Metric

namespace Tables

variable {t u : Tables} {d : Descriptor}

/-- Nothing is lost from the first tables to the second. -/
structure Grows (t u : Tables) : Prop where
  described : t.described ⊆ u.described
  kept : ∀ n x, t.shapes.find? n = some x → u.shapes.find? n = some x
  held : t.held ⊆ u.held

theorem Grows.refl (t : Tables) : Grows t t :=
  ⟨List.Subset.refl _, fun _ _ h => h, List.Subset.refl _⟩

theorem Noted.grows {ds : List Descriptor} (h : Noted ds t u) : Grows t u :=
  ⟨h.described ▸ List.Subset.refl _, h.kept, h.held ▸ List.Subset.refl _⟩

/-- What tables that accept a collector become: the shapes are noted, and the collector is held. -/
theorem hold_of_ok {c : CollectorId} {ds : List Descriptor} (h : (t.hold c ds).2 = .ok ()) :
    ∃ u, Noted ds t u ∧ (t.hold c ds).1 =
      { u with
        described := u.described ++ ds.map Descriptor.nameFingerprint
        held := u.held ++ [((ds.map Descriptor.nameFingerprint).foldl (· + ·) 0, c)] } := by
  obtain ⟨noted, finds⟩ := note_spec t [] ds
  unfold hold at h ⊢
  cases hn : t.note [] ds with
  | mk u answer =>
    rw [hn] at noted finds h
    cases answer with
    | error r => cases h
    | ok found =>
      have all : found = ds.map Descriptor.nameFingerprint := finds found rfl
      subst all
      dsimp only at h ⊢
      split at h
      · cases h
      · next unheld =>
        rw [if_neg unheld]
        exact ⟨u, noted, rfl⟩

theorem grows_hold (t : Tables) (c : CollectorId) (ds : List Descriptor) :
    Grows t (t.hold c ds).1 := by
  rcases hold_cases t c ds with ⟨r, -, noted⟩ | ⟨accepted, -⟩
  · exact noted.grows
  · obtain ⟨u, noted, after⟩ := hold_of_ok accepted
    have grows : Grows t u := noted.grows
    rw [after]
    exact ⟨List.subset_append_of_subset_left _ grows.described, grows.kept,
      List.subset_append_of_subset_left _ grows.held⟩

theorem Contradicts.grows (h : t.Contradicts d) (grows : Grows t u) : u.Contradicts d := by
  obtain ⟨x, noted, other⟩ := h
  exact ⟨x, grows.kept _ _ noted, other⟩

/-- Shapes are noted under the names that are described. -/
theorem Noted.find?_of_notMem {ds : List Descriptor} (h : Noted ds t u) {n : String}
    (other : n ∉ ds.map Descriptor.name) : u.shapes.find? n = t.shapes.find? n := by
  refine Option.ext fun x => ⟨fun found => ?_, h.kept n x⟩
  rcases h.origin n x found with old | ⟨d, hd, rfl, -⟩
  · exact old
  · exact absurd (List.mem_map_of_mem hd) other

end Tables

namespace Registry

variable {g : Registry} {d d' : Descriptor} {o : Offer}

/-- What the registration of one metric is answered. -/
def verdict (g : Registry) (d : Descriptor) : Except Error Unit :=
  if d.name ∈ g.index then .error (.duplicate d.name)
  else if d.nameFingerprint ∈ g.tables.described then .error (.refused .held)
  else if (g.tables.shapes.find? d.name).any (· ≠ d.shapeFingerprint) then
    .error (.refused (.shape d))
  else if d.nameFingerprint ∈ g.tables.held.map Prod.fst then .error (.refused .held)
  else .ok ()

theorem register_singleton (g : Registry) (c : CollectorId) (d : Descriptor) :
    (g.register c [d]).2 = g.verdict d := by
  have found : [d].find? (fun d => decide (d.name ∈ g.index)) =
      if d.name ∈ g.index then some d else none := by
    by_cases name : d.name ∈ g.index <;> simp [name]
  unfold register verdict
  rw [found]
  by_cases name : d.name ∈ g.index
  · rw [if_pos name, if_pos name]
  rw [if_neg name, if_neg name]
  unfold Tables.hold
  by_cases described : d.nameFingerprint ∈ g.tables.described
  · rw [if_pos described, Tables.note_of_described described]
  rw [if_neg described]
  by_cases shape : g.tables.Contradicts d
  · rw [if_pos (Tables.any_ne_iff_contradicts.2 shape), Tables.note_of_contradicts described shape]
  rw [if_neg (mt Tables.any_ne_iff_contradicts.1 shape),
    Tables.note_of_new described shape List.not_mem_nil, Tables.note]
  have total : (g.tables.held.any fun h => h.1 == [d.nameFingerprint].foldl (· + ·) 0) =
      decide (d.nameFingerprint ∈ g.tables.held.map Prod.fst) := by
    rw [Bool.eq_iff_iff]
    simp
  simp only [Tables.noteShape, List.nil_append, total]
  by_cases held : d.nameFingerprint ∈ g.tables.held.map Prod.fst
  · simp only [held, decide_true, if_true]
  · simp only [held, decide_false, Bool.false_eq_true, if_false]

/-- A metric that is described like this is accepted: its name is free, and the tables do not refuse
it. -/
structure Open (g : Registry) (d : Descriptor) : Prop where
  free : d.name ∉ g.index
  undescribed : d.nameFingerprint ∉ g.tables.described
  agrees : ¬ g.tables.Contradicts d
  unheld : d.nameFingerprint ∉ g.tables.held.map Prod.fst

theorem verdict_eq_ok_iff : g.verdict d = .ok () ↔ g.Open d := by
  unfold verdict
  constructor
  · intro h
    split at h
    · cases h
    next free =>
    split at h
    · cases h
    next undescribed =>
    split at h
    · cases h
    next agrees =>
    split at h
    · cases h
    next unheld => exact ⟨free, undescribed, mt Tables.any_ne_iff_contradicts.2 agrees, unheld⟩
  · intro h
    rw [if_neg h.free, if_neg h.undescribed, if_neg (mt Tables.any_ne_iff_contradicts.1 h.agrees),
      if_neg h.unheld]

/-- A metric is answered that it is there already exactly if its name is taken. -/
theorem verdict_eq_duplicate_iff : g.verdict d = .error (.duplicate d.name) ↔ d.name ∈ g.index := by
  unfold verdict
  split
  next taken => simp [taken]
  next free =>
    refine iff_of_false ?_ free
    split
    · simp
    split
    · simp
    split
    · simp
    · simp

theorem grows_offer (g : Registry) (o : Offer) : Tables.Grows g.tables (g.offer o).1.tables := by
  unfold offer register
  split
  · exact .refl g.tables
  · have grows := Tables.grows_hold g.tables o.collector o.descriptors
    split
    · next t cause h => rw [h] at grows; exact grows
    · next t h => rw [h] at grows; exact grows

/-- A registry that is open to a metric has been open to it before. -/
theorem Open.of_offer (h : (g.offer o).1.Open d) : g.Open d := by
  have grows := grows_offer g o
  refine ⟨?_, ?_, ?_, ?_⟩
  · exact mt mem_metricNames_offer h.free
  · exact mt (fun known => grows.described known) h.undescribed
  · exact mt (fun other => other.grows grows) h.agrees
  · exact mt (fun held => List.map_subset _ grows.held held) h.unheld

/-- A registry is not open to a metric that was offered to it. -/
theorem not_open_offer (ho : o.descriptors = [d]) : ¬ (g.offer o).1.Open d := by
  intro h
  have before : g.Open d := h.of_offer
  have accepted : (g.offer o).2 = .ok () := by
    unfold offer
    rw [ho, register_singleton]
    exact verdict_eq_ok_iff.2 before
  refine h.free ?_
  rcases offer_cases g o with ⟨n, -, heq⟩ | ⟨-, t, r, heq, -⟩ | ⟨-, t, heq, -⟩
  · rw [heq] at accepted; cases accepted
  · rw [heq] at accepted; cases accepted
  · have named : d.name ∈ o.names := by simp [Offer.names, ho]
    rw [heq]
    exact NameSet.mem_insertAll.2 (.inl named)

/-- What a registry that accepts an offer becomes. -/
theorem offer_of_ok (h : (g.offer o).2 = .ok ()) : ∃ t, Tables.Noted o.descriptors g.tables t ∧
    (g.offer o).1 = ⟨g.index.insertAll o.names,
      { t with
        described := t.described ++ o.descriptors.map Descriptor.nameFingerprint
        held := t.held ++
          [((o.descriptors.map Descriptor.nameFingerprint).foldl (· + ·) 0, o.collector)] }⟩ := by
  unfold offer register at h ⊢
  split at h
  · cases h
  split at h
  · cases h
  next t held =>
  have accepted : (g.tables.hold o.collector o.descriptors).2 = .ok () := by rw [held]
  obtain ⟨u, noted, after⟩ := Tables.hold_of_ok accepted
  rw [held] at after
  exact ⟨u, noted, congrArg (Registry.mk _) after⟩

/-- The registration of one metric leaves the answers to metrics of other names. -/
theorem verdict_register (g : Registry) (c : CollectorId) (name : d'.name ≠ d.name)
    (fingerprint : d'.nameFingerprint ≠ d.nameFingerprint) :
    (g.register c [d]).1.verdict d' = g.verdict d' := by
  have apart : d'.name ∉ [d].map Descriptor.name := by simpa using name
  change (g.offer ⟨c, [d]⟩).1.verdict d' = _
  rcases offer_cases g ⟨c, [d]⟩ with ⟨n, -, heq⟩ | ⟨-, t, r, heq, noted⟩ | ⟨-, _, heq, -⟩
  · rw [heq]
  · rw [heq, verdict, verdict]
    dsimp only
    rw [noted.described, noted.find?_of_notMem apart, noted.held]
  · obtain ⟨t, noted, after⟩ := offer_of_ok (g := g) (o := ⟨c, [d]⟩) (by rw [heq])
    have index : d'.name ∈ g.index.insertAll [d.name] ↔ d'.name ∈ g.index := by simp [name]
    rw [after, verdict, verdict]
    simp only [Offer.names, List.map_cons, List.map_nil, index, noted.described,
      noted.find?_of_notMem apart, noted.held, List.map_append, List.mem_append, List.mem_singleton,
      fingerprint, or_false, List.foldl_cons, List.foldl_nil, UInt64.zero_add]

end Registry

namespace Store

variable {s : Store} {r : RegistryId} {c c' : CollectorId} {d : Descriptor}
  {cs : List CollectorId}

/-! ### A registry stays closed -/

theorem open_of_step {x : Step} (h : ((s.step x).registry r).Open d) : (s.registry r).Open d := by
  rcases registry_step s r x with ⟨same, -⟩ | ⟨c, -, -, -, changed⟩
  · rwa [same] at h
  · rw [changed] at h
    exact h.of_offer

theorem open_of_run {xs : List Step} (h : ((s.run xs).registry r).Open d) :
    (s.registry r).Open d := by
  induction xs generalizing s with
  | nil => exact h
  | cons x xs ih => exact open_of_step (ih h)

theorem open_of_register (h : ((s.register r c).1.registry r).Open d) : (s.registry r).Open d := by
  rw [registry_register] at h
  split at h
  · exact h.of_offer
  · exact h

theorem open_of_registerAll (h : ((s.registerAll r cs).1.registry r).Open d) :
    (s.registry r).Open d := by
  induction cs generalizing s with
  | nil => exact h
  | cons c cs ih =>
    cases answered : (s.register r c).2 with
    | error e =>
      rw [registerAll_of_error answered] at h
      exact open_of_register h
    | ok u =>
      rw [registerAll_of_ok answered] at h
      exact open_of_register (ih h)

/-- A registry to which a collector of one metric was brought is closed to it. -/
theorem not_open_register (used : r.index < s.registries.length)
    (single : (s.collector c).descriptors = [d]) : ¬ ((s.register r c).1.registry r).Open d := by
  rw [registry_register, if_pos ⟨rfl, used⟩]
  exact Registry.not_open_offer single

/-- It is closed to the first of several collectors, whatever becomes of the others. -/
theorem not_open_registerAll (used : r.index < s.registries.length)
    (single : (s.collector c).descriptors = [d]) :
    ¬ ((s.registerAll r (c :: cs)).1.registry r).Open d := by
  have first := not_open_register used single
  cases answered : (s.register r c).2 with
  | error e => rwa [registerAll_of_error answered]
  | ok u =>
    rw [registerAll_of_ok answered]
    exact fun h => first (open_of_registerAll h)

/-- A closed registry refuses several collectors at the first. -/
theorem registerAll_of_not_open (closed : ¬ (s.registry r).Open d)
    (single : (s.collector c).descriptors = [d]) (cs : List CollectorId) :
    ∃ e, (s.registerAll r (c :: cs)).2 = .error e := by
  have verdict : (s.register r c).2 = (s.registry r).verdict d := by
    change ((s.registry r).register c (s.collector c).descriptors).2 = _
    rw [single, Registry.register_singleton]
  cases answered : (s.register r c).2 with
  | error e => exact ⟨e, by rw [registerAll_of_error answered, answered]⟩
  | ok u => exact absurd (Registry.verdict_eq_ok_iff.1 (verdict.symm.trans answered)) closed

/-! ### Collectors that do not hinder each other -/

/-- Two collectors of one metric each, with different names. -/
structure Beside (s : Store) (c c' : CollectorId) : Prop where
  single : ∃ d d', (s.collector c).descriptors = [d] ∧ (s.collector c').descriptors = [d'] ∧
    d'.name ≠ d.name ∧ d'.nameFingerprint ≠ d.nameFingerprint

/-- The registration of one of them leaves the answer to the other. -/
theorem Beside.register (h : s.Beside c c') :
    ((s.register r c).1.register r c').2 = (s.register r c').2 := by
  obtain ⟨d, d', single, single', name, fingerprint⟩ := h.single
  have same : (s.register r c).1.collector c' = s.collector c' := rfl
  change (((s.register r c).1.registry r).register c' _).2 = ((s.registry r).register c' _).2
  rw [same, single', Registry.register_singleton, Registry.register_singleton, registry_register]
  split
  · rw [Registry.offer, offer, single]
    exact Registry.verdict_register _ c name fingerprint
  · rfl

theorem takeWhile_congr {α : Type} {p q : α → Bool} {l : List α} (same : ∀ x ∈ l, p x = q x) :
    l.takeWhile p = l.takeWhile q := by
  induction l with
  | nil => rfl
  | cons x l ih =>
    obtain ⟨first, rest⟩ := List.forall_mem_cons.1 same
    rw [List.takeWhile_cons, List.takeWhile_cons, first, ih rest]

/-- What several registrations come to: the first error, if any is refused. -/
def firstError (answers : List (Except Error Unit)) : Except Error Unit :=
  (answers.find? fun a => !a.isOk).getD (.ok ())

theorem firstError_eq_ok_iff {answers : List (Except Error Unit)} :
    firstError answers = .ok () ↔ ∀ a ∈ answers, a = .ok () := by
  induction answers with
  | nil => simp [firstError]
  | cons a answers ih =>
    cases a with
    | error e => simp [firstError, Except.isOk, Except.toBool]
    | ok u =>
      have skip : firstError (.ok u :: answers) = firstError answers := by
        simp [firstError, Except.isOk, Except.toBool]
      rw [skip, ih, List.forall_mem_cons, and_iff_right rfl]

/-- Of collectors that do not hinder each other, those are accepted that come in front of the first
which would be refused by itself, and the answer is that of this one. -/
theorem registerAll_of_beside (beside : cs.Pairwise s.Beside) :
    s.welcome r cs = cs.takeWhile (fun c => (s.register r c).2.isOk) ∧
      (s.registerAll r cs).2 = firstError (cs.map fun c => (s.register r c).2) := by
  induction cs generalizing s with
  | nil => exact ⟨rfl, rfl⟩
  | cons c cs ih =>
    obtain ⟨first, rest⟩ := List.pairwise_cons.1 beside
    cases answered : (s.register r c).2 with
    | error e =>
      rw [welcome_of_error answered, registerAll_of_error answered, answered]
      simp [firstError, answered, Except.isOk, Except.toBool]
    | ok u =>
      have later : cs.Pairwise (s.register r c).1.Beside := rest.imp fun h => ⟨h.single⟩
      have alike : ∀ c' ∈ cs, ((s.register r c).1.register r c').2 = (s.register r c').2 :=
        fun c' hc => (first c' hc).register
      obtain ⟨welcomed, answer⟩ := ih later
      rw [welcome_of_ok answered, registerAll_of_ok answered, welcomed, answer,
        List.map_congr_left alike, takeWhile_congr fun c' hc => congrArg Except.isOk (alike c' hc)]
      simp [firstError, answered, Except.isOk, Except.toBool]

/-- The new names of a registry are those of the collectors that it accepts. -/
theorem mem_metricNames_registerAll (used : r.index < s.registries.length)
    (cs : List CollectorId) {n : String} :
    n ∈ ((s.registerAll r cs).1.registry r).metricNames ↔
      n ∈ (s.registry r).metricNames ∨ ∃ c ∈ s.welcome r cs, n ∈ (s.collector c).names := by
  induction cs generalizing s with
  | nil => simp [registerAll, welcome]
  | cons c cs ih =>
    have changed : (s.register r c).1.registry r = ((s.registry r).offer (s.offer c)).1 := by
      rw [registry_register, if_pos ⟨rfl, used⟩]
    have offered : ((s.registry r).offer (s.offer c)).2 = (s.register r c).2 := rfl
    cases answered : (s.register r c).2 with
    | error e =>
      rw [registerAll_of_error answered, welcome_of_error answered, changed,
        Registry.metricNames_of_error (offered.trans answered)]
      simp
    | ok u =>
      have names : n ∈ ((s.register r c).1.registry r).metricNames ↔
          n ∈ (s.registry r).metricNames ∨ n ∈ (s.collector c).names := by
        obtain ⟨t, -, after⟩ := Registry.offer_of_ok (offered.trans answered)
        rw [changed, after]
        exact NameSet.mem_insertAll.trans Or.comm
      have used' : r.index < (s.register r c).1.registries.length := by
        rwa [show (s.register r c).1.registries.length = _ from List.length_set ..]
      rw [registerAll_of_ok answered, welcome_of_ok answered, ih used', names, or_assoc]
      simp only [List.mem_cons, or_and_right, exists_or, exists_eq_left]
      rfl

end Store

end WorkerTelemetry.Metric
