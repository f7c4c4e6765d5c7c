import WorkerTelemetry.Proofs.Activity.Work
import WorkerTelemetry.Proofs.Metric.Views

/-!
What one part of a process can do to the metrics of another. A process holds registries, sets of
metrics and other collectors by handles, which it clones as it likes. Main statement: what is seen
of a registry changes only by what it accepts itself and by changes of what it has accepted, and
such a change shows in every registry that has accepted it. The metrics of a set are registered one
by one, so a registry may have accepted a part of a set.
-/

namespace WorkerTelemetry.Activity

open WorkerTelemetry.Metric

/-- What a set of metrics answers to all questions. -/
def Metrics.answers (m : Metrics) (s : Store) :
    (String → Outcome → Nat × Nat × Float) × Nat × Nat :=
  (fun kind o => (m.count s kind o, m.durationSamples s kind o, m.durationSum s kind o),
    m.pullRequestsCreated s, m.provisionSamples s)

/-- The answers are a function of the four metrics. -/
theorem Metrics.answers_congr {m : Metrics} {s t : Store}
    (same : ∀ c ∈ m.collectors, t.collector c = s.collector c) : m.answers t = m.answers s := by
  have place (p : Part) : t.collector (m.place p) = s.collector (m.place p) :=
    same _ (m.place_mem p)
  have duration := place .duration
  have total := place .total
  have pullRequests := place .pullRequests
  have provision := place .provision
  simp only [Metrics.place] at duration total pullRequests provision
  simp only [answers, count, durationSamples, durationSum, pullRequestsCreated, provisionSamples,
    series?, Metrics.reading, Store.families, duration, total, pullRequests, provision]

/-- The handles of a process, in the order in which it got them. Those of one thing are equal. -/
structure Holdings where
  store : Store := {}
  registries : List RegistryId := []
  sets : List Metrics := []
  collectors : List CollectorId := []

namespace Holdings

/-- What a process does with its handles, which are given by their places. -/
inductive Act
  | newRegistry
  | cloneRegistry (g : Nat)
  | newSet
  | cloneSet (h : Nat)
  | newCollector (k : Collector)
  | cloneCollector (h : Nat)
  | register (g h : Nat)
  | registerSet (g h : Nat)
  | change (h part : Nat) (u : Change)
  | record (h : Nat) (x : Recording)
  | query (h : Nat)
  | scrape (g : Nat)

def step (d : Holdings) : Act → Holdings
  | .newRegistry =>
    let (s, r) := d.store.addRegistry
    { d with store := s, registries := d.registries ++ [r] }
  | .cloneRegistry g => { d with registries := d.registries ++ d.registries[g]?.toList }
  | .newSet =>
    let (s, m) := Metrics.create d.store
    { d with store := s, sets := d.sets ++ [m] }
  | .cloneSet h => { d with sets := d.sets ++ d.sets[h]?.toList }
  | .newCollector k =>
    let (s, c) := d.store.addCollector k
    { d with store := s, collectors := d.collectors ++ [c] }
  | .cloneCollector h => { d with collectors := d.collectors ++ d.collectors[h]?.toList }
  | .register g h =>
    match d.registries[g]?, d.collectors[h]? with
    | some r, some c => { d with store := (d.store.register r c).1 }
    | _, _ => d
  | .registerSet g h =>
    match d.registries[g]?, d.sets[h]? with
    | some r, some m => { d with store := (m.register d.store r).1 }
    | _, _ => d
  | .change h part u =>
    match d.collectors[h]? with
    | some c => { d with store := d.store.step (.update c part u.values u.act) }
    | none => d
  | .record h x =>
    match d.sets[h]? with
    | some m => { d with store := m.take d.store x }
    | none => d
  | .query _ | .scrape _ => d

def run (d : Holdings) (as : List Act) : Holdings := as.foldl step d

/-- The collectors that are brought to a registry, one after the other. -/
def brought (d : Holdings) (r : RegistryId) : Act → List CollectorId
  | .register g h => if d.registries[g]? = some r then d.collectors[h]?.toList else []
  | .registerSet g h =>
    if d.registries[g]? = some r then d.sets[h]?.toList.flatMap Metrics.collectors else []
  | _ => []

/-- The collectors that a registry accepts in an act. -/
def taken (d : Holdings) (r : RegistryId) (a : Act) : List CollectorId :=
  d.store.welcome r (d.brought r a)

/-- The collectors that a registry accepts in the course of some acts. -/
def accepted (d : Holdings) (r : RegistryId) : List Act → List CollectorId
  | [] => []
  | a :: as => d.taken r a ++ (d.step a).accepted r as

/-- What is changed: a collector, which of its metrics, and how. -/
def changes (d : Holdings) : Act → List (CollectorId × Nat × Change)
  | .change h part u => d.collectors[h]?.toList.map fun c => (c, part, u)
  | .record h x => d.sets[h]?.toList.flatMap fun m => x.changes.map fun y => (m.place y.1, 0, y.2)
  | _ => []

/-! ### Changes of the store -/

/-- The store after a change. -/
def amend (s : Store) (x : CollectorId × Nat × Change) : Store :=
  s.step (.update x.1 x.2.1 x.2.2.values x.2.2.act)

/-- The collector after a change, which may be refused. -/
def amended (k : Collector) (part : Nat) (u : Change) : Collector :=
  (k.update part u.values u.act).toOption.getD k

variable {s : Store} {c : CollectorId} {part : Nat} {u : Change}
  {xs : List (CollectorId × Nat × Change)}

theorem collector_amend_self (used : c.index < s.collectors.length) :
    (amend s (c, part, u)).collector c = amended (s.collector c) part u := by
  unfold amend amended
  rw [Store.step_update]
  cases (s.collector c).update part u.values u.act with
  | error e => rfl
  | ok k => simp [Store.collector, Except.toOption, used]

theorem length_amend (s : Store) (x : CollectorId × Nat × Change) :
    (amend s x).collectors.length = s.collectors.length := by
  rcases Store.step_update_cases s x.1 x.2.1 x.2.2.values x.2.2.act with same | ⟨k, -, same⟩
  · rw [amend, same]
  · rw [amend, same]
    exact List.length_set ..

theorem length_foldl_amend (xs : List (CollectorId × Nat × Change)) (s : Store) :
    (xs.foldl amend s).collectors.length = s.collectors.length := by
  induction xs generalizing s with
  | nil => rfl
  | cons x xs ih => rw [List.foldl_cons, ih, length_amend]

theorem registries_foldl_amend (xs : List (CollectorId × Nat × Change)) (s : Store) :
    (xs.foldl amend s).registries = s.registries := by
  induction xs generalizing s with
  | nil => rfl
  | cons x xs ih => exact (ih _).trans (Store.registries_update ..)

/-- Other collectors are left as they are. -/
theorem collector_foldl_amend_of_notMem (used : c.index < s.collectors.length)
    (other : c ∉ xs.map (·.1)) : (xs.foldl amend s).collector c = s.collector c := by
  induction xs generalizing s with
  | nil => rfl
  | cons x xs ih =>
    obtain ⟨hx, hxs⟩ := not_or.1 (List.mem_cons.not.1 other)
    rw [List.foldl_cons, ih (by rwa [length_amend]) hxs]
    refine Store.collector_step used ?_
    rintro part values act same
    exact hx (Step.update.inj same).1.symm

/-- Of changes of different collectors each is made as if it were alone. -/
theorem collector_foldl_amend (distinct : (xs.map (·.1)).Nodup) (hx : (c, part, u) ∈ xs)
    (used : c.index < s.collectors.length) :
    (xs.foldl amend s).collector c = amended (s.collector c) part u := by
  induction xs generalizing s with
  | nil => cases hx
  | cons x xs ih =>
    obtain ⟨first, rest⟩ := List.nodup_cons.1 distinct
    have later : c.index < (amend s x).collectors.length := by rwa [length_amend]
    rw [List.foldl_cons]
    rcases List.mem_cons.1 hx with rfl | hx
    · rw [collector_foldl_amend_of_notMem later first, collector_amend_self used]
    · have other : x.1 ≠ c := by
        rintro rfl
        exact first (List.mem_map.2 ⟨_, hx, rfl⟩)
      rw [ih rest hx later]
      congr 1
      refine Store.collector_step used ?_
      rintro part values act same
      exact other (Step.update.inj same).1

/-! ### What an act does -/

/-- What is held is in the store, and things that were made one by one have nothing in common. -/
structure Sound (d : Holdings) : Prop where
  registries : ∀ r ∈ d.registries, r.index < d.store.registries.length
  collectors : ∀ c ∈ d.collectors, c.index < d.store.collectors.length
  places : ∀ m ∈ d.sets, ∀ c ∈ m.collectors, c.index < d.store.collectors.length
  distinct : ∀ m ∈ d.sets, Function.Injective m.place
  apart : ∀ m ∈ d.sets, ∀ n ∈ d.sets, n ≠ m → m.Apart n
  foreign : ∀ m ∈ d.sets, ∀ c ∈ d.collectors, c ∉ m.collectors
  held : ∀ r, ∀ c ∈ (d.store.registry r).collectors, c.index < d.store.collectors.length

/-- An act brings collectors to one registry, changes collectors, or adds to the store. -/
inductive Effect (d : Holdings) (a : Act) : Prop
  | brings (r : RegistryId) (cs : List CollectorId) :
      (d.step a).store = (d.store.registerAll r cs).1 → r.index < d.store.registries.length →
      (∀ q, d.brought q a = if r = q then cs else []) → d.changes a = [] → Effect d a
  | changes : (d.step a).store = (d.changes a).foldl amend d.store → (∀ q, d.brought q a = []) →
      Effect d a
  | adds (ks : List Collector) : (d.step a).store.collectors = d.store.collectors ++ ks →
      (∀ q, (d.step a).store.registry q = d.store.registry q) →
      d.store.registries.length ≤ (d.step a).store.registries.length →
      (∀ q, d.brought q a = []) → d.changes a = [] → Effect d a

variable {d : Holdings} {a : Act} {r : RegistryId} {m n : Metrics}

theorem take_eq_foldl_amend (m : Metrics) (s : Store) (x : Recording) :
    m.take s x = (x.changes.map fun y => (m.place y.1, 0, y.2)).foldl amend s := by
  rw [Metrics.take_eq_foldl_change, List.foldl_map]
  refine congrArg (fun f => x.changes.foldl f s) ?_
  funext t y
  exact (Metrics.step_update_eq ..).symm

theorem effect (sound : d.Sound) (a : Act) : Effect d a := by
  cases a with
  | newRegistry =>
    refine .adds [] (List.append_nil _).symm (Store.registry_addRegistry d.store) ?_
      (fun _ => rfl) rfl
    simp [step, Store.addRegistry]
  | newSet =>
    refine .adds [⟨[Metrics.durationMetric]⟩, ⟨[Metrics.totalMetric]⟩,
      ⟨[Metrics.pullRequestsMetric]⟩, ⟨[Metrics.provisionMetric]⟩] ?_ (fun _ => rfl)
      (Nat.le_refl _) (fun _ => rfl) rfl
    simp [step, Metrics.create, Store.addCollector]
  | newCollector k => exact .adds [k] rfl (fun _ => rfl) (Nat.le_refl _) (fun _ => rfl) rfl
  | cloneRegistry g | cloneSet h | cloneCollector h | query h | scrape g =>
    exact .changes rfl fun _ => rfl
  | register g h =>
    cases hr : d.registries[g]? with
    | none => exact .changes (by simp [step, hr, changes]) fun q => by simp [brought, hr]
    | some r =>
      cases hc : d.collectors[h]? with
      | none => exact .changes (by simp [step, hr, hc, changes]) fun q => by simp [brought, hc]
      | some c =>
        refine .brings r [c] ?_ (sound.registries r (List.mem_of_getElem? hr)) ?_ rfl
        · simp [step, hr, hc, Store.registerAll_singleton]
        · simp [brought, hr, hc]
  | registerSet g h =>
    cases hr : d.registries[g]? with
    | none => exact .changes (by simp [step, hr, changes]) fun q => by simp [brought, hr]
    | some r =>
      cases hm : d.sets[h]? with
      | none => exact .changes (by simp [step, hr, hm, changes]) fun q => by simp [brought, hm]
      | some m =>
        refine .brings r m.collectors ?_ (sound.registries r (List.mem_of_getElem? hr)) ?_ rfl
        · simp [step, hr, hm, Metrics.register]
        · simp [brought, hr, hm]
  | change h part u =>
    cases hc : d.collectors[h]? with
    | none => exact .changes (by simp [step, hc, changes]) fun _ => rfl
    | some c => exact .changes (by simp [step, hc, changes, amend]) fun _ => rfl
  | record h x =>
    cases hm : d.sets[h]? with
    | none => exact .changes (by simp [step, hm, changes]) fun _ => rfl
    | some m => exact .changes (by simp [step, hm, changes, take_eq_foldl_amend]) fun _ => rfl

theorem used_of_mem_brought (sound : d.Sound) {c : CollectorId} (hc : c ∈ d.brought r a) :
    c.index < d.store.collectors.length := by
  cases a with
  | register g h =>
    simp only [brought] at hc
    split at hc
    · exact sound.collectors c (List.mem_of_getElem? (Option.mem_toList.1 hc))
    · cases hc
  | registerSet g h =>
    simp only [brought] at hc
    split at hc
    · obtain ⟨m, hm, hc⟩ := List.mem_flatMap.1 hc
      exact sound.places m (List.mem_of_getElem? (Option.mem_toList.1 hm)) c hc
    · cases hc
  | _ => cases hc

theorem used_of_mem_changes (sound : d.Sound) {x : CollectorId × Nat × Change}
    (hx : x ∈ d.changes a) : x.1.index < d.store.collectors.length := by
  cases a with
  | change h part u =>
    obtain ⟨c, hc, rfl⟩ := List.mem_map.1 hx
    exact sound.collectors c (List.mem_of_getElem? (Option.mem_toList.1 hc))
  | record h x =>
    obtain ⟨m, hm, hx⟩ := List.mem_flatMap.1 hx
    obtain ⟨y, -, rfl⟩ := List.mem_map.1 hx
    exact sound.places m (List.mem_of_getElem? (Option.mem_toList.1 hm)) _ (m.place_mem y.1)
  | _ => cases hx

/-- An act changes every collector once. -/
theorem nodup_changes (sound : d.Sound) (a : Act) : ((d.changes a).map (·.1)).Nodup := by
  cases a with
  | change h part u =>
    rw [changes, List.map_map]
    cases d.collectors[h]? <;> simp
  | record h x =>
    rw [changes]
    cases hm : d.sets[h]? with
    | none => exact .nil
    | some m =>
      have distinct := sound.distinct m (List.mem_of_getElem? hm)
      have parts : (x.changes.map (·.1)).Nodup := by cases x <;> simp [Recording.changes]
      have places : (x.changes.map fun y => (m.place y.1, 0, y.2)).map (·.1) =
          (x.changes.map (·.1)).map m.place := by
        rw [List.map_map, List.map_map]
        rfl
      rw [Option.toList_some, List.flatMap_singleton, places]
      exact parts.map distinct
  | _ => exact .nil

/-- A registry holds what it has accepted, and has new names only if there is any such. -/
theorem registry_step (sound : d.Sound) (r : RegistryId) (a : Act) :
    ((d.step a).store.registry r).collectors = (d.store.registry r).collectors ++ d.taken r a ∧
      (d.taken r a = [] →
        ((d.step a).store.registry r).metricNames = (d.store.registry r).metricNames) := by
  have unchanged (same : (d.step a).store.registry r = d.store.registry r)
      (none : d.brought r a = []) :
      ((d.step a).store.registry r).collectors = (d.store.registry r).collectors ++ d.taken r a ∧
        (d.taken r a = [] →
          ((d.step a).store.registry r).metricNames = (d.store.registry r).metricNames) := by
    rw [same, taken, none, Store.welcome, List.append_nil]
    exact ⟨rfl, fun _ => rfl⟩
  cases effect sound a with
  | brings q cs after used brought =>
    by_cases hq : q = r
    · subst hq
      rw [after, taken, brought q, if_pos rfl]
      exact Store.registry_registerAll used cs
    · refine unchanged ?_ (by rw [brought r, if_neg hq])
      rw [after, Store.registry_registerAll_of_ne (Ne.symm hq)]
  | changes after brought =>
    refine unchanged ?_ (brought r)
    rw [after, Store.registry, registries_foldl_amend, Store.registry]
  | adds ks after same more brought => exact unchanged (same r) (brought r)

/-- A collector is changed by its own changes only. -/
theorem collector_step (sound : d.Sound) {c : CollectorId}
    (used : c.index < d.store.collectors.length) (other : c ∉ (d.changes a).map (·.1)) :
    (d.step a).store.collector c = d.store.collector c := by
  cases effect sound a with
  | brings q cs after =>
    rw [after, Store.collector, Store.collectors_registerAll, Store.collector]
  | changes after => rw [after, collector_foldl_amend_of_notMem used other]
  | adds ks after => simp [Store.collector, after, List.getElem?_append_left used]

theorem collector_step_of_mem (sound : d.Sound) {c : CollectorId} {part : Nat} {u : Change}
    (hx : (c, part, u) ∈ d.changes a) :
    (d.step a).store.collector c = amended (d.store.collector c) part u := by
  cases effect sound a with
  | brings q cs after used brought none => rw [none] at hx; cases hx
  | changes after =>
    rw [after]
    exact collector_foldl_amend (nodup_changes sound a) hx (used_of_mem_changes sound hx)
  | adds ks after same more brought none => rw [none] at hx; cases hx

/-- Nothing is lost. -/
theorem length_step (sound : d.Sound) (a : Act) :
    d.store.registries.length ≤ (d.step a).store.registries.length ∧
      d.store.collectors.length ≤ (d.step a).store.collectors.length := by
  cases effect sound a with
  | brings q cs after =>
    rw [after, Store.length_registerAll, Store.collectors_registerAll]
    exact ⟨Nat.le_refl _, Nat.le_refl _⟩
  | changes after =>
    rw [after, registries_foldl_amend, length_foldl_amend]
    exact ⟨Nat.le_refl _, Nat.le_refl _⟩
  | adds ks after same more =>
    rw [after, List.length_append]
    exact ⟨more, Nat.le_add_right _ _⟩

/-! ### What is always so -/

theorem sound_empty : Sound {} := by
  refine ⟨?_, ?_, ?_, ?_, ?_, ?_, ?_⟩
  all_goals simp [Store.registry, Registry.collectors]

/-- The places of a new set of metrics are new. -/
theorem places_create (s : Store) {c : CollectorId} (hc : c ∈ (Metrics.create s).2.collectors) :
    s.collectors.length ≤ c.index ∧ c.index < (Metrics.create s).1.collectors.length := by
  simp [Metrics.create, Metrics.collectors, Store.addCollector] at hc ⊢
  rcases hc with rfl | rfl | rfl | rfl <;> simp

namespace Sound

/-- Nothing is said of handles that are no longer there. -/
theorem of_subset {d' : Holdings} (sound : d.Sound) (store : d'.store = d.store)
    (registries : d'.registries ⊆ d.registries) (sets : d'.sets ⊆ d.sets)
    (collectors : d'.collectors ⊆ d.collectors) : d'.Sound := by
  refine ⟨?_, ?_, ?_, ?_, ?_, ?_, ?_⟩
  · exact fun r hr => store ▸ sound.registries r (registries hr)
  · exact fun c hc => store ▸ sound.collectors c (collectors hc)
  · exact fun m hm => store ▸ sound.places m (sets hm)
  · exact fun m hm => sound.distinct m (sets hm)
  · exact fun m hm n hn => sound.apart m (sets hm) n (sets hn)
  · exact fun m hm c hc => sound.foreign m (sets hm) c (collectors hc)
  · exact store ▸ sound.held

theorem addRegistry (sound : d.Sound) (used : r.index < d.store.registries.length) :
    Sound { d with registries := d.registries ++ [r] } :=
  { sound with
    registries := List.forall_mem_append.2
      ⟨sound.registries, List.forall_mem_singleton.2 used⟩ }

theorem addCollector (sound : d.Sound) {c : CollectorId}
    (used : c.index < d.store.collectors.length) (new : ∀ m ∈ d.sets, c ∉ m.collectors) :
    Sound { d with collectors := d.collectors ++ [c] } :=
  { sound with
    collectors := List.forall_mem_append.2 ⟨sound.collectors, List.forall_mem_singleton.2 used⟩
    foreign := fun m hm => List.forall_mem_append.2
      ⟨sound.foreign m hm, List.forall_mem_singleton.2 (new m hm)⟩ }

theorem addSet (sound : d.Sound) (used : ∀ c ∈ m.collectors, c.index < d.store.collectors.length)
    (distinct : Function.Injective m.place) (new : ∀ n ∈ d.sets, n.Apart m)
    (own : ∀ c ∈ d.collectors, c ∉ m.collectors) :
    Sound { d with sets := d.sets ++ [m] } := by
  refine { sound with places := ?_, distinct := ?_, apart := ?_, foreign := ?_ }
  · exact List.forall_mem_append.2 ⟨sound.places, List.forall_mem_singleton.2 used⟩
  · exact List.forall_mem_append.2 ⟨sound.distinct, List.forall_mem_singleton.2 distinct⟩
  · refine List.forall_mem_append.2 ⟨fun n hn => ?_, List.forall_mem_singleton.2 ?_⟩
    · exact List.forall_mem_append.2
        ⟨sound.apart n hn, List.forall_mem_singleton.2 fun _ => new n hn⟩
    · refine List.forall_mem_append.2 ⟨fun n hn _ => ?_, List.forall_mem_singleton.2 ?_⟩
      · exact fun c place place' => new n hn place' place
      · exact fun other => absurd rfl other
  · exact List.forall_mem_append.2 ⟨sound.foreign, List.forall_mem_singleton.2 own⟩

/-- What was held is in the store after an act too. -/
theorem later (sound : d.Sound) (a : Act) : Sound { d with store := (d.step a).store } := by
  obtain ⟨registries, collectors⟩ := length_step sound a
  refine { sound with registries := ?_, collectors := ?_, places := ?_, held := ?_ }
  · exact fun r hr => Nat.lt_of_lt_of_le (sound.registries r hr) registries
  · exact fun c hc => Nat.lt_of_lt_of_le (sound.collectors c hc) collectors
  · exact fun m hm c hc => Nat.lt_of_lt_of_le (sound.places m hm c hc) collectors
  · intro r c hc
    refine Nat.lt_of_lt_of_le ?_ collectors
    rw [(registry_step sound r a).1] at hc
    rcases List.mem_append.1 hc with old | new
    · exact sound.held r c old
    · exact used_of_mem_brought sound (Store.welcome_subset _ _ _ new)

theorem step (sound : d.Sound) (a : Act) : (d.step a).Sound := by
  have later := sound.later a
  have clones {α : Type} (hs : List α) (h : Nat) : hs ++ hs[h]?.toList ⊆ hs := by
    refine List.append_subset.2 ⟨List.Subset.refl _, fun x hx => ?_⟩
    exact List.mem_of_getElem? (Option.mem_toList.1 hx)
  cases a with
  | newRegistry => exact later.addRegistry (by simp [Holdings.step, Store.addRegistry])
  | newSet =>
    refine later.addSet ?_ (Metrics.fresh_create d.store).distinct ?_ ?_
    · exact fun c hc => (places_create d.store hc).2
    · intro n hn c known new
      exact absurd (sound.places n hn c known) (Nat.not_lt.2 (places_create d.store new).1)
    · intro c known new
      exact absurd (sound.collectors c known) (Nat.not_lt.2 (places_create d.store new).1)
  | newCollector k =>
    refine later.addCollector (by simp [Holdings.step, Store.addCollector]) fun m hm known => ?_
    exact absurd (sound.places m hm _ known) (Nat.lt_irrefl _)
  | cloneRegistry g =>
    exact later.of_subset rfl (clones _ g) (List.Subset.refl _) (List.Subset.refl _)
  | cloneSet h =>
    exact later.of_subset rfl (List.Subset.refl _) (clones _ h) (List.Subset.refl _)
  | cloneCollector h =>
    exact later.of_subset rfl (List.Subset.refl _) (List.Subset.refl _) (clones _ h)
  | query h | scrape g => exact sound
  | register g h | registerSet g h | change h part u | record h x =>
    refine later.of_subset rfl ?_ ?_ ?_
    all_goals
      simp only [Holdings.step]
      split <;> exact List.Subset.refl _

end Sound

theorem Sound.run (sound : d.Sound) (as : List Act) : (d.run as).Sound := by
  induction as generalizing d with
  | nil => exact sound
  | cons a as ih => exact ih (sound.step a)

/-- At every moment a registry holds what it has accepted so far. -/
theorem collectors_run (sound : d.Sound) (r : RegistryId) (as : List Act) :
    ((d.run as).store.registry r).collectors =
      (d.store.registry r).collectors ++ d.accepted r as := by
  induction as generalizing d with
  | nil => exact (List.append_nil _).symm
  | cons a as ih =>
    refine (ih (sound.step a)).trans ?_
    rw [(registry_step sound r a).1, List.append_assoc, accepted]

/-! ### What an act leaves as it is -/

theorem view_step (sound : d.Sound) (quiet : d.taken r a = [])
    (spared : ∀ x ∈ d.changes a, x.1 ∉ (d.store.registry r).collectors) :
    (d.step a).store.view r = d.store.view r := by
  obtain ⟨held, names⟩ := registry_step sound r a
  refine Store.view_congr (names quiet) (by rw [held, quiet, List.append_nil]) fun c hc => ?_
  refine collector_step sound (sound.held r c hc) fun changed => ?_
  obtain ⟨x, hx, rfl⟩ := List.mem_map.1 changed
  exact spared x hx hc

/-- A set of metrics is changed by recordings in it only. -/
theorem notMem_changes (sound : d.Sound) {n : Metrics} (hn : n ∈ d.sets)
    (other : ∀ h x, a = .record h x → d.sets[h]? ≠ some n) :
    ∀ x ∈ d.changes a, x.1 ∉ n.collectors := by
  cases a with
  | change h part u =>
    intro x hx
    obtain ⟨c, hc, rfl⟩ := List.mem_map.1 hx
    exact sound.foreign n hn c (List.mem_of_getElem? (Option.mem_toList.1 hc))
  | record h x =>
    intro y hy
    obtain ⟨m, hm, hy⟩ := List.mem_flatMap.1 hy
    obtain ⟨z, -, rfl⟩ := List.mem_map.1 hy
    have found : d.sets[h]? = some m := Option.mem_toList.1 hm
    have different : n ≠ m := by
      rintro rfl
      exact other h x rfl found
    exact sound.apart m (List.mem_of_getElem? found) n hn different (m.place_mem z.1)
  | _ => exact fun x hx => absurd hx List.not_mem_nil

theorem answers_step (sound : d.Sound) {n : Metrics} (hn : n ∈ d.sets)
    (other : ∀ h x, a = .record h x → d.sets[h]? ≠ some n) :
    n.answers (d.step a).store = n.answers d.store := by
  refine Metrics.answers_congr fun c hc => ?_
  refine collector_step sound (sound.places n hn c hc) fun changed => ?_
  obtain ⟨x, hx, rfl⟩ := List.mem_map.1 changed
  exact notMem_changes sound hn other x hx hc

/-- After all that was done by handles, one act more changes the names of a registry only if the
registry accepts something in it, and else what is seen of the registry only if a collector is
changed that the registry has accepted. A collector that is changed shows its series in all
registries that have accepted it. A set of metrics is changed by recordings in it only, so that
recordings in one set leave all that is seen of a registry that has accepted metrics of another set
only. -/
theorem registries_apart (as : List Act) (a : Act) :
    let d := run {} as
    let d' := d.step a
    let has (r : RegistryId) := accepted {} r as
    (∀ r, d.taken r a = [] →
      (d'.store.registry r).metricNames = (d.store.registry r).metricNames ∧
        ((∀ x ∈ d.changes a, x.1 ∉ has r) → d'.store.view r = d.store.view r)) ∧
      (∀ c part u, (c, part, u) ∈ d.changes a →
        d'.store.collector c = amended (d.store.collector c) part u ∧
          ∀ r, c ∈ has r → d'.store.Shows r c) ∧
      (∀ n ∈ d.sets, (∀ h x, a = .record h x → d.sets[h]? ≠ some n) →
        n.answers d'.store = n.answers d.store) ∧
      ∀ h x m n, a = .record h x → d.sets[h]? = some m → n ∈ d.sets → n ≠ m →
        ∀ r, (∀ c ∈ has r, c ∈ n.collectors) → d'.store.view r = d.store.view r := by
  intro d d' has
  have sound : d.Sound := sound_empty.run as
  have held (r : RegistryId) : (d.store.registry r).collectors = has r := by
    have all := collectors_run sound_empty r as
    simpa [Store.registry, Registry.collectors] using all
  refine ⟨?_, ?_, fun n hn other => answers_step sound hn other, ?_⟩
  · intro r quiet
    refine ⟨(registry_step sound r a).2 quiet, fun spared => view_step sound quiet ?_⟩
    rwa [held]
  · intro c part u hx
    refine ⟨collector_step_of_mem sound hx, fun r hc => Store.shows_of_mem ?_⟩
    rw [(registry_step sound r a).1, held]
    exact List.mem_append_left _ hc
  · rintro h x m n rfl found hn different r only
    refine view_step sound rfl fun y hy hc => ?_
    rw [held] at hc
    refine notMem_changes sound hn ?_ y hy (only y.1 hc)
    rintro g z same
    cases same
    rw [found]
    exact fun heq => different (Option.some.inj heq).symm

/-- A registry that has one of the names already accepts a part of a set. -/
example : accepted {} ⟨0⟩ [.newRegistry, .newCollector ⟨[Metrics.pullRequestsMetric]⟩,
    .register 0 0, .newSet, .registerSet 0 0] = [⟨0⟩, ⟨1⟩, ⟨2⟩] := by decide +kernel

end Holdings

end WorkerTelemetry.Activity
