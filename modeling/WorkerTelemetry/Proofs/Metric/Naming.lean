import Mathlib.Data.List.Nodup
import Mathlib.Tactic.SplitIfs
import WorkerTelemetry.Proofs.Metric.Closing
import WorkerTelemetry.Proofs.Metric.Gathering

/-!
The names of what a registry holds. A collector that describes a name twice is refused, and so is
one that describes a name which is held, so no two metrics that a registry holds have a name in
common. Main statements: this, that the names of a registry are those of the metrics it holds, that
families of different names are shown one by one, and that names are in the order of their bytes.
-/

namespace WorkerTelemetry

namespace Text

/-- A code point by its digits to the base `64`, which are what its bytes carry. -/
theorem eq_digits (v : Nat) :
    v = 262144 * (v / 262144) + 4096 * (v / 4096 % 64) + 64 * (v / 64 % 64) + v % 64 := by
  omega

/-- Two characters differ in their bytes as they do by themselves, and neither is a part of the
other. -/
theorem utf8EncodeChar_lt {c d : Char} (h : c < d) (xs ys : List UInt8) :
    String.utf8EncodeChar c ++ xs < String.utf8EncodeChar d ++ ys := by
  have lt : c.val.toNat < d.val.toNat := h
  have valid : d.val.toNat < 0x110000 := by
    rcases d.valid with small | ⟨-, large⟩
    · exact Nat.lt_trans small (by decide)
    · exact large
  have digits := eq_digits c.val.toNat
  have digits' := eq_digits d.val.toNat
  unfold String.utf8EncodeChar
  dsimp only
  generalize c.val.toNat = v at lt digits ⊢
  generalize d.val.toNat = w at lt valid digits' ⊢
  -- one case for every two lengths of the forms
  split_ifs <;>
    simp (disch := omega) only [List.cons_append, List.nil_append, List.cons_lt_cons_iff,
      UInt8.lt_iff_toNat_lt, ← UInt8.toNat_inj, UInt8.toNat_ofNat', Nat.mod_eq_of_lt] <;> omega

/-- Texts are in the order of their bytes. -/
theorem utf8_lt {cs ds : List Char} (h : cs < ds) : utf8 cs < utf8 ds := by
  induction cs generalizing ds with
  | nil =>
    cases ds with
    | nil => exact absurd h (List.not_lt_nil [])
    | cons d ds =>
      have some_byte : utf8 (d :: ds) ≠ [] := by
        intro none
        have length := congrArg List.length (List.append_eq_nil_iff.1 none).1
        rw [String.length_utf8EncodeChar] at length
        exact absurd length (Nat.ne_of_gt d.utf8Size_pos)
      obtain ⟨b, bs, bytes⟩ := List.exists_cons_of_ne_nil some_byte
      rw [bytes]
      exact List.nil_lt_cons b bs
  | cons c cs ih =>
    cases ds with
    | nil => exact absurd h (List.not_lt_nil _)
    | cons d ds =>
      rcases List.cons_lt_cons_iff.1 h with lt | ⟨rfl, lt⟩
      · exact utf8EncodeChar_lt lt (utf8 cs) (utf8 ds)
      · exact List.append_left_lt (ih lt)

end Text

namespace Metric

namespace Tables

variable {t : Tables} {ds : List Descriptor} {names found : List UInt64}

theorem nodup_of_note (h : (t.note names ds).2 = .ok found) (distinct : names.Nodup) :
    found.Nodup := by
  induction ds generalizing t names with
  | nil =>
    cases h
    exact distinct
  | cons d ds ih =>
    by_cases described : d.nameFingerprint ∈ t.described
    · rw [note_of_described described] at h
      cases h
    by_cases shape : t.Contradicts d
    · rw [note_of_contradicts described shape] at h
      cases h
    by_cases twice : d.nameFingerprint ∈ names
    · rw [note_of_repeated described shape twice] at h
      cases h
    · rw [note_of_new described shape twice] at h
      refine ih h (distinct.append (List.nodup_singleton _) ?_)
      simpa using twice

/-- Tables that accept a collector describe each of its names once. -/
theorem nodup_of_hold {c : CollectorId} (h : (t.hold c ds).2 = .ok ()) :
    (ds.map Descriptor.name).Nodup := by
  obtain ⟨-, finds⟩ := note_spec t [] ds
  unfold hold at h
  cases hn : t.note [] ds with
  | mk u answer =>
    rw [hn] at h finds
    cases answer with
    | error r => cases h
    | ok found =>
      have answered : (t.note [] ds).2 = .ok found := by rw [hn]
      have distinct : found.Nodup := nodup_of_note answered List.nodup_nil
      rw [finds found rfl] at distinct
      have fingerprints : ds.map Descriptor.nameFingerprint =
          (ds.map Descriptor.name).map fun n => fingerprint (separated [n]) := by
        rw [List.map_map]
        rfl
      rw [List.nil_append, fingerprints] at distinct
      exact distinct.of_map

end Tables

theorem Registry.nodup_names_of_ok {g : Registry} {o : Offer} (h : (g.offer o).2 = .ok ()) :
    o.names.Nodup := by
  refine Tables.nodup_of_hold (t := g.tables) (c := o.collector) ?_
  unfold offer register at h
  split at h
  · cases h
  split at h
  · cases h
  next held => rw [held]

namespace Store

variable {s : Store} {r : RegistryId} {x : Step} {xs : List Step} {o : Offer}

theorem nodup_names_of_acceptance (h : s.acceptance r x = some o) : o.names.Nodup := by
  rcases registry_step s r x with ⟨-, none⟩ | ⟨c, rfl, -, answered, -⟩
  · rw [none] at h
    cases h
  · cases accepted : ((s.registry r).offer (s.offer c)).2 with
    | error e => simp [acceptance, answered, accepted] at h
    | ok u =>
      have same : o = s.offer c := by
        simpa [acceptance, answered, accepted, eq_comm] using h
      rw [same]
      exact Registry.nodup_names_of_ok accepted

theorem nodup_names_of_mem_accepted (h : o ∈ accepted r s xs) : o.names.Nodup := by
  induction xs generalizing s with
  | nil => cases h
  | cons x xs ih =>
    rcases List.mem_append.1 h with h | h
    · exact nodup_names_of_acceptance (Option.mem_toList.1 h)
    · exact ih h

/-- The names of the metrics that a registry holds. -/
def heldNames (s : Store) (r : RegistryId) : List String :=
  (s.registry r).collectors.flatMap fun c => (s.collector c).names

/-- At every moment no two metrics that a registry holds have a name in common, and their names are
those of the registry. -/
theorem heldNames_run (r : RegistryId) (xs : List Step) :
    ((run {} xs).heldNames r).Nodup ∧
      ∀ n, n ∈ (run {} xs).heldNames r ↔ n ∈ ((run {} xs).registry r).metricNames := by
  have keeps : ((run {} xs).registry r).Keeps (accepted r {} xs) :=
    keeps_run (s := {}) (r := r) Registry.Keeps.empty xs
  have held : (run {} xs).heldNames r = (accepted r {} xs).flatMap Offer.names := by
    rw [heldNames, keeps.collectors, List.flatMap_map]
    refine List.flatMap_congr fun o ho => ?_
    exact congrArg Offer.names (offer_of_mem_accepted ho).1
  constructor
  · rw [held]
    exact List.nodup_flatMap.2 ⟨fun o ho => nodup_names_of_mem_accepted ho, keeps.disjoint⟩
  · intro n
    rw [held, List.mem_flatMap]
    exact (keeps.names n).symm

end Store

namespace Family

variable {fs : List Family} {f g : Family} {n : String}

/-- Of families with different names one at most is shown under a name. -/
theorem shown_of_mem (distinct : (fs.map Family.name).Nodup) (hg : g ∈ fs) :
    shown g.name fs = shown g.name [g] := by
  obtain ⟨before, after, rfl⟩ := List.append_of_mem hg
  have others : ∀ f ∈ before ++ after, f.name ≠ g.name := by
    rw [List.map_append, List.map_cons, List.nodup_middle, ← List.map_append] at distinct
    intro f hf same
    exact (List.nodup_cons.1 distinct).1 (same ▸ List.mem_map_of_mem hf)
  have none (hs : List Family) (sub : hs ⊆ before ++ after) : shown g.name hs = [] := by
    refine List.filter_eq_nil_iff.2 fun f hf => ?_
    simp [others f (sub hf)]
  rw [shown_append, none before (List.subset_append_left _ _), List.nil_append,
    ← List.singleton_append, shown_append, none after (List.subset_append_right _ _),
    List.append_nil]

/-- Families with different names are shown one by one, with their series in order. -/
theorem mem_snapshot_of_distinct (distinct : (fs.map Family.name).Nodup) :
    f ∈ snapshot fs ↔ ∃ g ∈ fs, g.series ≠ [] ∧ f = g.ordered := by
  rw [mem_snapshot_iff]
  constructor
  · rintro ⟨k, found, rfl⟩
    obtain ⟨g, hg, name, -⟩ := of_united found
    rw [← name, shown_of_mem distinct hg, united_shown_self] at found
    split at found
    · cases found
    next series =>
      cases found
      exact ⟨k, hg, series, rfl⟩
  · rintro ⟨g, hg, series, rfl⟩
    refine ⟨g, ?_, rfl⟩
    rw [shown_of_mem distinct hg, united_shown_self, if_neg series]

/-- One of them is shown if it has series. -/
theorem name_mem_snapshot_iff (distinct : (fs.map Family.name).Nodup) (hg : g ∈ fs) :
    g.name ∈ (snapshot fs).map Family.name ↔ g.series ≠ [] := by
  constructor
  · intro h
    obtain ⟨f, hf, name⟩ := List.mem_map.1 h
    obtain ⟨k, hk, series, rfl⟩ := (mem_snapshot_of_distinct distinct).1 hf
    have same : k = g := List.inj_on_of_nodup_map distinct hk hg name
    exact same ▸ series
  · intro series
    exact List.mem_map.2
      ⟨g.ordered, (mem_snapshot_of_distinct distinct).2 ⟨g, hg, series, rfl⟩, rfl⟩

end Family

namespace Store

variable {s : Store} {r : RegistryId}

/-- What a registry holds is shown under the names that it describes. -/
def Named (s : Store) (r : RegistryId) : Prop :=
  ∀ c ∈ (s.registry r).collectors, ∀ m ∈ (s.collector c).metrics,
    m.exposedName = m.descriptor.name

theorem map_name_families (named : s.Named r) :
    ((s.registry r).collectors.flatMap s.families).map Family.name = s.heldNames r := by
  rw [List.map_flatMap, heldNames]
  refine List.flatMap_congr fun c hc => ?_
  rw [families, Collector.families, Collector.names, Collector.descriptors, List.map_map,
    List.map_map]
  exact List.map_congr_left fun m hm => named c hc m hm

/-- The families with series, one for every metric, with their series in order. -/
theorem mem_snapshot_of_named (named : s.Named r) (distinct : (s.heldNames r).Nodup) {f : Family} :
    f ∈ s.snapshot r ↔ ∃ c ∈ (s.registry r).collectors, ∃ m ∈ (s.collector c).metrics,
      m.series ≠ [] ∧ f = (family m).ordered := by
  rw [snapshot, Family.mem_snapshot_of_distinct ((map_name_families named).symm ▸ distinct)]
  simp [families, Collector.families, family, and_assoc]

/-- A metric that is held is shown as soon as it has a series. -/
theorem name_mem_snapshot_iff (named : s.Named r) (distinct : (s.heldNames r).Nodup)
    {c : CollectorId} (hc : c ∈ (s.registry r).collectors) {m : Metric}
    (hm : m ∈ (s.collector c).metrics) :
    m.descriptor.name ∈ (s.snapshot r).map Family.name ↔ m.series ≠ [] := by
  have given : family m ∈ (s.registry r).collectors.flatMap s.families :=
    List.mem_flatMap.2 ⟨c, hc, List.mem_map_of_mem hm⟩
  have shown := Family.name_mem_snapshot_iff ((map_name_families named).symm ▸ distinct) given
  rw [← named c hc m hm]
  exact shown.trans (not_congr List.map_eq_nil_iff)

end Store

end Metric

end WorkerTelemetry
