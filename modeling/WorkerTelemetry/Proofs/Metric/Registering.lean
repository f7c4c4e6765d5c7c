import Mathlib.Data.List.Basic
import WorkerTelemetry.Metric.Registry

/-!
What a registration does to a registry. A collector whose name is taken leaves the registry as it
was. One that the tables refuse may leave the shapes of some of its names noted, and nothing else.
One that is accepted adds its names to the index and itself to the collectors held. Main statement:
the index, the collectors held and the fingerprints of their names are those of the offers that were
accepted, and no two of these share a name.
-/

namespace WorkerTelemetry.Metric

/-- A collector with what it describes, as it is brought to a registry. -/
structure Offer where
  collector : CollectorId
  descriptors : List Descriptor

def Offer.names (o : Offer) : List String := o.descriptors.map Descriptor.name

/-! ### The tables -/

namespace Tables

variable {t u v : Tables} {ds : List Descriptor}

/-- The second tables are the first with the shapes of some descriptors noted. -/
structure Noted (ds : List Descriptor) (t u : Tables) : Prop where
  described : u.described = t.described
  held : u.held = t.held
  kept : ∀ n x, t.shapes.find? n = some x → u.shapes.find? n = some x
  origin : ∀ n x, u.shapes.find? n = some x →
    t.shapes.find? n = some x ∨ ∃ d ∈ ds, d.name = n ∧ d.shapeFingerprint = x

namespace Noted

theorem refl (t : Tables) : Noted ds t t := ⟨rfl, rfl, fun _ _ h => h, fun _ _ h => .inl h⟩

theorem mono {es : List Descriptor} (h : Noted ds t u) (sub : ds ⊆ es) : Noted es t u := by
  refine ⟨h.described, h.held, h.kept, fun n x hx => ?_⟩
  rcases h.origin n x hx with old | ⟨d, hd, found⟩
  · exact .inl old
  · exact .inr ⟨d, sub hd, found⟩

theorem trans {es : List Descriptor} (h : Noted ds t u) (h' : Noted es u v) :
    Noted (ds ++ es) t v := by
  refine ⟨h'.described.trans h.described, h'.held.trans h.held,
    fun n x hx => h'.kept n x (h.kept n x hx), fun n x hx => ?_⟩
  rcases h'.origin n x hx with old | ⟨d, hd, found⟩
  · rcases h.origin n x old with older | ⟨d, hd, found⟩
    · exact .inl older
    · exact .inr ⟨d, List.mem_append_left _ hd, found⟩
  · exact .inr ⟨d, List.mem_append_right _ hd, found⟩

end Noted

/-- A descriptor contradicts what is noted for its name. -/
def Contradicts (t : Tables) (d : Descriptor) : Prop :=
  ∃ x, t.shapes.find? d.name = some x ∧ x ≠ d.shapeFingerprint

theorem any_ne_iff_contradicts {d : Descriptor} :
    (t.shapes.find? d.name).any (· ≠ d.shapeFingerprint) = true ↔ t.Contradicts d := by
  unfold Contradicts
  cases t.shapes.find? d.name <;> simp

/-- The tables with the shape of one descriptor noted. -/
def noteShape (t : Tables) (d : Descriptor) : Tables :=
  { t with shapes := t.shapes.insert d.name d.shapeFingerprint }

theorem noted_noteShape {d : Descriptor} (h : ¬ t.Contradicts d) :
    Noted [d] t (t.noteShape d) := by
  have find (n : String) : (t.noteShape d).shapes.find? n =
      if n = d.name then some d.shapeFingerprint else t.shapes.find? n := NameMap.find?_insert
  refine ⟨rfl, rfl, ?_, ?_⟩
  · intro n x hx
    rw [find]
    by_cases hn : n = d.name
    · subst hn
      have same : x = d.shapeFingerprint := by
        by_contra hne
        exact h ⟨x, hx, hne⟩
      rw [if_pos rfl, same]
    · rwa [if_neg hn]
  · intro n x hx
    rw [find] at hx
    by_cases hn : n = d.name
    · rw [if_pos hn] at hx
      exact .inr ⟨d, List.mem_singleton.2 rfl, hn.symm, Option.some.inj hx⟩
    · rw [if_neg hn] at hx
      exact .inl hx

section Note

variable {names : List UInt64} {d : Descriptor}

theorem note_of_described (h : d.nameFingerprint ∈ t.described) :
    t.note names (d :: ds) = (t, .error .held) := by
  rw [note, if_pos h]

theorem note_of_contradicts (h : d.nameFingerprint ∉ t.described) (shape : t.Contradicts d) :
    t.note names (d :: ds) = (t, .error (.shape d)) := by
  rw [note, if_neg h, if_pos (any_ne_iff_contradicts.2 shape)]

theorem note_of_repeated (h : d.nameFingerprint ∉ t.described) (shape : ¬ t.Contradicts d)
    (twice : d.nameFingerprint ∈ names) :
    t.note names (d :: ds) = (t.noteShape d, .error (.repeatedName d.name)) := by
  rw [note, if_neg h, if_neg (mt any_ne_iff_contradicts.1 shape)]
  exact if_pos twice

theorem note_of_new (h : d.nameFingerprint ∉ t.described) (shape : ¬ t.Contradicts d)
    (once : d.nameFingerprint ∉ names) :
    t.note names (d :: ds) = (t.noteShape d).note (names ++ [d.nameFingerprint]) ds := by
  rw [note, if_neg h, if_neg (mt any_ne_iff_contradicts.1 shape)]
  exact if_neg once

end Note

/-- Going through descriptors notes the shapes of some of them and changes nothing else; if it comes
to an end, it has found the fingerprints of all. -/
theorem note_spec (t : Tables) (names : List UInt64) (ds : List Descriptor) :
    Noted ds t (t.note names ds).1 ∧ ∀ found, (t.note names ds).2 = .ok found →
      found = names ++ ds.map Descriptor.nameFingerprint := by
  induction ds generalizing t names with
  | nil =>
    refine ⟨.refl t, fun found h => ?_⟩
    have same : names = found := Except.ok.inj h
    rw [← same, List.map_nil, List.append_nil]
  | cons d ds ih =>
    by_cases held : d.nameFingerprint ∈ t.described
    · rw [note_of_described held]
      exact ⟨.refl t, fun found h => nomatch h⟩
    by_cases shape : t.Contradicts d
    · rw [note_of_contradicts held shape]
      exact ⟨.refl t, fun found h => nomatch h⟩
    have noted := noted_noteShape shape
    by_cases twice : d.nameFingerprint ∈ names
    · rw [note_of_repeated held shape twice]
      exact ⟨noted.mono (by simp), fun found h => nomatch h⟩
    · rw [note_of_new held shape twice]
      obtain ⟨more, finds⟩ := ih (t.noteShape d) (names ++ [d.nameFingerprint])
      refine ⟨noted.trans more, fun found h => ?_⟩
      rw [finds found h, List.append_assoc, List.map_cons, List.singleton_append]

/-- What becomes of tables to which a collector is brought. -/
theorem hold_cases (t : Tables) (c : CollectorId) (ds : List Descriptor) :
    (∃ r, (t.hold c ds).2 = .error r ∧ Noted ds t (t.hold c ds).1) ∨
    ((t.hold c ds).2 = .ok () ∧
      (t.hold c ds).1.described = t.described ++ ds.map Descriptor.nameFingerprint ∧
      (t.hold c ds).1.held.map Prod.snd = t.held.map Prod.snd ++ [c]) := by
  obtain ⟨noted, finds⟩ := note_spec t [] ds
  unfold hold
  cases hn : t.note [] ds with
  | mk u answer =>
    rw [hn] at noted finds
    cases answer with
    | error r => exact .inl ⟨r, rfl, noted⟩
    | ok found =>
      have hfound : found = ds.map Descriptor.nameFingerprint := finds found rfl
      dsimp only
      split
      · exact .inl ⟨_, rfl, noted⟩
      · have held : u.held = t.held := noted.held
        refine .inr ⟨rfl, ?_, ?_⟩
        · exact congrArg₂ (· ++ ·) noted.described hfound
        · simp [held]

end Tables

/-! ### The registry -/

namespace Registry

variable {g : Registry} {o : Offer}

def offer (g : Registry) (o : Offer) : Registry × Except Error Unit :=
  g.register o.collector o.descriptors

/-- The first name of an offer that is taken. -/
def taken? (g : Registry) (o : Offer) : Option String :=
  o.names.find? fun n => decide (n ∈ g.metricNames)

theorem taken?_eq (g : Registry) (o : Offer) :
    g.taken? o = (o.descriptors.find? fun d => decide (d.name ∈ g.index)).map Descriptor.name := by
  unfold taken? Offer.names
  rw [List.find?_map]
  rfl

theorem taken?_eq_none_iff : g.taken? o = none ↔ ∀ n ∈ o.names, n ∉ g.metricNames := by
  simp [taken?]

/-- What becomes of a registry to which an offer is brought. -/
theorem offer_cases (g : Registry) (o : Offer) :
    (∃ n, g.taken? o = some n ∧ g.offer o = (g, .error (.duplicate n))) ∨
    (g.taken? o = none ∧ ∃ t r, g.offer o = ({ g with tables := t }, .error (.refused r)) ∧
      Tables.Noted o.descriptors g.tables t) ∨
    (g.taken? o = none ∧ ∃ t, g.offer o = (⟨g.index.insertAll o.names, t⟩, .ok ()) ∧
      t.described = g.tables.described ++ o.descriptors.map Descriptor.nameFingerprint ∧
      t.held.map Prod.snd = g.tables.held.map Prod.snd ++ [o.collector]) := by
  rw [taken?_eq]
  unfold offer register
  cases o.descriptors.find? fun d => decide (d.name ∈ g.index) with
  | some d => exact .inl ⟨d.name, rfl, rfl⟩
  | none =>
    refine .inr ?_
    rcases Tables.hold_cases g.tables o.collector o.descriptors with
      ⟨r, answer, noted⟩ | ⟨answer, described, held⟩
    · refine .inl ⟨rfl, (g.tables.hold o.collector o.descriptors).1, r, ?_, noted⟩
      rw [← Prod.eta (g.tables.hold o.collector o.descriptors), answer]
    · refine .inr ⟨rfl, (g.tables.hold o.collector o.descriptors).1, ?_, described, held⟩
      rw [← Prod.eta (g.tables.hold o.collector o.descriptors), answer]
      rfl

/-- The error that names a metric is given exactly if a name is taken, and names the first. -/
theorem offer_eq_duplicate_iff {n : String} :
    (g.offer o).2 = .error (.duplicate n) ↔ g.taken? o = some n := by
  rcases offer_cases g o with ⟨m, taken, h⟩ | ⟨free, t, r, h, -⟩ | ⟨free, t, h, -⟩
  · rw [h, taken]
    simp
  · rw [h, free]
    simp
  · rw [h, free]
    simp

/-- An offer that is not accepted adds no name. -/
theorem metricNames_of_error {e : Error} (h : (g.offer o).2 = .error e) :
    (g.offer o).1.metricNames = g.metricNames := by
  rcases offer_cases g o with ⟨m, -, heq⟩ | ⟨-, t, r, heq, -⟩ | ⟨-, t, heq, -⟩
  · rw [heq]
  · rw [heq]; rfl
  · rw [heq] at h; cases h

theorem mem_metricNames_offer {n : String} (h : n ∈ g.metricNames) :
    n ∈ (g.offer o).1.metricNames := by
  rcases offer_cases g o with ⟨m, -, heq⟩ | ⟨-, t, r, heq, -⟩ | ⟨-, t, heq, -⟩
  · rwa [heq]
  · rwa [heq]
  · rw [heq]
    exact NameSet.mem_insertAll.2 (.inr h)

/-- A registry is what the offers that it accepted have made of it. -/
structure Keeps (g : Registry) (os : List Offer) : Prop where
  names : ∀ n, n ∈ g.metricNames ↔ ∃ o ∈ os, n ∈ o.names
  disjoint : os.Pairwise fun a b => a.names.Disjoint b.names
  collectors : g.collectors = os.map Offer.collector
  described : g.tables.described = os.flatMap fun o => o.descriptors.map Descriptor.nameFingerprint

namespace Keeps

variable {os : List Offer}

theorem empty : Keeps {} [] :=
  ⟨fun n => by simp [metricNames, NameSet.toList, NameSet.empty], .nil, rfl, rfl⟩

theorem error (h : g.Keeps os) {e : Error} (he : (g.offer o).2 = .error e) :
    (g.offer o).1.Keeps os := by
  rcases offer_cases g o with ⟨m, -, heq⟩ | ⟨-, t, r, heq, noted⟩ | ⟨-, t, heq, -⟩
  · rwa [heq]
  · rw [heq]
    refine ⟨h.names, h.disjoint, ?_, noted.described.trans h.described⟩
    exact (congrArg (List.map Prod.snd) noted.held).trans h.collectors
  · rw [heq] at he; cases he

theorem ok (h : g.Keeps os) (hok : (g.offer o).2 = .ok ()) : (g.offer o).1.Keeps (os ++ [o]) := by
  rcases offer_cases g o with ⟨m, -, heq⟩ | ⟨-, t, r, heq, -⟩ | ⟨free, t, heq, described, held⟩
  · rw [heq] at hok; cases hok
  · rw [heq] at hok; cases hok
  · rw [heq]
    refine ⟨fun n => ?_, ?_, ?_, ?_⟩
    · have old : n ∈ g.index ↔ _ := h.names n
      change n ∈ g.index.insertAll o.names ↔ _
      rw [NameSet.mem_insertAll, old]
      simp only [List.mem_append, List.mem_singleton, or_and_right, exists_or, exists_eq_left]
      exact Or.comm
    · refine List.pairwise_append.2 ⟨h.disjoint, List.pairwise_singleton _ _, ?_⟩
      intro a ha b hb n hna hnb
      rw [List.mem_singleton.1 hb] at hnb
      exact taken?_eq_none_iff.1 free n hnb ((h.names n).2 ⟨a, ha, hna⟩)
    · rw [List.map_append, ← h.collectors]
      exact held
    · rw [List.flatMap_append, ← h.described, described]
      simp

end Keeps

end Registry

end WorkerTelemetry.Metric
