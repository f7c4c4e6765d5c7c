import Mathlib.Data.List.Basic
import Mathlib.Data.List.Sort
import WorkerTelemetry.Metric.Family
import WorkerTelemetry.Text.NameSet

/-!
What a snapshot gathers. Under every name it has one family at most: the first with this name that
has series, with the series of all of them. Main statements: this, that the names of a snapshot are
strictly ascending, and that a snapshot is a function of what it has under each name.
-/

namespace WorkerTelemetry

namespace NameMap

variable {α β : Type}

/-- What an ascending list of entries has under a name. -/
theorem find?_eq_some_iff {es : List (String × α)} (h : (es.map (·.1)).Pairwise (· < ·))
    {n : String} {a : α} :
    (es.find? fun e => e.1 == n).map (·.2) = some a ↔ (n, a) ∈ es := by
  induction es with
  | nil => simp
  | cons e es ih =>
    obtain ⟨he, hes⟩ := List.pairwise_cons.1 h
    obtain ⟨m, b⟩ := e
    by_cases hm : m = n
    · subst hm
      -- no later entry has this name
      have other : (m, a) ∉ es := by
        intro hmem
        have lt : m < m := he m (List.mem_map_of_mem hmem)
        exact absurd lt (String.lt_irrefl m)
      simp [other, eq_comm]
    · have hne : (m == n) = false := by simpa using hm
      rw [List.find?_cons, hne]
      simp only [List.mem_cons, Prod.mk.injEq, Ne.symm hm, false_and, false_or]
      exact ih hes

end NameMap

namespace Metric.Family

variable {fs gs hs : List Family} {f g : Family} {n : String}

/-- The families with series under a name. -/
def shown (n : String) (fs : List Family) : List Family :=
  fs.filter fun f => f.name == n && !f.series.isEmpty

/-- The first of some families, with the series of all of them. -/
def united : List Family → Option Family
  | [] => none
  | f :: fs => some { f with series := f.series ++ fs.flatMap Family.series }

theorem shown_append (n : String) (fs gs : List Family) :
    shown n (fs ++ gs) = shown n fs ++ shown n gs := List.filter_append ..

theorem shown_flatMap {α : Type} (n : String) (cs : List α) (k : α → List Family) :
    shown n (cs.flatMap k) = cs.flatMap fun c => shown n (k c) := by
  induction cs with
  | nil => rfl
  | cons c cs ih => rw [List.flatMap_cons, shown_append, ih, List.flatMap_cons]

theorem united_united (fs gs : List Family) :
    united ((united fs).toList ++ gs) = united (fs ++ gs) := by
  cases fs with
  | nil => rfl
  | cons f fs => simp [united]

/-- What is found after one more family. -/
theorem find?_gather (found : NameMap Family) (f : Family) (n : String) :
    (gather found f).find? n = united ((found.find? n).toList ++ shown n [f]) := by
  unfold gather
  by_cases empty : f.series.isEmpty = true
  · have none : shown n [f] = [] := by simp [shown, empty]
    rw [if_pos empty, none, List.append_nil]
    cases found.find? n <;> simp [united]
  · rw [if_neg empty]
    by_cases hn : n = f.name
    · subst hn
      have one : shown f.name [f] = [f] := by simp [shown, empty]
      rw [one]
      cases hf : found.find? f.name <;> simp [united]
    · have none : shown n [f] = [] := by simp [shown, Ne.symm hn]
      rw [none, List.append_nil]
      have kept : united (found.find? n).toList = found.find? n := by
        cases found.find? n <;> simp [united]
      rw [kept]
      cases found.find? f.name <;> simp [hn]

/-- What is found under a name is what all families with this name are united to. -/
theorem find?_foldl_gather (fs : List Family) (found : NameMap Family) (n : String) :
    (fs.foldl gather found).find? n = united ((found.find? n).toList ++ shown n fs) := by
  induction fs generalizing found with
  | nil =>
    rw [List.foldl_nil, shown, List.filter_nil, List.append_nil]
    cases found.find? n <;> simp [united]
  | cons f fs ih =>
    rw [List.foldl_cons, ih, find?_gather, united_united, List.append_assoc, ← shown_append]
    rfl

theorem find?_gathered (fs : List Family) (n : String) :
    (fs.foldl gather .empty).find? n = united (shown n fs) := find?_foldl_gather fs .empty n

theorem of_united (h : united (shown n fs) = some g) :
    ∃ f ∈ fs, f.name = n ∧ g.name = n ∧ g.help = f.help ∧ g.type = f.type ∧
      ∀ s ∈ g.series, ∃ k ∈ fs, k.name = n ∧ s ∈ k.series := by
  have member {f : Family} (hf : f ∈ shown n fs) : f ∈ fs ∧ f.name = n := by
    obtain ⟨hf, hn⟩ := List.mem_filter.1 hf
    rw [Bool.and_eq_true, beq_iff_eq] at hn
    exact ⟨hf, hn.1⟩
  cases hs : shown n fs with
  | nil => rw [hs] at h; cases h
  | cons f rest =>
    rw [hs] at h member
    cases h
    have first := member List.mem_cons_self
    refine ⟨f, first.1, first.2, first.2, rfl, rfl, ?_⟩
    intro s hs
    rcases List.mem_append.1 hs with hs | hs
    · exact ⟨f, first.1, first.2, hs⟩
    · obtain ⟨k, hk, hs⟩ := List.mem_flatMap.1 hs
      have later := member (List.mem_cons_of_mem f hk)
      exact ⟨k, later.1, later.2, hs⟩

/-- One family by itself is shown as it is, unless it has no series. -/
theorem united_shown_self (f : Family) :
    united (shown f.name [f]) = if f.series = [] then none else some f := by
  by_cases empty : f.series = []
  · have none : shown f.name [f] = [] := by simp [shown, empty]
    rw [none, if_pos empty, united]
  · have one : shown f.name [f] = [f] := by simp [shown, empty]
    rw [one, if_neg empty, united, List.flatMap_nil, List.append_nil]

theorem mem_entries_iff : (n, g) ∈ (fs.foldl gather .empty).entries ↔
    united (shown n fs) = some g := by
  rw [← NameMap.find?_eq_some_iff (fs.foldl gather .empty).ascending, ← find?_gathered]
  rfl

/-- The families of a snapshot are the united ones, with their series in order. -/
theorem mem_snapshot_iff :
    f ∈ snapshot fs ↔ ∃ g, united (shown g.name fs) = some g ∧ f = g.ordered := by
  unfold snapshot
  constructor
  · intro hf
    obtain ⟨g, hg, rfl⟩ := List.mem_map.1 hf
    obtain ⟨⟨n, k⟩, he, rfl⟩ := List.mem_map.1 hg
    have found : united (shown n fs) = some k := mem_entries_iff.1 he
    obtain ⟨-, -, -, rfl, -⟩ := of_united found
    exact ⟨k, found, rfl⟩
  · rintro ⟨g, hg, rfl⟩
    have he : (g.name, g) ∈ (fs.foldl gather .empty).entries := mem_entries_iff.2 hg
    exact List.mem_map_of_mem (List.mem_map_of_mem (f := Prod.snd) he)

/-- A family of a snapshot is made of families with its name. -/
theorem of_mem_snapshot (hf : f ∈ snapshot fs) :
    ∃ g ∈ fs, g.name = f.name ∧ g.type = f.type ∧
      ∀ s ∈ f.series, ∃ k ∈ fs, k.name = f.name ∧ s ∈ k.series := by
  obtain ⟨g, found, rfl⟩ := mem_snapshot_iff.1 hf
  obtain ⟨k, hk, name, -, -, type, series⟩ := of_united found
  refine ⟨k, hk, name, type.symm, ?_⟩
  intro s hs
  exact series s (List.mem_mergeSort.1 hs)

/-- What only families of one name have is what the family of this name has. -/
theorem flatMap_snapshot {α : Type} {k : Family → List α}
    (other : ∀ f ∈ snapshot fs, f.name ≠ n → k f = []) :
    (snapshot fs).flatMap k = ((united (shown n fs)).map ordered).toList.flatMap k := by
  have own : ∀ e ∈ (fs.foldl gather .empty).entries, e.2.name = e.1 := by
    rintro ⟨m, g⟩ he
    obtain ⟨-, -, -, name, -⟩ := of_united (mem_entries_iff.1 he)
    exact name
  have other' : ∀ e ∈ (fs.foldl gather .empty).entries, e.1 ≠ n → k e.2.ordered = [] := by
    intro e he hne
    refine other e.2.ordered (List.mem_map_of_mem (List.mem_map_of_mem he)) ?_
    rw [← own e he] at hne
    exact hne
  have ascending := (fs.foldl gather .empty).ascending
  rw [← find?_gathered]
  unfold snapshot NameMap.find?
  generalize (fs.foldl gather .empty).entries = es at other' ascending
  clear own
  induction es with
  | nil => rfl
  | cons e es ih =>
    obtain ⟨he, hes⟩ := List.pairwise_cons.1 ascending
    obtain ⟨hfirst, hrest⟩ := List.forall_mem_cons.1 other'
    rw [List.map_cons, List.map_cons, List.flatMap_cons, List.find?_cons]
    by_cases hn : e.1 = n
    · -- the entries behind have other names
      have none : es.find? (fun d => d.1 == n) = none := by
        rw [List.find?_eq_none]
        intro d hd heq
        have lt : e.1 < d.1 := he d.1 (List.mem_map_of_mem hd)
        rw [hn, beq_iff_eq.1 heq] at lt
        exact absurd lt (String.lt_irrefl n)
      have rest := ih hrest hes
      rw [none] at rest
      have here : (e.1 == n) = true := beq_iff_eq.2 hn
      rw [rest, here]
      simp
    · have hne : (e.1 == n) = false := by simpa using hn
      rw [hfirst hn, List.nil_append, ih hrest hes, hne]

/-- The names of a snapshot are strictly ascending. -/
theorem names_snapshot (fs : List Family) : ((snapshot fs).map Family.name).Pairwise (· < ·) := by
  have own : ∀ e ∈ (fs.foldl gather .empty).entries, e.2.ordered.name = e.1 := by
    rintro ⟨m, g⟩ he
    obtain ⟨-, -, -, name, -⟩ := of_united (mem_entries_iff.1 he)
    exact name
  have same : (snapshot fs).map Family.name = (fs.foldl gather .empty).entries.map (·.1) := by
    unfold snapshot
    rw [List.map_map, List.map_map]
    exact List.map_congr_left own
  rw [same]
  exact (fs.foldl gather .empty).ascending

end Metric.Family

end WorkerTelemetry
