import Mathlib.Data.List.Nodup
import WorkerTelemetry.Proofs.Config.Stored
import WorkerTelemetry.Proofs.Json.Values

/-!
Layouts of records. A record may be laid out by name, in any order and among members that are none
of its fields, or by place, up to some field. Main statement: either way each field that is given is
found, and no other. Members that repeat a field are no layout; there the last one would count.
-/

namespace WorkerTelemetry.Json

/-- A value that gives some of the fields of a record, by their names or by their places. -/
inductive Lays (fields : List (String × Json)) : List String → Json → Prop
  | named {given : List String} {ms : List (String × Json)} :
      (ms.filter fun m => decide (m.1 ∈ fields.map (·.1))).Perm
        (fields.filter fun f => decide (f.1 ∈ given)) →
      Lays fields given (.ofMembers ms)
  | placed (n : Nat) : Lays fields ((fields.take n).map (·.1)) (.list ((fields.take n).map (·.2)))

variable {fields ms : List (String × Json)} {given : List String} {v x : Json} {name : String}
  {k : Nat}

/-- Of members with different keys the one with a key is found. -/
theorem find?_of_nodup (distinct : (ms.map (·.1)).Nodup) (hx : (name, x) ∈ ms) :
    (ms.find? (·.1 == name)).map (·.2) = some x := by
  induction ms with
  | nil => cases hx
  | cons m ms ih =>
    obtain ⟨new, rest⟩ := List.nodup_cons.1 distinct
    rcases List.mem_cons.1 hx with rfl | later
    · simp
    · have other : (m.1 == name) = false := by
        rw [beq_eq_false_iff_ne]
        rintro rfl
        exact new (List.mem_map.2 ⟨_, later, rfl⟩)
      rw [List.find?_cons, other]
      exact ih rest later

/-- What is found under a name is found among the members with such names. -/
theorem find?_filter_of_mem {names : List String} (hn : name ∈ names) (ms : List (String × Json)) :
    (ms.filter fun m => decide (m.1 ∈ names)).find? (·.1 == name) = ms.find? (·.1 == name) := by
  rw [List.find?_filter]
  refine congrArg (List.find? · ms) (funext fun m => ?_)
  by_cases own : m.1 = name
  · simp [own, hn]
  · simp [own]

/-- In a layout by name the value of a field is found if the field is given. -/
theorem member?_of_perm (distinct : (fields.map (·.1)).Nodup)
    (perm : (ms.filter fun m => decide (m.1 ∈ fields.map (·.1))).Perm
      (fields.filter fun f => decide (f.1 ∈ given))) (hx : (name, x) ∈ fields) :
    member? name (.ofMembers ms) = if name ∈ given then some x else none := by
  have known : name ∈ fields.map (·.1) := List.mem_map_of_mem hx
  have same : (ms.reverse.filter fun m => decide (m.1 ∈ fields.map (·.1))).Perm
      (fields.filter fun f => decide (f.1 ∈ given)) := by
    rw [List.filter_reverse]
    exact (List.reverse_perm _).trans perm
  have keys : ((ms.reverse.filter fun m => decide (m.1 ∈ fields.map (·.1))).map (·.1)).Nodup :=
    ((same.map (·.1)).nodup_iff).2 (distinct.sublist (List.filter_sublist.map _))
  rw [member?_ofMembers, ← find?_filter_of_mem known]
  split
  · next here =>
    refine find?_of_nodup keys (same.mem_iff.2 ?_)
    exact List.mem_filter.2 ⟨hx, decide_eq_true here⟩
  · next missing =>
    rw [Option.map_eq_none_iff, List.find?_eq_none]
    intro m hm found
    have there := (List.mem_filter.1 (same.mem_iff.1 hm)).2
    rw [beq_iff_eq.1 found] at there
    exact missing (of_decide_eq_true there)

/-- Of the first fields one is named if it has its place among them. -/
theorem mem_take_iff (distinct : (fields.map (·.1)).Nodup) (hk : fields[k]? = some (name, x))
    (n : Nat) : name ∈ (fields.take n).map (·.1) ↔ k < n := by
  obtain ⟨here, found⟩ := List.getElem?_eq_some_iff.1 hk
  constructor
  · intro given
    obtain ⟨f, hf, rfl⟩ := List.mem_map.1 given
    obtain ⟨j, hj, place⟩ := List.mem_take_iff_getElem.1 hf
    have bound : j < n ∧ j < fields.length := by omega
    have same : j = k := by
      apply (List.getElem?_inj (by simpa using bound.2) distinct).1
      rw [List.getElem?_map, List.getElem?_map, hk, List.getElem?_eq_getElem bound.2, place]
      rfl
    omega
  · intro early
    refine List.mem_map.2 ⟨(name, x), ?_, rfl⟩
    exact List.mem_take_iff_getElem.2 ⟨k, by omega, found⟩

namespace Lays

/-- The value of a field is found if the field is given. -/
theorem slot? (lays : Lays fields given v) (distinct : (fields.map (·.1)).Nodup)
    (hk : fields[k]? = some (name, x)) :
    v.slot? k name = if name ∈ given then some x else none := by
  cases lays with
  | named perm => exact member?_of_perm distinct perm (List.mem_of_getElem? hk)
  | placed n =>
    have named := mem_take_iff distinct hk n
    rw [Json.slot?, List.getElem?_map, List.getElem?_take, hk]
    by_cases early : k < n
    · rw [if_pos early, if_pos (named.2 early)]
      rfl
    · rw [if_neg early, if_neg (mt named.1 early)]
      rfl

/-- All fields are given by their own object. -/
theorem whole (fields : List (String × Json)) :
    Lays fields (fields.map (·.1)) (.ofMembers fields) := by
  refine .named (.of_eq ?_)
  rfl

/-- A layout is a record. -/
theorem isRecord (lays : Lays fields given v) (d : Dialect) : v.IsRecord d fields.length := by
  cases lays with
  | named perm => exact trivial
  | placed n =>
    refine .inr ?_
    rw [List.length_map]
    exact List.length_take_le' ..

end Lays

end WorkerTelemetry.Json
