import WorkerTelemetry.Text.NameSet

/-!
Finite maps from names, kept as a list with strictly ascending names. Main statement: looking a
name up after an insertion.
-/

namespace WorkerTelemetry

structure NameMap (α : Type) where
  entries : List (String × α)
  ascending : (entries.map (·.1)).Pairwise (· < ·)

namespace NameMap

variable {α : Type}

theorem ascending_nil : (([] : List (String × α)).map (·.1)).Pairwise (· < ·) := List.Pairwise.nil

def empty : NameMap α := ⟨[], ascending_nil⟩

instance : Inhabited (NameMap α) := ⟨empty⟩

/-- Puts an entry at its place, instead of one with the same name. -/
def place (n : String) (a : α) : List (String × α) → List (String × α)
  | [] => [(n, a)]
  | e :: es =>
    if n < e.1 then (n, a) :: e :: es else if n = e.1 then (n, a) :: es else e :: place n a es

theorem map_place (n : String) (a : α) (es : List (String × α)) :
    (place n a es).map (·.1) = NameSet.place n (es.map (·.1)) := by
  induction es with
  | nil => rfl
  | cons e es ih =>
    rw [place, List.map_cons, NameSet.place]
    split
    · rfl
    · split
      next h => rw [List.map_cons, h]
      next => rw [List.map_cons, ih]

def insert (m : NameMap α) (n : String) (a : α) : NameMap α :=
  ⟨place n a m.entries, by rw [map_place]; exact NameSet.place_ascending m.ascending⟩

def find? (m : NameMap α) (n : String) : Option α :=
  (m.entries.find? fun e => e.1 == n).map (·.2)

def names (m : NameMap α) : List String := m.entries.map (·.1)

@[simp] theorem find?_empty (n : String) : (empty : NameMap α).find? n = none := rfl

theorem find?_place {n x : String} {a : α} {es : List (String × α)}
    (h : (es.map (·.1)).Pairwise (· < ·)) :
    ((place n a es).find? fun e => e.1 == x).map (·.2) =
      if x = n then some a else (es.find? fun e => e.1 == x).map (·.2) := by
  induction es with
  | nil => by_cases hx : n = x <;> simp [place, hx, @eq_comm _ x n]
  | cons e es ih =>
    obtain ⟨he, hes⟩ := List.pairwise_cons.1 h
    rw [place]
    split
    next => by_cases hx : n = x <;> simp [hx, @eq_comm _ x n]
    next hlt =>
      split
      next hn => by_cases hx : n = x <;> simp [← hn, hx, @eq_comm _ x n]
      next hn =>
        by_cases hx : x = e.1
        · subst hx
          simp [Ne.symm hn]
        · have : (e.1 == x) = false := by simpa using Ne.symm hx
          simp only [List.find?_cons, this]
          exact ih hes

@[simp] theorem find?_insert {m : NameMap α} {n x : String} {a : α} :
    (m.insert n a).find? x = if x = n then some a else m.find? x := find?_place m.ascending

theorem mem_names {m : NameMap α} {n : String} : n ∈ m.names ↔ (m.find? n).isSome := by
  simp [names, find?, List.find?_isSome]

end NameMap

end WorkerTelemetry
