/-!
Finite sets of names, kept as a strictly ascending list. Names are ordered by code point, which is
also the order of their bytes. Main statement: insertion adds exactly one name.
-/

namespace WorkerTelemetry

structure NameSet where
  names : List String
  ascending : names.Pairwise (· < ·)

namespace NameSet

def empty : NameSet := ⟨[], List.Pairwise.nil⟩

instance : Inhabited NameSet := ⟨empty⟩

instance : Membership String NameSet := ⟨fun s n => n ∈ s.names⟩

instance (n : String) (s : NameSet) : Decidable (n ∈ s) :=
  inferInstanceAs (Decidable (n ∈ s.names))

def place (n : String) : List String → List String
  | [] => [n]
  | m :: ms => if n < m then n :: m :: ms else if n = m then m :: ms else m :: place n ms

theorem mem_place {n x : String} {l : List String} : x ∈ place n l ↔ x = n ∨ x ∈ l := by
  induction l with
  | nil => simp [place]
  | cons m ms ih =>
    rw [place]
    split
    · simp
    · split
      next h => subst h; simp
      next => simp only [List.mem_cons, ih]; grind

theorem place_ascending {n : String} {l : List String} (h : l.Pairwise (· < ·)) :
    (place n l).Pairwise (· < ·) := by
  induction l with
  | nil => simp [place]
  | cons m ms ih =>
    obtain ⟨hm, hms⟩ := List.pairwise_cons.1 h
    rw [place]
    split
    next hlt =>
      refine List.pairwise_cons.2 ⟨fun x hx => ?_, h⟩
      rcases List.mem_cons.1 hx with rfl | hx
      · exact hlt
      · exact String.lt_trans hlt (hm x hx)
    next hlt =>
      split
      next => exact h
      next hne =>
        refine List.pairwise_cons.2 ⟨fun x hx => ?_, ih hms⟩
        rcases mem_place.1 hx with rfl | hx
        · exact Std.lt_of_le_of_ne (String.not_lt.1 hlt) (Ne.symm hne)
        · exact hm x hx

def insert (s : NameSet) (n : String) : NameSet := ⟨place n s.names, place_ascending s.ascending⟩

def insertAll (s : NameSet) (ns : List String) : NameSet := ns.foldl insert s

def ofList (ns : List String) : NameSet := empty.insertAll ns

def toList (s : NameSet) : List String := s.names

@[simp] theorem not_mem_empty {n : String} : ¬ n ∈ empty := by
  change ¬ n ∈ ([] : List String); simp

@[simp] theorem mem_insert {s : NameSet} {n x : String} : x ∈ s.insert n ↔ x = n ∨ x ∈ s :=
  mem_place

@[simp] theorem mem_insertAll {s : NameSet} {ns : List String} {x : String} :
    x ∈ s.insertAll ns ↔ x ∈ ns ∨ x ∈ s := by
  induction ns generalizing s with
  | nil => simp [insertAll]
  | cons n ns ih =>
    change x ∈ (s.insert n).insertAll ns ↔ _
    rw [ih, mem_insert, List.mem_cons]
    grind

theorem mem_toList {s : NameSet} {x : String} : x ∈ s.toList ↔ x ∈ s := Iff.rfl

end NameSet

end WorkerTelemetry
