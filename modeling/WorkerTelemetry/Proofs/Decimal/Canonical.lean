import Mathlib.Algebra.Group.Nat.Defs
import WorkerTelemetry.Decimal.Layout

/-!
Every numeral that is written follows the grammar of numerals. For a double this needs that the
digits of its shortest decimal are not all zero, so the grids that are searched must begin low
enough. Nothing is said here about which decimal is shortest.
-/

namespace WorkerTelemetry.Decimal

/-! ### Digits of natural numbers -/

theorem head?_digitChars {n : Nat} (h : n ≠ 0) : (digitChars n).head? ≠ some '0' := by
  induction n using Nat.strongRecOn with
  | ind n ih =>
    unfold digitChars at ih ⊢
    rw [Nat.toDigits_eq_if (by decide)]
    split
    · next hlt =>
      have key : ∀ d < 10, d ≠ 0 → [Nat.digitChar d].head? ≠ some '0' := by decide
      exact key n hlt h
    · next hle =>
      have hpos : n / 10 ≠ 0 := by omega
      have hrest := ih (n / 10) (by omega) hpos
      cases hd : Nat.toDigits 10 (n / 10) with
      | nil => exact absurd hd Nat.toDigits_ne_nil
      | cons c cs =>
        rw [hd] at hrest
        exact hrest

theorem pow_le_of_digitCount {n : Nat} (h : n ≠ 0) : 10 ^ (digitCount n - 1) ≤ n := by
  by_cases hk : digitCount n - 1 = 0
  · rw [hk]
    omega
  · have hlen := Nat.length_toDigits_le_iff (n := n) (b := 10) (by decide) (Nat.pos_of_ne_zero hk)
    have hnot : ¬ n < 10 ^ (digitCount n - 1) := by
      rw [← hlen]
      unfold digitCount
      unfold digitCount at hk
      omega
    omega

theorem lt_pow_digitCount (n : Nat) : n < 10 ^ digitCount n :=
  (Nat.length_toDigits_le_iff (by decide) Nat.length_toDigits_pos).1 (Nat.le_refl _)

/-! ### The shortest decimal of a double is not zero -/

/-- A grid with a point other than zero at the value or below it. -/
def Interval.Reached (i : Interval) (e : Int) : Prop :=
  i.denominator * 10 ^ e.toNat ≤ i.value * 10 ^ (-e).toNat

namespace Interval

variable {i : Interval} {e : Int} {tie : Tie}

/-- A finer grid is reached too. -/
theorem Reached.finer (h : i.Reached e) : i.Reached (e - 1) := by
  unfold Reached at h ⊢
  rcases Int.lt_or_le 0 e with he | he
  · have hneg : (-(e - 1)).toNat = (-e).toNat := by omega
    have hpos : e.toNat = (e - 1).toNat + 1 := by omega
    rw [hneg]
    rw [hpos, Nat.pow_succ] at h
    refine Nat.le_trans ?_ h
    exact Nat.mul_le_mul_left _ (Nat.le_mul_of_pos_right _ (by decide))
  · have hneg : (-(e - 1)).toNat = (-e).toNat + 1 := by omega
    have hpos : (e - 1).toNat = e.toNat := by omega
    rw [hneg, hpos, Nat.pow_succ]
    refine Nat.le_trans h ?_
    exact Nat.mul_le_mul_left _ (Nat.le_mul_of_pos_right _ (by decide))

theorem Reached.floorOn_ne_zero (h : i.Reached e) (hd : 0 < i.denominator) :
    (i.floorOn e).digits ≠ 0 := by
  have hpos : 0 < i.denominator * 10 ^ e.toNat := Nat.mul_pos hd (Nat.pow_pos (by decide))
  exact Nat.ne_of_gt (Nat.div_pos h hpos)

theorem Reached.onGrid_ne_zero (h : i.Reached e) (hd : 0 < i.denominator) {d : Scaled}
    (hg : i.onGrid tie e = some d) : d.digits ≠ 0 := by
  have hfloor := h.floorOn_ne_zero hd
  unfold onGrid at hg
  simp only at hg
  split at hg
  · cases hg
    split
    · exact hfloor
    · exact Nat.succ_ne_zero _
  · cases hg
    exact hfloor
  · cases hg
    exact Nat.succ_ne_zero _
  · cases hg

theorem Reached.search_ne_zero (h : i.Reached e) (hd : 0 < i.denominator) (left : Nat) :
    (i.search tie e left).digits ≠ 0 := by
  induction left generalizing e with
  | zero => exact h.floorOn_ne_zero hd
  | succ left ih =>
    rw [search]
    cases hg : i.onGrid tie e with
    | none => exact ih h.finer
    | some d => exact h.onGrid_ne_zero hd hg

/-- The grid of the first digit is reached. -/
theorem reached_magnitude (hv : 0 < i.value) (hd : 0 < i.denominator) :
    i.Reached (magnitude i.value i.denominator - 1) := by
  unfold Reached magnitude
  split
  · next hle =>
    have hq : i.value / i.denominator ≠ 0 := Nat.ne_of_gt (Nat.div_pos hle hd)
    have hpow := pow_le_of_digitCount hq
    have hcount : 0 < digitCount (i.value / i.denominator) := Nat.length_toDigits_pos
    have hpos : (Int.ofNat (digitCount (i.value / i.denominator)) - 1).toNat =
        digitCount (i.value / i.denominator) - 1 := by
      simp only [Int.ofNat_eq_natCast]
      omega
    have hneg : (-(Int.ofNat (digitCount (i.value / i.denominator)) - 1)).toNat = 0 := by
      simp only [Int.ofNat_eq_natCast]
      omega
    rw [hpos, hneg, Nat.pow_zero, Nat.mul_one]
    calc i.denominator * 10 ^ (digitCount (i.value / i.denominator) - 1)
        ≤ i.denominator * (i.value / i.denominator) := Nat.mul_le_mul_left _ hpow
      _ ≤ i.value := Nat.mul_div_le _ _
  · next hlt =>
    have hpow := lt_pow_digitCount ((i.denominator - 1) / i.value)
    have hpos : (1 - Int.ofNat (digitCount ((i.denominator - 1) / i.value)) - 1).toNat = 0 := by
      simp only [Int.ofNat_eq_natCast]
      omega
    have hneg : (-(1 - Int.ofNat (digitCount ((i.denominator - 1) / i.value)) - 1)).toNat =
        digitCount ((i.denominator - 1) / i.value) := by
      simp only [Int.ofNat_eq_natCast]
      omega
    rw [hpos, hneg, Nat.pow_zero, Nat.mul_one]
    have hlt := Nat.lt_mul_div_succ (i.denominator - 1) hv
    calc i.denominator ≤ i.value * ((i.denominator - 1) / i.value + 1) := by omega
      _ ≤ i.value * 10 ^ digitCount ((i.denominator - 1) / i.value) :=
        Nat.mul_le_mul_left _ hpow

end Interval

theorem Scaled.strip_ne_zero {d : Scaled} (h : d.digits ≠ 0) (left : Nat) :
    (d.strip left).digits ≠ 0 := by
  induction left generalizing d with
  | zero => exact h
  | succ left ih =>
    rw [strip]
    split
    · next hd => exact ih (d := ⟨d.digits / 10, d.exponent + 1⟩) (by simp only; omega)
    · exact h

theorem shortest_ne_zero {tie : Tie} {mantissa : Nat} (h : mantissa ≠ 0) (exponent : Int) :
    (shortest tie mantissa exponent).digits ≠ 0 := by
  rw [shortest, if_neg h]
  have hd : 0 < (Interval.around mantissa exponent).denominator := Nat.pow_pos (by decide)
  have hv : 0 < (Interval.around mantissa exponent).value :=
    Nat.mul_pos (Nat.mul_pos (by decide) (Nat.pos_of_ne_zero h)) (Nat.pow_pos (by decide))
  exact Scaled.strip_ne_zero ((Interval.reached_magnitude hv hd).search_ne_zero hd 17) 17

/-! ### Numerals follow the grammar -/

theorem digitChars_zero_of_head {n : Nat} (h : (digitChars n).head? = some '0') :
    digitChars n = ['0'] := by
  by_cases hn : n = 0
  · subst hn
    exact Nat.toDigits_zero 10
  · exact absurd h (head?_digitChars hn)

theorem Numeral.ofInt_wellFormed (n : Int) : (Numeral.ofInt n).WellFormed where
  whole_digits := digitChars_digits
  whole_ne_nil := digitChars_ne_nil
  whole_zero := digitChars_zero_of_head
  fraction_digits := by simp [Numeral.ofInt]
  power_digits := by simp [Numeral.ofInt]

theorem isDigit_of_mem_zeros {k : Nat} {c : Char} (h : c ∈ List.replicate k '0') :
    c.isDigit = true := by
  rw [List.eq_of_mem_replicate h]
  decide

/-- Digits whose first is not zero, or the digit zero in front of the point. -/
structure Significant (digits : List Char) (point : Int) : Prop where
  isDigit : ∀ c ∈ digits, c.isDigit = true
  ne_nil : digits ≠ []
  zero : digits.head? = some '0' → digits = ['0'] ∧ point = 1

theorem positionalNumeral_wellFormed {digits : List Char} {point : Int}
    (h : Significant digits point) (wholeFraction negative : Bool) :
    (positionalNumeral wholeFraction negative digits point).WellFormed := by
  unfold positionalNumeral
  split
  · refine ⟨by simp, by simp, by simp, ?_, by simp⟩
    intro c hc
    rcases List.mem_append.1 hc with hc | hc
    · exact isDigit_of_mem_zeros hc
    · exact h.isDigit c hc
  split
  · refine ⟨?_, by simp [h.ne_nil], ?_, ?_, by simp⟩
    · intro c hc
      rcases List.mem_append.1 hc with hc | hc
      · exact h.isDigit c hc
      · exact isDigit_of_mem_zeros hc
    · intro hhead
      obtain ⟨d, ds, rfl⟩ := List.exists_cons_of_ne_nil h.ne_nil
      obtain ⟨hzero, hpoint⟩ := h.zero hhead
      rw [hzero, hpoint]
      rfl
    · cases wholeFraction <;> simp
  · next hlow hhigh =>
    obtain ⟨k, hk⟩ : ∃ k, point.toNat = k + 1 := ⟨point.toNat - 1, by omega⟩
    obtain ⟨d, ds, rfl⟩ := List.exists_cons_of_ne_nil h.ne_nil
    refine ⟨?_, by simp [hk], ?_, ?_, by simp⟩
    · exact fun c hc => h.isDigit c (List.mem_of_mem_take hc)
    · intro hhead
      rw [hk] at hhead
      obtain ⟨hzero, hpoint⟩ := h.zero hhead
      rw [hzero, hpoint]
      rfl
    · exact fun c hc => h.isDigit c (List.mem_of_mem_drop hc)

theorem scientificNumeral_wellFormed {digits : List Char} {point : Int}
    (h : Significant digits point) (negative : Bool) (power : Int) :
    (scientificNumeral negative digits power).WellFormed := by
  obtain ⟨d, ds, rfl⟩ := List.exists_cons_of_ne_nil h.ne_nil
  refine ⟨?_, by simp [scientificNumeral], ?_, ?_, ?_⟩
  · exact fun c hc => h.isDigit c (List.mem_of_mem_take hc)
  · intro hhead
    exact congrArg (fun c => [c]) (Option.some.inj hhead)
  · exact fun c hc => h.isDigit c (List.mem_of_mem_drop hc)
  · intro p hp
    cases hp
    exact ⟨digitChars_ne_nil, digitChars_digits⟩

theorem significant_digitChars {d : Scaled} (h : d.digits = 0 → d.exponent = 0) :
    Significant (digitChars d.digits) ((digitChars d.digits).length + d.exponent) where
  isDigit := digitChars_digits
  ne_nil := digitChars_ne_nil
  zero := by
    intro hhead
    by_cases hzero : d.digits = 0
    · rw [hzero, h hzero]
      exact ⟨Nat.toDigits_zero 10, rfl⟩
    · exact absurd hhead (head?_digitChars hzero)

/-- A finite double is written as a numeral that follows the grammar. -/
theorem finiteNumeral_wellFormed (style : Style) (negative : Bool) (mantissa : Nat)
    (exponent : Int) : (finiteNumeral style negative mantissa exponent).WellFormed := by
  have h := significant_digitChars (d := shortest style.tie mantissa exponent) (by
    intro hd
    by_cases hm : mantissa = 0
    · rw [shortest, if_pos hm]
    · exact absurd hd (shortest_ne_zero hm exponent))
  unfold finiteNumeral decimalNumeral
  dsimp only
  split
  · exact positionalNumeral_wellFormed h _ _
  · exact scientificNumeral_wellFormed h _ _

end WorkerTelemetry.Decimal
