import Mathlib.Algebra.Order.Field.Power
import Mathlib.Algebra.Order.Field.Rat
import Mathlib.Data.Rat.Cast.Order
import Mathlib.Tactic.FieldSimp
import Mathlib.Tactic.Linarith
import Mathlib.Tactic.NormNum
import Mathlib.Tactic.Positivity
import Mathlib.Tactic.Ring
import WorkerTelemetry.Proofs.Decimal.Canonical

/-!
The decimals of doubles. The 17 grids that are searched for the shortest decimal of a double are
enough: the last of them is finer than the interval of decimals that read back as the double. The
intervals of two doubles have no decimal in common. Main statements: the shortest decimal of a
double lies in its interval, and a plain text is that of one double only.
-/

namespace WorkerTelemetry.Decimal

/-! ### Numbers that texts and intervals stand for -/

/-- A power with an integer exponent as a quotient of two powers, one of them trivial. -/
theorem zpow_eq_div (b : ℚ) (e : Int) : b ^ e = b ^ e.toNat / b ^ (-e).toNat := by
  rcases Int.le_total 0 e with he | he
  · obtain ⟨n, rfl⟩ := Int.eq_ofNat_of_zero_le he
    simp
  · obtain ⟨n, hn⟩ := Int.eq_ofNat_of_zero_le (Int.neg_nonneg_of_nonpos he)
    obtain rfl : e = -(n : Int) := by omega
    simp

def Scaled.value (d : Scaled) : ℚ := d.digits * (10 : ℚ) ^ d.exponent

namespace Interval

variable {i : Interval} {d : Scaled} {e : Int}

def lowEnd (i : Interval) : ℚ := i.low / i.denominator

def center (i : Interval) : ℚ := i.value / i.denominator

def highEnd (i : Interval) : ℚ := i.high / i.denominator

theorem le_value_iff (n : Nat) (hd : 0 < i.denominator) :
    n * Nat.pow 10 (-d.exponent).toNat ≤ d.digits * Nat.pow 10 d.exponent.toNat * i.denominator ↔
      (n / i.denominator : ℚ) ≤ d.value := by
  have denominator : (0 : ℚ) < i.denominator := by exact_mod_cast hd
  have grow : (0 : ℚ) < 10 ^ (-d.exponent).toNat := by positivity
  rw [Scaled.value, zpow_eq_div, ← mul_div_assoc, div_le_div_iff₀ denominator grow]
  exact_mod_cast Iff.rfl

theorem value_le_iff (n : Nat) (hd : 0 < i.denominator) :
    d.digits * Nat.pow 10 d.exponent.toNat * i.denominator ≤ n * Nat.pow 10 (-d.exponent).toNat ↔
      d.value ≤ (n / i.denominator : ℚ) := by
  have denominator : (0 : ℚ) < i.denominator := by exact_mod_cast hd
  have grow : (0 : ℚ) < 10 ^ (-d.exponent).toNat := by positivity
  rw [Scaled.value, zpow_eq_div, ← mul_div_assoc, div_le_div_iff₀ grow denominator]
  exact_mod_cast Iff.rfl

/-- The decimals that an interval holds; its ends belong to it if it is closed. -/
theorem holds_iff (hd : 0 < i.denominator) : i.holds d = true ↔
    i.lowEnd ≤ d.value ∧ d.value ≤ i.highEnd ∧
      (i.closed = false → i.lowEnd ≠ d.value ∧ d.value ≠ i.highEnd) := by
  have low := le_value_iff (i := i) (d := d) i.low hd
  have low' := value_le_iff (i := i) (d := d) i.low hd
  have high := value_le_iff (i := i) (d := d) i.high hd
  have high' := le_value_iff (i := i) (d := d) i.high hd
  rw [← lowEnd] at low low'
  rw [← highEnd] at high high'
  unfold holds
  dsimp only
  cases i.closed with
  | true =>
    simp only [if_true, Bool.and_eq_true, decide_eq_true_eq, low, high, reduceCtorEq,
      IsEmpty.forall_iff, and_true]
  | false =>
    simp only [Bool.false_eq_true, if_false, Bool.and_eq_true, decide_eq_true_eq, ← Nat.not_le,
      low', high', not_le]
    constructor
    · rintro ⟨hl, hh⟩
      exact ⟨hl.le, hh.le, fun _ => ⟨hl.ne, hh.ne⟩⟩
    · rintro ⟨hl, hh, ends⟩
      exact ⟨lt_of_le_of_ne hl (ends trivial).1, lt_of_le_of_ne hh (ends trivial).2⟩

theorem holds_congr {d' : Scaled} (hd : 0 < i.denominator) (same : d.value = d'.value) :
    i.holds d = i.holds d' := by
  rw [Bool.eq_iff_iff, holds_iff hd, holds_iff hd, same]

/-! ### The search for the shortest decimal -/

variable {tie : Tie}

theorem holds_of_onGrid (h : i.onGrid tie e = some d) : i.holds d = true := by
  unfold onGrid at h
  dsimp only at h
  split at h
  · next below above =>
    cases h
    split
    · exact below
    · exact above
  · next below _ =>
    cases h
    exact below
  · next _ above =>
    cases h
    exact above
  · cases h

theorem onGrid_isSome (h : i.holds (i.floorOn e) = true ∨
    i.holds ⟨(i.floorOn e).digits + 1, e⟩ = true) : ∃ d, i.onGrid tie e = some d := by
  unfold onGrid
  dsimp only
  rcases h with h | h
  · rw [h]
    split <;> simp_all
  · rw [h]
    split <;> simp_all

/-- A search that meets a grid with a hit finds a decimal of the interval. -/
theorem holds_search {left k : Nat} (hk : k < left) (hit : ∃ d, i.onGrid tie (e - k) = some d) :
    i.holds (i.search tie e left) = true := by
  induction left generalizing e k with
  | zero => cases hk
  | succ left ih =>
    rw [search]
    cases here : i.onGrid tie e with
    | some d => exact holds_of_onGrid here
    | none =>
      cases k with
      | zero =>
        obtain ⟨d, hit⟩ := hit
        rw [Int.natCast_zero, Int.sub_zero, here] at hit
        cases hit
      | succ k =>
        refine ih (Nat.lt_of_succ_lt_succ hk) ?_
        have next : e - 1 - (k : Int) = e - ((k + 1 : Nat) : Int) := by omega
        rwa [next]

/-- The neighbours of the value on a grid. -/
theorem floorOn_spec (hd : 0 < i.denominator) (e : Int) :
    (i.floorOn e).value ≤ i.center ∧ i.center < (i.floorOn e).value + (10 : ℚ) ^ e := by
  have denominator : (0 : ℚ) < i.denominator := by exact_mod_cast hd
  have grow : (0 : ℚ) < 10 ^ (-e).toNat := by positivity
  have spread : 0 < i.denominator * Nat.pow 10 e.toNat := Nat.mul_pos hd (Nat.pow_pos (by decide))
  have below := Nat.div_mul_le_self (i.value * Nat.pow 10 (-e).toNat)
    (i.denominator * Nat.pow 10 e.toNat)
  have above := Nat.lt_mul_div_succ (i.value * Nat.pow 10 (-e).toNat) spread
  have digits : (i.floorOn e).digits = i.value * Nat.pow 10 (-e).toNat /
    (i.denominator * Nat.pow 10 e.toNat) := rfl
  have exponent : (i.floorOn e).exponent = e := rfl
  rw [← digits] at below above
  rw [Scaled.value, exponent, center, zpow_eq_div 10 e, ← mul_div_assoc, ← add_div]
  constructor
  · rw [div_le_div_iff₀ grow denominator]
    have cast : ((i.floorOn e).digits : ℚ) * (i.denominator * 10 ^ e.toNat) ≤
        i.value * 10 ^ (-e).toNat := by exact_mod_cast below
    linarith
  · rw [div_lt_div_iff₀ denominator grow]
    have cast : (i.value : ℚ) * 10 ^ (-e).toNat <
        i.denominator * 10 ^ e.toNat * ((i.floorOn e).digits + 1) := by exact_mod_cast above
    linarith

/-- A grid that is finer than the interval has a hit. -/
theorem onGrid_isSome_of_lt (hd : 0 < i.denominator) {r : ℚ} (low : i.lowEnd ≤ i.center - r)
    (high : i.center + r ≤ i.highEnd) (fine : (10 : ℚ) ^ e < 2 * r) :
    ∃ d, i.onGrid tie e = some d := by
  obtain ⟨below, above⟩ := floorOn_spec hd e
  have step : (⟨(i.floorOn e).digits + 1, e⟩ : Scaled).value =
      (i.floorOn e).value + (10 : ℚ) ^ e := by
    have exponent : (i.floorOn e).exponent = e := rfl
    rw [Scaled.value, Scaled.value, exponent]
    push_cast
    ring
  have inside {d : Scaled} (hl : i.lowEnd < d.value) (hh : d.value < i.highEnd) :
      i.holds d = true := (holds_iff hd).2 ⟨hl.le, hh.le, fun _ => ⟨hl.ne, hh.ne⟩⟩
  have grid : (0 : ℚ) < 10 ^ e := zpow_pos (by norm_num) e
  refine onGrid_isSome ?_
  rcases lt_or_ge (i.center - (i.floorOn e).value) r with near | far
  · exact .inl (inside (by linarith) (by linarith))
  · exact .inr (inside (by rw [step]; linarith) (by rw [step]; linarith))

end Interval

/-! ### The intervals of doubles -/

/-- The rational that a mantissa and an exponent stand for. -/
def dyadic (m : Nat) (e : Int) : ℚ := m * (2 : ℚ) ^ e

/-- The mantissa and the exponent of a double. Only at the bottom of the range the mantissa may be
short. -/
structure Canonical (m : Nat) (e : Int) : Prop where
  bottom : -1074 ≤ e
  short : m < 2 * hiddenBit
  full : -1074 < e → hiddenBit ≤ m

namespace Interval

variable {m : Nat} {e : Int}

theorem denominator_around_pos (m : Nat) (e : Int) : 0 < (around m e).denominator :=
  Nat.pow_pos (by decide)

/-- How much of the last place lies below a double in its interval. -/
def reach (m : Nat) (e : Int) : ℚ := if m = hiddenBit ∧ -1074 < e then 1 / 4 else 1 / 2

/-- The ends of the interval, and the double in it. -/
theorem around_spec (hm : m ≠ 0) (e : Int) :
    (around m e).lowEnd = (m - reach m e) * (2 : ℚ) ^ e ∧ (around m e).center = dyadic m e ∧
      (around m e).highEnd = (m + 1 / 2) * (2 : ℚ) ^ e := by
  have unit : (2 : ℚ) ^ e / 4 =
      ((Nat.pow 2 (e - 2).toNat : Nat) : ℚ) / (Nat.pow 2 (2 - e).toNat : Nat) := by
    have neg : (2 - e).toNat = (-(e - 2)).toNat := by omega
    have split := zpow_eq_div 2 (e - 2)
    rw [zpow_sub₀ (by norm_num)] at split
    rw [neg, Nat.pow_eq, Nat.pow_eq]
    push_cast
    rw [← split]
    norm_num
  refine ⟨?_, ?_, ?_⟩
  · rw [lowEnd, around, reach]
    dsimp only
    rw [Nat.cast_mul, mul_div_assoc, ← unit]
    have small :
        (if (decide (m = hiddenBit) && decide (-1074 < e)) = true then 1 else 2) ≤ 4 * m := by
      split <;> omega
    rw [Nat.cast_sub small]
    by_cases low : m = hiddenBit ∧ -1074 < e
    · simp only [low.1, low.2, decide_true, Bool.and_self, if_true, and_self]
      push_cast
      ring
    · have low' : ¬ (decide (m = hiddenBit) && decide (-1074 < e)) = true := by simpa using low
      rw [if_neg low, if_neg low']
      push_cast
      ring
  · rw [center, around, dyadic]
    dsimp only
    rw [Nat.cast_mul, mul_div_assoc, ← unit]
    push_cast
    ring
  · rw [highEnd, around]
    dsimp only
    rw [Nat.cast_mul, mul_div_assoc, ← unit]
    push_cast
    ring

theorem reach_le_half (m : Nat) (e : Int) : reach m e ≤ 1 / 2 := by
  unfold reach
  split <;> norm_num

theorem closed_around (m : Nat) (e : Int) : (around m e).closed = (m % 2 == 0) := rfl

/-- The value lies on the grid that the search begins with, or above it. -/
theorem zpow_magnitude_le (hm : m ≠ 0) (e : Int) :
    (10 : ℚ) ^ (magnitude (around m e).value (around m e).denominator - 1) ≤ dyadic m e := by
  have hd := denominator_around_pos m e
  have hv : 0 < (around m e).value :=
    Nat.mul_pos (Nat.mul_pos (by decide) (Nat.pos_of_ne_zero hm)) (Nat.pow_pos (by decide))
  have reached := reached_magnitude hv hd
  generalize magnitude (around m e).value (around m e).denominator - 1 = k at reached ⊢
  have denominator : (0 : ℚ) < (around m e).denominator := by exact_mod_cast hd
  have grow : (0 : ℚ) < 10 ^ (-k).toNat := by positivity
  rw [← (around_spec hm e).2.1, Interval.center, zpow_eq_div, div_le_div_iff₀ grow denominator]
  unfold Reached at reached
  have cast : ((around m e).denominator : ℚ) * 10 ^ k.toNat ≤
      (around m e).value * 10 ^ (-k).toNat := by exact_mod_cast reached
  linarith

/-- The interval reaches far enough on both sides for the last grid that is searched. -/
theorem holds_search_around (hm : m ≠ 0) (short : m < 2 * hiddenBit) (e : Int) (tie : Tie) :
    (around m e).holds ((around m e).search tie
      (magnitude (around m e).value (around m e).denominator - 1) 17) = true := by
  have hd := denominator_around_pos m e
  obtain ⟨low, center, high⟩ := around_spec hm e
  have first := zpow_magnitude_le hm e
  generalize magnitude (around m e).value (around m e).denominator - 1 = k at first ⊢
  have two : (0 : ℚ) < 2 ^ e := zpow_pos (by norm_num) e
  have bound : (m : ℚ) < 2 ^ 53 := by
    have := short
    unfold hiddenBit at this
    exact_mod_cast this
  have last : (10 : ℚ) ^ (k - (16 : Nat)) * 10 ^ 16 = 10 ^ k := by
    rw [zpow_sub₀ (by norm_num)]
    norm_num
  have positive : (0 : ℚ) < 10 ^ (k - (16 : Nat)) := zpow_pos (by norm_num) _
  refine holds_search (k := 16) (by decide)
    (onGrid_isSome_of_lt hd (r := dyadic m e / 2 ^ 54) ?_ ?_ ?_)
  · rw [low, center]
    unfold reach dyadic
    split
    · next power =>
      rw [power.1]
      unfold hiddenBit
      linarith
    · nlinarith
  · rw [high, center]
    unfold dyadic
    nlinarith
  · generalize (10 : ℚ) ^ (k - (16 : Nat)) = grid at last positive ⊢
    linarith

end Interval

theorem Scaled.value_strip (d : Scaled) (left : Nat) : (d.strip left).value = d.value := by
  induction left generalizing d with
  | zero => rfl
  | succ left ih =>
    rw [strip]
    split
    · next trailing =>
      have digits : (d.digits : ℚ) = 10 * (d.digits / 10 : Nat) := by
        have whole : d.digits = 10 * (d.digits / 10) := by omega
        exact_mod_cast whole
      rw [ih, value, value, digits, zpow_add_one₀ (by norm_num)]
      ring
    · rfl

/-- The shortest decimal of a double lies in its interval. -/
theorem holds_shortest {m : Nat} (hm : m ≠ 0) (short : m < 2 * hiddenBit) (e : Int) (tie : Tie) :
    (Interval.around m e).holds (shortest tie m e) = true := by
  rw [shortest, if_neg hm, Interval.holds_congr (Interval.denominator_around_pos m e)
    (Scaled.value_strip _ 17)]
  exact Interval.holds_search_around hm short e tie

namespace Canonical

variable {m n : Nat} {e f : Int}

theorem two_mul_zpow_le (h : e < f) : 2 * (2 : ℚ) ^ e ≤ 2 ^ f := by
  have step : (2 : ℚ) ^ (e + 1) ≤ 2 ^ f := zpow_le_zpow_right₀ (by norm_num) (by omega)
  rw [zpow_add_one₀ (by norm_num)] at step
  linarith

theorem le_of_short (hx : Canonical m e) : (m : ℚ) ≤ 2 ^ 53 - 1 := by
  have short := hx.short
  unfold hiddenBit at short
  have succ : m + 1 ≤ 2 ^ 53 := short
  have cast : (m : ℚ) + 1 ≤ 2 ^ 53 := by exact_mod_cast succ
  linarith

theorem ge_of_full (hx : Canonical m e) (he : -1074 < e) : (2 : ℚ) ^ 52 ≤ m := by
  have full := hx.full he
  unfold hiddenBit at full
  exact_mod_cast full

/-- A larger exponent is a larger double. -/
theorem dyadic_lt (hx : Canonical m e) (hy : Canonical n f) (h : e < f) :
    dyadic m e < dyadic n f := by
  have t : (0 : ℚ) < 2 ^ e := zpow_pos (by norm_num) e
  have step := two_mul_zpow_le h
  have hm := hx.le_of_short
  have hn := hy.ge_of_full (Int.lt_of_le_of_lt hx.bottom h)
  unfold dyadic
  nlinarith

/-- Mantissas at one exponent are at least one apart, and one of two neighbours is odd. -/
theorem ends_of_mantissa_lt (lt : m < n) (e : Int) :
    (m + 1 / 2) * (2 : ℚ) ^ e ≤ (n - Interval.reach n e) * 2 ^ e ∧
      ((m + 1 / 2) * (2 : ℚ) ^ e = (n - Interval.reach n e) * 2 ^ e → m % 2 = 1 ∨ n % 2 = 1) := by
  have t : (0 : ℚ) < 2 ^ e := zpow_pos (by norm_num) e
  have value : (m : ℚ) + 1 ≤ n := by exact_mod_cast lt
  have reach := Interval.reach_le_half n e
  refine ⟨mul_le_mul_of_nonneg_right (by linarith) t.le, fun same => ?_⟩
  have next : (m : ℚ) + 1 / 2 = n - Interval.reach n e := mul_right_cancel₀ t.ne' same
  have small : (n : ℚ) ≤ m + 1 := by linarith
  have small' : n ≤ m + 1 := by exact_mod_cast small
  omega

/-- Below a power of two the interval is shorter, and the last double there has an odd mantissa. -/
theorem ends_of_exponent_lt (hx : Canonical m e) (hy : Canonical n f) (lt : e < f) :
    (m + 1 / 2) * (2 : ℚ) ^ e ≤ (n - Interval.reach n f) * 2 ^ f ∧
      ((m + 1 / 2) * (2 : ℚ) ^ e = (n - Interval.reach n f) * 2 ^ f → m % 2 = 1 ∨ n % 2 = 1) := by
  have t : (0 : ℚ) < 2 ^ e := zpow_pos (by norm_num) e
  have step := two_mul_zpow_le lt
  have bottom := Int.lt_of_le_of_lt hx.bottom lt
  have high := hx.le_of_short
  by_cases power : n = hiddenBit
  · have reach : Interval.reach n f = 1 / 4 := if_pos ⟨power, bottom⟩
    have value : (n : ℚ) = 2 ^ 52 := by
      rw [power]
      unfold hiddenBit
      norm_num
    rw [reach, value]
    refine ⟨by nlinarith, fun same => .inl ?_⟩
    have all : (2 : ℚ) ^ 53 ≤ m + 1 := by nlinarith
    have short := hx.short
    have last : 2 ^ 53 ≤ m + 1 := by exact_mod_cast all
    unfold hiddenBit at short
    omega
  · have reach : Interval.reach n f = 1 / 2 := if_neg fun h => power h.1
    have full := hy.full bottom
    have above : hiddenBit + 1 ≤ n := by omega
    have value : (2 : ℚ) ^ 52 + 1 ≤ n := by
      unfold hiddenBit at above
      exact_mod_cast above
    have strict : ((m : ℚ) + 1 / 2) * 2 ^ e < (n - 1 / 2) * 2 ^ f := by nlinarith
    rw [reach]
    exact ⟨strict.le, fun same => absurd same strict.ne⟩

/-- The interval of a double ends where that of a larger one begins, or before. Where they meet, one
of the mantissas is odd. -/
theorem highEnd_le_lowEnd (hx : Canonical m e) (hy : Canonical n f) (hm : m ≠ 0) (hn : n ≠ 0)
    (lt : dyadic m e < dyadic n f) :
    (Interval.around m e).highEnd ≤ (Interval.around n f).lowEnd ∧
      ((Interval.around m e).highEnd = (Interval.around n f).lowEnd → m % 2 = 1 ∨ n % 2 = 1) := by
  rw [(Interval.around_spec hm e).2.2, (Interval.around_spec hn f).1]
  rcases lt_trichotomy e f with less | rfl | more
  · exact ends_of_exponent_lt hx hy less
  · have t : (0 : ℚ) < 2 ^ e := zpow_pos (by norm_num) e
    have cast : (m : ℚ) < n := lt_of_mul_lt_mul_right lt t.le
    exact ends_of_mantissa_lt (by exact_mod_cast cast) e
  · exact absurd lt (not_lt.2 (hy.dyadic_lt hx more).le)

/-- No decimal reads back as two doubles. -/
theorem not_holds_of_lt (hx : Canonical m e) (hy : Canonical n f) (hm : m ≠ 0) (hn : n ≠ 0)
    (lt : dyadic m e < dyadic n f) {d : Scaled} (hd : (Interval.around m e).holds d = true) :
    (Interval.around n f).holds d = false := by
  rw [Bool.eq_false_iff]
  intro hd'
  obtain ⟨-, high, ends⟩ := (Interval.holds_iff (Interval.denominator_around_pos m e)).1 hd
  obtain ⟨low, -, ends'⟩ := (Interval.holds_iff (Interval.denominator_around_pos n f)).1 hd'
  obtain ⟨apart, meet⟩ := hx.highEnd_le_lowEnd hy hm hn lt
  have same : (Interval.around m e).highEnd = (Interval.around n f).lowEnd :=
    le_antisymm apart (low.trans high)
  rcases meet same with odd | odd
  · have opened : (Interval.around m e).closed = false := by simp [Interval.closed_around, odd]
    exact (ends opened).2 (le_antisymm high (same.le.trans low))
  · have opened : (Interval.around n f).closed = false := by simp [Interval.closed_around, odd]
    exact (ends' opened).1 (le_antisymm low (high.trans same.le))

/-- Doubles with one value have one mantissa and one exponent. -/
theorem dyadic_injective (hx : Canonical m e) (hy : Canonical n f)
    (same : dyadic m e = dyadic n f) : m = n ∧ e = f := by
  rcases lt_trichotomy e f with less | rfl | more
  · exact absurd same (hx.dyadic_lt hy less).ne
  · have t : (0 : ℚ) < 2 ^ e := zpow_pos (by norm_num) e
    have cast : (m : ℚ) = n := mul_right_cancel₀ t.ne' same
    exact ⟨by exact_mod_cast cast, rfl⟩
  · exact absurd same (hy.dyadic_lt hx more).ne'

/-- Doubles with one shortest decimal are the same. -/
theorem eq_of_shortest (hx : Canonical m e) (hy : Canonical n f) {tie : Tie}
    (same : (shortest tie m e).value = (shortest tie n f).value) : m = n ∧ e = f := by
  have zero {k : Nat} {g : Int} : (shortest tie k g).value = 0 ↔ k = 0 := by
    have ten : (10 : ℚ) ^ (shortest tie k g).exponent ≠ 0 := zpow_ne_zero _ (by norm_num)
    rw [Scaled.value, mul_eq_zero, or_iff_left ten, Nat.cast_eq_zero]
    refine ⟨fun none => ?_, ?_⟩
    · by_contra some_bit
      exact shortest_ne_zero some_bit g none
    · rintro rfl
      rfl
  have bottom {k : Nat} {g : Int} (h : Canonical k g) (none : k = 0) : g = -1074 := by
    by_contra above
    have full := h.full (lt_of_le_of_ne h.bottom (Ne.symm above))
    rw [none] at full
    exact absurd full (by decide)
  have both : m = 0 ↔ n = 0 := by rw [← zero (g := e), same, zero]
  by_cases hm : m = 0
  · exact ⟨hm.trans (both.1 hm).symm, (bottom hx hm).trans (bottom hy (both.1 hm)).symm⟩
  have hn : n ≠ 0 := fun none => hm (both.2 none)
  have own := holds_shortest hm hx.short e tie
  have own' := holds_shortest hn hy.short f tie
  rcases lt_trichotomy (dyadic m e) (dyadic n f) with less | equal | more
  · have apart := hx.not_holds_of_lt hy hm hn less own
    rw [Interval.holds_congr (Interval.denominator_around_pos n f) same, own'] at apart
    cases apart
  · exact hx.dyadic_injective hy equal
  · have apart := hy.not_holds_of_lt hx hn hm more own'
    rw [Interval.holds_congr (Interval.denominator_around_pos m e) same.symm, own] at apart
    cases apart

end Canonical

/-! ### What a numeral stands for -/

/-- The rational that a numeral without an exponent part stands for, its sign apart. -/
def Numeral.amount (n : Numeral) : ℚ :=
  (Nat.ofDigitChars 10 (n.whole ++ n.fraction) 0 : ℚ) / 10 ^ n.fraction.length

theorem ofDigitChars_digitChars (n : Nat) : Nat.ofDigitChars 10 (digitChars n) 0 = n :=
  Nat.ofDigitChars_ten_toDigits

/-- Wherever the point stands, a numeral stands for its decimal. -/
theorem amount_positionalNumeral (wholeFraction negative : Bool) (d : Scaled) :
    (positionalNumeral wholeFraction negative (digitChars d.digits)
      ((digitChars d.digits).length + d.exponent)).amount = d.value := by
  have digits := ofDigitChars_digitChars d.digits
  generalize digitChars d.digits = cs at digits ⊢
  unfold positionalNumeral Numeral.amount Scaled.value
  split
  · next low =>
    obtain ⟨k, hk⟩ : ∃ k : Nat, d.exponent = -((k + cs.length : Nat) : Int) :=
      ⟨(-(cs.length + d.exponent)).toNat, by omega⟩
    have zeros : (-(cs.length + d.exponent)).toNat = k := by omega
    dsimp only
    rw [zeros, hk, ← List.append_assoc, Nat.ofDigitChars_append, Nat.ofDigitChars_append,
      Nat.ofDigitChars_replicate_zero, List.length_append, List.length_replicate, zpow_neg,
      zpow_natCast, ← div_eq_mul_inv]
    exact congrArg (fun n : Nat => (n : ℚ) / 10 ^ (k + cs.length)) digits
  split
  · next high =>
    obtain ⟨k, hk⟩ : ∃ k : Nat, d.exponent = k := ⟨d.exponent.toNat, by omega⟩
    have zeros : (cs.length + d.exponent).toNat - cs.length = k := by omega
    dsimp only
    rw [zeros, hk, zpow_natCast, Nat.ofDigitChars_append, Nat.ofDigitChars_append, digits,
      Nat.ofDigitChars_replicate_zero]
    cases wholeFraction with
    | true =>
      have zero (n : Nat) : Nat.ofDigitChars 10 ['0'] n = 10 * n := rfl
      rw [if_pos rfl, zero, List.length_singleton]
      push_cast
      ring
    | false =>
      rw [if_neg Bool.false_ne_true, Nat.ofDigitChars_nil, List.length_nil]
      push_cast
      ring
  · next low high =>
    obtain ⟨k, hk⟩ : ∃ k : Nat, d.exponent = -(k : Int) := ⟨(-d.exponent).toNat, by omega⟩
    have length : (cs.drop (cs.length + d.exponent).toNat).length = k := by
      rw [List.length_drop]
      omega
    dsimp only
    rw [List.take_append_drop, digits, length, hk, zpow_neg, zpow_natCast, div_eq_mul_inv]

/-- A text is that of one numeral only. -/
theorem Numeral.toText_injective {n k : Numeral} (hn : n.WellFormed) (hk : k.WellFormed)
    (same : n.toText = k.toText) : n = k := by
  have chars : n.chars = k.chars := String.ofList_injective same
  have stops : Numeral.Stops [] := fun c hc => nomatch hc
  have read := read_append hn stops
  rw [chars, read_append hk stops] at read
  exact (Prod.mk.inj (Option.some.inj read)).1.symm

/-! ### The texts of doubles -/

/-- The bits of a finite double, read off its sign, its mantissa and its exponent. -/
theorem bits_of_finite {bits : Nat} (small : bits < 2 * signBit) {negative : Bool} {m : Nat}
    {e : Int} (h : Binary64.ofBits bits = .finite negative m e) :
    Canonical m e ∧
      (bits : Int) = (if negative then signBit else 0) + (e + 1074) * hiddenBit + m := by
  unfold signBit at small
  unfold Binary64.ofBits at h
  dsimp only at h
  split at h
  · split at h <;> cases h
  split at h
  · next bottom =>
    cases h
    unfold hiddenBit at bottom ⊢
    unfold signBit
    refine ⟨⟨by omega, ?_, by omega⟩, ?_⟩
    · unfold hiddenBit
      omega
    · simp only [decide_eq_true_eq]
      split <;> omega
  · next top bottom =>
    cases h
    unfold hiddenBit at top bottom ⊢
    unfold signBit
    simp only [Int.ofNat_eq_natCast] at *
    refine ⟨⟨by omega, ?_, fun _ => ?_⟩, ?_⟩
    · unfold hiddenBit
      omega
    · unfold hiddenBit
      omega
    · simp only [decide_eq_true_eq]
      split <;> omega

theorem finite_of_isFinite {x : Float} (hx : isFinite x = true) :
    ∃ negative m e, Binary64.ofFloat x = .finite negative m e := by
  unfold isFinite at hx
  cases h : Binary64.ofFloat x with
  | finite negative m e => exact ⟨negative, m, e, rfl⟩
  | nan => rw [h] at hx; cases hx
  | infinite negative => rw [h] at hx; cases hx

theorem plainText_of_finite {x : Float} {negative : Bool} {m : Nat} {e : Int}
    (h : Binary64.ofFloat x = .finite negative m e) :
    plainText x = (finiteNumeral plain negative m e).toText := by
  rw [plainText, h]

theorem negative_positionalNumeral (wholeFraction negative : Bool) (digits : List Char)
    (point : Int) :
    (positionalNumeral wholeFraction negative digits point).negative = negative := by
  unfold positionalNumeral
  split
  · rfl
  split
  · rfl
  · rfl

/-- The text of a finite double is that of this double only. -/
theorem toBits_eq_of_plainText {x y : Float} (hx : isFinite x = true) (hy : isFinite y = true)
    (same : plainText x = plainText y) : x.toBits = y.toBits := by
  obtain ⟨s, m, e, hx⟩ := finite_of_isFinite hx
  obtain ⟨t, n, f, hy⟩ := finite_of_isFinite hy
  obtain ⟨canonical, bits⟩ := bits_of_finite x.toBits.toNat_lt hx
  obtain ⟨canonical', bits'⟩ := bits_of_finite y.toBits.toNat_lt hy
  rw [plainText_of_finite hx, plainText_of_finite hy] at same
  have numerals : finiteNumeral plain s m e = finiteNumeral plain t n f :=
    Numeral.toText_injective (finiteNumeral_wellFormed plain s m e)
      (finiteNumeral_wellFormed plain t n f) same
  have laid (s : Bool) (m : Nat) (e : Int) : finiteNumeral plain s m e =
      positionalNumeral false s (digitChars (shortest .up m e).digits)
        ((digitChars (shortest .up m e).digits).length + (shortest .up m e).exponent) := rfl
  rw [laid, laid] at numerals
  have sign : s = t := by
    have signs := congrArg Numeral.negative numerals
    rwa [negative_positionalNumeral, negative_positionalNumeral] at signs
  have values : (shortest .up m e).value = (shortest .up n f).value := by
    have amounts := congrArg Numeral.amount numerals
    rwa [amount_positionalNumeral, amount_positionalNumeral] at amounts
  obtain ⟨rfl, rfl⟩ := canonical.eq_of_shortest canonical' values
  subst sign
  have nat : x.toBits.toNat = y.toBits.toNat := by exact_mod_cast bits.trans bits'.symm
  exact UInt64.toNat_inj.1 nat

end WorkerTelemetry.Decimal
