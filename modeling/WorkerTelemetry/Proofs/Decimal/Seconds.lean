import WorkerTelemetry.Duration
import WorkerTelemetry.Proofs.Decimal.Rounding

/-!
Lengths of time as doubles. The double that a length is turned into may differ from the length, but
it never comes to lie on the other side of a whole number of seconds. Main statement: the double of
a length is at most the double of a whole number exactly if the length is at most so many seconds.
-/

namespace WorkerTelemetry

namespace Decimal

open Float.Model Float.Model.UnpackedFloat

/-! ### What doubles stand for -/

/-- A double stands for a rational. -/
def Denotes (x : Float) (q : ℚ) : Prop :=
  ∃ m e, Canonical m e ∧ e ≤ 971 ∧ q = dyadic m e ∧ x = .ofModel (.pack (unpacked m e))

variable {x y : Float} {p q : ℚ}

theorem Denotes.representable (h : Denotes x q) : Representable q := by
  obtain ⟨m, e, canonical, -, rfl, -⟩ := h
  exact ⟨m, e, canonical, rfl⟩

/-- What is not too large can be rounded to a double. -/
theorem exponent_le {m : Nat} {e : Int} (hx : Canonical m e) (small : dyadic m e ≤ 2 ^ 99) :
    e ≤ 971 := by
  by_contra above
  have full := hx.full (by omega)
  have step : (2 : ℚ) ^ (100 : Int) ≤ 2 ^ e := zpow_le_zpow_right₀ (by norm_num) (by omega)
  have one : (1 : ℚ) ≤ m := by exact_mod_cast Nat.le_trans (by decide) full
  have large : (2 : ℚ) ^ (100 : Int) ≤ dyadic m e := by
    unfold dyadic
    nlinarith
  have absurdity := large.trans small
  norm_num at absurdity

/-- What a number is rounded to is a double, if the number is not too large. -/
theorem denotes_of_rounds {m : Nat} {e : Int} (hx : Canonical m e) (rounds : Rounds q (dyadic m e))
    (small : q ≤ 2 ^ 99) : Denotes (.ofModel (.pack (unpacked m e))) (dyadic m e) := by
  have limit : Representable ((2 : ℚ) ^ (99 : Int)) := representable_zpow (by decide)
  exact ⟨m, e, hx, exponent_le hx (rounds.above _ limit small), rfl, rfl⟩

namespace Canonical

variable {m n : Nat} {e f : Int}

/-- Doubles are in the order of their bits. -/
theorem dyadic_le_iff (hx : Canonical m e) (hy : Canonical n f) :
    dyadic m e ≤ dyadic n f ↔ (e + 1074) * hiddenBit + m ≤ (f + 1074) * hiddenBit + n := by
  have short := hx.short
  have short' := hy.short
  rcases lt_trichotomy e f with less | rfl | more
  · have full := hy.full (Int.lt_of_le_of_lt hx.bottom less)
    refine iff_of_true (hx.dyadic_lt hy less).le ?_
    unfold hiddenBit at *
    omega
  · have t : (0 : ℚ) < 2 ^ e := zpow_pos (by norm_num) e
    unfold dyadic
    rw [mul_le_mul_iff_left₀ t, Nat.cast_le]
    omega
  · have full := hx.full (Int.lt_of_le_of_lt hy.bottom more)
    refine iff_of_false (not_le.2 (hy.dyadic_lt hx more)) ?_
    unfold hiddenBit at *
    omega

theorem orderKey_eq (hx : Canonical m e) (he : e ≤ 971) :
    orderKey (.ofModel (.pack (unpacked m e))) = some ((e + 1074) * hiddenBit + m) := by
  have bits : ((Float.ofModel (.pack (unpacked m e))).toBits.toNat : Int) =
      (e + 1074) * hiddenBit + m := toNat_pack hx he
  have bottom := hx.bottom
  have short := hx.short
  unfold orderKey Binary64.ofFloat
  generalize (Float.ofModel (.pack (unpacked m e))).toBits.toNat = b at bits
  unfold hiddenBit at bits short
  have finite : b / 0x10000000000000 % 0x800 ≠ 2047 := by omega
  have positive : ¬ signBit ≤ b := by
    unfold signBit
    omega
  have value : Binary64.ofBits b ≠ .nan := by
    unfold Binary64.ofBits
    dsimp only
    rw [if_neg (by exact finite)]
    split <;> simp
  dsimp only
  split
  · next undefined => exact absurd undefined value
  · rw [if_neg positive]
    exact congrArg some bits

end Canonical

/-- Doubles are in the order of what they stand for. -/
theorem Denotes.atMost_iff (hx : Denotes x p) (hy : Denotes y q) : atMost x y = true ↔ p ≤ q := by
  obtain ⟨m, e, canonical, he, rfl, rfl⟩ := hx
  obtain ⟨n, f, canonical', hf, rfl, rfl⟩ := hy
  rw [canonical.dyadic_le_iff canonical', atMost, canonical.orderKey_eq he,
    canonical'.orderKey_eq hf]
  exact decide_eq_true_iff

/-! ### Sums, products and quotients -/

theorem Rounds.refl (q : ℚ) : Rounds q q := ⟨fun _ _ h => h, fun _ _ h => h⟩

section Operations

variable {m n : Nat} {e f : Int}

theorem unpacked_zero (e : Int) : unpacked 0 e = .zero .positive := rfl

theorem unpacked_of_ne_zero (hm : m ≠ 0) (e : Int) :
    unpacked m e = .finite .positive m e (Nat.pos_of_ne_zero hm) := dif_neg hm

theorem dyadic_zero (e : Int) : dyadic 0 e = 0 := by
  rw [dyadic, Nat.cast_zero, zero_mul]

/-- A sum of mantissas at a common exponent. -/
theorem normalize_spec (hm : 0 < m) (e : Int) :
    ∃ k g, Canonical k g ∧ Rounds (dyadic m e) (dyadic k g) ∧
      UnpackedFloat.normalize Format.binary64 m e .positive = unpacked k g := by
  have positive : compare (m : Int) 0 = .gt := by
    rw [compare_gt_iff_gt]
    omega
  rw [UnpackedFloat.normalize, positive]
  exact round_spec hm e

theorem add_spec (hx : Canonical m e) (hy : Canonical n f) :
    ∃ k g, Canonical k g ∧ Rounds (dyadic m e + dyadic n f) (dyadic k g) ∧
      UnpackedFloat.add Format.binary64 (unpacked m e) (unpacked n f) = unpacked k g := by
  by_cases hm : m = 0
  · subst hm
    rw [dyadic_zero, zero_add]
    refine ⟨n, f, hy, .refl _, ?_⟩
    by_cases hn : n = 0
    · subst hn
      rfl
    · rw [unpacked_zero, unpacked_of_ne_zero hn]
      rfl
  by_cases hn : n = 0
  · subst hn
    rw [dyadic_zero, add_zero]
    refine ⟨m, e, hx, .refl _, ?_⟩
    rw [unpacked_zero, unpacked_of_ne_zero hm]
    rfl
  · obtain ⟨i, hi⟩ : ∃ i : Nat, e = min e f + i := ⟨(e - min e f).toNat, by omega⟩
    obtain ⟨j, hj⟩ : ∃ j : Nat, f = min e f + j := ⟨(f - min e f).toNat, by omega⟩
    have left : dyadic m e = dyadic (m * 2 ^ i) (min e f) := by
      rw [← Canonical.dyadic_add, ← hi]
    have right : dyadic n f = dyadic (n * 2 ^ j) (min e f) := by
      rw [← Canonical.dyadic_add, ← hj]
    have sum : dyadic m e + dyadic n f = dyadic (m * 2 ^ i + n * 2 ^ j) (min e f) := by
      rw [left, right]
      unfold dyadic
      push_cast
      ring
    have shift : (e - min e f).toNat = i ∧ (f - min e f).toNat = j := by omega
    have some_bit : 0 < m * 2 ^ i + n * 2 ^ j :=
      Nat.add_pos_left (Nat.mul_pos (Nat.pos_of_ne_zero hm) (Nat.two_pow_pos i)) _
    obtain ⟨k, g, canonical, rounds, value⟩ := normalize_spec some_bit (min e f)
    rw [← sum] at rounds
    refine ⟨k, g, canonical, rounds, ?_⟩
    rw [← value, unpacked_of_ne_zero hm, unpacked_of_ne_zero hn, UnpackedFloat.add]
    simp only [decreaseExponent, shift.1, shift.2, Nat.shiftLeft_eq, Sign.apply]
    rfl

theorem le_log2_of_hiddenBit_le {k : Nat} (h : hiddenBit ≤ k) : 52 ≤ k.log2 :=
  (Nat.le_log2 (Nat.ne_of_gt (Nat.lt_of_lt_of_le (by decide) h))).2 h

theorem canonical_zero : Canonical 0 (-1074) :=
  ⟨Int.le_refl _, by decide, fun above => absurd above (Int.lt_irrefl _)⟩

theorem mul_spec (hx : Canonical m e) (hy : Canonical n f) :
    ∃ k g, Canonical k g ∧ Rounds (dyadic m e * dyadic n f) (dyadic k g) ∧
      UnpackedFloat.mul Format.binary64 (unpacked m e) (unpacked n f) = unpacked k g := by
  by_cases hm : m = 0
  · subst hm
    rw [dyadic_zero, zero_mul]
    refine ⟨0, -1074, canonical_zero, dyadic_zero _ ▸ .refl _, ?_⟩
    by_cases hn : n = 0
    · subst hn
      rfl
    · rw [unpacked_zero, unpacked_of_ne_zero hn]
      rfl
  by_cases hn : n = 0
  · subst hn
    rw [dyadic_zero, mul_zero]
    refine ⟨0, -1074, canonical_zero, dyadic_zero _ ▸ .refl _, ?_⟩
    rw [unpacked_zero, unpacked_of_ne_zero hm]
    rfl
  · have product : dyadic m e * dyadic n f = dyadic (m * n) (e + f) := by
      unfold dyadic
      rw [zpow_add₀ (by norm_num)]
      push_cast
      ring
    -- one of the mantissas has all its bits, or both exponents are least
    have enough : 52 ≤ (m * n).log2 ∨ e + f ≤ -1074 := by
      rcases hx.full_or_bottom with full | ⟨-, rfl⟩
      · exact .inl (le_log2_of_hiddenBit_le (full.trans (Nat.le_mul_of_pos_right m
          (Nat.pos_of_ne_zero hn))))
      rcases hy.full_or_bottom with full | ⟨-, rfl⟩
      · exact .inl (le_log2_of_hiddenBit_le (full.trans (Nat.le_mul_of_pos_left n
          (Nat.pos_of_ne_zero hm))))
      · exact .inr (by decide)
    have start := approximates_exact (m * n) (e + f)
    rw [← product] at start
    rw [unpacked_of_ne_zero hm, unpacked_of_ne_zero hn]
    exact roundWithAccuracy_spec start enough

/-- A quotient of whole numbers, with what is left over. -/
theorem approximates_quotient {k : Nat} (hn : n ≠ 0) (t : Int) :
    Approximates (ExtendedMantissa.ofMantissaAndAccuracy (k / n) (accuracyOfFraction (k % n) n)) t
      ((k : ℚ) / n * 2 ^ t) := by
  have unit : (0 : ℚ) < 2 ^ t := zpow_pos (by norm_num) t
  have positive : (0 : ℚ) < n := by exact_mod_cast Nat.pos_of_ne_zero hn
  have mantissa := mantissa_ofMantissaAndAccuracy (k / n) (accuracyOfFraction (k % n) n)
  refine ⟨?_, ?_, ?_⟩
  · rw [mantissa, dyadic]
    refine mul_le_mul_of_nonneg_right ?_ unit.le
    rw [le_div_iff₀ positive]
    exact_mod_cast Nat.div_mul_le_self k n
  · rw [mantissa, dyadic]
    refine mul_lt_mul_of_pos_right ?_ unit
    rw [div_lt_iff₀ positive]
    have below := Nat.lt_mul_div_succ k (Nat.pos_of_ne_zero hn)
    rw [Nat.mul_comm] at below
    exact_mod_cast below
  · rw [mantissa, dyadic]
    intro same
    have whole : k = k / n * n := by
      have quotient := mul_right_cancel₀ unit.ne' same
      rw [div_eq_iff positive.ne'] at quotient
      exact_mod_cast quotient
    have rest : k % n = 0 := by
      have parts := Nat.div_add_mod' k n
      omega
    rw [rest]
    exact ⟨rfl, rfl⟩

/-- A quotient of mantissas, of which the first is shifted so that the exponent becomes `t`. -/
theorem dyadic_div (hn : n ≠ 0) {t : Int} {s : Nat} (hs : e - f = t + s) :
    dyadic m e / dyadic n f = ((m * 2 ^ s : Nat) : ℚ) / n * 2 ^ t := by
  have positive : (n : ℚ) ≠ 0 := by exact_mod_cast hn
  have exponent : (2 : ℚ) ^ e = 2 ^ t * 2 ^ s * 2 ^ f := by
    rw [← zpow_natCast, ← zpow_add₀ (by norm_num), ← zpow_add₀ (by norm_num), ← hs,
      Int.sub_add_cancel]
  have unit : (2 : ℚ) ^ f ≠ 0 := zpow_ne_zero _ (by norm_num)
  unfold dyadic
  rw [exponent]
  push_cast
  field_simp

/-- Shifted by 53 bits more than the divisor is longer, a mantissa has a quotient of full length. -/
theorem le_log2_div (hm : m ≠ 0) (hn : n ≠ 0) {s : Nat} (digits : n.log2 + 53 ≤ m.log2 + s) :
    52 ≤ (m * 2 ^ s / n).log2 := by
  refine le_log2_of_hiddenBit_le ((Nat.le_div_iff_mul_le (Nat.pos_of_ne_zero hn)).2 ?_)
  calc hiddenBit * n ≤ 2 ^ 52 * 2 ^ (n.log2 + 1) :=
        Nat.mul_le_mul_left _ (Nat.le_of_lt Nat.lt_log2_self)
    _ = 2 ^ (n.log2 + 53) := by rw [← Nat.pow_add, Nat.add_comm 52, Nat.add_assoc]
    _ ≤ 2 ^ (m.log2 + s) := Nat.pow_le_pow_right (by decide) digits
    _ = 2 ^ m.log2 * 2 ^ s := Nat.pow_add ..
    _ ≤ m * 2 ^ s := Nat.mul_le_mul_right _ (Nat.log2_self_le hm)

theorem div_spec (hn : n ≠ 0) (e f : Int) :
    ∃ k g, Canonical k g ∧ Rounds (dyadic m e / dyadic n f) (dyadic k g) ∧
      UnpackedFloat.div Format.binary64 (unpacked m e) (unpacked n f) = unpacked k g := by
  by_cases hm : m = 0
  · subst hm
    rw [dyadic_zero, zero_div]
    refine ⟨0, -1074, canonical_zero, dyadic_zero _ ▸ .refl _, ?_⟩
    rw [unpacked_zero, unpacked_of_ne_zero hn]
    rfl
  obtain ⟨t, ht⟩ : ∃ t, t = min (e - f)
      (Format.binary64.targetExponent (totalExponent m e - totalExponent n f)) := ⟨_, rfl⟩
  obtain ⟨s, hs⟩ : ∃ s : Nat, e - f = t + s := ⟨(e - f - t).toNat, by omega⟩
  have start := approximates_quotient (k := m * 2 ^ s) hn t
  rw [← dyadic_div hn hs] at start
  -- the quotient is long enough as soon as it is not one at the bottom of the range
  have enough : 52 ≤ (m * 2 ^ s / n).log2 ∨ t ≤ -1074 := by
    have target : Format.binary64.targetExponent (totalExponent m e - totalExponent n f) =
        max ((m.log2 : Int) + e - (n.log2 + f) - 53) (-1074) := by
      simp only [Format.targetExponent, totalExponent, Format.mantissaBits, Format.minExponent]
      norm_num
      omega
    by_cases bottom : t ≤ -1074
    · exact .inr bottom
    · exact .inl (le_log2_div hm hn (by omega))
  obtain ⟨k, g, canonical, rounds, value⟩ := roundWithAccuracy_spec start enough
  refine ⟨k, g, canonical, rounds, ?_⟩
  have shift : (e - f - t).toNat = s := by omega
  have core : divCore Format.binary64 m e n f =
      (m * 2 ^ s / n, t, accuracyOfFraction (m * 2 ^ s % n) n) := by
    rw [divCore, ← ht, shift, Nat.shiftLeft_eq]
  rw [← value, unpacked_of_ne_zero hm, unpacked_of_ne_zero hn, UnpackedFloat.div, core]
  rfl

end Operations

/-! ### Doubles -/

theorem unpack_ofModel {m : Nat} {e : Int} (hx : Canonical m e) (he : e ≤ 971) :
    (Float.ofModel (.pack (unpacked m e))).toModel.unpack = unpacked m e := unpack_pack hx he

/-- Doubles of one value, if it is not too large. -/
theorem denotes_of_eq_unpacked {m : Nat} {e : Int} {u : UnpackedFloat}
    (h : Canonical m e ∧ Rounds q (dyadic m e) ∧ u = unpacked m e) (small : q ≤ 2 ^ 99) :
    Denotes (.ofModel (.pack u)) (dyadic m e) ∧ Rounds q (dyadic m e) := by
  obtain ⟨canonical, rounds, rfl⟩ := h
  exact ⟨denotes_of_rounds canonical rounds small, rounds⟩

theorem Denotes.add (hx : Denotes x p) (hy : Denotes y q) (small : p + q ≤ 2 ^ 99) :
    ∃ r, Denotes (x + y) r ∧ Rounds (p + q) r := by
  obtain ⟨m, e, canonical, he, rfl, rfl⟩ := hx
  obtain ⟨n, f, canonical', hf, rfl, rfl⟩ := hy
  obtain ⟨k, g, sum⟩ := add_spec canonical canonical'
  rw [← unpack_ofModel canonical he, ← unpack_ofModel canonical' hf] at sum
  exact ⟨dyadic k g, denotes_of_eq_unpacked sum small⟩

theorem Denotes.mul (hx : Denotes x p) (hy : Denotes y q) (small : p * q ≤ 2 ^ 99) :
    ∃ r, Denotes (x * y) r ∧ Rounds (p * q) r := by
  obtain ⟨m, e, canonical, he, rfl, rfl⟩ := hx
  obtain ⟨n, f, canonical', hf, rfl, rfl⟩ := hy
  obtain ⟨k, g, product⟩ := mul_spec canonical canonical'
  rw [← unpack_ofModel canonical he, ← unpack_ofModel canonical' hf] at product
  exact ⟨dyadic k g, denotes_of_eq_unpacked product small⟩

theorem Denotes.div (hx : Denotes x p) (hy : Denotes y q) (hq : q ≠ 0) (small : p / q ≤ 2 ^ 99) :
    ∃ r, Denotes (x / y) r ∧ Rounds (p / q) r := by
  obtain ⟨m, e, canonical, he, rfl, rfl⟩ := hx
  obtain ⟨n, f, canonical', hf, rfl, rfl⟩ := hy
  have hn : n ≠ 0 := by
    rintro rfl
    exact hq (dyadic_zero f)
  obtain ⟨k, g, quotient⟩ := div_spec (m := m) hn e f
  rw [← unpack_ofModel canonical he, ← unpack_ofModel canonical' hf] at quotient
  exact ⟨dyadic k g, denotes_of_eq_unpacked quotient small⟩

/-- A whole number as a double. -/
theorem denotes_toFloat (n : UInt64) : ∃ r, Denotes n.toFloat r ∧ Rounds (n.toNat : ℚ) r := by
  have small : (n.toNat : ℚ) ≤ 2 ^ 99 := by
    have less : n.toNat ≤ 2 ^ 64 := Nat.le_of_lt n.toNat_lt
    have cast : (n.toNat : ℚ) ≤ 2 ^ 64 := by exact_mod_cast less
    exact cast.trans (by norm_num)
  have value : dyadic n.toNat 0 = n.toNat := by rw [dyadic, zpow_zero, mul_one]
  obtain ⟨k, g, whole⟩ : ∃ k g, Canonical k g ∧ Rounds (n.toNat : ℚ) (dyadic k g) ∧
      UnpackedFloat.ofUInt64 Format.binary64 n = unpacked k g := by
    rw [← value]
    by_cases zero : n.toNat = 0
    · refine ⟨0, -1074, canonical_zero, ?_, ?_⟩
      · rw [zero, dyadic_zero, dyadic_zero]
        exact .refl 0
      · rw [UnpackedFloat.ofUInt64, zero]
        rfl
    · exact normalize_spec (Nat.pos_of_ne_zero zero) 0
  exact ⟨dyadic k g, denotes_of_eq_unpacked whole small⟩

theorem Denotes.eq_of_representable {r : ℚ} (h : Denotes x r ∧ Rounds q r)
    (exact' : Representable q) : Denotes x q :=
  h.2.eq_self exact' ▸ h.1

theorem denotes_one : Denotes 1.0 1 := by
  refine ⟨hiddenBit, -52, ⟨by decide, by decide, fun _ => Nat.le_refl _⟩, by decide, ?_, ?_⟩
  · unfold dyadic hiddenBit
    norm_num
  · decide +kernel

/-- A whole number that is not too large is a double. -/
theorem denotes_natCast {n : Nat} (short : n < exactLimit) : Denotes n.toFloat n := by
  have small : n.toUInt64.toNat = n := by
    rw [Nat.toUInt64, UInt64.toNat_ofNat']
    exact Nat.mod_eq_of_lt (Nat.lt_trans short (by decide))
  have fast : n.toFloat = n.toUInt64.toFloat * Float.ofBits 0x3FF0000000000000 :=
    dif_pos ⟨short, by decide⟩
  have one : Float.ofBits 0x3FF0000000000000 = 1.0 := by decide +kernel
  have whole : Representable n := representable_natCast short
  obtain ⟨r, cast⟩ := denotes_toFloat n.toUInt64
  rw [small] at cast
  have cast := Denotes.eq_of_representable cast whole
  have bound : (n : ℚ) * 1 ≤ 2 ^ 99 := by
    have less : (n : ℚ) ≤ 2 ^ 53 := by exact_mod_cast Nat.le_of_lt short
    rw [mul_one]
    exact less.trans (by norm_num)
  obtain ⟨r, product⟩ := cast.mul denotes_one bound
  rw [mul_one] at product
  rw [fast, one]
  exact Denotes.eq_of_representable product whole

end Decimal

namespace Duration

open Decimal

variable {d : Duration}

def nanoseconds (d : Duration) : Nat := d.seconds.toNat * 1000000000 + d.nanos

theorem denotes_billion : Denotes 1000000000.0 1000000000 := by
  refine ⟨1000000000 * 2 ^ 23, -23, ⟨by decide, by decide, fun _ => by decide⟩, by decide, ?_, ?_⟩
  · unfold dyadic
    norm_num
  · decide +kernel

/-- How a length becomes a double: its whole seconds, what is left of a second, and their sum are
rounded. -/
structure Turns (d : Duration) (s f t : ℚ) : Prop where
  whole : Rounds (d.seconds.toNat : ℚ) s
  fraction : Rounds ((d.nanos : ℚ) / 1000000000) f
  denotes : Denotes d.inSeconds t
  sum : Rounds (s + f) t

namespace Turns

variable {s f t : ℚ} {b : Nat}

theorem fraction_le_one (h : d.Turns s f t) : f ≤ 1 := by
  refine h.fraction.above 1 denotes_one.representable ?_
  rw [div_le_one (by norm_num)]
  exact_mod_cast Nat.le_of_lt d.nanos_lt

theorem fraction_nonneg (h : d.Turns s f t) : 0 ≤ f := by
  refine h.fraction.below 0 ?_ (by positivity)
  exact_mod_cast representable_natCast (n := 0) (by decide)

/-- Up to a whole number of seconds, whatever is left of a second. -/
theorem le_of_seconds_lt (h : d.Turns s f t) (short : b < hiddenBit)
    (less : d.seconds.toNat < b) : t ≤ b := by
  have below : s ≤ (b - 1 : Nat) := by
    refine h.whole.above _ (representable_natCast (by omega)) ?_
    exact_mod_cast Nat.le_sub_one_of_lt less
  rw [Nat.cast_sub (Nat.one_le_of_lt less)] at below
  push_cast at below
  refine h.sum.above _ (representable_natCast (by omega)) ?_
  linarith [h.fraction_le_one]

/-- Beyond a whole number of seconds, even without anything left of a second. -/
theorem lt_of_lt_seconds (h : d.Turns s f t) (short : b < hiddenBit)
    (more : b < d.seconds.toNat) : (b : ℚ) < t := by
  have next : Representable ((b + 1 : Nat) : ℚ) := representable_natCast (by
    unfold hiddenBit at *
    omega)
  have above : ((b + 1 : Nat) : ℚ) ≤ s := h.whole.below _ next (by exact_mod_cast more)
  have later := h.sum.below _ next (by linarith [h.fraction_nonneg])
  push_cast at later
  linarith

theorem whole_eq (h : d.Turns s f t) (short : d.seconds.toNat < hiddenBit) :
    s = d.seconds.toNat :=
  h.whole.eq_self (representable_natCast (by omega))

theorem eq_seconds (h : d.Turns s f t) (short : d.seconds.toNat < hiddenBit)
    (none : d.nanos = 0) : t = d.seconds.toNat := by
  have sum := h.sum
  have fraction := h.fraction
  rw [none, Nat.cast_zero, zero_div] at fraction
  have zero : f = 0 := by
    refine fraction.eq_self ?_
    exact_mod_cast representable_natCast (n := 0) (by decide)
  rw [zero, add_zero, h.whole_eq short] at sum
  exact sum.eq_self (representable_natCast (by omega))

/-- However little is left of a second, it is seen beside a number of seconds that is not large. -/
theorem seconds_lt (h : d.Turns s f t) (short : d.seconds.toNat < 2 ^ 20)
    (some_left : d.nanos ≠ 0) : (d.seconds.toNat : ℚ) < t := by
  have little : (2 : ℚ) ^ (-30 : Int) ≤ f := by
    refine h.fraction.below _ (representable_zpow (by decide)) ?_
    have least : (1 : ℚ) ≤ d.nanos := by exact_mod_cast Nat.pos_of_ne_zero some_left
    rw [le_div_iff₀ (by norm_num)]
    exact le_trans (by norm_num) least
  have beyond := representable_dyadic (m := d.seconds.toNat * 2 ^ 30 + 1) (e := -30)
    (by unfold hiddenBit; omega) (by decide)
  have value : dyadic (d.seconds.toNat * 2 ^ 30 + 1) (-30) =
      d.seconds.toNat + (2 : ℚ) ^ (-30 : Int) := by
    unfold dyadic
    push_cast
    rw [add_mul, mul_assoc, one_mul]
    norm_num
  have whole := h.whole_eq (Nat.lt_trans short (by decide))
  rw [value] at beyond
  have above := h.sum.below _ beyond (by linarith)
  have positive : (0 : ℚ) < 2 ^ (-30 : Int) := zpow_pos (by norm_num) _
  linarith

end Turns

theorem exists_turns (d : Duration) : ∃ s f t, d.Turns s f t := by
  obtain ⟨s, seconds, whole⟩ := denotes_toFloat d.seconds
  have few : d.nanos < exactLimit := Nat.lt_trans d.nanos_lt (by decide)
  have part : (d.nanos : ℚ) / 1000000000 ≤ 1 := by
    rw [div_le_one (by norm_num)]
    exact_mod_cast Nat.le_of_lt d.nanos_lt
  obtain ⟨f, nanos, fraction⟩ := (denotes_natCast few).div denotes_billion (by norm_num)
    (part.trans (by norm_num))
  have one : f ≤ 1 := fraction.above 1 denotes_one.representable part
  have limit : s ≤ 2 ^ 64 := by
    have less : d.seconds.toNat ≤ 2 ^ 64 := Nat.le_of_lt d.seconds.toNat_lt
    exact whole.above _ (representable_zpow (e := 64) (by decide)) (by exact_mod_cast less)
  have small : s + f ≤ 2 ^ 99 := (add_le_add limit one).trans (by norm_num)
  obtain ⟨t, sum, rounds⟩ := seconds.add nanos small
  exact ⟨s, f, t, whole, fraction, sum, rounds⟩

/-- The double of a length lies on the same side of a whole number of seconds as the length. -/
theorem atMost_inSeconds_iff {b : Nat} (few : b < 2 ^ 20) :
    atMost d.inSeconds b.toFloat = true ↔ d.nanoseconds ≤ b * 1000000000 := by
  obtain ⟨s, f, t, turns⟩ := d.exists_turns
  have bound : Denotes b.toFloat b := denotes_natCast (Nat.lt_trans few (by decide))
  have short : b < hiddenBit := Nat.lt_trans few (by decide)
  have nanos := d.nanos_lt
  rw [turns.denotes.atMost_iff bound, nanoseconds]
  rcases Nat.lt_trichotomy d.seconds.toNat b with less | same | more
  · exact iff_of_true (turns.le_of_seconds_lt short less) (by omega)
  · subst same
    by_cases none : d.nanos = 0
    · exact iff_of_true (turns.eq_seconds short none).le (by omega)
    · exact iff_of_false (not_le.2 (turns.seconds_lt few none)) (by omega)
  · exact iff_of_false (not_le.2 (turns.lt_of_lt_seconds short more)) (by omega)

end Duration

end WorkerTelemetry
