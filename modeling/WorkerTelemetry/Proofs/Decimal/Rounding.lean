import Mathlib
import WorkerTelemetry.Proofs.Decimal.Enclosing

/-!
Rounding to doubles. Where a number lies between two doubles that follow one another, rounding takes
one of them, and a double rounds to itself. So no double lies between a number and what it is
rounded to. Main statements: this for sums, products and quotients, as they are computed on
mantissas and exponents, and that the bits of a double tell its mantissa and its exponent.
-/

namespace WorkerTelemetry.Decimal

open Float.Model Float.Model.UnpackedFloat

/-! ### Neighbours -/

namespace Canonical

variable {m n : Nat} {e f : Int}

theorem dyadic_add (n : Nat) (e : Int) (k : Nat) : dyadic n (e + k) = dyadic (n * 2 ^ k) e := by
  unfold dyadic
  rw [zpow_add₀ (by norm_num), zpow_natCast]
  push_cast
  ring

/-- Between a mantissa and the next there is no double. -/
theorem le_of_lt_succ (hx : Canonical m e) (hy : Canonical n f)
    (lt : dyadic n f < dyadic (m + 1) e) : dyadic n f ≤ dyadic m e := by
  rcases lt_or_ge f e with less | more
  · exact (hy.dyadic_lt hx less).le
  · obtain ⟨k, rfl⟩ : ∃ k : Nat, f = e + k := ⟨(f - e).toNat, by omega⟩
    have t : (0 : ℚ) < 2 ^ e := zpow_pos (by norm_num) e
    rw [dyadic_add] at lt ⊢
    unfold dyadic at lt ⊢
    have whole : n * 2 ^ k < m + 1 := by exact_mod_cast lt_of_mul_lt_mul_right lt t.le
    have cast : ((n * 2 ^ k : Nat) : ℚ) ≤ m := by exact_mod_cast Nat.le_of_lt_succ whole
    exact mul_le_mul_of_nonneg_right cast t.le

end Canonical

/-- What the doubles stand for; there is no largest one here. -/
def Representable (q : ℚ) : Prop := ∃ m e, Canonical m e ∧ q = dyadic m e

/-- No double lies between a number and what it is rounded to. -/
structure Rounds (q r : ℚ) : Prop where
  below : ∀ s, Representable s → s ≤ q → s ≤ r
  above : ∀ s, Representable s → q ≤ s → r ≤ s

theorem Rounds.eq_self {q r : ℚ} (h : Rounds q r) (exact' : Representable q) : r = q :=
  le_antisymm (h.above q exact' le_rfl) (h.below q exact' le_rfl)

/-- A short mantissa stands for a double, which may have to be written with a longer one. -/
theorem representable_dyadic {m : Nat} {e : Int} (short : m < 2 * hiddenBit) (he : -1074 ≤ e) :
    Representable (dyadic m e) := by
  obtain ⟨k, rfl⟩ : ∃ k : Nat, e = -1074 + k := ⟨(e + 1074).toNat, by omega⟩
  induction k generalizing m with
  | zero => exact ⟨m, _, ⟨he, short, fun above => by omega⟩, rfl⟩
  | succ k ih =>
    by_cases full : hiddenBit ≤ m
    · exact ⟨m, _, ⟨he, short, fun _ => full⟩, rfl⟩
    · have longer := ih (m := m * 2 ^ 1) (by omega) (by omega)
      rw [← Canonical.dyadic_add] at longer
      have exponent : (-1074 : Int) + k + (1 : Nat) = -1074 + (k + 1 : Nat) := by omega
      rwa [exponent] at longer

theorem representable_natCast {n : Nat} (short : n < 2 * hiddenBit) : Representable n := by
  have whole := representable_dyadic (e := 0) short (by decide)
  rwa [dyadic, zpow_zero, mul_one] at whole

theorem representable_zpow {e : Int} (he : -1074 ≤ e) : Representable (2 ^ e) := by
  have power := representable_dyadic (m := 1) (by decide) he
  rwa [dyadic, Nat.cast_one, one_mul] at power

/-! ### Mantissas with what was cut off -/

/-- A mantissa that was cut off, with two bits that say what was cut off. -/
structure Approximates (em : ExtendedMantissa) (e : Int) (q : ℚ) : Prop where
  below : dyadic em.mantissa e ≤ q
  above : q < dyadic (em.mantissa + 1) e
  whole : q = dyadic em.mantissa e → em.roundBit = false ∧ em.stickyBit = false

namespace Approximates

variable {em : ExtendedMantissa} {e : Int} {q : ℚ}

theorem shiftRightOne (h : Approximates em e q) : Approximates em.shiftRightOne (e + 1) q := by
  have t : (0 : ℚ) < 2 ^ e := zpow_pos (by norm_num) e
  have halves : em.mantissa = em.mantissa / 2 * 2 + em.mantissa % 2 := by omega
  have low : em.mantissa / 2 * 2 ≤ em.mantissa := by omega
  have high : em.mantissa + 1 ≤ (em.mantissa / 2 + 1) * 2 := by omega
  have mono {a b : Nat} (hab : a ≤ b) : dyadic a e ≤ dyadic b e :=
    mul_le_mul_of_nonneg_right (by exact_mod_cast hab) t.le
  have twice (a : Nat) : dyadic a (e + 1) = dyadic (a * 2) e := Canonical.dyadic_add a e 1
  refine ⟨?_, ?_, ?_⟩
  · exact (twice _).trans_le ((mono low).trans h.below)
  · exact (h.above.trans_le (mono high)).trans_eq (twice _).symm
  · intro same
    have exact' : q = dyadic em.mantissa e :=
      le_antisymm ((same.trans (twice _)).trans_le (mono low)) h.below
    have even : em.mantissa / 2 * 2 = em.mantissa := by
      have equal : dyadic (em.mantissa / 2 * 2) e = dyadic em.mantissa e :=
        (twice _).symm.trans (same.symm.trans exact')
      exact_mod_cast mul_right_cancel₀ t.ne' equal
    obtain ⟨roundBit, stickyBit⟩ := h.whole exact'
    have bit : em.mantissa % 2 = 0 := by omega
    simp [ExtendedMantissa.shiftRightOne, roundBit, stickyBit, bit]

theorem shiftRight (h : Approximates em e q) (k : Nat) : Approximates (em >>> k) (e + k) q := by
  induction k with
  | zero =>
    rw [Int.natCast_zero, Int.add_zero]
    exact h
  | succ k ih =>
    have next := ih.shiftRightOne
    rw [Int.add_assoc] at next
    exact next

/-- What was cut off is rounded down or up. -/
theorem roundedMantissa_bounds (em : ExtendedMantissa) :
    em.mantissa ≤ em.roundedMantissa ∧ em.roundedMantissa ≤ em.mantissa + 1 := by
  obtain ⟨m, roundBit, stickyBit⟩ := em
  cases roundBit <;> cases stickyBit <;>
    simp [ExtendedMantissa.roundedMantissa, ExtendedMantissa.accuracy,
      Accuracy.roundToNearestEven]
  omega

theorem rounds (h : Approximates em e q) (hx : Canonical em.mantissa e) :
    Rounds q (dyadic em.roundedMantissa e) := by
  have t : (0 : ℚ) < 2 ^ e := zpow_pos (by norm_num) e
  have mono {a b : Nat} (hab : a ≤ b) : dyadic a e ≤ dyadic b e :=
    mul_le_mul_of_nonneg_right (by exact_mod_cast hab) t.le
  obtain ⟨down, up⟩ := roundedMantissa_bounds em
  have kept (bits : em.roundBit = false ∧ em.stickyBit = false) :
      em.roundedMantissa = em.mantissa := by
    obtain ⟨m, roundBit, stickyBit⟩ := em
    obtain ⟨rfl, rfl⟩ : roundBit = false ∧ stickyBit = false := bits
    rfl
  refine ⟨?_, ?_⟩
  · rintro s ⟨n, f, hy, rfl⟩ below
    exact (hx.le_of_lt_succ hy (below.trans_lt h.above)).trans (mono down)
  · rintro s ⟨n, f, hy, rfl⟩ above
    rcases eq_or_lt_of_le h.below with same | less
    · rw [kept (h.whole same.symm), same]
      exact above
    · refine le_trans (mono up) (not_lt.1 fun lt => ?_)
      exact absurd (hx.le_of_lt_succ hy lt) (not_le.2 (less.trans_le above))

end Approximates

theorem mantissa_ofMantissaAndAccuracy (m : Nat) (accuracy : Accuracy) :
    (ExtendedMantissa.ofMantissaAndAccuracy m accuracy).mantissa = m := by
  cases accuracy with
  | exact => rfl
  | inexact o => cases o <;> rfl

theorem mantissa_shiftRight (em : ExtendedMantissa) (k : Nat) :
    (em >>> k).mantissa = em.mantissa / 2 ^ k := by
  induction k with
  | zero => exact (Nat.div_one _).symm
  | succ k ih =>
    have next : (em >>> (k + 1)).mantissa = (em >>> k).mantissa / 2 := rfl
    rw [next, ih, Nat.div_div_eq_div_mul, Nat.pow_succ]

/-! ### Rounding -/

section Round

variable {m : Nat} {e : Int} {q : ℚ} {accuracy : Accuracy}

/-- The exponent that a mantissa is rounded to. -/
theorem targetExponent_eq (m : Nat) (e : Int) :
    Format.binary64.targetExponent (totalExponent m e) = max (m.log2 + e - 52) (-1074) := by
  simp only [Format.targetExponent, totalExponent, Format.mantissaBits, Format.minExponent]
  norm_num
  omega

/-- A mantissa that is long enough is cut off to that of a double. -/
theorem canonical_shift (enough : 52 ≤ m.log2 ∨ e ≤ -1074) {k : Nat}
    (hk : e + k = max (m.log2 + e - 52) (-1074)) : Canonical (m / 2 ^ k) (e + k) := by
  have long : m.log2 ≤ 52 + k := by omega
  refine ⟨by omega, ?_, fun above => ?_⟩
  · refine (Nat.div_lt_iff_lt_mul (Nat.two_pow_pos k)).2 ?_
    calc m < 2 ^ (m.log2 + 1) := Nat.lt_log2_self
      _ ≤ 2 ^ (53 + k) := Nat.pow_le_pow_right (by decide) (by omega)
      _ = 2 * hiddenBit * 2 ^ k := Nat.pow_add 2 53 k
  · have all : m.log2 = 52 + k := by omega
    have some_bit : m ≠ 0 := by
      rintro rfl
      rw [Nat.log2_zero] at all
      omega
    refine (Nat.le_div_iff_mul_le (Nat.two_pow_pos k)).2 ?_
    calc hiddenBit * 2 ^ k = 2 ^ (52 + k) := (Nat.pow_add 2 52 k).symm
      _ = 2 ^ m.log2 := by rw [all]
      _ ≤ m := Nat.log2_self_le some_bit

/-- A double as it is computed with; there is only one zero. -/
def unpacked (m : Nat) (e : Int) : UnpackedFloat :=
  if h : m = 0 then .zero .positive else .finite .positive m e (Nat.pos_of_ne_zero h)

theorem shift_of_short (short : m < 2 * hiddenBit) (he : -1074 ≤ e) :
    shiftToTargetExponent Format.binary64 m e .exact = (⟨m, false, false⟩, e) := by
  have log : m.log2 ≤ 52 := by
    by_cases zero : m = 0
    · rw [zero, Nat.log2_zero]
      exact Nat.zero_le _
    · exact Nat.le_of_lt_succ ((Nat.log2_lt zero).2 short)
  have none : (Format.binary64.targetExponent (totalExponent m e) - e).toNat = 0 := by
    rw [targetExponent_eq]
    omega
  rw [shiftToTargetExponent, shiftToExponent, none]
  exact congrArg (Prod.mk _) (Int.add_zero e)

/-- A mantissa that has become too long by rounding is a power of two. -/
theorem shift_of_long (he : -1074 ≤ e) :
    shiftToTargetExponent Format.binary64 (2 * hiddenBit) e .exact =
      (⟨hiddenBit, false, false⟩, e + 1) := by
  have log : (2 * hiddenBit).log2 = 53 := by decide +kernel
  have one : (Format.binary64.targetExponent (totalExponent (2 * hiddenBit) e) - e).toNat = 1 := by
    rw [targetExponent_eq, log]
    omega
  rw [shiftToTargetExponent, shiftToExponent, one]
  rfl

/-- What a mantissa is rounded to, with what was cut off from it before. -/
theorem roundWithAccuracy_spec
    (start : Approximates (ExtendedMantissa.ofMantissaAndAccuracy m accuracy) e q)
    (enough : 52 ≤ m.log2 ∨ e ≤ -1074) :
    ∃ n f, Canonical n f ∧ Rounds q (dyadic n f) ∧
      roundWithAccuracy Format.binary64 .positive m e accuracy = unpacked n f := by
  obtain ⟨k, hk⟩ : ∃ k : Nat, k = (Format.binary64.targetExponent (totalExponent m e) - e).toNat :=
    ⟨_, rfl⟩
  have target : e + k = max (m.log2 + e - 52) (-1074) := by
    rw [hk, targetExponent_eq]
    omega
  have shifted := start.shiftRight k
  have first : shiftToTargetExponent Format.binary64 m e accuracy =
      (ExtendedMantissa.ofMantissaAndAccuracy m accuracy >>> k, e + k) := by
    rw [shiftToTargetExponent, shiftToExponent, ← hk]
  have mantissa :
      (ExtendedMantissa.ofMantissaAndAccuracy m accuracy >>> k).mantissa = m / 2 ^ k := by
    rw [mantissa_shiftRight, mantissa_ofMantissaAndAccuracy]
  have canonical := canonical_shift enough target
  rw [← mantissa] at canonical
  rw [roundWithAccuracy, first]
  generalize ExtendedMantissa.ofMantissaAndAccuracy m accuracy >>> k = em at shifted canonical
  generalize e + (k : Int) = t at shifted canonical
  have rounds := shifted.rounds canonical
  obtain ⟨down, up⟩ := Approximates.roundedMantissa_bounds em
  dsimp only
  generalize em.roundedMantissa = r at rounds down up
  by_cases short : r < 2 * hiddenBit
  · refine ⟨r, t, ⟨canonical.bottom, short, fun above => ?_⟩, rounds, ?_⟩
    · exact Nat.le_trans (canonical.full above) down
    · rw [shift_of_short short canonical.bottom]
      rfl
  · have long : r = 2 * hiddenBit := by
      have shorter := canonical.short
      omega
    subst long
    have next : dyadic hiddenBit (t + 1) = dyadic (2 * hiddenBit) t := by
      rw [Nat.mul_comm 2 hiddenBit]
      exact Canonical.dyadic_add hiddenBit t 1
    refine ⟨hiddenBit, t + 1, ⟨?_, by decide, fun _ => Nat.le_refl _⟩, next ▸ rounds, ?_⟩
    · have bottom := canonical.bottom
      omega
    · rw [shift_of_long canonical.bottom]
      rfl

/-- An exact number is one where nothing was cut off. -/
theorem approximates_exact (m : Nat) (e : Int) :
    Approximates (ExtendedMantissa.ofMantissaAndAccuracy m .exact) e (dyadic m e) := by
  have t : (0 : ℚ) < 2 ^ e := zpow_pos (by norm_num) e
  refine ⟨le_rfl, ?_, fun _ => ⟨rfl, rfl⟩⟩
  exact mul_lt_mul_of_pos_right (by exact_mod_cast Nat.lt_succ_self m) t

/-- What a number is rounded to, which may be given with a short mantissa. -/
theorem round_spec (hm : 0 < m) (e : Int) :
    ∃ n f, Canonical n f ∧ Rounds (dyadic m e) (dyadic n f) ∧
      UnpackedFloat.round Format.binary64 .positive m e = unpacked n f := by
  obtain ⟨k, hk⟩ : ∃ k : Nat, k = (e - Format.binary64.targetExponent (totalExponent m e)).toNat :=
    ⟨_, rfl⟩
  have log : (m * 2 ^ k).log2 = m.log2 + k := by
    refine (Nat.log2_eq_iff (Nat.ne_of_gt (Nat.mul_pos hm (Nat.two_pow_pos k)))).2 ⟨?_, ?_⟩
    · rw [Nat.pow_add]
      exact Nat.mul_le_mul_right _ (Nat.log2_self_le (Nat.ne_of_gt hm))
    · rw [Nat.add_right_comm, Nat.pow_add]
      exact Nat.mul_lt_mul_of_pos_right Nat.lt_log2_self (Nat.two_pow_pos k)
  have value : dyadic (m * 2 ^ k) (e - k) = dyadic m e := by
    rw [← Canonical.dyadic_add, Int.sub_add_cancel]
  have enough : 52 ≤ (m * 2 ^ k).log2 ∨ e - k ≤ -1074 := by
    rw [targetExponent_eq] at hk
    omega
  have start := approximates_exact (m * 2 ^ k) (e - k)
  rw [value] at start
  have longer : decreaseExponent m e (Format.binary64.targetExponent (totalExponent m e)) =
      (m * 2 ^ k, e - k) := by
    rw [decreaseExponent, ← hk, Nat.shiftLeft_eq]
  rw [UnpackedFloat.round, longer]
  exact roundWithAccuracy_spec start enough

end Round

/-! ### Bits -/

section Bits

variable {m : Nat} {e : Int}

theorem toNat_packComponents (exponent : BitVec 11) (mantissa : BitVec 52) :
    (packComponents Format.binary64 .positive exponent mantissa).toNat =
      exponent.toNat * hiddenBit + mantissa.toNat := by
  have bits : packComponents Format.binary64 .positive exponent mantissa =
      0#1 ++ exponent ++ mantissa := rfl
  have low (n : Nat) : n <<< 52 ||| mantissa.toNat = n * hiddenBit + mantissa.toNat := by
    rw [← Nat.shiftLeft_add_eq_or_of_lt mantissa.isLt, Nat.shiftLeft_eq]
    rfl
  rw [bits, BitVec.toNat_append, BitVec.toNat_append, low, BitVec.toNat_zero, Nat.zero_shiftLeft,
    Nat.zero_or]

theorem pack_of_full (short : m < 2 * hiddenBit) (full : hiddenBit ≤ m) (he : -1074 ≤ e)
    (he' : e ≤ 971) :
    UnpackedFloat.pack Format.binary64 (unpacked m e) =
      packComponents Format.binary64 .positive (BitVec.ofNat 11 (e + 1075).toNat)
        (BitVec.ofNat 52 m) := by
  have some_bit : m ≠ 0 := Nat.ne_of_gt (Nat.lt_of_lt_of_le (by decide) full)
  have log : m.log2 + 1 = Format.binary64.mantissaBits :=
    congrArg (· + 1) ((Nat.log2_eq_iff some_bit).2 ⟨full, short⟩)
  have biased : (e + Format.binary64.exponentBias + Format.binary64.mantissaBitsWithoutImplicit) =
      e + 1075 := Int.add_assoc e 1023 52
  have finite : ¬ 2 ^ Format.binary64.exponentBits ≤ (e + 1075).toNat + 1 := by
    have bits : 2 ^ Format.binary64.exponentBits = 2048 := by decide
    omega
  rw [unpacked, dif_neg some_bit, UnpackedFloat.pack, biased]
  dsimp only
  rw [if_neg finite, if_pos log]

theorem pack_of_not_full (short : m < hiddenBit) :
    UnpackedFloat.pack Format.binary64 (unpacked m (-1074)) =
      packComponents Format.binary64 .positive 0#11 (BitVec.ofNat 52 m) := by
  by_cases zero : m = 0
  · rw [unpacked, dif_pos zero, zero]
    rfl
  · have log : ¬ m.log2 + 1 = Format.binary64.mantissaBits := by
      have less : m.log2 < 52 := (Nat.log2_lt zero).2 short
      have bits : Format.binary64.mantissaBits = 53 := by decide
      omega
    rw [unpacked, dif_neg zero, UnpackedFloat.pack]
    dsimp only
    rw [if_neg (by decide), if_neg log]

theorem Canonical.full_or_bottom (hx : Canonical m e) :
    hiddenBit ≤ m ∨ m < hiddenBit ∧ e = -1074 := by
  have bottom := hx.bottom
  have full := hx.full
  omega

/-- A double has the bits of its mantissa and its exponent. -/
theorem toNat_pack (hx : Canonical m e) (he : e ≤ 971) :
    ((UnpackedFloat.pack Format.binary64 (unpacked m e)).toNat : Int) =
      (e + 1074) * hiddenBit + m := by
  rcases hx.full_or_bottom with full | ⟨short, rfl⟩
  · have bottom := hx.bottom
    have short := hx.short
    rw [pack_of_full hx.short full hx.bottom he, toNat_packComponents, BitVec.toNat_ofNat,
      BitVec.toNat_ofNat]
    unfold hiddenBit at full short ⊢
    omega
  · rw [pack_of_not_full short, toNat_packComponents, BitVec.toNat_ofNat, BitVec.toNat_ofNat]
    unfold hiddenBit at short ⊢
    omega

/-- What is computed with, for the bits of a double that is neither infinite nor undefined. -/
theorem unpack_packComponents {exponent : BitVec 11} (mantissa : BitVec 52)
    (finite : exponent ≠ -1#11) :
    UnpackedFloat.unpack Format.binary64
        (packComponents Format.binary64 .positive exponent mantissa) =
      if exponent = 0#11 then unpacked mantissa.toNat (-1074)
      else unpacked (hiddenBit + mantissa.toNat) (exponent.toNat - 1075) := by
  have hidden : (1#1 ++ mantissa).toNat = hiddenBit + mantissa.toNat := by
    rw [BitVec.toNat_append, ← Nat.shiftLeft_add_eq_or_of_lt mantissa.isLt]
    rfl
  rw [UnpackedFloat.unpack]
  simp only [unpackMantissa_packComponents, unpackExponent_packComponents,
    unpackSign_packComponents, Sign.ofBitVec_toBitVec, finite, if_false, hidden]
  split
  · next bottom =>
    subst bottom
    by_cases zero : mantissa = 0#52
    · rw [dif_pos zero, unpacked, dif_pos (by rw [zero]; rfl)]
    · have some_bit : mantissa.toNat ≠ 0 := fun h => zero (BitVec.eq_of_toNat_eq h)
      rw [dif_neg zero, unpacked, dif_neg some_bit]
      rfl
  · rw [unpacked, dif_neg (Nat.ne_of_gt (Nat.lt_of_lt_of_le (by decide) (Nat.le_add_right _ _)))]
    rfl

/-- A double is computed with as what it was rounded to. -/
theorem unpack_pack (hx : Canonical m e) (he : e ≤ 971) :
    UnpackedFloat.unpack Format.binary64 (UnpackedFloat.pack Format.binary64 (unpacked m e)) =
      unpacked m e := by
  rcases hx.full_or_bottom with full | ⟨short, rfl⟩
  · have bottom := hx.bottom
    have short := hx.short
    have exponent : (BitVec.ofNat 11 (e + 1075).toNat).toNat = (e + 1075).toNat := by
      rw [BitVec.toNat_ofNat]
      omega
    have notTop : BitVec.ofNat 11 (e + 1075).toNat ≠ -1#11 := by
      intro top
      have bits := congrArg BitVec.toNat top
      rw [exponent] at bits
      have all : (-1#11).toNat = 2047 := by decide
      omega
    have notBottom : BitVec.ofNat 11 (e + 1075).toNat ≠ 0#11 := by
      intro zero
      have bits := congrArg BitVec.toNat zero
      rw [exponent, BitVec.toNat_zero] at bits
      omega
    have mantissa : hiddenBit + (BitVec.ofNat 52 m).toNat = m := by
      rw [BitVec.toNat_ofNat]
      unfold hiddenBit at full short ⊢
      omega
    have same : ((e + 1075).toNat : Int) - 1075 = e := by omega
    rw [pack_of_full short full bottom he, unpack_packComponents _ notTop, if_neg notBottom,
      exponent, mantissa, same]
  · have mantissa : (BitVec.ofNat 52 m).toNat = m := by
      rw [BitVec.toNat_ofNat]
      exact Nat.mod_eq_of_lt short
    rw [pack_of_not_full short, unpack_packComponents _ (by decide), if_pos rfl, mantissa]

end Bits

end WorkerTelemetry.Decimal
