/-!
What the bits of a double say: its sign, its whole mantissa and its power of two; the order of
doubles as an order of integers; and the double nearest to a whole number. Nothing here computes
with doubles, so all of it can be reasoned about in the integers.
-/

namespace WorkerTelemetry.Decimal

/-- The value of a double; a finite one is `± mantissa · 2 ^ exponent`. -/
inductive Binary64
  | nan
  | infinite (negative : Bool)
  | finite (negative : Bool) (mantissa : Nat) (exponent : Int)
  deriving DecidableEq, Repr

def signBit : Nat := 0x8000000000000000

/-- The least mantissa of a normal double; the mantissa stands in the bits below it. -/
def hiddenBit : Nat := 0x10000000000000

/-- The least whole number of which not all that are larger are doubles. -/
def exactLimit : Nat := 0x20000000000000

def Binary64.ofBits (bits : Nat) : Binary64 :=
  let negative := decide (signBit ≤ bits)
  let biased := bits / hiddenBit % 0x800
  let fraction := bits % hiddenBit
  if biased = 2047 then (if fraction = 0 then .infinite negative else .nan)
  else if biased = 0 then .finite negative fraction (-1074)
  else .finite negative (fraction + hiddenBit) (Int.ofNat biased - 1075)

/-- The value of a double. -/
def Binary64.ofFloat (x : Float) : Binary64 := Binary64.ofBits x.toBits.toNat

/-- Whether a double is neither infinite nor undefined. -/
def isFinite (x : Float) : Bool :=
  match Binary64.ofFloat x with
  | .finite .. => true
  | _ => false

/-- An integer that grows with the double; the two zeros share one and NaN has none. -/
def orderKey (x : Float) : Option Int :=
  match Binary64.ofFloat x with
  | .nan => none
  | _ =>
    let bits := x.toBits.toNat
    some (if signBit ≤ bits then -Int.ofNat (bits - signBit) else Int.ofNat bits)

/-- The order of doubles; NaN is not comparable, not even to itself. -/
def atMost (x y : Float) : Bool :=
  match orderKey x, orderKey y with
  | some a, some b => decide (a ≤ b)
  | _, _ => false

theorem atMost_trans {x y z : Float} (hxy : atMost x y = true) (hyz : atMost y z = true) :
    atMost x z = true := by
  unfold atMost at *
  cases hx : orderKey x <;> cases hy : orderKey y <;> cases hz : orderKey z <;> simp_all
  omega

/-- How many low bits a whole number has beyond the 53 that a double keeps. -/
def excessBits (n : Nat) : Nat := n.log2 - 52

/-- The mantissa of the double nearest to a whole number, a half going to the even neighbour. -/
def roundedMantissa (n : Nat) : Nat :=
  let unit := Nat.pow 2 (excessBits n)
  let q := n / unit
  let r := n % unit
  if 2 * r < unit then q else if unit < 2 * r then q + 1 else q + q % 2

/-- The double nearest to a whole number, as a whole number. -/
def nearestDouble (n : Nat) : Nat := roundedMantissa n * Nat.pow 2 (excessBits n)

theorem excessBits_eq_zero {n : Nat} (h : n < exactLimit) : excessBits n = 0 := by
  by_cases hz : n = 0
  · subst hz; decide
  · have := (Nat.log2_lt (k := 53) hz).2 h
    unfold excessBits
    omega

theorem roundedMantissa_eq_self {n : Nat} (h : n < exactLimit) : roundedMantissa n = n := by
  simp [roundedMantissa, excessBits_eq_zero h, Nat.mod_one]

theorem nearestDouble_eq_self {n : Nat} (h : n < exactLimit) : nearestDouble n = n := by
  simp [nearestDouble, roundedMantissa_eq_self h, excessBits_eq_zero h]

example : nearestDouble (exactLimit + 1) = exactLimit ∧
    nearestDouble (exactLimit + 3) = exactLimit + 4 := by
  decide +kernel
example : nearestDouble 0xffffffffffffffff = 0x10000000000000000 := by decide +kernel
example : atMost (-0.0) 0.0 = true ∧ atMost 0.0 (-0.0) = true ∧ atMost 1.0 0.5 = false := by
  decide +kernel

end WorkerTelemetry.Decimal
