import WorkerTelemetry.Decimal.Binary64

/-!
The shortest decimal that reads back as a given double. The decimals that read back as a double
form an interval around it, half way to its neighbours on both sides; the ends belong to it exactly
when the mantissa is even. Of all decimals in the interval the one with the fewest digits is
taken, and of those the nearest; the format decides between two that are equally near. All
arithmetic is exact, on natural numbers.
-/

namespace WorkerTelemetry.Decimal

/-- A decimal number `digits · 10 ^ exponent`. -/
structure Scaled where
  digits : Nat
  exponent : Int
  deriving DecidableEq, Repr

/-- Which of two equally near neighbours is taken. -/
inductive Tie
  | toEven
  | up
  deriving DecidableEq, Repr

/-- The interval of rationals that read back as a double: its ends and the double itself, all over
one denominator. -/
structure Interval where
  low : Nat
  value : Nat
  high : Nat
  denominator : Nat
  closed : Bool
  deriving DecidableEq, Repr

/-- The interval of `mantissa · 2 ^ exponent`. Below a power of two the doubles lie twice as close,
except at the bottom of the range. -/
def Interval.around (mantissa : Nat) (exponent : Int) : Interval :=
  let below := if mantissa = hiddenBit && decide (-1074 < exponent) then 1 else 2
  let scale := Nat.pow 2 (exponent - 2).toNat
  { low := (4 * mantissa - below) * scale
    value := 4 * mantissa * scale
    high := (4 * mantissa + 2) * scale
    denominator := Nat.pow 2 (2 - exponent).toNat
    closed := mantissa % 2 == 0 }

/-- Whether `digits · 10 ^ exponent` lies in the interval. -/
def Interval.holds (i : Interval) (d : Scaled) : Bool :=
  let scaled := d.digits * Nat.pow 10 d.exponent.toNat * i.denominator
  let grow := Nat.pow 10 (-d.exponent).toNat
  if i.closed then decide (i.low * grow ≤ scaled) && decide (scaled ≤ i.high * grow)
  else decide (i.low * grow < scaled) && decide (scaled < i.high * grow)

def digitCount (n : Nat) : Nat := (Nat.toDigits 10 n).length

/-- The power of ten just above a positive rational `value / denominator`. -/
def magnitude (value denominator : Nat) : Int :=
  if denominator ≤ value then Int.ofNat (digitCount (value / denominator))
  else 1 - Int.ofNat (digitCount ((denominator - 1) / value))

/-- The decimal just below the value on the grid `10 ^ exponent`. -/
def Interval.floorOn (i : Interval) (exponent : Int) : Scaled :=
  ⟨i.value * Nat.pow 10 (-exponent).toNat / (i.denominator * Nat.pow 10 exponent.toNat), exponent⟩

/-- Whether of two neighbours on a grid the lower one is to be taken. -/
def Interval.prefersBelow (i : Interval) (tie : Tie) (d : Scaled) : Bool :=
  let twice := 2 * (i.value * Nat.pow 10 (-d.exponent).toNat)
  let middle := (2 * d.digits + 1) * (i.denominator * Nat.pow 10 d.exponent.toNat)
  decide (twice < middle) || (decide (twice = middle) && tie == .toEven && d.digits % 2 == 0)

/-- The neighbour of the value on the grid `10 ^ exponent` that lies in the interval, if any; the
nearer one if both do. -/
def Interval.onGrid (i : Interval) (tie : Tie) (exponent : Int) : Option Scaled :=
  let below := i.floorOn exponent
  let above : Scaled := ⟨below.digits + 1, exponent⟩
  match i.holds below, i.holds above with
  | true, true => some (if i.prefersBelow tie below then below else above)
  | true, false => some below
  | false, true => some above
  | false, false => none

/-- The first of ever finer grids that has a hit; `left` counts the digits still allowed. -/
def Interval.search (i : Interval) (tie : Tie) (exponent : Int) : Nat → Scaled
  | 0 => i.floorOn exponent
  | left + 1 => (i.onGrid tie exponent).getD (i.search tie (exponent - 1) left)

/-- Moves the zeros at the end of the digits into the exponent. -/
def Scaled.strip (d : Scaled) : Nat → Scaled
  | 0 => d
  | left + 1 =>
    if d.digits ≠ 0 ∧ d.digits % 10 = 0 then
      Scaled.strip ⟨d.digits / 10, d.exponent + 1⟩ left
    else d

/-- The shortest decimal that reads back as `mantissa · 2 ^ exponent`; 17 digits always suffice. -/
def shortest (tie : Tie) (mantissa : Nat) (exponent : Int) : Scaled :=
  if mantissa = 0 then ⟨0, 0⟩
  else
    let i := Interval.around mantissa exponent
    (i.search tie (magnitude i.value i.denominator - 1) 17).strip 17

example : shortest .toEven 1 (-1074) = ⟨5, -324⟩ := by decide +kernel
example : shortest .toEven 0x10000000000000 (-55) = ⟨125, -3⟩ := by decide +kernel
example : shortest .toEven 0x1fffffffffffff 971 = ⟨17976931348623157, 292⟩ := by decide +kernel
example : shortest .toEven 0x16345785d8a000 3 = ⟨5, 16⟩ := by decide +kernel
example : shortest .toEven 0x10000000000001 (-2) = ⟨11258999068426242, -1⟩ := by decide +kernel
example : shortest .up 0x10000000000001 (-2) = ⟨11258999068426243, -1⟩ := by decide +kernel

end WorkerTelemetry.Decimal
