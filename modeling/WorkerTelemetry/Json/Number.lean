import WorkerTelemetry.Decimal.Layout

/-!
JSON numbers. Whole numbers within 64 bits, signed or unsigned, are kept exactly; every other
number is a double. A double is read by a fast rule that rounds more than once: as many digits as
fit into 64 bits are taken as a whole number, the others only move the point, and the result is
scaled by one power of ten. A number too large for a double is refused.
-/

namespace WorkerTelemetry.Json

inductive Number
  | int (n : Int)
  | real (x : Float)
  deriving Inhabited

namespace Number

/-- Doubles inside JSON: positional while the first digit stands for a power of ten from -5 to 15,
whole numbers with `.0`, ties to the even digit. -/
def style : Decimal.Style := ⟨fun p => decide (-5 ≤ p) && decide (p ≤ 15), true, .toEven⟩

/-- How a number is written; a double that is not finite has no numeral. -/
def numeral? : Number → Option Decimal.Numeral
  | .int n => some (Decimal.Numeral.ofInt n)
  | .real x =>
    match Decimal.Binary64.ofFloat x with
    | .finite negative mantissa exponent =>
      some (Decimal.finiteNumeral style negative mantissa exponent)
    | _ => none

/-- The least whole number that needs more than 64 bits. -/
def wordLimit : Nat := 0x10000000000000000

/-- The greatest magnitude of a negative whole number of 64 bits. -/
def negativeLimit : Nat := 0x8000000000000000

def digitValue (c : Char) : Nat := c.toNat - 48

/-- Takes digits into a whole number as long as it fits into 64 bits; what is left is counted as
digits not taken. -/
def absorb (m : Nat) : List Char → Nat × List Char
  | [] => (m, [])
  | d :: ds =>
    let next := m * 10 + digitValue d
    if next < wordLimit then absorb next ds else (m, d :: ds)

/-- Divides by `10 ^ 308` until the exponent is within reach of one last division. -/
def scaleDown (f : Float) (k : Nat) : Float :=
  if f == 0.0 then f
  else if k ≤ 308 then f / Float.ofScientific 1 false k
  else scaleDown (f / Float.ofScientific 1 false 308) (k - 308)
termination_by k

/-- Scales a whole number by a power of ten; nothing if the result is too large. -/
def scale (m : Nat) (exponent : Int) : Option Float :=
  let f := Float.ofNat m
  if exponent < 0 then some (scaleDown f exponent.natAbs)
  else if exponent ≤ 308 then
    let x := f * Float.ofScientific 1 false exponent.toNat
    if Decimal.isFinite x then some x else none
  else if m = 0 then some f
  else none

/-- The largest exponent that is read; a longer exponent part decides on zero or refusal alone. -/
def exponentLimit : Nat := 0x7fffffff

/-- The value of an unsigned numeral as a double. -/
def realOf (n : Decimal.Numeral) : Option Float :=
  let (m, left) := absorb 0 n.whole
  let (m, unread) := absorb m n.fraction
  let exponent := Int.ofNat left.length - Int.ofNat (n.fraction.length - unread.length)
  match n.power with
  | none => scale m exponent
  | some (negative, digits) =>
    let power := Nat.ofDigitChars 10 digits 0
    if exponentLimit < power then (if m = 0 ∨ negative = true then some 0.0 else none)
    else scale m (if negative then exponent - Int.ofNat power else exponent + Int.ofNat power)

/-- Reads a numeral. Minus zero is the double. -/
def ofNumeral (n : Decimal.Numeral) : Option Number :=
  let value := Nat.ofDigitChars 10 n.whole 0
  if n.fraction = [] ∧ n.power = none ∧ n.negative = false ∧ value < wordLimit then
    some (.int (Int.ofNat value))
  else if n.fraction = [] ∧ n.power = none ∧ n.negative = true ∧ value ≠ 0 ∧
      value ≤ negativeLimit then
    some (.int (-Int.ofNat value))
  else
    (realOf n).map fun x => .real (if n.negative then -x else x)

def toFloat : Number → Float
  | .int n => if n < 0 then -(Float.ofNat n.natAbs) else Float.ofNat n.natAbs
  | .real x => x

end Number

end WorkerTelemetry.Json
