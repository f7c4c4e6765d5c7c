import WorkerTelemetry.Decimal.Numeral
import WorkerTelemetry.Decimal.Shortest

/-!
How numbers are laid out as numerals. The digits of a double are those of its shortest decimal; a
style says when an exponent part is written and whether whole numbers keep a fraction digit.
-/

namespace WorkerTelemetry.Decimal

/-- The decisions of a number format. -/
structure Style where
  /-- Whether a number whose first digit stands for this power of ten is written without an
  exponent part. -/
  positional : Int → Bool
  /-- Whether a whole number written without an exponent part ends in `.0`. -/
  wholeFraction : Bool
  /-- Which of two equally near decimals is written. -/
  tie : Tie

def digitChars (n : Nat) : List Char := Nat.toDigits 10 n

/-- A natural number. -/
def Numeral.ofNat (n : Nat) : Numeral := ⟨false, digitChars n, [], none⟩

/-- An integer. -/
def Numeral.ofInt (n : Int) : Numeral := ⟨decide (n < 0), digitChars n.natAbs, [], none⟩

/-- The digits with a point after the first `point` of them, zeros filling up on either side. -/
def positionalNumeral (wholeFraction negative : Bool) (digits : List Char) (point : Int) :
    Numeral :=
  if point ≤ 0 then ⟨negative, ['0'], List.replicate (-point).toNat '0' ++ digits, none⟩
  else if (digits.length : Int) ≤ point then
    ⟨negative, digits ++ List.replicate (point.toNat - digits.length) '0',
      if wholeFraction then ['0'] else [], none⟩
  else ⟨negative, digits.take point.toNat, digits.drop point.toNat, none⟩

/-- One digit in front of the point and the exponent of that digit. -/
def scientificNumeral (negative : Bool) (digits : List Char) (power : Int) : Numeral :=
  ⟨negative, digits.take 1, digits.drop 1, some (decide (power < 0), digitChars power.natAbs)⟩

def decimalNumeral (style : Style) (negative : Bool) (d : Scaled) : Numeral :=
  let digits := digitChars d.digits
  let point := (digits.length : Int) + d.exponent
  if style.positional (point - 1) then
    positionalNumeral style.wholeFraction negative digits point
  else scientificNumeral negative digits (point - 1)

/-- A finite double; the sign of zero is kept. -/
def finiteNumeral (style : Style) (negative : Bool) (mantissa : Nat) (exponent : Int) : Numeral :=
  decimalNumeral style negative (shortest style.tie mantissa exponent)

/-- Plain numbers: never an exponent part, no fraction on whole numbers, ties upwards. -/
def plain : Style := ⟨fun _ => true, false, .up⟩

/-- A double as a plain number. -/
def plainText (x : Float) : String :=
  match Binary64.ofFloat x with
  | .nan => "NaN"
  | .infinite false => "inf"
  | .infinite true => "-inf"
  | .finite negative mantissa exponent => (finiteNumeral plain negative mantissa exponent).toText

/-- A count as a plain number; one that is too large for a double as the nearest double. -/
def countText (n : Nat) : String :=
  if n < exactLimit then (Numeral.ofNat n).toText
  else (finiteNumeral plain false (roundedMantissa n) (Int.ofNat (excessBits n))).toText

theorem digitChars_digits {n : Nat} : ∀ c ∈ digitChars n, c.isDigit = true :=
  fun _ hc => Nat.isDigit_of_mem_toDigits (by decide) (by decide) hc

theorem digitChars_ne_nil {n : Nat} : digitChars n ≠ [] := Nat.toDigits_ne_nil

example : plainText (-0.0) = "-0" ∧ plainText 0.1 = "0.1" := by decide +kernel
example : plainText 1e21 = "1000000000000000000000" := by decide +kernel
example : countText 0xffffffffffffffff = "18446744073709552000" := by decide +kernel

end WorkerTelemetry.Decimal
