import WorkerTelemetry.Decimal.Layout

/-!
Points in time, in milliseconds since the start of 1970, and their text in universal time. The
calendar is the proleptic Gregorian one.
-/

namespace WorkerTelemetry.Log

/-- Milliseconds since the start of 1970. -/
structure Timestamp where
  millis : Nat
  deriving DecidableEq, Repr, Inhabited

structure Date where
  year : Nat
  month : Nat
  day : Nat
  deriving DecidableEq, Repr

/-- The date this many days after the first day of 1970. Years are counted from March, so that the
leap day comes last, and in cycles of 400 years. -/
def Date.ofDays (days : Nat) : Date :=
  let shifted := days + 719468
  let era := shifted / 146097
  let dayOfEra := shifted % 146097
  let yearOfEra := (dayOfEra - dayOfEra / 1460 + dayOfEra / 36524 - dayOfEra / 146096) / 365
  let dayOfYear := dayOfEra - (365 * yearOfEra + yearOfEra / 4 - yearOfEra / 100)
  let monthFromMarch := (5 * dayOfYear + 2) / 153
  let day := dayOfYear - (153 * monthFromMarch + 2) / 5 + 1
  let month := if monthFromMarch < 10 then monthFromMarch + 3 else monthFromMarch - 9
  ⟨yearOfEra + era * 400 + (if month ≤ 2 then 1 else 0), month, day⟩

def padded (width n : Nat) : List Char :=
  let digits := Decimal.digitChars n
  List.replicate (width - digits.length) '0' ++ digits

/-- The text of a point in time, to the millisecond. -/
def Timestamp.toText (t : Timestamp) : String :=
  let seconds := t.millis / 1000
  let date := Date.ofDays (seconds / 86400)
  let ofDay := seconds % 86400
  String.ofList (padded 4 date.year ++ '-' :: padded 2 date.month ++ '-' :: padded 2 date.day ++
    'T' :: padded 2 (ofDay / 3600) ++ ':' :: padded 2 (ofDay / 60 % 60) ++
    ':' :: padded 2 (ofDay % 60) ++ '.' :: padded 3 (t.millis % 1000) ++ ['Z'])

example : Timestamp.toText ⟨0⟩ = "1970-01-01T00:00:00.000Z" := by decide +kernel
example : Timestamp.toText ⟨951782399999⟩ = "2000-02-28T23:59:59.999Z" := by decide +kernel
example : Timestamp.toText ⟨1709164800000⟩ = "2024-02-29T00:00:00.000Z" := by decide +kernel

end WorkerTelemetry.Log
