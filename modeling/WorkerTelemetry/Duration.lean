import WorkerTelemetry.Decimal.Binary64

/-!
Lengths of time in seconds and nanoseconds.
-/

namespace WorkerTelemetry

/-- A length of time. -/
structure Duration where
  seconds : UInt64
  nanos : Nat := 0
  nanos_lt : nanos < 1000000000 := by decide

namespace Duration

instance : Inhabited Duration := ⟨{ seconds := 0 }⟩

/-- A length of time in seconds, as a double. -/
def inSeconds (d : Duration) : Float := d.seconds.toFloat + d.nanos.toFloat / 1000000000.0

/-- The whole milliseconds, at most the largest number of 64 bits. -/
def wholeMillis (d : Duration) : Nat :=
  min (d.seconds.toNat * 1000 + d.nanos / 1000000) 0xffffffffffffffff

end Duration

end WorkerTelemetry
