import WorkerTelemetry.Decimal.Layout

/-!
Histograms: how many observations fell into each bucket, how many there were, and their sum. An
observation falls into the first bucket whose bound it does not exceed, so the number of
observations up to a bound is the sum over the buckets so far.
-/

namespace WorkerTelemetry.Metric

/-- A bucket: its upper bound and the observations that fell into it. -/
structure Bucket where
  bound : Float
  count : Nat := 0
  deriving Inhabited

structure Histogram where
  buckets : List Bucket
  samples : Nat := 0
  sum : Float := 0.0
  deriving Inhabited

namespace Histogram

/-- Counts an observation in the first bucket that takes it. -/
def place (x : Float) : List Bucket → List Bucket
  | [] => []
  | b :: bs => if Decimal.atMost x b.bound then { b with count := b.count + 1 } :: bs
    else b :: place x bs

/-- Adds an observation. -/
def observe (h : Histogram) (x : Float) : Histogram :=
  ⟨place x h.buckets, h.samples + 1, h.sum + x⟩

/-- Every bound with the number of observations in its bucket and those in front of it. -/
def cumulate (before : Nat) : List Bucket → List (Float × Nat)
  | [] => []
  | b :: bs => (b.bound, before + b.count) :: cumulate (before + b.count) bs

/-- Every bound with the number of observations up to it. -/
def cumulative (h : Histogram) : List (Float × Nat) := cumulate 0 h.buckets

/-- The bounds that are used if none are given. -/
def standardBounds : List Float :=
  [0.005, 0.01, 0.025, 0.05, 0.1, 0.25, 0.5, 1.0, 2.5, 5.0, 10.0]

/-- The first bound that does not lie below its successor, with this successor. -/
def disorder : List Float → Option (Float × Float)
  | x :: y :: rest => if Decimal.atMost y x then some (x, y) else disorder (y :: rest)
  | _ => none

def isTop (x : Float) : Bool := Decimal.Binary64.ofFloat x == .infinite false

/-- Bounds without a last infinite one, which every histogram has by itself. -/
def dropTop (bounds : List Float) : List Float :=
  if (bounds.getLast?.map isTop).getD false then bounds.dropLast else bounds

def ofBounds (bounds : List Float) : Histogram := { buckets := bounds.map fun x => { bound := x } }

theorem cumulate_bounds (n : Nat) (bs : List Bucket) :
    (cumulate n bs).map (·.1) = bs.map Bucket.bound := by
  induction bs generalizing n with
  | nil => rfl
  | cons b bs ih => simp [cumulate, ih]

theorem place_bounds (x : Float) (bs : List Bucket) :
    (place x bs).map Bucket.bound = bs.map Bucket.bound := by
  induction bs with
  | nil => rfl
  | cons b bs ih => by_cases h : Decimal.atMost x b.bound <;> simp [place, h, ih]

@[simp] theorem observe_samples (h : Histogram) (x : Float) :
    (h.observe x).samples = h.samples + 1 := rfl

end Histogram

end WorkerTelemetry.Metric
