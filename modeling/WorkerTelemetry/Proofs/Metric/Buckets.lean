import WorkerTelemetry.Proofs.Decimal.Seconds
import WorkerTelemetry.Proofs.Metric.Growth
import WorkerTelemetry.Proofs.Metric.SampleLines

/-!
What the buckets of a histogram count. The bounds of the buckets ascend, so an observation is
counted up to every bound that it does not exceed. Main statements: after observations, every bound
has the number of those that do not exceed it, and lengths of time that are observed in seconds are
shown as so many that take up to each whole number of seconds.
-/

namespace WorkerTelemetry.Metric

namespace Histogram

open Decimal

variable {bs : List Bucket} {bounds : List Float} {h : Histogram} {x : Float} {xs : List Float}

/-- Bounds that lie one above the other. -/
def Ascending (bounds : List Float) : Prop := bounds.Pairwise fun x y => atMost x y = true

/-- What is counted from a bound on, where some are counted before it. -/
theorem cumulate_add (n k : Nat) (bs : List Bucket) :
    cumulate (n + k) bs = (cumulate n bs).map fun b => (b.1, b.2 + k) := by
  induction bs generalizing n with
  | nil => rfl
  | cons b bs ih =>
    rw [cumulate, cumulate, List.map_cons, ← ih, Nat.add_right_comm]

/-- An observation is counted up to every bound that it does not exceed. -/
theorem cumulate_place (ascending : Ascending (bs.map Bucket.bound)) (x : Float) (n : Nat) :
    cumulate n (place x bs) =
      (cumulate n bs).map fun b => (b.1, b.2 + if atMost x b.1 then 1 else 0) := by
  induction bs generalizing n with
  | nil => rfl
  | cons b bs ih =>
    obtain ⟨above, ascending⟩ := List.pairwise_cons.1 ascending
    rw [place]
    by_cases first : atMost x b.bound = true
    · have all : (cumulate (n + b.count) bs).map (fun c => (c.1, c.2 + 1)) =
          (cumulate (n + b.count) bs).map fun c => (c.1, c.2 + if atMost x c.1 then 1 else 0) := by
        refine List.map_congr_left fun c hc => ?_
        have bound : c.1 ∈ bs.map Bucket.bound := by
          rw [← cumulate_bounds (n + b.count) bs]
          exact List.mem_map_of_mem hc
        rw [if_pos (atMost_trans first (above c.1 bound))]
      rw [if_pos first, cumulate, cumulate, List.map_cons, if_pos first, ← all, ← cumulate_add,
        Nat.add_assoc]
    · rw [if_neg first, cumulate, cumulate, List.map_cons, if_neg first, ih ascending, Nat.add_zero]

/-- A histogram after observations. -/
def observed (h : Histogram) (xs : List Float) : Histogram := xs.foldl observe h

theorem bounds_observed (h : Histogram) (xs : List Float) :
    (h.observed xs).buckets.map Bucket.bound = h.buckets.map Bucket.bound := by
  induction xs generalizing h with
  | nil => rfl
  | cons x xs ih => exact (ih (h.observe x)).trans (place_bounds x h.buckets)

theorem samples_observed (h : Histogram) (xs : List Float) :
    (h.observed xs).samples = h.samples + xs.length := by
  induction xs generalizing h with
  | nil => rfl
  | cons x xs ih =>
    rw [List.length_cons, Nat.add_comm xs.length 1, ← Nat.add_assoc]
    exact ih (h.observe x)

/-- Observations are counted up to every bound that they do not exceed. -/
theorem cumulative_observed (ascending : Ascending (h.buckets.map Bucket.bound)) (xs : List Float) :
    (h.observed xs).cumulative =
      h.cumulative.map fun b => (b.1, b.2 + xs.countP fun x => atMost x b.1) := by
  induction xs generalizing h with
  | nil => exact (List.map_id' h.cumulative).symm
  | cons x xs ih =>
    have first : (h.observe x).cumulative =
        h.cumulative.map fun b => (b.1, b.2 + if atMost x b.1 then 1 else 0) :=
      cumulate_place ascending x 0
    have later : Ascending ((h.observe x).buckets.map Bucket.bound) := by
      rwa [show (h.observe x).buckets = place x h.buckets from rfl, place_bounds]
    refine (ih later).trans ?_
    rw [first, List.map_map]
    refine List.map_congr_left fun b _ => ?_
    rw [Function.comp_apply, List.countP_cons, Nat.add_assoc, Nat.add_comm (ite _ _ _)]

theorem cumulate_ofBounds (bounds : List Float) :
    (ofBounds bounds).cumulative = bounds.map fun b => (b, 0) := by
  induction bounds with
  | nil => rfl
  | cons b bounds ih => exact congrArg (List.cons (b, 0)) ih

theorem map_bound_ofBounds (bounds : List Float) :
    (ofBounds bounds).buckets.map Bucket.bound = bounds := by
  rw [ofBounds, List.map_map]
  exact List.map_id bounds

/-- After observations, every bound has the number of those that do not exceed it. -/
theorem cumulative_ofBounds_observed (ascending : Ascending bounds) (xs : List Float) :
    ((ofBounds bounds).observed xs).cumulative =
      bounds.map fun b => (b, xs.countP fun x => atMost x b) := by
  rw [cumulative_observed (by rwa [map_bound_ofBounds]), cumulate_ofBounds, List.map_map]
  refine List.map_congr_left fun b _ => ?_
  rw [Function.comp_apply, Nat.zero_add]

theorem sum_observed (h : Histogram) (xs : List Float) :
    (h.observed xs).sum = xs.foldl (· + ·) h.sum := by
  induction xs generalizing h with
  | nil => rfl
  | cons x xs ih => exact ih (h.observe x)

end Histogram

/-- A reading after observations. -/
theorem Change.reading_observe (v : List String) (h : Histogram) (xs : List Float) :
    Change.reading (.histogram h) (xs.map fun x => ⟨v, .observe x⟩) =
      .histogram (h.observed xs) := by
  induction xs generalizing h with
  | nil => rfl
  | cons x xs ih => exact ih (h.observe x)

/-! ### Lengths of time -/

/-- How many lengths are at most so many seconds. -/
def countUpTo (b : Nat) (ds : List Duration) : Nat :=
  ds.countP fun d => decide (d.nanoseconds ≤ b * 1000000000)

/-- The samples of lengths, in a histogram whose bounds are whole numbers of seconds. -/
def lengthSamples (name : String) (labels : List (String × String)) (bounds : List Nat)
    (ds : List Duration) : List Sample :=
  bounds.map (fun b => ⟨name ++ "_bucket", labels ++ [(bucketLabel, toString b)],
      toString (countUpTo b ds)⟩) ++
    [⟨name ++ "_bucket", labels ++ [(bucketLabel, "+Inf")], toString ds.length⟩,
      ⟨name ++ "_sum", labels,
        Decimal.plainText ((ds.map Duration.inSeconds).foldl (· + ·) 0.0)⟩,
      ⟨name ++ "_count", labels, toString ds.length⟩]

/-- Whole numbers of seconds that bounds may be: ascending, and written as they are. -/
structure WholeBounds (bounds : List Nat) : Prop where
  ascending : bounds.Pairwise (· ≤ ·)
  few : ∀ b ∈ bounds, b < 2 ^ 20
  written : ∀ b ∈ bounds, Decimal.plainText b.toFloat = toString b
  finite : ∀ b ∈ bounds, Histogram.isTop b.toFloat = false

variable {bounds : List Nat} {ds : List Duration}

theorem WholeBounds.ascending_toFloat (h : WholeBounds bounds) :
    Histogram.Ascending (bounds.map Nat.toFloat) := by
  refine List.pairwise_map.2 (h.ascending.imp_of_mem fun {b c} hb hc le => ?_)
  have short {n : Nat} (hn : n < 2 ^ 20) : n < Decimal.exactLimit :=
    Nat.lt_trans hn (by decide)
  rw [(Decimal.denotes_natCast (short (h.few b hb))).atMost_iff
    (Decimal.denotes_natCast (short (h.few c hc)))]
  exact_mod_cast le

/-- As a double, a length is counted up to a bound exactly if it does not exceed it. -/
theorem countP_inSeconds {b : Nat} (few : b < 2 ^ 20) (ds : List Duration) :
    (ds.map Duration.inSeconds).countP (fun x => Decimal.atMost x b.toFloat) = countUpTo b ds := by
  rw [List.countP_map, countUpTo]
  refine congrArg (fun p => ds.countP p) (funext fun d => ?_)
  rw [Bool.eq_iff_iff, Function.comp_apply, Duration.atMost_inSeconds_iff few, decide_eq_true_iff]

/-- The sample of what exceeds all bounds is there, as none of them is infinite. -/
theorem any_isTop_observed (h : WholeBounds bounds) (xs : List Float) :
    ((Histogram.ofBounds (bounds.map Nat.toFloat)).observed xs).buckets.any
      (fun b => Histogram.isTop b.bound) = false := by
  refine List.any_eq_false.2 fun b hb => ?_
  have bound : b.bound ∈ bounds.map Nat.toFloat := by
    rw [← Histogram.map_bound_ofBounds (bounds.map Nat.toFloat), ← Histogram.bounds_observed _ xs]
    exact List.mem_map_of_mem hb
  obtain ⟨n, hn, same⟩ := List.mem_map.1 bound
  rw [← same, h.finite n hn]
  exact Bool.false_ne_true

/-- Lengths that are observed in seconds are counted up to each bound. -/
theorem bucketSamples_inSeconds (h : WholeBounds bounds) (few : ds.length < Decimal.exactLimit)
    (name : String) (labels : List (String × String)) :
    ((Histogram.ofBounds (bounds.map Nat.toFloat)).observed
        (ds.map Duration.inSeconds)).cumulative.map (fun b => countSample (name ++ "_bucket")
          (labels ++ [(bucketLabel, Decimal.plainText b.1)]) b.2) =
      bounds.map fun b => ⟨name ++ "_bucket", labels ++ [(bucketLabel, toString b)],
        toString (countUpTo b ds)⟩ := by
  rw [Histogram.cumulative_ofBounds_observed h.ascending_toFloat, List.map_map, List.map_map]
  refine List.map_congr_left fun b hb => ?_
  have fewer : countUpTo b ds < Decimal.exactLimit := Nat.lt_of_le_of_lt List.countP_le_length few
  simp only [Function.comp_apply, countSample, h.written b hb, countP_inSeconds (h.few b hb),
    countText_eq_toString fewer]

/-- Lengths that are observed in seconds are shown as so many that take up to each bound. -/
theorem samples_observed_inSeconds (h : WholeBounds bounds) (few : ds.length < Decimal.exactLimit)
    (name : String) (labels : List (String × String)) :
    FamilySeries.samples name ⟨labels, .histogram
        ((Histogram.ofBounds (bounds.map Nat.toFloat)).observed (ds.map Duration.inSeconds))⟩ =
      lengthSamples name labels bounds ds := by
  have top := any_isTop_observed h (ds.map Duration.inSeconds)
  have counts := bucketSamples_inSeconds h few name labels
  have samples := Histogram.samples_observed (.ofBounds (bounds.map Nat.toFloat))
    (ds.map Duration.inSeconds)
  rw [List.length_map, show (Histogram.ofBounds (bounds.map Nat.toFloat)).samples = 0 from rfl,
    Nat.zero_add] at samples
  have sum := Histogram.sum_observed (.ofBounds (bounds.map Nat.toFloat))
    (ds.map Duration.inSeconds)
  simp only [FamilySeries.samples, bucketSamples, counts, top, Bool.false_eq_true, if_false]
  rw [samples, sum, lengthSamples, countSample, countSample, countText_eq_toString few,
    List.append_assoc]
  rfl

end WorkerTelemetry.Metric
