import WorkerTelemetry.Metric.Descriptor
import WorkerTelemetry.Decimal.Layout

/-!
Why metrics are not made, not updated or not registered, with the wording of every cause.
-/

namespace WorkerTelemetry.Metric

/-- Why something is refused. -/
inductive Refusal
  | descriptor (fault : Descriptor.Fault)
  /-- Not as many label values as label names. -/
  | labelCount (expected given : Nat)
  /-- A histogram with the label that its buckets use themselves. -/
  | reservedLabel
  | bucketOrder (bound next : Float)
  /-- The collector, or one that describes the same metrics, is held already. -/
  | held
  /-- A metric of this name was described with another help text or other labels. -/
  | shape (d : Descriptor)
  /-- A collector that describes a name twice. -/
  | repeatedName (name : String)

def Refusal.message : Refusal → String
  | .descriptor f => "Error: " ++ f.message
  | .labelCount expected given =>
    "Inconsistent label cardinality, expect " ++ toString expected ++ " label values, but got " ++
      toString given
  | .reservedLabel => "Error: `le` is not allowed as label name in histograms"
  | .bucketOrder x y =>
    "Error: histogram buckets must be in increasing order: " ++ Decimal.plainText x ++ " >= " ++
      Decimal.plainText y
  | .held => "Duplicate metrics collector registration attempted"
  | .shape d =>
    "Error: a previously registered descriptor with the same fully-qualified name as " ++
      d.listing ++ " has different label names or a different help string"
  | .repeatedName n =>
    "Error: a duplicate descriptor within the same collector the same fully-qualified name: " ++
      Text.quote n

/-- Why a registry does not do what it is asked. -/
inductive Error
  /-- A metric of this name is registered. -/
  | duplicate (name : String)
  | refused (cause : Refusal)
  /-- A family without a name cannot be written. -/
  | unnamed

/-- The text of an error. That of a family without a name goes on with a rendering of the family,
which is left out. -/
def Error.message : Error → String
  | .duplicate n => "duplicate metric: " ++ n ++ " is already registered"
  | .refused r => "metric registration failed: " ++ r.message
  | .unnamed => "failed to encode metrics: Error: MetricFamily has no name"

end WorkerTelemetry.Metric
