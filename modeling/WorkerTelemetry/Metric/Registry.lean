import WorkerTelemetry.Metric.Exposition

/-!
Registries. A registry keeps an index of the names it has accepted, and tables of what was
described to it. A registration is refused if one of its names is in the index, or if the tables
refuse one of its descriptors; the tables go through the descriptors one by one and note the shape
of each before they look at the next. The tables know names and shapes by their fingerprints.
-/

namespace WorkerTelemetry.Metric

structure CollectorId where
  index : Nat
  deriving DecidableEq, Repr, Inhabited

structure Tables where
  /-- The fingerprints of the names that the collectors held describe. -/
  described : List UInt64 := []
  /-- The fingerprint of the shape noted for a name, also by registrations that were refused
  later. -/
  shapes : NameMap UInt64 := .empty
  /-- The collectors held, each with the sum of the fingerprints of its names. -/
  held : List (UInt64 × CollectorId) := []
  deriving Inhabited

namespace Tables

/-- Goes through descriptors: the tables with their shapes noted, and the fingerprints of their
names. -/
def note (t : Tables) (names : List UInt64) :
    List Descriptor → Tables × Except Refusal (List UInt64)
  | [] => (t, .ok names)
  | d :: ds =>
    if d.nameFingerprint ∈ t.described then (t, .error .held)
    else if (t.shapes.find? d.name).any (· ≠ d.shapeFingerprint) then (t, .error (.shape d))
    else
      let noted := { t with shapes := t.shapes.insert d.name d.shapeFingerprint }
      if d.nameFingerprint ∈ names then (noted, .error (.repeatedName d.name))
      else note noted (names ++ [d.nameFingerprint]) ds

def hold (t : Tables) (c : CollectorId) (ds : List Descriptor) : Tables × Except Refusal Unit :=
  match t.note [] ds with
  | (t, .error r) => (t, .error r)
  | (t, .ok names) =>
    let total := names.foldl (· + ·) 0
    if t.held.any fun h => h.1 == total then (t, .error .held)
    else ({ t with described := t.described ++ names, held := t.held ++ [(total, c)] }, .ok ())

end Tables

structure Registry where
  index : NameSet := .empty
  tables : Tables := {}
  deriving Inhabited

namespace Registry

def register (r : Registry) (c : CollectorId) (ds : List Descriptor) :
    Registry × Except Error Unit :=
  match ds.find? fun d => decide (d.name ∈ r.index) with
  | some d => (r, .error (.duplicate d.name))
  | none =>
    match r.tables.hold c ds with
    | (t, .error cause) => ({ r with tables := t }, .error (.refused cause))
    | (t, .ok ()) => (⟨r.index.insertAll (ds.map Descriptor.name), t⟩, .ok ())

def metricNames (r : Registry) : List String := r.index.toList

def collectors (r : Registry) : List CollectorId := r.tables.held.map (·.2)

def listing (r : Registry) : String :=
  "MetricRegistry \x7b metrics: " ++ Text.quoteList r.metricNames ++ " \x7d"

end Registry

end WorkerTelemetry.Metric
