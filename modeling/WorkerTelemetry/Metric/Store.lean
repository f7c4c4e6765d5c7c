import WorkerTelemetry.Metric.Registry

/-!
The collectors and registries of a process. Clones of a collector or of a registry share its place,
so an update through one of them shows in all, and in every registry that holds the collector.
-/

namespace WorkerTelemetry.Metric

structure RegistryId where
  index : Nat
  deriving DecidableEq, Repr, Inhabited

structure Store where
  collectors : List Collector := []
  registries : List Registry := []
  deriving Inhabited

namespace Store

/-- The collector at a place; a place without one has a collector without metrics. -/
def collector (s : Store) (c : CollectorId) : Collector := s.collectors.getD c.index ⟨[]⟩

/-- The registry at a place; a place without one has an empty registry. -/
def registry (s : Store) (r : RegistryId) : Registry := s.registries.getD r.index {}

def addCollector (s : Store) (c : Collector) : Store × CollectorId :=
  ({ s with collectors := s.collectors ++ [c] }, ⟨s.collectors.length⟩)

def addRegistry (s : Store) : Store × RegistryId :=
  ({ s with registries := s.registries ++ [{}] }, ⟨s.registries.length⟩)

def tryUpdate (s : Store) (c : CollectorId) (part : Nat) (values : List String)
    (f : Reading → Reading) : Except Refusal Store :=
  ((s.collector c).update part values f).map fun k =>
    { s with collectors := s.collectors.set c.index k }

/-- Changes one series of the first metric of a collector; a refused change leaves all as it is. -/
def update (s : Store) (c : CollectorId) (values : List String) (f : Reading → Reading) : Store :=
  match s.tryUpdate c 0 values f with
  | .ok t => t
  | .error _ => s

def register (s : Store) (r : RegistryId) (c : CollectorId) : Store × Except Error Unit :=
  let (registry, answer) := (s.registry r).register c (s.collector c).descriptors
  ({ s with registries := s.registries.set r.index registry }, answer)

/-- Registers collectors one after the other, up to the first that is refused. -/
def registerAll (s : Store) (r : RegistryId) : List CollectorId → Store × Except Error Unit
  | [] => (s, .ok ())
  | c :: cs =>
    match s.register r c with
    | (t, .error e) => (t, .error e)
    | (t, .ok ()) => registerAll t r cs

def families (s : Store) (c : CollectorId) : List Family := (s.collector c).families

/-- The families of all collectors in a registry. -/
def snapshot (s : Store) (r : RegistryId) : List Family :=
  Family.snapshot ((s.registry r).collectors.flatMap s.families)

def encode (s : Store) (r : RegistryId) : Except Error String := exposition (s.snapshot r)

end Store

end WorkerTelemetry.Metric
