import WorkerTelemetry.Log.Severity

/-!
The worker's configuration and its stored form. A field that is missing takes its standard value,
also behind the end of a list; a field that is there has to have the right form.
-/

namespace WorkerTelemetry

/-- What the worker shows of itself: from which severity it logs, and where its metrics are. -/
structure Observability where
  logLevel : Severity := .info
  metricsAddress : String := "0.0.0.0:9090"
  metricsPath : String := "/metrics"
  deriving DecidableEq, Repr, Inhabited

/-- The configuration of a worker. -/
structure Config where
  observability : Observability := {}
  deriving DecidableEq, Repr, Inhabited

namespace Observability

def fieldNames : List String := ["log_level", "metrics_address", "metrics_path"]

/-- Reads the stored form. -/
def ofJson (d : Json.Dialect) (v : Json) : Option Observability := do
  let standard : Observability := {}
  match ← Json.slots d fieldNames v with
  | [level, address, path] =>
    let level ← Json.optional standard.logLevel (Severity.ofJson d) level
    let address ← Json.optional standard.metricsAddress Json.text? address
    let path ← Json.optional standard.metricsPath Json.text? path
    return ⟨level, address, path⟩
  | _ => none

/-- The stored form. -/
def toJson (o : Observability) : Json :=
  .ofMembers [("log_level", o.logLevel.toJson), ("metrics_address", .text o.metricsAddress),
    ("metrics_path", .text o.metricsPath)]

end Observability

namespace Config

def fieldNames : List String := ["observability"]

/-- Reads the stored form. -/
def ofJson (d : Json.Dialect) (v : Json) : Option Config := do
  match ← Json.slots d fieldNames v with
  | [part] => return ⟨← Json.optional {} (Observability.ofJson d) part⟩
  | _ => none

/-- The stored form. -/
def toJson (c : Config) : Json := .ofMembers [("observability", c.observability.toJson)]

end Config

end WorkerTelemetry
