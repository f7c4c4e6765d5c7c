import WorkerTelemetry.Lifecycle.Runtime
import WorkerTelemetry.Worker.Options

/-!
The worker from its command line to its end. It starts, or ends at once with a code and the line of
an error; once started it serves until a signal triggers the shutdown.
-/

namespace WorkerTelemetry.Worker

open Lifecycle

def filterVariable : String := "RUST_LOG"

structure Surroundings where
  read : Files.Reader
  environment : Config.Environment
  host : Net.Host
  writer : Log.Writer
  time : Log.Timestamp

/-- The end of a worker: its code, its log, and the line of an error. -/
structure Exit where
  code : Nat
  telemetry : Option Telemetry := none
  error : Option String := none

/-- The filter that the environment asks for; without a well-formed one the severity decides. -/
def filter (env : Config.Environment) (s : Severity) : Except Log.Directive.Fault Log.Filter :=
  match (env filterVariable).map Log.Filter.parse with
  | some (.ok f) => .ok f
  | some (.error .severed) => .error .severed
  | _ => .ok (.ofSeverity s)

def errorLine (listing : String) : String := "Error: " ++ listing

def started (address : Net.SocketAddress) (s : Severity) : Log.Event :=
  ⟨.info, "activity_telemetry",
    [("address", .text address.toText), ("log_level", .text s.name),
      (Log.messageField, .text "activity-telemetry v0.1.0 started")]⟩

/-- The code of an end by a wrong command line. -/
def usageCode : Nat := 2

def breakdownCode : Nat := 101

/-- Starts with a configuration. A filter that cannot be cut into its parts breaks the worker
down. -/
def startWith (w : Surroundings) (c : Config) : Except Exit Runtime :=
  let level := c.observability.logLevel
  match filter w.environment level with
  | .error _ => .error { code := breakdownCode }
  | .ok f =>
    let t : Telemetry := { console := ⟨f, ⟨level, w.writer⟩⟩, time := w.time }
    match Runtime.start w.host t false c with
    | (t, .error e) => .error ⟨1, some t, some (errorLine e.listing)⟩
    | (_, .ok rt) =>
      .ok { rt with telemetry := rt.telemetry.emit (started rt.address level) }.serve

/-- Starts by a command line. -/
def start (w : Surroundings) (args : List String) : Except Exit Runtime :=
  match Options.parse args with
  | .error .help => .error { code := 0 }
  | .error .usage => .error { code := usageCode }
  | .ok o =>
    match Config.load w.read o.config w.environment o.flags with
    | .error e => .error { code := 1, error := some (errorLine e.listing) }
    | .ok c => startWith w c

def signalled (signal : String) : Log.Event :=
  ⟨.info, "activity_telemetry",
    [("signal", .text signal), (Log.messageField, .text "Shutdown signal received")]⟩

def complete : Log.Event :=
  ⟨.info, "activity_telemetry", [(Log.messageField, .text "Shutdown complete")]⟩

def finish (rt : Runtime) (signal : String) : Exit :=
  let rt := { rt with telemetry := rt.telemetry.emit (signalled signal) }.trigger
  match rt.join with
  | (rt, .unmountable) => ⟨breakdownCode, some rt.telemetry, none⟩
  | (rt, _) => ⟨0, some (rt.telemetry.emit complete), none⟩

end WorkerTelemetry.Worker
