import WorkerTelemetry.Activity.Chain
import WorkerTelemetry.Config.Resolve
import WorkerTelemetry.Http.Server
import WorkerTelemetry.Lifecycle.Shutdown
import WorkerTelemetry.Net.Host

/-!
The life of a worker's telemetry: logging, metrics and the listener start in this order, then the
server runs until the shutdown is triggered. The runtime keeps a handle of the shutdown until the
server has stopped, and the receiver that stops the server exists from the start, so no trigger is
missed.
-/

namespace WorkerTelemetry.Lifecycle

inductive StartError
  | metrics (e : Metric.Error)
  | bind (address : String) (fault : Net.BindFault)

namespace StartError

def message : StartError → String
  | .metrics e => "metric registration failed: " ++ e.message
  | .bind address fault =>
    "failed to bind metrics listener on " ++ address ++ ": " ++ fault.message

/-- The listing of an error; that of a metric is its wording. -/
def listing : StartError → String
  | .metrics e => "Metrics(" ++ e.message ++ ")"
  | .bind address fault =>
    "Bind \x7b address: " ++ Text.quote address ++ ", source: " ++ fault.listing ++ " \x7d"

end StartError

/-- What the server does. It is started once, and waited for once. -/
inductive Service
  | idle
  | serving (server : Http.Server)
  /-- It has stopped, and nothing has waited for it yet. -/
  | stopped
  /-- The path of the metrics is no route. -/
  | unmountable
  /-- It has stopped, and was waited for. -/
  | finished

/-- Everything that has started. -/
structure Runtime where
  config : Config
  telemetry : Telemetry
  registry : Metric.RegistryId
  metrics : Activity.Metrics
  engineLogger : Log.Logger := {}
  address : Net.SocketAddress
  shutdown : Shutdown
  service : Service := .idle

namespace Runtime

/-- The event that logging was started before and is kept as it is. -/
def loggingKept : Log.Event :=
  ⟨.debug, "activity_telemetry::lifecycle::startup",
    [(Log.messageField, .text "Global tracing subscriber already installed, keeping it")]⟩

def metricsRegistered (names : List String) : Log.Event :=
  ⟨.info, "activity_telemetry::lifecycle::startup",
    [("metrics", .text (Text.quoteList names)),
      (Log.messageField, .text "Activity metrics registered")]⟩

def listening (address : Net.SocketAddress) (path : String) : Log.Event :=
  ⟨.info, "activity_telemetry::http::server",
    [("address", .text address.toText), ("path", .text path),
      (Log.messageField, .text "Metrics server listening")]⟩

def stopped : Log.Event :=
  ⟨.info, "activity_telemetry::http::server",
    [(Log.messageField, .text "Metrics server stopped")]⟩

/-- The handle that the runtime keeps. -/
def ownHandle : Nat := 0

/-- The receiver that stops the server. -/
def ownReceiver : Nat := 0

/-- A shutdown with the runtime's handle and receiver. -/
def newShutdown : Shutdown := { channel := Channel.create.subscribe }

/-- Starts everything on a host; `logging` says whether logging was started before. -/
def start (host : Net.Host) (t : Telemetry) (logging : Bool) (c : Config) :
    Telemetry × Except StartError Runtime :=
  let t := if logging then t.emit loggingKept else t
  let (store, registry) := t.store.addRegistry
  match Activity.Metrics.registered store registry with
  | (store, .error e) => ({ t with store := store }, .error (.metrics e))
  | (store, .ok metrics) =>
    let t := { t with store := store }.emit
      (metricsRegistered (store.registry registry).metricNames)
    match host.bind c.observability.metricsAddress with
    | .error fault => (t, .error (.bind c.observability.metricsAddress fault))
    | .ok address =>
      (t, .ok
        { config := c
          telemetry := t
          registry := registry
          metrics := metrics
          address := address
          shutdown := newShutdown })

def interceptor (σ : Type) (rt : Runtime) : Activity.Interceptor σ := .metrics rt.metrics

/-- One call of the engine's logger. -/
def log (rt : Runtime) (severity : Severity) (message : String) (keyvals : List Json) : Runtime :=
  let console := rt.telemetry.console
  let sink := rt.engineLogger.log console.sink rt.telemetry.time severity message keyvals
  { rt with telemetry := { rt.telemetry with console := { console with sink := sink } } }

/-- The runtime goes when its server is over: its receiver and its handle are dropped. -/
def release (rt : Runtime) : Runtime :=
  { rt with shutdown := (rt.shutdown.run [.dropReceiver ownReceiver, .drop ownHandle]).1 }

/-- Starts to serve the metrics, if that was not done before. A shutdown that was triggered already
stops the server at once. -/
def serve (rt : Runtime) : Runtime :=
  let path := rt.config.observability.metricsPath
  match rt.service, Http.Server.mount rt.registry path with
  | .idle, none => { rt with service := .unmountable }.release
  | .idle, some server =>
    let t := rt.telemetry.emit (listening rt.address path)
    if rt.shutdown.ready ownReceiver then
      { rt with telemetry := t.emit stopped, service := .stopped }.release
    else { rt with telemetry := t, service := .serving server }
  | _, _ => rt

/-- Answers a request, if the server runs. -/
def respond (rt : Runtime) (r : Http.Request) : Runtime × Option Http.Response :=
  match rt.service with
  | .serving server =>
    let (t, answer) := server.respond rt.telemetry r
    ({ rt with telemetry := t }, some answer)
  | _ => (rt, none)

def trigger (rt : Runtime) : Runtime := { rt with shutdown := rt.shutdown.trigger }

inductive Ending
  | stopped
  | notServing
  | unmountable
  /-- It does not end, as nothing has triggered the shutdown. -/
  | running
  deriving DecidableEq, Repr

/-- Waits for the server to stop. -/
def join (rt : Runtime) : Runtime × Ending :=
  match rt.service with
  | .idle | .finished => (rt, .notServing)
  | .unmountable => ({ rt with service := .finished }, .unmountable)
  | .stopped => ({ rt with service := .finished }, .stopped)
  | .serving _ =>
    if rt.shutdown.ready ownReceiver then
      ({ rt with telemetry := rt.telemetry.emit stopped, service := .finished }.release, .stopped)
    else (rt, .running)

end Runtime

end WorkerTelemetry.Lifecycle
