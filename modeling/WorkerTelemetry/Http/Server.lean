import WorkerTelemetry.Http.Request
import WorkerTelemetry.Http.Route
import WorkerTelemetry.Telemetry

/-!
The server that metrics are scraped from: one route, on which every request is answered with the
exposition of one registry as it is at that moment.
-/

namespace WorkerTelemetry.Http

/-- The answer to a request. -/
structure Response where
  status : Nat
  contentType : Option String := none
  allow : Option String := none
  body : String := ""
  deriving DecidableEq, Repr

structure Server where
  route : Route
  registry : Metric.RegistryId

namespace Server

/-- The server at a path; nothing if the path is no route. -/
def mount (registry : Metric.RegistryId) (path : String) : Option Server :=
  (Route.parse path).map fun route => ⟨route, registry⟩

/-- The error event for an exposition that cannot be written. -/
def unencodable (e : Metric.Error) : Log.Event :=
  ⟨.error, "activity_telemetry::http::server",
    [("error", .text e.message), (Log.messageField, .text "Failed to encode metrics")]⟩

def scrape (s : Server) (t : Telemetry) : Telemetry × Response :=
  match t.store.encode s.registry with
  | .ok text => (t, { status := 200, contentType := some Metric.contentType, body := text })
  | .error e =>
    (t.emit (unencodable e),
      { status := 500, contentType := some "text/plain; charset=utf-8", body := e.message })

/-- The answer to a request. A HEAD request is answered like a GET request, without the body. -/
def respond (s : Server) (t : Telemetry) (r : Request) : Telemetry × Response :=
  if s.route.matchesPath r.path = false then (t, { status := 404 })
  else if r.method = "GET" then s.scrape t
  else if r.method = "HEAD" then
    let (t, answer) := s.scrape t
    (t, { answer with body := "" })
  else (t, { status := 405, allow := some "GET,HEAD" })

end Server

end WorkerTelemetry.Http
