import WorkerTelemetry.Json.Inspect
import WorkerTelemetry.Log.Sink

/-!
The logger that a workflow engine is handed. The engine passes keys and values in one list, one
after the other; a derived logger puts attributes of its own in front of those of every call.
-/

namespace WorkerTelemetry.Log

/-- The key of a last value that has no partner. -/
def badKey : String := "!BADKEY"

/-- The attributes of an alternating list of keys and values. A key that is no text is named by its
JSON text. -/
def decodeKeyvals : List Json → List (String × Json)
  | [] => []
  | [v] => [(badKey, v)]
  | k :: v :: rest => (k.nameText, v) :: decodeKeyvals rest

/-- A logger: the attributes it puts in front. -/
structure Logger where
  context : List (String × Json) := []
  deriving Inhabited

namespace Logger

/-- A logger with further attributes behind those of this one. -/
def derive (l : Logger) (keyvals : List Json) : Logger := ⟨l.context ++ decodeKeyvals keyvals⟩

def record (l : Logger) (severity : Severity) (message : String) (keyvals : List Json) : Record :=
  ⟨severity, message, l.context ++ decodeKeyvals keyvals⟩

/-- One call: the sink is given its record. -/
def log (l : Logger) (sink : Sink) (time : Timestamp) (severity : Severity) (message : String)
    (keyvals : List Json) : Sink :=
  sink.write time (l.record severity message keyvals)

/-- The listing of a logger; its sink is left out. -/
def listing (l : Logger) : String :=
  let entries := l.context.map fun a => "(" ++ Text.quote a.1 ++ ", " ++ a.2.inspect ++ ")"
  "StructuredLogAdapter \x7b context: " ++ Text.bracketed entries ++ ", .. \x7d"

end Logger

end WorkerTelemetry.Log
