import WorkerTelemetry.Log.Severity
import WorkerTelemetry.Log.Timestamp
import WorkerTelemetry.Text.Bytes

/-!
Log records and the line a record is written as: one JSON object with the time, the severity, the
message and the attributes in their order, and a line feed. Attributes keep their order and their
repetitions, also when their keys equal the first three.
-/

namespace WorkerTelemetry.Log

/-- One log entry. -/
structure Record where
  severity : Severity
  message : String
  attributes : List (String × Json) := []
  deriving Inhabited

def attribute? (attributes : List (String × Json)) (key : String) : Option Json :=
  (attributes.find? fun a => a.1 == key).map (·.2)

def Record.toDocument (r : Record) (time : Timestamp) : Document :=
  .object (("time", .text time.toText) :: ("level", .text r.severity.name) ::
    ("msg", .text r.message) :: r.attributes.map fun a => (a.1, a.2.toDocument))

/-- The line of a record, with its line feed. -/
def Record.line (r : Record) (time : Timestamp) : List Char := (r.toDocument time).chars ++ ['\n']

def Record.bytes (r : Record) (time : Timestamp) : List UInt8 := Text.utf8 (r.line time)

end WorkerTelemetry.Log
