import WorkerTelemetry.Log.Record
import WorkerTelemetry.Log.Writer

/-!
The sink of log records: it drops records below its minimum severity and hands the line of every
other record to its writer. Logging never fails its caller, so what the writer answers is lost.
-/

namespace WorkerTelemetry.Log

/-- A writer for records from a minimum severity on. -/
structure Sink where
  minimum : Severity
  writer : Writer
  deriving Inhabited

namespace Sink

def enabled (s : Sink) (severity : Severity) : Bool := decide (s.minimum ≤ severity)

/-- Writes a record: all its bytes are offered, then the writer is flushed, also after an error. -/
def write (s : Sink) (time : Timestamp) (r : Record) : Sink :=
  if s.enabled r.severity then
    { s with writer := (s.writer.writeAll (r.bytes time)).flush }
  else s

end Sink

end WorkerTelemetry.Log
