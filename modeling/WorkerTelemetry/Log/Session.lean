import WorkerTelemetry.Log.Layer

/-!
Sessions: what is told to one sink, call after call. Loggers are derived from loggers that are there
and write through the same sink, records are handed to it directly, and events come through its
layer.
-/

namespace WorkerTelemetry.Log

/-- What the producers of a sink do. Loggers are named by their places. -/
inductive Session.Call
  /-- Derives a logger from the one in a place. -/
  | derive (parent : Nat) (keyvals : List Json)
  | log (logger : Nat) (severity : Severity) (message : String) (keyvals : List Json)
  | record (r : Record)
  | event (e : Event)

/-- The loggers of a sink, in the order in which they were made, and the sink. -/
structure Session where
  loggers : List Logger
  sink : Sink
  deriving Inhabited

namespace Session

/-- A session with one logger, which puts nothing in front. -/
def start (sink : Sink) : Session := ⟨[{}], sink⟩

/-- Makes a call. A logger that is not there cannot be called; such a call does nothing here. -/
def call (s : Session) (time : Timestamp) : Call → Session
  | .derive parent keyvals =>
    match s.loggers[parent]? with
    | some l => { s with loggers := s.loggers ++ [l.derive keyvals] }
    | none => s
  | .log logger severity message keyvals =>
    match s.loggers[logger]? with
    | some l => { s with sink := l.log s.sink time severity message keyvals }
    | none => s
  | .record r => { s with sink := s.sink.write time r }
  | .event e => { s with sink := s.sink.hear time e }

/-- Makes calls one after the other, each at its time. -/
def run (s : Session) (cs : List (Timestamp × Call)) : Session :=
  cs.foldl (fun s c => s.call c.1 c.2) s

end Session

end WorkerTelemetry.Log
