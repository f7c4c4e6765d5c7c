import WorkerTelemetry.Log.Event

/-!
The layer that brings events to a sink. It asks the sink whether the severity of an event is let
through before it looks at the fields. Then it visits them in the order in which they were recorded
and builds the record up; the target comes last.
-/

namespace WorkerTelemetry.Log

/-- Takes up a field: a message replaces the one that was there, any other field becomes the last
attribute. -/
def Record.visit (r : Record) (f : String × FieldValue) : Record :=
  if f.1 = messageField then { r with message := f.2.toJson.nameText }
  else { r with attributes := r.attributes ++ [(f.1, f.2.toJson)] }

/-- The record of an event, built up field by field. -/
def Event.visited (e : Event) : Record :=
  let r := e.fields.foldl Record.visit ⟨e.level.severity, "", []⟩
  { r with attributes := r.attributes ++ [("target", .text e.target)] }

/-- Brings an event to the sink; of an event that it does not let through no field is visited. -/
def Sink.hear (s : Sink) (time : Timestamp) (e : Event) : Sink :=
  if s.enabled e.level.severity then s.write time e.visited else s

end WorkerTelemetry.Log
