import WorkerTelemetry.Json.Record

/-!
What the engine says about one execution of an activity, and its stored form. All fields have to be
there; the attempt is a number of 32 bits.
-/

namespace WorkerTelemetry.Activity

/-- The identity of one execution. -/
structure Info where
  /-- The kind under which the activity is registered. -/
  kind : String := ""
  activityId : String := ""
  workflowId : String := ""
  /-- The number of the attempt; the first is one. -/
  attempt : UInt32 := 0
  deriving DecidableEq, Repr, Inhabited

namespace Info

/-- The first attempt of an activity without identifiers. -/
def ofKind (kind : String) : Info := { kind := kind, attempt := 1 }

/-- The same execution inside a workflow. -/
def inWorkflow (i : Info) (workflowId activityId : String) : Info :=
  { i with workflowId := workflowId, activityId := activityId }

/-- The number of attempts that have a number. -/
def attemptLimit : Nat := 0x100000000

/-- The next attempt; the last number is kept. -/
def nextAttempt (i : Info) : Info :=
  { i with attempt := if i.attempt.toNat + 1 < attemptLimit then i.attempt + 1 else i.attempt }

def fieldNames : List String := ["activity_type", "activity_id", "workflow_id", "attempt"]

/-- Reads stored information. -/
def ofJson (v : Json) : Option Info := do
  match ← Json.slots .strict fieldNames v with
  | [kind, activityId, workflowId, attempt] =>
    let kind ← Json.required Json.text? kind
    let activityId ← Json.required Json.text? activityId
    let workflowId ← Json.required Json.text? workflowId
    let attempt ← Json.required (Json.natBelow attemptLimit) attempt
    return ⟨kind, activityId, workflowId, attempt.toUInt32⟩
  | _ => none

/-- Information as a stored value. -/
def toJson (i : Info) : Json :=
  .ofMembers [("activity_type", .text i.kind), ("activity_id", .text i.activityId),
    ("workflow_id", .text i.workflowId), ("attempt", .ofNat i.attempt.toNat)]

end Info

end WorkerTelemetry.Activity
