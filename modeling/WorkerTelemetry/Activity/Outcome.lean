import WorkerTelemetry.Activity.Error

/-!
How executions end, seen by the metrics: well or not, and for two kinds of activities with a metric
of their own.
-/

namespace WorkerTelemetry.Activity

/-- What an execution answers. -/
abbrev Result := Except Error Json

/-- Whether an execution went well. -/
inductive Outcome
  | success
  | failure
  deriving DecidableEq, Repr, Inhabited

namespace Outcome

/-- The outcome of an answer; all errors are failures. -/
def ofResult : Result → Outcome
  | .ok _ => .success
  | .error _ => .failure

def label : Outcome → String
  | .success => "success"
  | .failure => "failure"

theorem label_injective {a b : Outcome} (h : a.label = b.label) : a = b := by
  cases a <;> cases b <;> first | rfl | exact absurd h (by decide)

end Outcome

/-- A kind of activity that has a metric of its own. -/
inductive Special
  | provisionSandbox
  | createPullRequest
  deriving DecidableEq, Repr

namespace Special

/-- The kind under which the activity is registered. -/
def kind : Special → String
  | .provisionSandbox => "ProvisionSandbox"
  | .createPullRequest => "CreatePullRequest"

def ofKind? (kind : String) : Option Special :=
  [provisionSandbox, createPullRequest].find? fun s => s.kind == kind

theorem ofKind?_eq_some_iff {k : String} {s : Special} : ofKind? k = some s ↔ k = s.kind := by
  constructor
  · intro h
    have := List.find?_some h
    exact (eq_of_beq this).symm
  · rintro rfl
    cases s <;> rfl

end Special

end WorkerTelemetry.Activity
