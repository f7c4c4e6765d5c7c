import WorkerTelemetry.Activity.Executor

/-!
Chains: the bodies registered by kind, and the interceptors around every dispatch. The body is
looked up under the kind that was dispatched, before any interceptor runs.
-/

namespace WorkerTelemetry.Activity

/-- The activities of a worker and the interceptors around them. -/
structure Chain (σ : Type) where
  bodies : NameMap (Body σ) := .empty
  /-- The first is the outermost. -/
  interceptors : List (Interceptor σ) := []

instance (σ : Type) : Inhabited (Chain σ) := ⟨{}⟩

namespace Chain

variable {τ σ : Type}

def warning (kind message : String) : Log.Event :=
  ⟨.warn, "activity_telemetry::activity::chain",
    [("activity_name", .text kind), (Log.messageField, .text message)]⟩

def replaced (kind : String) : Log.Event :=
  warning kind "Activity re-registered, previous body replaced"

def unknown (kind : String) : Log.Event := warning kind "No activity registered for kind"

def notRegistered (kind : String) : Error :=
  (Error.application ("activity type " ++ Text.quote kind ++ " is not registered")).final

/-- Registers a body under a kind, instead of an earlier one. -/
def register [Listener τ] (c : Chain σ) (t : τ) (kind : String) (b : Body σ) : Chain σ × τ :=
  let known := (c.bodies.find? kind).isSome
  ({ c with bodies := c.bodies.insert kind b },
    if known then Listener.hear t (.event (replaced kind)) else t)

/-- Adds an interceptor inside the others. -/
def intercept (c : Chain σ) (i : Interceptor σ) : Chain σ :=
  { c with interceptors := c.interceptors ++ [i] }

/-- The registered kinds in ascending order. -/
def kinds (c : Chain σ) : List String := c.bodies.names

/-- Runs the activity named by the information through all interceptors. -/
def dispatch [Listener τ] (c : Chain σ) : Executor τ σ := fun info input =>
  match c.bodies.find? info.kind with
  | none => do
    modify fun s => s.notice (.event (unknown info.kind))
    return .error (notRegistered info.kind)
  | some b => layers c.interceptors b.executor info input

def listing (c : Chain σ) : String :=
  "ActivityChain \x7b activities: " ++ Text.quoteList c.kinds ++ ", interceptors: " ++
    toString c.interceptors.length ++ " \x7d"

end Chain

end WorkerTelemetry.Activity
