import WorkerTelemetry.Activity.Plan
import WorkerTelemetry.Telemetry

/-!
Executors: activity bodies, and bodies with layers around them. A layer is instrumentation, which
notes every end of an execution and answers what it was answered, or a plan of someone else. What
there is to note goes to a listener: the telemetry of a worker, or a mere list of all notices.
-/

namespace WorkerTelemetry.Activity

/-- What executions let others know. -/
inductive Notice
  /-- A recorded execution ended: what it was given and what it was answered. -/
  | finished (m : Metrics) (info : Info) (r : Result)
  | event (e : Log.Event)

/-- Something that takes notices. -/
class Listener (τ : Type) where
  hear : τ → Notice → τ

/-- Telemetry counts the ends of executions, and hands events to the log. -/
instance : Listener Telemetry where
  hear t
    | .finished m info r => t.finish m info.kind (.ofResult r)
    | .event e => t.emit e

/-- A list keeps all notices in their order. -/
instance : Listener (List Notice) where
  hear ns n := ns ++ [n]

/-- Where executions take place: a listener, and the state that bodies and interceptors share. -/
structure Stage (τ σ : Type) where
  telemetry : τ
  own : σ

/-- A stage whose listener is the telemetry of the worker. -/
abbrev Scene (σ : Type) := Stage Telemetry σ

/-- Something that can be executed. -/
abbrev Executor (τ σ : Type) := Info → Json → StateM (Stage τ σ) Result

inductive Body (σ : Type)
  | plain (act : Info → Json → σ → Result × σ)
  /-- A body behind a reference. -/
  | shared (b : Body σ)
  /-- A body whose executions are recorded. -/
  | instrumented (m : Metrics) (b : Body σ)

/-- Something that puts a layer around executors. -/
inductive Interceptor (σ : Type)
  | metrics (m : Metrics)
  | custom (act : Info → Json → Plan σ Result)

variable {τ σ α : Type}

def Stage.notice [Listener τ] (s : Stage τ σ) (n : Notice) : Stage τ σ :=
  { s with telemetry := Listener.hear s.telemetry n }

/-- Records every execution; the answer passes untouched. -/
def instrument [Listener τ] (m : Metrics) (next : Executor τ σ) : Executor τ σ :=
  fun info input => do
    let r ← next info input
    modify fun s => s.notice (.finished m info r)
    return r

/-- Runs a plan, with calls going to an executor. -/
def Plan.run (next : Executor τ σ) : Plan σ α → StateM (Stage τ σ) α
  | .answer a => pure a
  | .read k => do (k (← get).own).run next
  | .write s k => do
    modify fun scene => { scene with own := s }
    k.run next
  | .call info input k => do (k (← next info input)).run next

def Body.executor [Listener τ] : Body σ → Executor τ σ
  | .plain act => fun info input scene =>
    let (r, own) := act info input scene.own
    (r, { scene with own := own })
  | .shared b => b.executor
  | .instrumented m b => instrument m b.executor

def Interceptor.around [Listener τ] (i : Interceptor σ) (next : Executor τ σ) : Executor τ σ :=
  match i with
  | .metrics m => instrument m next
  | .custom act => fun info input => (act info input).run next

/-- Puts the layers of interceptors around an executor, that of the first outermost. -/
def layers [Listener τ] (is : List (Interceptor σ)) (e : Executor τ σ) : Executor τ σ :=
  is.foldr Interceptor.around e

variable [Listener τ]

@[simp] theorem layers_nil (e : Executor τ σ) : layers [] e = e := rfl

@[simp] theorem layers_cons (i : Interceptor σ) (is : List (Interceptor σ)) (e : Executor τ σ) :
    layers (i :: is) e = i.around (layers is e) := rfl

theorem layers_append (is js : List (Interceptor σ)) (e : Executor τ σ) :
    layers (is ++ js) e = layers is (layers js e) := List.foldr_append

end WorkerTelemetry.Activity
