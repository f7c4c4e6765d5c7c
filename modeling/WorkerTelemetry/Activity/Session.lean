import WorkerTelemetry.Activity.Chain

/-!
Sessions: calls on the chains of a process, one after the other. All chains share one stage, so
their bodies and interceptors share one state and tell their notices to one listener.
-/

namespace WorkerTelemetry.Activity

inductive Call (σ : Type)
  | register (kind : String) (b : Body σ)
  | intercept (i : Interceptor σ)
  | dispatch (info : Info) (input : Json)

/-- The chains of a process, by their places, and the stage they share. -/
structure Session (τ σ : Type) where
  chains : Nat → Chain σ := fun _ => {}
  stage : Stage τ σ

namespace Session

variable {τ σ : Type}

/-- A session whose chains have neither bodies nor interceptors. -/
def start (t : τ) (own : σ) : Session τ σ := { stage := ⟨t, own⟩ }

def put (s : Session τ σ) (k : Nat) (c : Chain σ) : Session τ σ :=
  { s with chains := fun j => if j = k then c else s.chains j }

variable [Listener τ]

/-- Makes a call on the chain in a place; only a dispatch is answered. -/
def call (s : Session τ σ) (k : Nat) : Call σ → Session τ σ × Option Result
  | .register kind b =>
    let (c, t) := (s.chains k).register s.stage.telemetry kind b
    ({ s.put k c with stage := { s.stage with telemetry := t } }, none)
  | .intercept i => (s.put k ((s.chains k).intercept i), none)
  | .dispatch info input =>
    let (r, stage) := (s.chains k).dispatch info input s.stage
    ({ s with stage := stage }, some r)

/-- Makes calls one after the other; the answers are in the order of the dispatches. -/
def run (s : Session τ σ) : List (Nat × Call σ) → Session τ σ × List Result
  | [] => (s, [])
  | (k, c) :: cs =>
    let (s, r) := s.call k c
    let (s, rs) := s.run cs
    (s, r.toList ++ rs)

end Session

end WorkerTelemetry.Activity
