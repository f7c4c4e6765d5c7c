import WorkerTelemetry.Activity.Info
import WorkerTelemetry.Activity.Outcome

/-!
What an interceptor does: it reads and writes a state of its own and calls the next executor as
often as it likes, with any information and input. It sees nothing of the metrics or the log.
Every plan ends.
-/

namespace WorkerTelemetry.Activity

/-- Steps that end in a value. -/
inductive Plan (σ : Type) (α : Type)
  | answer (a : α)
  | read (next : σ → Plan σ α)
  | write (s : σ) (next : Plan σ α)
  | call (info : Info) (input : Json) (next : Result → Plan σ α)

namespace Plan

variable {σ α β : Type}

def bind (p : Plan σ α) (f : α → Plan σ β) : Plan σ β :=
  match p with
  | .answer a => f a
  | .read next => .read fun s => (next s).bind f
  | .write s next => .write s (next.bind f)
  | .call info input next => .call info input fun r => (next r).bind f

instance : Monad (Plan σ) where
  pure := .answer
  bind := bind

def callNext (info : Info) (input : Json) : Plan σ Result := .call info input .answer

def change (f : σ → σ) : Plan σ Unit := .read fun s => .write (f s) (.answer ())

end Plan

end WorkerTelemetry.Activity
