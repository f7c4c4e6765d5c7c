import WorkerTelemetry.Activity.Chain

/-!
Ready-made bodies and interceptors. They share a memory: the trail of marks that interceptors leave
when they are entered and left, and how often each script was played.
-/

namespace WorkerTelemetry.Activity.Stock

/-- What ready-made bodies and interceptors remember. -/
structure Memory where
  trail : List String := []
  /-- How often each script was played. -/
  played : List Nat := []
  deriving Inhabited

/-! ### Bodies -/

/-- A body that remembers nothing. -/
def stateless (act : Info → Json → Result) : Body Memory :=
  .plain fun info input s => (act info input, s)

def echo : Body Memory := stateless fun _ input => .ok input

/-- Answers the information. -/
def identity : Body Memory := stateless fun info _ => .ok info.toJson

def wrap : Body Memory :=
  stateless fun info input => .ok (.ofMembers [("kind", .text info.kind), ("got", input)])

/-- Takes too long before a given attempt, and answers the input from then on. -/
def fromAttempt (n : Nat) : Body Memory :=
  stateless fun info input =>
    if info.attempt.toNat < n then .error (.timeout ("attempt " ++ toString info.attempt))
    else .ok input

/-- The answer of a script that was played a number of times; the last answer repeats. -/
def scripted (results : List Result) (played : Nat) : Result :=
  (results[played]?).getD (results.getLastD (.ok .null))

/-- Answers by a script; `id` is the number of the script in the memory. -/
def script (id : Nat) (results : List Result) : Body Memory :=
  .plain fun _ _ s =>
    let played := s.played.getD id 0
    (scripted results played, { s with played := s.played.set id (played + 1) })

/-! ### Interceptors -/

def mark (text : String) : Plan Memory Unit :=
  .change fun s => { s with trail := s.trail ++ [text] }

def resultMark : Result → String
  | .ok _ => "ok"
  | .error _ => "err"

/-- Leaves a mark before and after a plan. -/
def between (name : String) (act : Info → Json → Plan Memory Result) : Interceptor Memory :=
  .custom fun info input => do
    mark (name ++ ":enter")
    let r ← act info input
    mark (name ++ ":" ++ resultMark r)
    return r

/-- Calls on. -/
def pass (name : String) : Interceptor Memory := between name Plan.callNext

/-- Calls on with another kind. -/
def rename (name kind : String) : Interceptor Memory :=
  between name fun info input => .callNext { info with kind := kind } input

/-- Calls on with the input in a list. -/
def nest (name : String) : Interceptor Memory :=
  between name fun info input => .callNext info (.list [input])

/-- Answers without calling on. -/
def short (name : String) (r : Result) : Interceptor Memory := between name fun _ _ => .answer r

/-- Calls on and answers something else. -/
def replace (name : String) (r : Result) : Interceptor Memory :=
  between name fun info input => do
    let _ ← Plan.callNext info input
    return r

/-- Whether an answer is an error that may be tried again. -/
def retryable : Result → Bool
  | .ok _ => false
  | .error e => !e.nonRetryable

/-- Calls on, and again after errors that may be tried again, `more` times at most. -/
def attempts : Nat → Info → Json → Plan Memory Result
  | 0, info, input => .callNext info input
  | more + 1, info, input => do
    let r ← Plan.callNext info input
    if retryable r then attempts more info.nextAttempt input else return r

/-- Makes at most so many calls, but always one. -/
def retry (name : String) (times : Nat) : Interceptor Memory := between name (attempts (times - 1))

end WorkerTelemetry.Activity.Stock
