import WorkerTelemetry.Json.Record

/-!
Errors of activities, as the engine sees them: a kind, a message, and whether trying again makes
sense. Kinds have a name in stored values and another one in messages.
-/

namespace WorkerTelemetry.Activity

inductive ErrorKind
  | application
  | canceled
  | timeout
  deriving DecidableEq, Repr, Inhabited

namespace ErrorKind

def all : List ErrorKind := [.application, .canceled, .timeout]

/-- The name in stored values. -/
def label : ErrorKind → String
  | .application => "Application"
  | .canceled => "Canceled"
  | .timeout => "Timeout"

/-- The name in messages. -/
def word : ErrorKind → String
  | .application => "application"
  | .canceled => "canceled"
  | .timeout => "timeout"

def ofLabel? (s : String) : Option ErrorKind := all.find? fun k => k.label == s

def ofJson (v : Json) : Option ErrorKind := (Json.constantName .strict v).bind ofLabel?

def toJson (k : ErrorKind) : Json := .text k.label

theorem ofJson_toJson (k : ErrorKind) : ofJson k.toJson = some k := by cases k <;> rfl

end ErrorKind

structure Error where
  kind : ErrorKind
  message : String
  /-- Whether the engine should stop trying. -/
  nonRetryable : Bool
  deriving DecidableEq, Repr, Inhabited

namespace Error

/-- An ordinary error; it may be tried again. -/
def application (message : String) : Error := ⟨.application, message, false⟩

/-- The end of an activity that was canceled; it is not tried again. -/
def canceled (message : String) : Error := ⟨.canceled, message, true⟩

/-- The end of an activity that took too long; it may be tried again. -/
def timeout (message : String) : Error := ⟨.timeout, message, false⟩

/-- The same error, not to be tried again. -/
def final (e : Error) : Error := { e with nonRetryable := true }

def text (e : Error) : String := e.kind.word ++ " error: " ++ e.message

def fieldNames : List String := ["kind", "message", "non_retryable"]

def ofJson (v : Json) : Option Error := do
  match ← Json.slots .strict fieldNames v with
  | [kind, message, nonRetryable] =>
    let kind ← Json.required ErrorKind.ofJson kind
    let message ← Json.required Json.text? message
    let nonRetryable ← Json.required Json.bool? nonRetryable
    return ⟨kind, message, nonRetryable⟩
  | _ => none

def toJson (e : Error) : Json :=
  .ofMembers [("kind", e.kind.toJson), ("message", .text e.message),
    ("non_retryable", .bool e.nonRetryable)]

end Error

end WorkerTelemetry.Activity
