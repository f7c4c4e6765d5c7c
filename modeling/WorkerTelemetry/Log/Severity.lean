import WorkerTelemetry.Json.Record
import WorkerTelemetry.Text.Blank
import WorkerTelemetry.Text.Quoted

/-!
Log severities, from debug to error. People write them in any case and with blanks around them;
stored values have one spelling.
-/

namespace WorkerTelemetry

/-- How important a log record is. -/
inductive Severity
  | debug
  | info
  | warn
  | error
  deriving DecidableEq, Repr, Inhabited

namespace Severity

/-- The place in the order of importance. -/
def rank : Severity → Nat
  | .debug => 0
  | .info => 1
  | .warn => 2
  | .error => 3

instance : LE Severity := ⟨fun a b => a.rank ≤ b.rank⟩

instance : LT Severity := ⟨fun a b => a.rank < b.rank⟩

instance (a b : Severity) : Decidable (a ≤ b) := inferInstanceAs (Decidable (a.rank ≤ b.rank))

instance (a b : Severity) : Decidable (a < b) := inferInstanceAs (Decidable (a.rank < b.rank))

/-- The severity that is assumed where none is given. -/
def standard : Severity := .info

def all : List Severity := [.debug, .info, .warn, .error]

/-- The name in log lines. -/
def name : Severity → String
  | .debug => "DEBUG"
  | .info => "INFO"
  | .warn => "WARN"
  | .error => "ERROR"

/-- The name in stored values and filter directives. -/
def label : Severity → String
  | .debug => "debug"
  | .info => "info"
  | .warn => "warn"
  | .error => "error"

structure Unknown where
  text : String
  deriving DecidableEq, Repr

def Unknown.message (e : Unknown) : String :=
  "unknown log level " ++ Text.quote e.text ++ " (expected debug, info, warn or error)"

/-- Reads a severity as people write it. -/
def parse (s : String) : Except Unknown Severity :=
  match Text.toLowerAscii (Text.trim s) with
  | "debug" => .ok .debug
  | "info" => .ok .info
  | "warn" => .ok .warn
  | "warning" => .ok .warn
  | "error" => .ok .error
  | _ => .error ⟨s⟩

def ofLabel? (s : String) : Option Severity := all.find? fun v => v.label == s

def ofJson (d : Json.Dialect) (v : Json) : Option Severity :=
  (Json.constantName d v).bind ofLabel?

def toJson (s : Severity) : Json := .text s.label

/-- The more important of two. -/
def max (a b : Severity) : Severity := if a ≤ b then b else a

/-- The less important of two. -/
def min (a b : Severity) : Severity := if a ≤ b then a else b

theorem le_trans {a b c : Severity} (hab : a ≤ b) (hbc : b ≤ c) : a ≤ c :=
  Nat.le_trans hab hbc

theorem ofLabel?_label (s : Severity) : ofLabel? s.label = some s := by cases s <;> rfl

theorem ofJson_toJson (d : Json.Dialect) (s : Severity) : ofJson d s.toJson = some s :=
  ofLabel?_label s

end Severity

end WorkerTelemetry
