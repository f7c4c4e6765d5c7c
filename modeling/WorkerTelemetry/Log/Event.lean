import WorkerTelemetry.Log.Logger

/-!
Events of the program itself: a level, the part of the program that speaks, and fields of several
types. The field named `message` is the message of the record; the other fields are its
attributes, and the speaking part comes last.
-/

namespace WorkerTelemetry.Log

inductive Level
  | trace
  | debug
  | info
  | warn
  | error
  deriving DecidableEq, Repr

/-- Records know no trace; it counts as debug. -/
def Level.severity : Level → Severity
  | .trace => .debug
  | .debug => .debug
  | .info => .info
  | .warn => .warn
  | .error => .error

inductive FieldValue
  | text (s : String)
  | signed (n : Int)
  | unsigned (n : Nat)
  /-- A whole number of any size; it is written as a text. -/
  | wide (n : Int)
  | real (x : Float)
  | flag (b : Bool)

def FieldValue.toJson : FieldValue → Json
  | .text s => .text s
  | .signed n => .ofInt n
  | .unsigned n => .ofNat n
  | .wide n => .text (Decimal.Numeral.ofInt n).toText
  | .real x => .ofFloat x
  | .flag b => .bool b

structure Event where
  level : Level
  target : String
  fields : List (String × FieldValue)

def messageField : String := "message"

namespace Event

/-- The message: of several the last counts; a message that is no text is its JSON text. -/
def message (e : Event) : String :=
  match e.fields.reverse.find? fun f => f.1 == messageField with
  | some f => f.2.toJson.nameText
  | none => ""

/-- The fields other than the message, in their order. -/
def attributes (e : Event) : List (String × Json) :=
  (e.fields.filter fun f => f.1 != messageField).map fun f => (f.1, f.2.toJson)

def record (e : Event) : Record :=
  ⟨e.level.severity, e.message, e.attributes ++ [("target", .text e.target)]⟩

end Event

end WorkerTelemetry.Log
