import WorkerTelemetry.Json.Basic

/-!
Records and constants inside JSON values. A record is an object, whose unknown members do not
count, or a list of its fields in their order. A constant is its name, or an object whose only
member has that name and an empty value. Formats differ in what they let pass, so the rules that
differ are parameters.
-/

namespace WorkerTelemetry.Json

/-- What a format lets pass. -/
structure Dialect where
  /-- Whether a list may have more items than the record has fields. -/
  surplus : Bool
  /-- The values that may stand beside the name of a constant. -/
  emptyValue : Json → Bool

/-- JSON: no surplus items, and only null beside a constant. -/
def Dialect.strict : Dialect :=
  { surplus := false
    emptyValue := fun
      | .null => true
      | _ => false }

/-- Configuration files: surplus items are ignored, and a constant stands with an empty table or
an empty list. -/
def Dialect.lenient : Dialect :=
  { surplus := true
    emptyValue := fun
      | .object [] => true
      | .list [] => true
      | _ => false }

/-- Pairs field names with the items of a list; fields behind its end are missing. -/
def positional : List String → List Json → List (Option Json)
  | [], _ => []
  | _ :: names, [] => none :: positional names []
  | _ :: names, v :: vs => some v :: positional names vs

/-- The fields of a record in the order of their names; nothing if the value is no record. -/
def slots (d : Dialect) (names : List String) : Json → Option (List (Option Json))
  | .object ms => some (names.map fun n => member? n (.object ms))
  | .list vs =>
    if d.surplus = true ∨ vs.length ≤ names.length then some (positional names vs) else none
  | _ => none

/-- A field that has to be there. -/
def required {α : Type} (decode : Json → Option α) (slot : Option Json) : Option α :=
  slot.bind decode

/-- A field that has a value of its own if it is missing. -/
def optional {α : Type} (default : α) (decode : Json → Option α) : Option Json → Option α
  | none => some default
  | some v => decode v

def constantName (d : Dialect) : Json → Option String
  | .text s => some s
  | .object [(k, v)] => if d.emptyValue v then some k else none
  | _ => none

def text? : Json → Option String
  | .text s => some s
  | _ => none

/-- A truth value. -/
def bool? : Json → Option Bool
  | .bool b => some b
  | _ => none

def natBelow (bound : Nat) : Json → Option Nat
  | .number (.int n) => if 0 ≤ n ∧ n.toNat < bound then some n.toNat else none
  | _ => none

end WorkerTelemetry.Json
