import WorkerTelemetry.Json.Document
import WorkerTelemetry.Json.Number

/-!
JSON values. An object lists its members in ascending order of their keys, each key once; of
members with one key the last is kept.
-/

namespace WorkerTelemetry

inductive Json
  | null
  | bool (b : Bool)
  | number (n : Json.Number)
  | text (s : String)
  | list (items : List Json)
  | object (members : List (String × Json))
  deriving Inhabited

namespace Json

/-- Puts a member at its place, in front of the larger keys and instead of an equal one. -/
def placeMember (k : String) (v : Json) : List (String × Json) → List (String × Json)
  | [] => [(k, v)]
  | m :: ms =>
    if k < m.1 then (k, v) :: m :: ms
    else if k = m.1 then (k, v) :: ms
    else m :: placeMember k v ms

/-- The object with these members; of equal keys the last counts. -/
def ofMembers (ms : List (String × Json)) : Json :=
  .object (ms.foldl (fun acc m => placeMember m.1 m.2 acc) [])

mutual

/-- The value that a document denotes; nothing if it holds a number that is too large. -/
def ofDocument : Document → Option Json
  | .null => some .null
  | .bool b => some (.bool b)
  | .number n => (Number.ofNumeral n).map .number
  | .text s => some (.text s)
  | .list ds => (ofDocuments ds).map .list
  | .object ms => (ofDocumentMembers ms).map ofMembers

def ofDocuments : List Document → Option (List Json)
  | [] => some []
  | d :: ds =>
    match ofDocument d, ofDocuments ds with
    | some v, some vs => some (v :: vs)
    | _, _ => none

def ofDocumentMembers : List (String × Document) → Option (List (String × Json))
  | [] => some []
  | (k, d) :: ms =>
    match ofDocument d, ofDocumentMembers ms with
    | some v, some vs => some ((k, v) :: vs)
    | _, _ => none

end

/-- A number as it is written; one that is not finite is written as null. -/
def Number.toDocument (n : Number) : Document :=
  match n.numeral? with
  | some numeral => .number numeral
  | none => .null

mutual

def toDocument : Json → Document
  | .null => .null
  | .bool b => .bool b
  | .number n => n.toDocument
  | .text s => .text s
  | .list vs => .list (toDocuments vs)
  | .object ms => .object (toDocumentMembers ms)

def toDocuments : List Json → List Document
  | [] => []
  | v :: vs => toDocument v :: toDocuments vs

def toDocumentMembers : List (String × Json) → List (String × Document)
  | [] => []
  | (k, v) :: ms => (k, toDocument v) :: toDocumentMembers ms

end

/-- Reads a value from a text. -/
def parse (s : String) : Option Json := (Document.parse s).bind ofDocument

/-- The compact text of a value. -/
def render (v : Json) : String := v.toDocument.render

def ofInt (n : Int) : Json := .number (.int n)

def ofNat (n : Nat) : Json := .number (.int (Int.ofNat n))

/-- A double; one that is not finite has no JSON number and becomes null. -/
def ofFloat (x : Float) : Json := if Decimal.isFinite x then .number (.real x) else .null

def member? (k : String) : Json → Option Json
  | .object ms => (ms.find? fun m => m.1 == k).map (·.2)
  | _ => none

/-- The text of a value used as a name: texts as they are, all else as compact JSON. -/
def nameText : Json → String
  | .text s => s
  | v => v.render

end Json

end WorkerTelemetry
