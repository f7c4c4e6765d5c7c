import WorkerTelemetry.Json.Basic
import WorkerTelemetry.Text.Quoted

/-!
JSON values as they are shown in listings of a program's state: each value with the name of its
kind, texts quoted.
-/

namespace WorkerTelemetry.Json

mutual

/-- A value with the name of its kind. -/
def inspect : Json → String
  | .null => "Null"
  | .bool b => "Bool(" ++ (if b then "true" else "false") ++ ")"
  | .number n => "Number(" ++ (Json.number n).render ++ ")"
  | .text s => "String(" ++ Text.quote s ++ ")"
  | .list vs => "Array " ++ Text.bracketed (inspectAll vs)
  | .object ms => "Object \x7b" ++ ", ".intercalate (inspectMembers ms) ++ "\x7d"

def inspectAll : List Json → List String
  | [] => []
  | v :: vs => inspect v :: inspectAll vs

def inspectMembers : List (String × Json) → List String
  | [] => []
  | (k, v) :: ms => (Text.quote k ++ ": " ++ inspect v) :: inspectMembers ms

end

end WorkerTelemetry.Json
