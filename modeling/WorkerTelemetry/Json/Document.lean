import WorkerTelemetry.Decimal.Numeral
import WorkerTelemetry.Json.Text

/-!
JSON documents as syntax: members keep their order, repeated keys stay, and numbers keep the
digits they were written with. Writing is compact. Reading accepts blanks between tokens and
refuses anything after the document.
-/

namespace WorkerTelemetry

inductive Document
  | null
  | bool (b : Bool)
  | number (n : Decimal.Numeral)
  | text (s : String)
  | list (items : List Document)
  | object (members : List (String × Document))
  deriving Inhabited

namespace Document

mutual

/-- The compact text of a document. -/
def chars : Document → List Char
  | .null => ['n', 'u', 'l', 'l']
  | .bool true => ['t', 'r', 'u', 'e']
  | .bool false => ['f', 'a', 'l', 's', 'e']
  | .number n => n.chars
  | .text s => Json.textChars s
  | .list [] => ['[', ']']
  | .list (d :: ds) => '[' :: (chars d ++ itemsChars ds)
  | .object [] => ['\x7b', '\x7d']
  | .object (m :: ms) => '\x7b' :: (memberChars m ++ membersChars ms)

/-- The items behind the first one, and the closing bracket. -/
def itemsChars : List Document → List Char
  | [] => [']']
  | d :: ds => ',' :: (chars d ++ itemsChars ds)

def memberChars : String × Document → List Char
  | (k, d) => Json.textChars k ++ ':' :: chars d

/-- The members behind the first one, and the closing brace. -/
def membersChars : List (String × Document) → List Char
  | [] => ['\x7d']
  | m :: ms => ',' :: (memberChars m ++ membersChars ms)

end

def render (d : Document) : String := String.ofList d.chars

/-- The blanks between tokens. -/
def isSpace (c : Char) : Bool := c == ' ' || c == '\t' || c == '\n' || c == '\r'

def skipSpace (cs : List Char) : List Char := cs.dropWhile isSpace

def readKey (cs : List Char) : Option (String × List Char) :=
  match skipSpace cs with
  | '"' :: cs =>
    match Json.readText cs [] with
    | some (k, cs) =>
      match skipSpace cs with
      | ':' :: cs => some (String.ofList k, cs)
      | _ => none
    | none => none
  | _ => none

mutual

/-- Reads a document from the front of a text; the first argument bounds the number of values. -/
def readValue : Nat → List Char → Option (Document × List Char)
  | 0, _ => none
  | fuel + 1, cs =>
    match skipSpace cs with
    | 'n' :: 'u' :: 'l' :: 'l' :: cs => some (.null, cs)
    | 't' :: 'r' :: 'u' :: 'e' :: cs => some (.bool true, cs)
    | 'f' :: 'a' :: 'l' :: 's' :: 'e' :: cs => some (.bool false, cs)
    | '"' :: cs => (Json.readText cs []).map fun (s, cs) => (.text (String.ofList s), cs)
    | '[' :: cs =>
      match skipSpace cs with
      | ']' :: cs => some (.list [], cs)
      | _ =>
        match readValue fuel cs with
        | some (d, cs) => (readItems fuel cs [d]).map fun (ds, cs) => (.list ds, cs)
        | none => none
    | '\x7b' :: cs =>
      match skipSpace cs with
      | '\x7d' :: cs => some (.object [], cs)
      | _ =>
        match readKey cs with
        | some (k, cs) =>
          match readValue fuel cs with
          | some (d, cs) => (readMembers fuel cs [(k, d)]).map fun (ms, cs) => (.object ms, cs)
          | none => none
        | none => none
    | cs => (Decimal.Numeral.read cs).map fun (n, cs) => (.number n, cs)

/-- Reads the items behind the first one; `acc` holds those read so far, last first. -/
def readItems : Nat → List Char → List Document → Option (List Document × List Char)
  | 0, _, _ => none
  | fuel + 1, cs, acc =>
    match skipSpace cs with
    | ']' :: cs => some (acc.reverse, cs)
    | ',' :: cs =>
      match readValue fuel cs with
      | some (d, cs) => readItems fuel cs (d :: acc)
      | none => none
    | _ => none

/-- Reads the members behind the first one; `acc` holds those read so far, last first. -/
def readMembers : Nat → List Char → List (String × Document) →
    Option (List (String × Document) × List Char)
  | 0, _, _ => none
  | fuel + 1, cs, acc =>
    match skipSpace cs with
    | '\x7d' :: cs => some (acc.reverse, cs)
    | ',' :: cs =>
      match readKey cs with
      | some (k, cs) =>
        match readValue fuel cs with
        | some (d, cs) => readMembers fuel cs ((k, d) :: acc)
        | none => none
      | none => none
    | _ => none

end

/-- Reads a whole text. A text holds fewer values than characters, so the bound is never met. -/
def parse (s : String) : Option Document :=
  match readValue (s.toList.length + 1) s.toList with
  | some (d, cs) => if skipSpace cs = [] then some d else none
  | none => none

end Document

end WorkerTelemetry
