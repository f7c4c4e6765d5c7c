import WorkerTelemetry.Json.Text
import WorkerTelemetry.Toml.Scalar

/-!
TOML texts. There are four kinds: between double quotes with escapes, between single quotes as they
are, and both over several lines between tripled quotes. Control characters other than the tab are
refused, and so is a carriage return without a line feed.
-/

namespace WorkerTelemetry.Toml

/-- The characters that may stand in comments and texts. -/
def isPlain (c : Char) : Bool :=
  c == '\t' || (decide (0x20 ≤ c.toNat) && c.toNat != 0x7f)

def readNewline : List Char → Option (List Char)
  | '\n' :: cs => some cs
  | '\r' :: '\n' :: cs => some cs
  | _ => none

/-- Spaces and tabs. -/
def isSpace (c : Char) : Bool := c == ' ' || c == '\t'

def skipSpace (cs : List Char) : List Char := cs.dropWhile isSpace

/-- Reads exactly so many hexadecimal digits as a character. -/
def readCodePoint (count : Nat) : Reader Char := fun cs =>
  let ds := cs.take count
  let n := valueOf 16 ds
  if ds.length = count ∧ ds.all (isDigitOf 16) = true ∧ n.isValidChar then
    some (Char.ofNat n, cs.drop count)
  else none

/-- Reads an escape from behind its backslash. -/
def readEscape : Reader Char
  | 'b' :: cs => some ('\x08', cs)
  | 't' :: cs => some ('\t', cs)
  | 'n' :: cs => some ('\n', cs)
  | 'f' :: cs => some ('\x0c', cs)
  | 'r' :: cs => some ('\r', cs)
  | '"' :: cs => some ('"', cs)
  | '\\' :: cs => some ('\\', cs)
  | 'u' :: cs => readCodePoint 4 cs
  | 'U' :: cs => readCodePoint 8 cs
  | _ => none

/-- Drops spaces, tabs and line ends. -/
def skipBlankLines : List Char → List Char
  | '\r' :: '\n' :: cs => skipBlankLines cs
  | c :: cs => if c = ' ' ∨ c = '\t' ∨ c = '\n' then skipBlankLines cs else c :: cs
  | [] => []

/-- Reads a text between double quotes from behind the first one. -/
def readBasic : Nat → List Char → List Char → Option (String × List Char)
  | 0, _, _ => none
  | fuel + 1, cs, acc =>
    match cs with
    | '"' :: cs => some (String.ofList acc.reverse, cs)
    | '\\' :: cs =>
      match readEscape cs with
      | some (c, cs) => readBasic fuel cs (c :: acc)
      | none => none
    | c :: cs => if isPlain c then readBasic fuel cs (c :: acc) else none
    | [] => none

/-- Reads a text between single quotes from behind the first one. -/
def readLiteral : List Char → List Char → Option (String × List Char)
  | '\x27' :: cs, acc => some (String.ofList acc.reverse, cs)
  | c :: cs, acc => if isPlain c then readLiteral cs (c :: acc) else none
  | [], _ => none

/-- A run of three or more quotes ends a text over several lines; up to two of them before the last
three belong to the text. Gives the text's own quotes and the rest. -/
def closing (q : Char) (cs : List Char) : Option (List Char × List Char) :=
  let run := (cs.takeWhile (· == q)).length
  if run < 3 then none
  else
    let own := min (run - 3) 2
    some (List.replicate own q, cs.drop (own + 3))

/-- Reads a text between tripled double quotes from behind them. A backslash at the end of a line
swallows the blanks and line ends behind it. -/
def readBasicLines : Nat → List Char → List Char → Option (String × List Char)
  | 0, _, _ => none
  | fuel + 1, cs, acc =>
    match closing '"' cs with
    | some (own, rest) => some (String.ofList (acc.reverse ++ own), rest)
    | none =>
      match cs with
      | '\\' :: cs =>
        match readNewline (skipSpace cs) with
        | some cs => readBasicLines fuel (skipBlankLines cs) acc
        | none =>
          match readEscape cs with
          | some (c, cs) => readBasicLines fuel cs (c :: acc)
          | none => none
      | c :: rest =>
        match readNewline cs with
        | some cs => readBasicLines fuel cs ('\n' :: acc)
        | none => if isPlain c then readBasicLines fuel rest (c :: acc) else none
      | [] => none

/-- Reads a text between tripled single quotes from behind them. -/
def readLiteralLines : Nat → List Char → List Char → Option (String × List Char)
  | 0, _, _ => none
  | fuel + 1, cs, acc =>
    match closing '\x27' cs with
    | some (own, rest) => some (String.ofList (acc.reverse ++ own), rest)
    | none =>
      match cs with
      | c :: rest =>
        match readNewline cs with
        | some cs => readLiteralLines fuel cs ('\n' :: acc)
        | none => if isPlain c then readLiteralLines fuel rest (c :: acc) else none
      | [] => none

/-- Drops a line end directly behind tripled quotes. -/
def skipFirstNewline (cs : List Char) : List Char := (readNewline cs).getD cs

def readString : Reader String := fun cs =>
  match cs with
  | '"' :: '"' :: '"' :: cs => readBasicLines (cs.length + 1) (skipFirstNewline cs) []
  | '\x27' :: '\x27' :: '\x27' :: cs => readLiteralLines (cs.length + 1) (skipFirstNewline cs) []
  | '"' :: cs => readBasic (cs.length + 1) cs []
  | '\x27' :: cs => readLiteral cs []
  | _ => none

/-- Whether a character may stand in a key without quotes. -/
def isBareKey (c : Char) : Bool := c.isAlphanum || c == '_' || c == '-'

def readKeyPart : Reader String := fun cs =>
  match cs with
  | '"' :: cs => readBasic (cs.length + 1) cs []
  | '\x27' :: cs => readLiteral cs []
  | _ =>
    let name := cs.takeWhile isBareKey
    if name = [] then none else some (String.ofList name, cs.dropWhile isBareKey)

/-- The greatest depth of dotted keys and of values inside values. -/
def depthLimit : Nat := 80

/-- Reads the parts of a dotted key; blanks may stand around each. -/
def readKeyParts : Nat → List Char → List String → Option (List String × List Char)
  | 0, _, _ => none
  | fuel + 1, cs, acc =>
    match readKeyPart (skipSpace cs) with
    | none => none
    | some (k, cs) =>
      match skipSpace cs with
      | '.' :: cs => readKeyParts fuel cs (k :: acc)
      | cs => some ((k :: acc).reverse, cs)

def readKey : Reader (List String) := fun cs => readKeyParts (depthLimit - 1) cs []

end WorkerTelemetry.Toml
