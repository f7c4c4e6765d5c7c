import WorkerTelemetry.Toml.Text

/-!
Reading TOML documents. Main function: `Toml.parse`, which gives the value of a document as a tree
of members, or nothing if the document is malformed.
-/

namespace WorkerTelemetry.Toml

/-- Reads a comment up to the end of its line. -/
def skipComment : List Char → List Char
  | '#' :: cs => cs.dropWhile isPlain
  | cs => cs

/-- Drops blanks, line ends and comments; `comment` says whether the text begins inside a comment.
A character that no comment may hold is kept, and no value begins with it. -/
def skipTrivia (comment : Bool) : List Char → List Char
  | '\r' :: '\n' :: cs => skipTrivia false cs
  | c :: cs =>
    if c = '\n' then skipTrivia false cs
    else if comment then (if isPlain c then skipTrivia true cs else c :: cs)
    else if c = '#' then skipTrivia true cs
    else if isSpace c then skipTrivia false cs
    else c :: cs
  | [] => []

mutual

/-- Reads a value that stands inside `depth` others. -/
def readValue : Nat → Nat → List Char → Option (Item × List Char)
  | 0, _, _ => none
  | fuel + 1, depth, cs =>
    match cs with
    | 't' :: 'r' :: 'u' :: 'e' :: cs => some (.bool true, cs)
    | 'f' :: 'a' :: 'l' :: 's' :: 'e' :: cs => some (.bool false, cs)
    | '[' :: cs =>
      if depth + 1 < depthLimit then
        (readItems fuel (depth + 1) cs []).map fun (is, cs) => (.list is, cs)
      else none
    | '\x7b' :: cs =>
      if depth + 1 < depthLimit then
        match skipSpace cs with
        | '\x7d' :: cs => some (.inline .written [], cs)
        | cs =>
          (readPairs fuel (depth + 1) cs ⟨.written, []⟩).map fun (b, cs) =>
            (.inline .written b.entries, cs)
      else none
    | c :: _ =>
      if c = '"' ∨ c = '\x27' then (readString cs).map fun (s, cs) => (.text s, cs)
      else if c.isDigit ∨ c = '+' ∨ c = '-' then readNumeric cs
      else readSpecial cs
    | [] => none

/-- Reads the items of a list from behind its bracket or a comma; `acc` holds those read so far,
last first. -/
def readItems : Nat → Nat → List Char → List Item → Option (List Item × List Char)
  | 0, _, _, _ => none
  | fuel + 1, depth, cs, acc =>
    match skipTrivia false cs with
    | ']' :: cs => some (acc.reverse, cs)
    | cs =>
      match readValue fuel depth cs with
      | none => none
      | some (i, cs) =>
        match skipTrivia false cs with
        | ',' :: cs => readItems fuel depth cs (i :: acc)
        | ']' :: cs => some ((i :: acc).reverse, cs)
        | _ => none

/-- Reads the pairs of a table between braces. -/
def readPairs : Nat → Nat → List Char → Body → Option (Body × List Char)
  | 0, _, _, _ => none
  | fuel + 1, depth, cs, b =>
    match readKey cs with
    | some (keys, '=' :: cs) =>
      match readValue fuel depth (skipSpace cs) with
      | none => none
      | some (i, cs) =>
        match b.addInlineKey keys i with
        | none => none
        | some b =>
          match skipSpace cs with
          | ',' :: cs => readPairs fuel depth cs b
          | '\x7d' :: cs => some (b, cs)
          | _ => none
    | _ => none

end

/-- Reads what may stand at the end of a line: blanks, a comment, and the line end itself. -/
def readLineEnd (cs : List Char) : Option (List Char) :=
  match skipComment (skipSpace cs) with
  | [] => some []
  | cs => readNewline cs

/-- Reads a header from behind its opening brackets up to its closing ones. -/
def readHeader (close : List Char) : Reader (List String) := fun cs => do
  let (path, cs) ← readKey cs
  if close.isPrefixOf cs then return (path, cs.drop close.length) else none

/-- Reads one line that is neither blank nor a comment. -/
def readLine (d : Draft) (cs : List Char) : Option (Draft × List Char) :=
  match cs with
  | '[' :: '[' :: cs => do
    let (path, cs) ← readHeader [']', ']'] cs
    return (← d.startElement path, ← readLineEnd cs)
  | '[' :: cs => do
    let (path, cs) ← readHeader [']'] cs
    return (← d.startTable path, ← readLineEnd cs)
  | cs => do
    let (keys, cs) ← readKey cs
    let cs := skipSpace (← readChar '=' cs)
    let (i, cs) ← readValue (cs.length + 1) 0 cs
    return (← d.addKey keys i, ← readLineEnd cs)

def readLines : Nat → Draft → List Char → Option Draft
  | 0, _, _ => none
  | fuel + 1, d, cs =>
    match skipSpace cs with
    | [] => some d
    | '#' :: cs =>
      match readLineEnd ('#' :: cs) with
      | some cs => readLines fuel d cs
      | none => none
    | cs =>
      match readNewline cs with
      | some cs => readLines fuel d cs
      | none =>
        match readLine d cs with
        | some (d, cs) => readLines fuel d cs
        | none => none

/-- Drops the mark of byte order at the front. -/
def skipMark : List Char → List Char
  | '\ufeff' :: cs => cs
  | cs => cs

/-- The value of a document. -/
def parse (s : String) : Option Json := do
  let cs := skipMark s.toList
  let draft ← readLines (cs.length + 1) {} cs
  let root ← draft.finish
  return Json.ofMembers (entriesToJson root.entries)

end WorkerTelemetry.Toml
