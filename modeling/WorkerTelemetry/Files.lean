import WorkerTelemetry.Text.Bytes
import WorkerTelemetry.Text.Lines
import WorkerTelemetry.Text.Quoted

/-!
The files a program can read, as a tree, and what reading a path answers. A path is followed from
the root, or from the working directory, part by part.
-/

namespace WorkerTelemetry.Files

inductive Node
  | file (bytes : List UInt8)
  | directory (entries : List (String × Node))
  deriving Inhabited

inductive Fault
  | notFound
  | notADirectory
  | isADirectory
  | denied
  | nameTooLong
  | nulInName
  | notText
  deriving DecidableEq, Repr

/-- The number of a fault that the operating system reports, its kind and its wording. -/
def Fault.system : Fault → Option (Nat × String × String)
  | .notFound => some (2, "NotFound", "No such file or directory")
  | .notADirectory => some (20, "NotADirectory", "Not a directory")
  | .isADirectory => some (21, "IsADirectory", "Is a directory")
  | .denied => some (13, "PermissionDenied", "Permission denied")
  | .nameTooLong => some (36, "InvalidFilename", "File name too long")
  | .nulInName => none
  | .notText => none

/-- The wording of a fault that is found without the operating system, and its kind. -/
def Fault.own : Fault → String × String
  | .nulInName => ("InvalidInput", "file name contained an unexpected NUL byte")
  | _ => ("InvalidData", "stream did not contain valid UTF-8")

def Fault.message (f : Fault) : String :=
  match f.system with
  | some (code, _, text) => text ++ " (os error " ++ toString code ++ ")"
  | none => f.own.2

def Fault.listing (f : Fault) : String :=
  match f.system with
  | some (code, kind, text) =>
    "Os \x7b code: " ++ toString code ++ ", kind: " ++ kind ++ ", message: " ++ Text.quote text ++
      " \x7d"
  | none =>
    "Error \x7b kind: " ++ f.own.1 ++ ", message: " ++ Text.quote f.own.2 ++ " \x7d"

/-- The greatest length of one part of a path, in bytes. -/
def partLimit : Nat := 255

/-- The greatest length of a path, in bytes. -/
def pathLimit : Nat := 4095

/-- Goes down one part; the path so far comes along, innermost first. -/
def enter (part : String) : List Node → Except Fault (List Node)
  | [] => .error .notFound
  | .file _ :: _ => .error .notADirectory
  | .directory entries :: above =>
    if part = "" ∨ part = "." then .ok (.directory entries :: above)
    else if part = ".." then
      .ok (if above.isEmpty then [.directory entries] else above)
    else if partLimit < part.utf8ByteSize then .error .nameTooLong
    else
      match entries.find? fun e => e.1 == part with
      | some e => .ok (e.2 :: .directory entries :: above)
      | none => .error .notFound

/-- A tree of files and the place in it where relative paths begin. -/
structure Tree where
  root : Node
  /-- The working directory and those above it, innermost first. -/
  working : List Node

/-- A tree in which relative paths begin at the root. -/
def Tree.ofRoot (root : Node) : Tree := ⟨root, [root]⟩

def Tree.bytes (t : Tree) (path : String) : Except Fault (List UInt8) := do
  if path.toList.contains '\x00' then throw .nulInName
  if path = "" then throw .notFound
  if pathLimit < path.utf8ByteSize then throw .nameTooLong
  let start := if path.toList.head? = some '/' then [t.root] else t.working
  let reached ← (Text.splitText '/' path).foldlM (fun nodes part => enter part nodes) start
  match reached with
  | .file bytes :: _ => return bytes
  | _ => throw .isADirectory

abbrev Reader := String → Except Fault (List UInt8)

def Reader.text (read : Reader) (path : String) : Except Fault String := do
  let bytes ← read path
  match Text.ofUtf8? bytes with
  | some s => return s
  | none => throw .notText

end WorkerTelemetry.Files
