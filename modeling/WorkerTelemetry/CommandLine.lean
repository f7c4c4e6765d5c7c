import WorkerTelemetry.Text.Lines

/-!
Command lines. Options have a long name and possibly a short one, take one value, and may be given
once; the value follows as the next argument, behind an equals sign, or right behind the short
name. Two dashes end the options. The first argument that is wrong, or asks for help, decides.
-/

namespace WorkerTelemetry.CommandLine

/-- An option. -/
structure Flag where
  long : String
  short : Option Char := none
  /-- Whether a value is acceptable. -/
  accepts : String → Bool := fun _ => true

/-- Why a command line is not carried out. -/
inductive Stop
  | help
  | usage
  deriving DecidableEq, Repr

/-- The arguments, taken apart. -/
structure Scanned where
  /-- The options by their long names. -/
  options : List (String × String) := []
  /-- The first argument that is no option, and all behind it. -/
  words : List String := []
  /-- Whether two dashes stood in front of the words. -/
  dashed : Bool := false
  deriving DecidableEq, Repr

def Scanned.value? (s : Scanned) (long : String) : Option String :=
  (s.options.find? fun o => o.1 == long).map (·.2)

/-- Whether an argument begins like an option; one dash alone does not. -/
def isDashed (a : String) : Bool := a.toList.head? == some '-' && a != "-"

def addOption (s : Scanned) (f : Flag) (value : String) : Except Stop Scanned :=
  if f.accepts value = false ∨ (s.value? f.long).isSome then .error .usage
  else .ok { s with options := s.options ++ [(f.long, value)] }

/-- What an argument that begins like an option says. -/
inductive Reading
  | valued (f : Flag) (value : String)
  /-- The value is the next argument. -/
  | awaiting (f : Flag)
  | stop (s : Stop)

/-- Reads a long option; `cs` follows the two dashes. -/
def readLong (flags : List Flag) (cs : List Char) : Reading :=
  let name := String.ofList (cs.takeWhile (· != '='))
  let value := (cs.dropWhile (· != '=')).tail?.map String.ofList
  match flags.find? fun f => f.long == name with
  | some f =>
    match value with
    | some v => .valued f v
    | none => .awaiting f
  | none => .stop (if name = "help" ∧ value.isNone then .help else .usage)

/-- Reads a short option; `cs` follows the dash. -/
def readShort (flags : List Flag) (cs : List Char) : Reading :=
  match cs with
  | [] => .stop .usage
  | c :: cs =>
    match flags.find? fun f => f.short == some c with
    | some f =>
      match cs with
      | [] => .awaiting f
      | '=' :: v => .valued f (String.ofList v)
      | v => .valued f (String.ofList v)
    | none => .stop (if c = 'h' then .help else .usage)

def readOption (flags : List Flag) (a : String) : Reading :=
  match a.toList with
  | '-' :: '-' :: cs => readLong flags cs
  | cs => readShort flags (cs.drop 1)

/-- Takes the arguments apart; `waiting` is an option whose value comes next. -/
def scan (flags : List Flag) (waiting : Option Flag) (s : Scanned) :
    List String → Except Stop Scanned
  | [] => if waiting.isSome then .error .usage else .ok s
  | a :: rest =>
    match waiting with
    | some f =>
      if isDashed a then .error .usage
      else
        match addOption s f a with
        | .ok s => scan flags none s rest
        | .error e => .error e
    | none =>
      if a = "--" then .ok { s with words := rest, dashed := true }
      else if isDashed a = false then .ok { s with words := a :: rest }
      else
        match readOption flags a with
        | .stop e => .error e
        | .awaiting f => scan flags (some f) s rest
        | .valued f v =>
          match addOption s f v with
          | .ok s => scan flags none s rest
          | .error e => .error e

/-- Takes the arguments apart. -/
def read (flags : List Flag) (args : List String) : Except Stop Scanned := scan flags none {} args

/-- The words of a command that takes no options and at most so many words. -/
def words (most : Nat) : List String → Except Stop (List String)
  | [] => .ok []
  | a :: rest =>
    if a = "--" then (if rest.length ≤ most then .ok rest else .error .usage)
    else if isDashed a then
      .error (match readOption [] a with
        | .stop e => e
        | _ => .usage)
    else
      match most with
      | 0 => .error .usage
      | most + 1 => (words most rest).map (a :: ·)

end WorkerTelemetry.CommandLine
