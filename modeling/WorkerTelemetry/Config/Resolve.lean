import WorkerTelemetry.Config.Validation
import WorkerTelemetry.Files
import WorkerTelemetry.Toml.Reader

/-!
Where a configuration comes from: a file or the standard values first, then two environment
variables, then flags. A later layer replaces what an earlier one gave; only the final result is
validated, so a later layer may also replace a wrong value.
-/

namespace WorkerTelemetry.Config

def levelVariable : String := "LOG_LEVEL"

def addressVariable : String := "METRICS_ADDR"

/-- Why there is no usable configuration. -/
inductive Error
  | unreadable (path : String) (fault : Files.Fault)
  | malformed
  | environment (name : String) (cause : Severity.Unknown)
  | invalid (problems : List Problem)
  deriving DecidableEq, Repr

namespace Error

/-- The wording of an error. A malformed file is reported in the words of its reader, which are
left open here. -/
def message : Error → String
  | .unreadable path fault => "IO error reading " ++ path ++ ": " ++ fault.message
  | .malformed => "Parse error"
  | .environment name cause => "Invalid " ++ name ++ ": " ++ cause.message
  | .invalid ps => "Validation failed: " ++ ", ".intercalate (ps.map Problem.message)

def listing : Error → String
  | .unreadable path fault =>
    "Io \x7b path: " ++ Text.quote path ++ ", source: " ++ fault.listing ++ " \x7d"
  | .malformed => "Parse"
  | .environment name cause =>
    "Env \x7b var: " ++ Text.quote name ++ ", source: ParseSeverityError(" ++
      Text.quote cause.text ++ ") \x7d"
  | .invalid ps => "Validation(" ++ Text.bracketed (ps.map Problem.listing) ++ ")"

end Error

abbrev Environment := String → Option String

def Environment.value? (env : Environment) (name : String) : Option String :=
  (env name).filter fun v => !Text.isBlankText v

def withEnvironment (c : Config) (env : Environment) : Except Error Config := do
  let level ←
    match env.value? levelVariable with
    | none => pure c.observability.logLevel
    | some text =>
      match Severity.parse text with
      | .ok s => pure s
      | .error cause => throw (.environment levelVariable cause)
  let address := (env.value? addressVariable).map Text.trim
  return { c with observability := { c.observability with
    logLevel := level
    metricsAddress := address.getD c.observability.metricsAddress } }

def ofFile (read : Files.Reader) (path : String) : Except Error Config :=
  match read.text path with
  | .error fault => .error (.unreadable path fault)
  | .ok text =>
    match (Toml.parse text).bind (ofJson .lenient) with
    | some c => .ok c
    | none => .error .malformed

/-- The configuration of a file, or the standard one, with the values of the environment. -/
def resolve (read : Files.Reader) (path : Option String) (env : Environment) :
    Except Error Config := do
  let c ←
    match path with
    | some path => ofFile read path
    | none => pure {}
  c.withEnvironment env

/-- The flags that replace single values. -/
structure Flags where
  logLevel : Option Severity := none
  metricsAddress : Option String := none
  deriving DecidableEq, Repr

def withFlags (c : Config) (flags : Flags) : Config :=
  { c with observability := { c.observability with
    logLevel := flags.logLevel.getD c.observability.logLevel
    metricsAddress := flags.metricsAddress.getD c.observability.metricsAddress } }

/-- Refuses a configuration with problems. -/
def validate (c : Config) : Except Error Config :=
  if c.problems = [] then .ok c else .error (.invalid c.problems)

/-- All layers, and validation at the end. -/
def load (read : Files.Reader) (path : Option String) (env : Environment) (flags : Flags) :
    Except Error Config := do
  let c ← resolve read path env
  (c.withFlags flags).validate

end WorkerTelemetry.Config
