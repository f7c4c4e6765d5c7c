import WorkerTelemetry.Config.Schema
import WorkerTelemetry.Net.SocketAddress

/-!
What a configuration has to satisfy before it is used. All problems are reported, not only the
first: the metrics address is a socket address, and the metrics path is a path to be taken
literally.
-/

namespace WorkerTelemetry

/-- What is wrong with a configuration. -/
inductive Config.Problem
  | address (text : String)
  | path (text : String)
  | pathPattern (text : String)
  deriving DecidableEq, Repr

namespace Config.Problem

def kind : Problem → String
  | .address _ => "MetricsAddress"
  | .path _ => "MetricsPath"
  | .pathPattern _ => "MetricsPathPattern"

/-- The value that is wrong. -/
def text : Problem → String
  | .address t => t
  | .path t => t
  | .pathPattern t => t

def message : Problem → String
  | .address t => "observability.metrics_address " ++ Text.quote t ++ " is not a socket address"
  | .path t => "observability.metrics_path " ++ Text.quote t ++ " must start with '/'"
  | .pathPattern t =>
    "observability.metrics_path " ++ Text.quote t ++
      " must be a literal path without ':' or '*' segments or braces"

def listing (p : Problem) : String := p.kind ++ "(" ++ Text.quote p.text ++ ")"

end Config.Problem

namespace Config

/-- Whether a router takes a path literally: no braces, and no segment that begins like a capture
or a wildcard. -/
def isLiteralPath (path : String) : Bool :=
  (path.toList.all fun c => c != '\x7b' && c != '\x7d') &&
    (Text.splitOnChar '/' path.toList).all fun s => s.head? != some ':' && s.head? != some '*'

def pathProblem (path : String) : Option Problem :=
  if path.toList.head? ≠ some '/' then some (.path path)
  else if isLiteralPath path then none
  else some (.pathPattern path)

def addressProblem (address : String) : Option Problem :=
  if (Net.SocketAddress.parse address).isSome then none else some (.address address)

def problems (c : Config) : List Problem :=
  (addressProblem c.observability.metricsAddress).toList ++
    (pathProblem c.observability.metricsPath).toList

def Valid (c : Config) : Prop := c.problems = []

instance (c : Config) : Decidable c.Valid := inferInstanceAs (Decidable (c.problems = []))

theorem valid_iff {c : Config} :
    c.Valid ↔ addressProblem c.observability.metricsAddress = none ∧
      pathProblem c.observability.metricsPath = none := by
  simp [Valid, problems]

end Config

end WorkerTelemetry
