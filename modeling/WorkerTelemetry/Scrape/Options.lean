import WorkerTelemetry.CommandLine

/-!
The command line of the scrape tool: an address in front, then a command, which prints the whole
exposition or the samples that begin with a given text.
-/

namespace WorkerTelemetry.Scrape

/-- What is done with an exposition. -/
inductive Command
  | scrape
  | grep (start : String)
  deriving DecidableEq, Repr

/-- What the command line asks for. -/
structure Options where
  url : String
  command : Command
  deriving DecidableEq, Repr

namespace Options

/-- The address that is asked if none is given. -/
def standardUrl : String := "http://localhost:9090/metrics"

def urlFlag : CommandLine.Flag := { long := "url", short := some 'u' }

def parseCommand : List String → Except CommandLine.Stop Command
  | "scrape" :: args => (CommandLine.words 0 args).map fun _ => .scrape
  | "grep" :: args => do
    match ← CommandLine.words 1 args with
    | [start] => return .grep start
    | _ => throw .usage
  | "help" :: args =>
    .error (if args = [] ∨ args = ["scrape"] ∨ args = ["grep"] ∨ args = ["help"] then .help
      else .usage)
  | _ => .error .usage

def parse (args : List String) : Except CommandLine.Stop Options := do
  let s ← CommandLine.read [urlFlag] args
  if s.dashed then throw .usage
  return ⟨(s.value? urlFlag.long).getD standardUrl, ← parseCommand s.words⟩

end Options

end WorkerTelemetry.Scrape
