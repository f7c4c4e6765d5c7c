import WorkerTelemetry.CommandLine
import WorkerTelemetry.Config.Resolve

/-!
The command line of the worker: a configuration file, and two values that replace those of all
other places.
-/

namespace WorkerTelemetry.Worker

/-- What the command line asks for. -/
structure Options where
  config : Option String := none
  flags : Config.Flags := {}
  deriving DecidableEq, Repr

namespace Options

/-- The option for the configuration file, whose name is not empty. -/
def configFlag : CommandLine.Flag :=
  { long := "config", short := some 'c', accepts := fun v => v != "" }

def levelFlag : CommandLine.Flag :=
  { long := "log-level", accepts := fun v => (Severity.parse v).toOption.isSome }

def addressFlag : CommandLine.Flag := { long := "metrics-address" }

def parse (args : List String) : Except CommandLine.Stop Options := do
  let s ← CommandLine.read [configFlag, levelFlag, addressFlag] args
  if s.words ≠ [] then throw .usage
  return {
    config := s.value? configFlag.long
    flags := {
      logLevel := (s.value? levelFlag.long).bind fun v => (Severity.parse v).toOption
      metricsAddress := s.value? addressFlag.long } }

end Options

end WorkerTelemetry.Worker
