import WorkerTelemetry.Text.Lines

/-!
Picking samples out of an exposition: the lines that are no comments and begin with a given text.
-/

namespace WorkerTelemetry.Scrape

def isComment (line : String) : Bool := line.toList.head? == some '#'

def samplesStarting (start : String) (body : String) : List String :=
  (Text.lines body).filter fun line => !isComment line && start.toList.isPrefixOf line.toList

example : samplesStarting "a" "# HELP a x\na 1\r\nb 2\na_sum 3" = ["a 1", "a_sum 3"] := by
  decide +kernel

end WorkerTelemetry.Scrape
