import WorkerTelemetry.Scrape.Run
import WorkerTelemetry.Worker.Run

/-!
The two programs. The worker takes one request per line of its input, a method and a target, and
ends with its input; its log goes to standard error. After the word `metrics-cli` the scrape tool
runs on an exposition given as input.
-/

namespace WorkerTelemetry.Main

def faultOf : IO.Error → Files.Fault
  | .inappropriateType .. => .isADirectory
  | .permissionDenied .. => .denied
  | _ => .notFound

def readFile (path : String) : IO (Except Files.Fault (List UInt8)) := do
  try return .ok (← IO.FS.readBinFile path).toList
  catch e => return .error (faultOf e)

/-- The environment, as far as it matters. -/
def readEnvironment : IO Config.Environment := do
  let names := [Config.levelVariable, Config.addressVariable, Worker.filterVariable]
  let values ← names.mapM fun n => return (n, ← IO.getEnv n)
  return fun n => (values.find? fun v => v.1 == n).bind (·.2)

def firstNumber (s : String) : Nat :=
  let ds := (s.toList.dropWhile fun c => !c.isDigit).takeWhile Char.isDigit
  Nat.ofDigitChars 10 ds 0

/-- The time now: the moment of the last start of the system and the time since. -/
def readTime : IO Log.Timestamp := do
  try
    let status ← IO.FS.readFile "/proc/stat"
    let start := (Text.lines status).find? fun l => "btime".toList.isPrefixOf l.toList
    let uptime ← IO.FS.readFile "/proc/uptime"
    return ⟨((start.map firstNumber).getD 0 + firstNumber uptime) * 1000⟩
  catch _ => return ⟨0⟩

/-- Writes what a log took up since it had a length, and says how long it is now. -/
def showLog (t : Telemetry) (shown : Nat) : IO Nat := do
  let bytes := t.console.sink.writer.accepted
  (← IO.getStderr).write ⟨(bytes.drop shown).toArray⟩
  return bytes.length

/-- Answers requests until the input ends. -/
partial def answerRequests (rt : Lifecycle.Runtime) (shown : Nat) :
    IO (Lifecycle.Runtime × Nat) := do
  let line ← (← IO.getStdin).getLine
  if line.isEmpty then return (rt, shown)
  match Text.splitText ' ' (Text.trim line) with
  | [method, target] =>
    let rt := { rt with telemetry := { rt.telemetry with time := ← readTime } }
    match (Http.Request.make method target).map rt.respond with
    | some (rt, some answer) =>
      IO.println (toString answer.status ++ "\n" ++ answer.body)
      answerRequests rt (← showLog rt.telemetry shown)
    | _ =>
      IO.println "400\n"
      answerRequests rt shown
  | _ =>
    IO.println "400\n"
    answerRequests rt shown

def showExit (e : Worker.Exit) (shown : Nat) : IO UInt32 := do
  if let some t := e.telemetry then let _ ← showLog t shown
  if let some line := e.error then IO.eprintln line
  return e.code.toUInt32

def worker (args : List String) : IO UInt32 := do
  let path := (Worker.Options.parse args).toOption.bind (·.config)
  let content ← path.mapM readFile
  let surroundings : Worker.Surroundings :=
    { read := fun p => if some p = path then content.getD (.error .notFound) else .error .notFound
      environment := ← readEnvironment
      host :=
        { isLocal := Net.isLoopback, names := [("localhost", .v4 127 0 0 1)], freePort := 9090 }
      writer := .steady
      time := ← readTime }
  match Worker.start surroundings args with
  | .error e => showExit e 0
  | .ok rt =>
    let (rt, shown) ← answerRequests rt (← showLog rt.telemetry 0)
    let rt := { rt with telemetry := { rt.telemetry with time := ← readTime } }
    showExit (Worker.finish rt "SIGTERM") shown

def scrape (args : List String) : IO UInt32 := do
  let body ← (← IO.getStdin).readToEnd
  let e := Scrape.run (fun _ => .ok ⟨200, body⟩) args
  IO.print e.output
  if let some line := e.error then IO.eprintln line
  return e.code.toUInt32

end WorkerTelemetry.Main

/-- Runs the worker, or the scrape tool if its name comes first. -/
def main : List String → IO UInt32
  | "metrics-cli" :: args => WorkerTelemetry.Main.scrape args
  | args => WorkerTelemetry.Main.worker args
