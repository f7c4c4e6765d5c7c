import WorkerTelemetry.Proofs.Activity.Accounting
import WorkerTelemetry.Proofs.Activity.Work
import WorkerTelemetry.Proofs.Lifecycle.Stopping

/-!
A process and its log. Whatever is done with a process, its answers and all of its state but the log
are the same with any log: any filter, any least severity, any writer however it fails, and any
clock. Main statement: `Process.run_withLog`, which also says that all logs are handed the same
entries. How long executions take is part of what is given, as everywhere here.
-/

namespace WorkerTelemetry

namespace Log

/-- What a log is handed: an event of the program, or a record of an engine's logger, which no
filter stops. -/
inductive Entry
  | event (e : Event)
  | record (r : Record)

namespace Console

def take (time : Timestamp) (c : Console) : Entry → Console
  | .event e => c.emit time e
  | .record r => { c with sink := c.sink.write time r }

def takeAll (c : Console) (time : Timestamp) (es : List Entry) : Console := es.foldl (take time) c

end Console

end Log

/-- The same telemetry with another log. -/
def Telemetry.withLog (t : Telemetry) (log : Log.Console) (time : Log.Timestamp) : Telemetry :=
  { t with console := log, time := time }

/-! ### Calls on chains -/

namespace Activity

variable {σ : Type}

theorem Chain.alike_self {τ υ : Type} {heard : τ → υ → Prop} (c : Chain σ) :
    Chain.Alike (fun _ => True) heard Eq c c := by
  refine ⟨fun kind => ?_, List.forall₂_same.2 fun i _ => ?_⟩
  · cases c.bodies.find? kind with
    | none => exact .none
    | some b => exact .some (Body.alike_self fun _ _ => trivial)
  · cases i with
    | metrics m => exact .metrics trivial
    | custom act => exact .custom fun info input => (act info input).agree_self

/-- What telemetry hears of a call, what is answered, and what becomes of the chains and of the
state of the bodies does not depend on the telemetry. -/
theorem Session.call_hears (chains : Nat → Chain σ) (own : σ) (k : Nat) (c : Call σ) :
    ∃ (ns : List Notice) (later : Nat → Chain σ) (own' : σ) (answer : Option Result),
      ∀ t : Telemetry, Session.call ⟨chains, ⟨t, own⟩⟩ k c =
        (⟨later, ⟨ns.foldl Listener.hear t, own'⟩⟩, answer) := by
  let start : Session (List Notice) σ := ⟨chains, ⟨[], own⟩⟩
  refine ⟨(start.call k c).1.stage.telemetry, (start.call k c).1.chains,
    (start.call k c).1.stage.own, (start.call k c).2, fun t => ?_⟩
  let heard : Telemetry → List Notice → Prop := fun t' ns => t' = ns.foldl Listener.hear t
  have hears : HearAlike (fun _ => True) heard := hearAlike_foldl t
  have alike : Session.Alike (fun _ => True) heard Eq ⟨chains, ⟨t, own⟩⟩ start :=
    ⟨fun k => (chains k).alike_self, rfl, rfl⟩
  have later : (Session.call ⟨chains, ⟨t, own⟩⟩ k c).1.chains = (start.call k c).1.chains := by
    cases c <;> rfl
  obtain ⟨answer, -, telemetry, left⟩ :=
    alike.call hears k (Call.alike_self (c := c) fun _ _ => trivial)
  generalize Session.call ⟨chains, ⟨t, own⟩⟩ k c = now at later answer telemetry left ⊢
  obtain ⟨⟨chains', ⟨t', own'⟩⟩, r⟩ := now
  cases later
  cases answer
  cases telemetry
  cases left
  rfl

/-- What is told does not depend on the log, and goes to it. -/
theorem foldl_hear_withLog (ns : List Notice) (t : Telemetry) (log : Log.Console)
    (time : Log.Timestamp) :
    ns.foldl Listener.hear (t.withLog log time) =
      (ns.foldl Listener.hear t).withLog
        (log.takeAll time ((tellings t ns).map fun x => .event x.2)) time := by
  induction ns generalizing t log with
  | nil => rfl
  | cons n ns ih =>
    have heard : Listener.hear (t.withLog log time) n =
        (Listener.hear t n).withLog (log.emit time (told t n)) time := by cases n <;> rfl
    rw [List.foldl_cons, heard, ih]
    rfl

end Activity

/-! ### The server and the runtime -/

theorem Http.Server.respond_withLog (server : Server) (t : Telemetry) (r : Request) :
    ∃ entries, ∀ log time, server.respond (t.withLog log time) r =
      ((server.respond t r).1.withLog (log.takeAll time entries) time, (server.respond t r).2) := by
  -- only an exposition that cannot be written is told
  have scraped : ∃ entries, ∀ log time, server.scrape (t.withLog log time) =
      ((server.scrape t).1.withLog (log.takeAll time entries) time, (server.scrape t).2) := by
    cases encoded : t.store.encode server.registry with
    | ok text =>
      refine ⟨[], fun log time => ?_⟩
      simp only [scrape, Telemetry.withLog, encoded]
      rfl
    | error e =>
      refine ⟨[.event (unencodable e)], fun log time => ?_⟩
      simp only [scrape, Telemetry.withLog, encoded]
      rfl
  obtain ⟨entries, scraped⟩ := scraped
  unfold respond
  split
  · exact ⟨[], fun log time => rfl⟩
  · split
    · exact ⟨entries, scraped⟩
    · split
      · exact ⟨entries, fun log time => by simp only [scraped]⟩
      · exact ⟨[], fun log time => rfl⟩

namespace Lifecycle

namespace Runtime

/-- The same runtime with another log. -/
def withLog (rt : Runtime) (log : Log.Console) (time : Log.Timestamp) : Runtime :=
  { rt with telemetry := rt.telemetry.withLog log time }

/-- What is answered to a move. -/
inductive Reply
  | silence
  | shutdown (a : Shutdown.Answer)
  | response (r : Option Http.Response)
  | ending (e : Ending)

def reply (rt : Runtime) : Move → Reply
  | .hold a => .shutdown (rt.shutdown.step a).2
  | .log _ _ _ | .serve => .silence
  | .request r => .response (rt.respond r).2
  | .join => .ending rt.join.2

theorem serve_withLog (rt : Runtime) : ∃ entries, ∀ log time,
    (rt.withLog log time).serve = rt.serve.withLog (log.takeAll time entries) time := by
  cases service : rt.service with
  | idle =>
    cases mounted : Http.Server.mount rt.registry rt.config.observability.metricsPath with
    | none =>
      refine ⟨[], fun log time => ?_⟩
      simp only [serve, withLog, service, mounted]
      rfl
    | some server =>
      let listens := listening rt.address rt.config.observability.metricsPath
      cases ready : rt.shutdown.ready ownReceiver with
      | true =>
        refine ⟨[.event listens, .event stopped], fun log time => ?_⟩
        simp only [serve, withLog, service, mounted, ready]
        rfl
      | false =>
        refine ⟨[.event listens], fun log time => ?_⟩
        simp only [serve, withLog, service, mounted, ready]
        rfl
  | serving _ | stopped | unmountable | finished =>
    refine ⟨[], fun log time => ?_⟩
    simp only [serve, withLog, service]
    rfl

theorem respond_withLog (rt : Runtime) (r : Http.Request) : ∃ entries, ∀ log time,
    (rt.withLog log time).respond r =
      ((rt.respond r).1.withLog (log.takeAll time entries) time, (rt.respond r).2) := by
  cases service : rt.service with
  | serving server =>
    obtain ⟨entries, same⟩ := server.respond_withLog rt.telemetry r
    exact ⟨entries, fun log time => by simp only [respond, withLog, service, same]⟩
  | idle | stopped | unmountable | finished =>
    refine ⟨[], fun log time => ?_⟩
    simp only [respond, withLog, service]
    rfl

theorem join_withLog (rt : Runtime) : ∃ entries, ∀ log time,
    (rt.withLog log time).join =
      (rt.join.1.withLog (log.takeAll time entries) time, rt.join.2) := by
  cases service : rt.service with
  | serving server =>
    cases ready : rt.shutdown.ready ownReceiver with
    | true =>
      refine ⟨[.event stopped], fun log time => ?_⟩
      simp only [join, withLog, service, ready]
      rfl
    | false =>
      refine ⟨[], fun log time => ?_⟩
      simp only [join, withLog, service, ready, Bool.false_eq_true, if_false]
      rfl
  | idle | stopped | unmountable | finished =>
    refine ⟨[], fun log time => ?_⟩
    simp only [join, withLog, service]
    rfl

theorem move_withLog (rt : Runtime) (m : Move) : ∃ entries, ∀ log time,
    (rt.withLog log time).move m = (rt.move m).withLog (log.takeAll time entries) time ∧
      (rt.withLog log time).reply m = rt.reply m := by
  cases m with
  | hold a => exact ⟨[], fun log time => ⟨rfl, rfl⟩⟩
  | log severity message keyvals =>
    exact ⟨[.record (rt.engineLogger.record severity message keyvals)], fun log time => ⟨rfl, rfl⟩⟩
  | serve =>
    obtain ⟨entries, same⟩ := rt.serve_withLog
    exact ⟨entries, fun log time => ⟨same log time, rfl⟩⟩
  | request r =>
    obtain ⟨entries, same⟩ := rt.respond_withLog r
    exact ⟨entries, fun log time => by simp only [move, reply, same, and_self]⟩
  | join =>
    obtain ⟨entries, same⟩ := rt.join_withLog
    exact ⟨entries, fun log time => by simp only [move, reply, same, and_self]⟩

/-- Starting is answered the same with any log. -/
theorem start_withLog (host : Net.Host) (t : Telemetry) (logging : Bool) (config : Config) :
    ∃ entries, ∀ log time, start host (t.withLog log time) logging config =
      ((start host t logging config).1.withLog (log.takeAll time entries) time,
        (start host t logging config).2.map (·.withLog (log.takeAll time entries) time)) := by
  have quiet (t : Telemetry) : ∃ entries, ∀ log time,
      start host (t.withLog log time) false config =
        ((start host t false config).1.withLog (log.takeAll time entries) time,
          (start host t false config).2.map (·.withLog (log.takeAll time entries) time)) := by
    cases made : Activity.Metrics.registered t.store.addRegistry.1 t.store.addRegistry.2 with
    | mk store answer =>
      cases answer with
      | error e =>
        refine ⟨[], fun log time => ?_⟩
        simp only [start, Telemetry.withLog, made, Except.map, Bool.false_eq_true, if_false]
        rfl
      | ok m =>
        let names := (store.registry t.store.addRegistry.2).metricNames
        refine ⟨[.event (metricsRegistered names)], fun log time => ?_⟩
        cases bound : host.bind config.observability.metricsAddress with
        | error fault =>
          simp only [start, Telemetry.withLog, made, bound, Except.map, Bool.false_eq_true,
            if_false]
          rfl
        | ok address =>
          simp only [start, Telemetry.withLog, made, bound, Except.map, Bool.false_eq_true,
            if_false]
          rfl
  cases logging with
  | false => exact quiet t
  | true =>
    -- that logging was started before is told first
    obtain ⟨entries, same⟩ := quiet (t.emit loggingKept)
    exact ⟨.event loggingKept :: entries, fun log time => same (log.emit time loggingKept) time⟩

end Runtime

/-! ### Processes -/

open WorkerTelemetry.Metric (RegistryId Family)
open WorkerTelemetry.Activity (Chain Call Recording Outcome)

/-- A worker's process: its runtime with the metrics and the log, the chains by their places, and
the state that bodies and interceptors share. -/
structure Process (σ : Type) where
  runtime : Runtime
  chains : Nat → Chain σ := fun _ => {}
  own : σ

namespace Process

variable {σ : Type}

/-- What can be asked of the metrics. -/
inductive Question
  | count (m : Activity.Metrics) (kind : String) (o : Outcome)
  | durationSamples (m : Activity.Metrics) (kind : String) (o : Outcome)
  | durationSum (m : Activity.Metrics) (kind : String) (o : Outcome)
  | pullRequests (m : Activity.Metrics)
  | provisions (m : Activity.Metrics)
  | names (r : RegistryId)
  | families (r : RegistryId)
  | text (r : RegistryId)

/-- What can be done with a process. -/
inductive Deed (σ : Type)
  /-- A body is registered, an interceptor is added, or an activity is dispatched. -/
  | call (k : Nat) (c : Call σ)
  /-- A collector or a registry is made, a series is changed, or a collector is registered. -/
  | metric (x : Metric.Step)
  | register (m : Activity.Metrics) (r : RegistryId)
  | record (m : Activity.Metrics) (x : Recording)
  | ask (q : Question)
  /-- A request to a server that the runtime does not know of. -/
  | request (server : Http.Server) (r : Http.Request)
  | engine (l : Log.Logger) (severity : Severity) (message : String) (keyvals : List Json)
  | event (e : Log.Event)
  | start (host : Net.Host) (logging : Bool) (config : Config)
  | move (m : Runtime.Move)

inductive Answer
  | silence
  | result (r : Option Activity.Result)
  | changed (a : Except Metric.Refusal Unit)
  | registered (a : Option (Except Metric.Error Unit))
  | number (n : Nat)
  | real (x : Float)
  | names (ns : List String)
  | families (fs : List Family)
  | text (t : Except Metric.Error String)
  | response (r : Http.Response)
  | started (e : Except StartError Net.SocketAddress)
  | reply (r : Runtime.Reply)

def Question.answer (s : Metric.Store) : Question → Answer
  | .count m kind o => .number (m.count s kind o)
  | .durationSamples m kind o => .number (m.durationSamples s kind o)
  | .durationSum m kind o => .real (m.durationSum s kind o)
  | .pullRequests m => .number (m.pullRequestsCreated s)
  | .provisions m => .number (m.provisionSamples s)
  | .names r => .names (s.registry r).metricNames
  | .families r => .families (s.snapshot r)
  | .text r => .text (s.encode r)

/-- What a step of the store is answered. -/
def metricAnswer (s : Metric.Store) : Metric.Step → Answer
  | .update c part values act => .changed ((s.tryUpdate c part values act).map fun _ => ())
  | x => .registered (s.answer x)

/-- The same process with another log. -/
def withLog (p : Process σ) (log : Log.Console) (time : Log.Timestamp) : Process σ :=
  { p with runtime := p.runtime.withLog log time }

def telemetry (p : Process σ) : Telemetry := p.runtime.telemetry

def withTelemetry (p : Process σ) (t : Telemetry) : Process σ :=
  { p with runtime := { p.runtime with telemetry := t } }

def withStore (p : Process σ) (s : Metric.Store) : Process σ :=
  p.withTelemetry { p.telemetry with store := s }

def step (p : Process σ) : Deed σ → Process σ × Answer
  | .call k c =>
    let (s, r) := Activity.Session.call ⟨p.chains, ⟨p.telemetry, p.own⟩⟩ k c
    ({ p.withTelemetry s.stage.telemetry with chains := s.chains, own := s.stage.own }, .result r)
  | .metric x => (p.withStore (p.telemetry.store.step x), metricAnswer p.telemetry.store x)
  | .register m r =>
    let (s, a) := m.register p.telemetry.store r
    (p.withStore s, .registered (some a))
  | .record m x => (p.withStore (m.take p.telemetry.store x), .silence)
  | .ask q => (p, q.answer p.telemetry.store)
  | .request server r =>
    let (t, answer) := server.respond p.telemetry r
    (p.withTelemetry t, .response answer)
  | .engine l severity message keyvals =>
    let console := p.telemetry.console
    let sink := l.log console.sink p.telemetry.time severity message keyvals
    (p.withTelemetry { p.telemetry with console := { console with sink := sink } }, .silence)
  | .event e => (p.withTelemetry (p.telemetry.emit e), .silence)
  | .start host logging config =>
    match Runtime.start host p.telemetry logging config with
    | (t, .error e) => (p.withTelemetry t, .started (.error e))
    | (_, .ok rt) => ({ p with runtime := rt }, .started (.ok rt.address))
  | .move m => ({ p with runtime := p.runtime.move m }, .reply (p.runtime.reply m))

def run (p : Process σ) : List (Deed σ) → Process σ × List Answer
  | [] => (p, [])
  | d :: ds =>
    let (p, answer) := p.step d
    let (p, answers) := p.run ds
    (p, answer :: answers)

section

variable (p : Process σ) (log : Log.Console) (time : Log.Timestamp)

@[simp] theorem telemetry_withLog : (p.withLog log time).telemetry = p.telemetry.withLog log time :=
  rfl

@[simp] theorem runtime_withLog : (p.withLog log time).runtime = p.runtime.withLog log time := rfl

@[simp] theorem chains_withLog : (p.withLog log time).chains = p.chains := rfl

@[simp] theorem own_withLog : (p.withLog log time).own = p.own := rfl

end

/-- One step is answered the same with any log. -/
theorem step_withLog (p : Process σ) (d : Deed σ) : ∃ entries, ∀ log time,
    (p.withLog log time).step d =
      ((p.step d).1.withLog (log.takeAll time entries) time, (p.step d).2) := by
  cases d with
  | call k x =>
    obtain ⟨ns, later, own, answer, same⟩ := Activity.Session.call_hears p.chains p.own k x
    refine ⟨(Activity.tellings p.telemetry ns).map fun x => .event x.2, fun log time => ?_⟩
    simp only [step, telemetry_withLog, chains_withLog, own_withLog, same,
      Activity.foldl_hear_withLog]
    rfl
  | metric x => exact ⟨[], fun log time => rfl⟩
  | register m r => exact ⟨[], fun log time => rfl⟩
  | record m x => exact ⟨[], fun log time => rfl⟩
  | ask q => exact ⟨[], fun log time => rfl⟩
  | request server r =>
    obtain ⟨entries, same⟩ := server.respond_withLog p.telemetry r
    refine ⟨entries, fun log time => ?_⟩
    simp only [step, telemetry_withLog, same]
    rfl
  | engine l severity message keyvals =>
    exact ⟨[.record (l.record severity message keyvals)], fun log time => rfl⟩
  | event e => exact ⟨[.event e], fun log time => rfl⟩
  | start host logging config =>
    obtain ⟨entries, same⟩ := Runtime.start_withLog host p.telemetry logging config
    refine ⟨entries, fun log time => ?_⟩
    simp only [step, telemetry_withLog, same]
    rcases Runtime.start host p.telemetry logging config with ⟨t, e | rt⟩ <;> rfl
  | move m =>
    obtain ⟨entries, same⟩ := p.runtime.move_withLog m
    refine ⟨entries, fun log time => ?_⟩
    obtain ⟨moved, replied⟩ := same log time
    simp only [step, runtime_withLog, moved, replied]
    rfl

/-- Whatever is done with a process, it is answered the same with any log and ends in the same state
but for its log; and all logs were handed the same entries, in the same order. -/
theorem run_withLog (p : Process σ) (ds : List (Deed σ)) : ∃ entries, ∀ log time,
    (p.withLog log time).run ds =
      ((p.run ds).1.withLog (log.takeAll time entries) time, (p.run ds).2) := by
  induction ds generalizing p with
  | nil => exact ⟨[], fun log time => rfl⟩
  | cons d ds ih =>
    obtain ⟨first, stepped⟩ := p.step_withLog d
    obtain ⟨rest, ended⟩ := ih (p.step d).1
    refine ⟨first ++ rest, fun log time => ?_⟩
    simp only [run, stepped, ended, Log.Console.takeAll, List.foldl_append]

end Process

end Lifecycle

end WorkerTelemetry
