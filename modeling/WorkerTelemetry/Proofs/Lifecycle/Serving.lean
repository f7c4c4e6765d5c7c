import WorkerTelemetry.Proofs.Config.Layers
import WorkerTelemetry.Proofs.Http.Literal
import WorkerTelemetry.Proofs.Lifecycle.Stopping

/-!
The server of a runtime whose configuration was loaded from its layers. The path of the metrics was
validated then, so the server comes up when it is asked to, whatever was done before. Main
statement: `loaded_path_mounted`. Whether the listener lets anyone in is left open here.
-/

namespace WorkerTelemetry.Lifecycle

namespace Runtime

/-- The path of a runtime is mounted, and no other server comes up. -/
structure Serves (server : Http.Server) (now : Runtime) : Prop where
  mounted : Http.Server.mount now.registry now.config.observability.metricsPath = some server
  mountable : now.service ≠ .unmountable
  served : ∀ other, now.service = .serving other → other = server

namespace Serves

variable {server : Http.Server} {now next : Runtime}

/-- A turn of the runtime goes on with its service, stops it, or brings up the server. -/
theorem turn (serves : Serves server now) (registry : next.registry = now.registry)
    (config : next.config = now.config)
    (service : next.service = now.service ∨ next.service = .stopped ∨ next.service = .finished ∨
      next.service = .serving server) : Serves server next := by
  refine ⟨?_, ?_, ?_⟩
  · rw [registry, config]
    exact serves.mounted
  · rcases service with same | same | same | same <;> rw [same]
    · exact serves.mountable
    all_goals simp
  · intro other serving
    rcases service with same | same | same | same <;> rw [same] at serving
    · exact serves.served other serving
    · cases serving
    · cases serving
    · exact (Service.serving.inj serving).symm

theorem serve (serves : Serves server now) : Serves server now.serve := by
  cases service : now.service with
  | idle =>
    cases ready : now.shutdown.ready ownReceiver with
    | true =>
      refine serves.turn ?_ ?_ (.inr (.inl ?_)) <;>
        simp [Runtime.serve, service, serves.mounted, ready, release]
    | false =>
      refine serves.turn ?_ ?_ (.inr (.inr (.inr ?_))) <;>
        simp [Runtime.serve, service, serves.mounted, ready]
  | serving _ | stopped | unmountable | finished =>
    have same : now.serve = now := by simp [Runtime.serve, service]
    rwa [same]

theorem respond (serves : Serves server now) (r : Http.Request) :
    Serves server (now.respond r).1 := by
  cases service : now.service with
  | serving other =>
    refine serves.turn ?_ ?_ (.inl ?_) <;> simp [Runtime.respond, service]
  | idle | stopped | unmountable | finished =>
    have same : (now.respond r).1 = now := by simp [Runtime.respond, service]
    rwa [same]

theorem join (serves : Serves server now) : Serves server now.join.1 := by
  cases service : now.service with
  | idle | finished =>
    have same : now.join.1 = now := by simp [Runtime.join, service]
    rwa [same]
  | unmountable => exact absurd service serves.mountable
  | stopped =>
    refine serves.turn ?_ ?_ (.inr (.inr (.inl ?_))) <;> simp [Runtime.join, service]
  | serving other =>
    cases ready : now.shutdown.ready ownReceiver with
    | true =>
      refine serves.turn ?_ ?_ (.inr (.inr (.inl ?_))) <;>
        simp [Runtime.join, service, ready, release]
    | false =>
      have same : now.join.1 = now := by simp [Runtime.join, service, ready]
      rwa [same]

theorem move (serves : Serves server now) (m : Move) : Serves server (now.move m) := by
  cases m with
  | hold a => exact serves.turn rfl rfl (.inl rfl)
  | log severity message keyvals => exact serves.turn rfl rfl (.inl rfl)
  | serve => exact serves.serve
  | request r => exact serves.respond r
  | join => exact serves.join

theorem moves (serves : Serves server now) (ms : List Move) : Serves server (now.moves ms) := by
  induction ms generalizing now with
  | nil => exact serves
  | cons m rest ih => exact ih (serves.move m)

end Serves

variable {host : Net.Host} {t t' : Telemetry} {logging : Bool} {c : Config} {rt : Runtime}
  {route : Http.Route}

theorem serves_start (started : start host t logging c = (t', .ok rt))
    (parsed : Http.Route.parse c.observability.metricsPath = some route) :
    Serves ⟨route, rt.registry⟩ rt := by
  obtain ⟨idle, -, same⟩ := start_ok started
  refine ⟨?_, ?_, ?_⟩
  · rw [same, Http.Server.mount, parsed, Option.map_some]
  · simp [idle]
  · simp [idle]

/-- A server that is asked to come up as the first thing does. -/
theorem serve_start (started : start host t logging c = (t', .ok rt))
    (parsed : Http.Route.parse c.observability.metricsPath = some route) :
    rt.serve.service = .serving ⟨route, rt.registry⟩ := by
  obtain ⟨idle, fresh, -⟩ := start_ok started
  have waits : rt.shutdown.ready ownReceiver = false := by
    rw [fresh]
    rfl
  simp [serve, idle, (serves_start started parsed).mounted, waits]

end Runtime

open WorkerTelemetry.Lifecycle.Runtime

variable {read : Files.Reader} {file : Option String} {env : Config.Environment}
  {flags : Config.Flags} {c : Config}

/-- The path of a configuration that was loaded is mounted as a route of single characters, which
meets this path and no other. A runtime that starts with the configuration serves this route when
it is asked to, and never fails to mount it, whatever else is done. -/
theorem loaded_path_mounted (loaded : Config.load read file env flags = .ok c) :
    let path := c.observability.metricsPath
    ∃ route, Http.Route.parse path = some route ∧
      (∀ p ∈ route.pieces, ∃ x, p = .char x) ∧
      (∀ target, route.matchesPath target = true ↔ target = path) ∧
      (∀ registry t r, ((Http.Server.mk route registry).respond t r).2.status = 404 ↔
        r.path ≠ path) ∧
      ∀ host t logging t' rt, Runtime.start host t logging c = (t', .ok rt) →
        rt.serve.service = .serving ⟨route, rt.registry⟩ ∧
        ∀ ms : List Move, (rt.moves ms).service ≠ .unmountable ∧
          ∀ server, (rt.moves ms).service = .serving server → server = ⟨route, rt.registry⟩ := by
  intro path
  have valid : c.Valid := by
    cases Config.load_eq_iff.1 loaded with
    | ok found readable sound chosen valid => exact valid
  have fine : Config.pathProblem path = none := (Config.valid_iff.1 valid).2
  have parsed := Http.parse_of_pathProblem fine
  have one := Http.matchesPath_chars path
  refine ⟨_, parsed, ?_, one, ?_, ?_⟩
  · intro p hp
    obtain ⟨x, -, rfl⟩ := List.mem_map.1 hp
    exact ⟨x, rfl⟩
  · intro registry t r
    rw [Http.Server.status_respond, ← Bool.not_eq_true, one]
  · intro host t logging t' rt started
    refine ⟨serve_start started parsed, fun ms => ?_⟩
    have serves := (serves_start started parsed).moves ms
    exact ⟨serves.mountable, serves.served⟩

/-- The text of a file with an odd path: it has empty segments and marks of captures that do not
stand first in theirs. -/
def oddPathText : String := "[observability]\nmetrics_path = \"//m:*/é/\"\n"

def oddPathFile : Files.Reader := fun _ => .ok (Text.utf8 oddPathText.toList)

theorem loaded_path_mounted_oddPath :
    ∃ c : Config, Config.load oddPathFile (some "worker.toml") (fun _ => none) {} = .ok c ∧
      c.observability.metricsPath = "//m:*/é/" ∧
      ∃ route, Http.Route.parse "//m:*/é/" = some route ∧
        route.matchesPath "//m:*/é/" = true ∧ route.matchesPath "/m:*/é" = false := by
  have content : oddPathFile.text "worker.toml" = .ok oddPathText := by
    simp only [Files.Reader.text, oddPathFile, bind, Except.bind, Text.ofUtf8?_utf8,
      String.ofList_toList]
    rfl
  have given : ((Toml.parse oddPathText).bind (Config.ofJson .lenient)).map (fun c =>
      (c.problems.isEmpty, c.observability.metricsPath)) = some (true, "//m:*/é/") := by
    decide +kernel
  obtain ⟨c, stored, facts⟩ := Option.map_eq_some_iff.1 given
  obtain ⟨accepted, path⟩ := Prod.mk.inj facts
  have loaded : Config.load oddPathFile (some "worker.toml") (fun _ => none) {} = .ok c := by
    have resolved : Config.resolve oddPathFile (some "worker.toml") (fun _ => none) = .ok c := by
      simp only [Config.resolve, Config.ofFile, content, stored]
      rfl
    rw [Config.load, resolved]
    exact if_pos (List.isEmpty_iff.1 accepted)
  obtain ⟨route, parsed, -, one, -⟩ := loaded_path_mounted loaded
  rw [path] at parsed one
  refine ⟨c, loaded, path, route, parsed, (one _).2 rfl, ?_⟩
  rw [← Bool.not_eq_true, one]
  decide

end WorkerTelemetry.Lifecycle
