import WorkerTelemetry.Proofs.Activity.Contents
import WorkerTelemetry.Proofs.Http.Literal
import WorkerTelemetry.Proofs.Metric.SampleLines

/-!
Scrapes in between all that is done to metrics. An answer is made of the metrics as they are when
the request comes, and nothing that a request does is left in them. Main statements: the metrics
after some turns are those after the acts among them, and an exposition fails only for a family that
has series and no name. What the log is told of requests is not said here.
-/

namespace WorkerTelemetry

open Activity (Holdings)

/-! ### What cannot be written -/

namespace Metric

variable {fs : List Family} {f : Family} {n : String}

/-- A snapshot leaves out what has no series. -/
theorem Family.series_ne_nil_of_mem_snapshot (hf : f ∈ snapshot fs) : f.series ≠ [] := by
  obtain ⟨g, found, rfl⟩ := mem_snapshot_iff.1 hf
  have some_series : g.series ≠ [] := by
    cases same : shown g.name fs with
    | nil => rw [same] at found; cases found
    | cons k ks =>
      have listed : k ∈ shown g.name fs := same ▸ List.mem_cons_self
      have series : k.name = g.name ∧ k.series ≠ [] := by simpa using (List.mem_filter.1 listed).2
      rw [same, united] at found
      cases found
      exact List.append_ne_nil_of_left_ne_nil series.2 _
  obtain ⟨x, hx⟩ := List.exists_mem_of_ne_nil _ some_series
  exact List.ne_nil_of_mem (List.mem_mergeSort.2 hx)

/-- The names in a snapshot are those of the families with series. -/
theorem Family.exists_name_snapshot_iff :
    (∃ f ∈ snapshot fs, f.name = n) ↔ ∃ g ∈ fs, g.name = n ∧ g.series ≠ [] := by
  constructor
  · rintro ⟨f, hf, rfl⟩
    obtain ⟨x, hx⟩ := List.exists_mem_of_ne_nil _ (series_ne_nil_of_mem_snapshot hf)
    obtain ⟨-, -, -, -, from_some⟩ := of_mem_snapshot hf
    obtain ⟨k, hk, name, hx⟩ := from_some x hx
    exact ⟨k, hk, name, List.ne_nil_of_mem hx⟩
  · rintro ⟨g, hg, rfl, series⟩
    obtain ⟨x, hx⟩ := List.exists_mem_of_ne_nil _ series
    obtain ⟨f, hf, name, -⟩ := exists_mem_snapshot hg hx
    exact ⟨f, hf, name⟩

theorem exposition_eq_error_iff {e : Error} :
    exposition fs = .error e ↔ e = .unnamed ∧ ∃ f ∈ fs, f.name = "" := by
  by_cases nameless : ∃ f ∈ fs, f.name = ""
  · have found : (fs.any fun f => f.name == "") = true := by simpa using nameless
    rw [exposition, if_pos found, Except.error.injEq, eq_comm, and_iff_left nameless]
  · have missed : ¬ (fs.any fun f => f.name == "") = true := by simpa using nameless
    rw [exposition, if_neg missed]
    simp [nameless]

/-- Of a registry there is no text exactly if it holds a family that has series and no name. -/
theorem Store.encode_eq_error_iff {s : Store} {r : RegistryId} {e : Error} :
    s.encode r = .error e ↔ e = .unnamed ∧
      ∃ c ∈ (s.registry r).collectors, ∃ f ∈ s.families c, f.name = "" ∧ f.series ≠ [] := by
  rw [encode, exposition_eq_error_iff, snapshot, Family.exists_name_snapshot_iff]
  refine and_congr_right fun _ => ?_
  simp only [List.mem_flatMap]
  constructor
  · rintro ⟨f, ⟨c, hc, hf⟩, nameless⟩
    exact ⟨c, hc, f, hf, nameless⟩
  · rintro ⟨c, hc, f, hf, nameless⟩
    exact ⟨f, ⟨c, hc, hf⟩, nameless⟩

end Metric

namespace Http

/-! ### What a request does -/

namespace Server

variable {server : Server} {t u : Telemetry} {r : Request}

/-- A request changes no metrics. -/
theorem store_respond (server : Server) (t : Telemetry) (r : Request) :
    (server.respond t r).1.store = t.store := by
  have scraped : (server.scrape t).1.store = t.store := by
    unfold scrape
    split <;> rfl
  unfold respond
  split
  · rfl
  · split
    · exact scraped
    · split
      · exact scraped
      · rfl

/-- An answer is made of the metrics only. -/
theorem answer_congr (same : u.store = t.store) :
    (server.respond u r).2 = (server.respond t r).2 := by
  have scraped : (server.scrape u).2 = (server.scrape t).2 := by
    unfold scrape
    rw [same]
    split <;> rfl
  unfold respond
  split
  · rfl
  · split
    · exact scraped
    · split
      · dsimp only
        rw [scraped]
      · rfl

end Server

/-! ### Turns -/

/-- What happens to the metrics of a process: something is done by handles, or a server gets a
request. -/
inductive Turn
  | act (a : Holdings.Act)
  | request (server : Server) (time : Log.Timestamp) (r : Request)

/-- The acts among some turns. -/
def Turn.acts (turns : List Turn) : List Holdings.Act :=
  turns.filterMap fun
    | .act a => some a
    | .request .. => none

/-- The metrics of a process, by the handles it holds, and where its log goes. -/
structure Site where
  holdings : Holdings := {}
  console : Log.Console

namespace Site

def telemetry (s : Site) (time : Log.Timestamp) : Telemetry :=
  { store := s.holdings.store, console := s.console, time := time }

/-- The answer to a request that comes now. -/
def answer (s : Site) (server : Server) (time : Log.Timestamp) (r : Request) : Response :=
  (server.respond (s.telemetry time) r).2

/-- One turn. What a server does to the metrics while it answers stays done. -/
def step (s : Site) : Turn → Site
  | .act a => { s with holdings := s.holdings.step a }
  | .request server time r =>
    let after := (server.respond (s.telemetry time) r).1
    { holdings := { s.holdings with store := after.store }, console := after.console }

def run (s : Site) (turns : List Turn) : Site := turns.foldl step s

variable {s s' : Site} {server : Server}

theorem holdings_request (s : Site) (server : Server) (time : Log.Timestamp) (r : Request) :
    (s.step (.request server time r)).holdings = s.holdings := by
  rw [step, Server.store_respond]
  rfl

/-- Of the turns only the acts count. -/
theorem holdings_run (s : Site) (turns : List Turn) :
    (s.run turns).holdings = s.holdings.run (Turn.acts turns) := by
  induction turns generalizing s with
  | nil => rfl
  | cons turn turns ih =>
    refine (ih (s.step turn)).trans ?_
    cases turn with
    | act a => rfl
    | request server time r => rw [holdings_request]; rfl

theorem answer_congr (same : s'.holdings = s.holdings) (time time' : Log.Timestamp) (r : Request) :
    s'.answer server time' r = s.answer server time r :=
  Server.answer_congr (congrArg Holdings.store same)

/-- Turns without acts leave all answers as they are, at whatever time they are asked for. -/
theorem quiet_run (s : Site) {turns : List Turn} (idle : Turn.acts turns = []) :
    (s.run turns).holdings = s.holdings ∧
      ∀ server time later r, (s.run turns).answer server later r = s.answer server time r := by
  have kept : (s.run turns).holdings = s.holdings := by
    rw [holdings_run, idle]
    rfl
  exact ⟨kept, fun server time later r => answer_congr kept time later r⟩

/-- What is answered to each method where the route is met. -/
theorem answers_of_met (s : Site) (server : Server) (time : Log.Timestamp) {path : String}
    (met : server.route.matchesPath path = true) :
    let text := s.holdings.store.encode server.registry
    let answer method := s.answer server time ⟨method, path⟩
    (∀ shown, text = .ok shown → answer "GET" =
        { status := 200, contentType := some Metric.contentType, body := shown }) ∧
      (∀ e, text = .error e → answer "GET" =
        { status := 500, contentType := some "text/plain; charset=utf-8", body := e.message }) ∧
      answer "HEAD" = { answer "GET" with body := "" } ∧
      ∀ method, method ≠ "GET" → method ≠ "HEAD" →
        answer method = { status := 405, allow := some "GET,HEAD" } := by
  intro text answer
  have get : answer "GET" = (server.scrape (s.telemetry time)).2 := by
    simp [answer, Site.answer, Server.respond, met]
  refine ⟨fun shown written => ?_, fun e failed => ?_, ?_, fun method no_get no_head => ?_⟩
  · have encoded : (s.telemetry time).store.encode server.registry = .ok shown := written
    rw [get, Server.scrape, encoded]
  · have encoded : (s.telemetry time).store.encode server.registry = .error e := failed
    rw [get, Server.scrape, encoded]
  · rw [get]
    simp [answer, Site.answer, Server.respond, met]
  · simp [answer, Site.answer, Server.respond, met, no_get, no_head]

end Site

/-- What a server with a validated path answers on it after any turns. A GET request is answered
with the text of the metrics as they are, or with what keeps them from being written, a HEAD request
alike but without the body, and all other methods are refused. Requests change no metrics, so that
answers are the same until something is done. Nothing is shown without series, and the text fails
exactly if the registry has accepted a collector with a family that has series and no name. -/
theorem scrapes_show_now {c : Config} (valid : c.Valid) (registry : Metric.RegistryId)
    (console : Log.Console) (turns : List Turn) :
    let path := c.observability.metricsPath
    let acts := Turn.acts turns
    let now := Site.run { console } turns
    let text := now.holdings.store.encode registry
    let has := Holdings.accepted {} registry acts
    (∃ server, Server.mount registry path = some server ∧ ∀ time,
      let answer method := now.answer server time ⟨method, path⟩
      (∀ shown, text = .ok shown → answer "GET" =
          { status := 200, contentType := some Metric.contentType, body := shown }) ∧
        (∀ e, text = .error e → answer "GET" =
          { status := 500, contentType := some "text/plain; charset=utf-8", body := e.message }) ∧
        answer "HEAD" = { answer "GET" with body := "" } ∧
        ∀ method, method ≠ "GET" → method ≠ "HEAD" →
          answer method = { status := 405, allow := some "GET,HEAD" }) ∧
      now.holdings = Holdings.run {} acts ∧
      (∀ more, Turn.acts more = [] → (now.run more).holdings = now.holdings ∧
        ∀ server time later r, (now.run more).answer server later r = now.answer server time r) ∧
      (∀ f ∈ now.holdings.store.snapshot registry, f.series ≠ []) ∧
      ∀ e, text = .error e ↔ e = .unnamed ∧
        ∃ k ∈ has, ∃ f ∈ now.holdings.store.families k, f.name = "" ∧ f.series ≠ [] := by
  intro path acts now text has
  have acted : now.holdings = Holdings.run {} acts := Site.holdings_run { console } turns
  have held : (now.holdings.store.registry registry).collectors = has := by
    rw [acted]
    exact Holdings.collectors_eq_accepted registry acts
  refine ⟨⟨⟨⟨path.toList.map .char⟩, registry⟩, ?mounted, fun time => ?answers⟩, acted, ?quiet,
    ?series, fun e => ?fails⟩
  case mounted =>
    have fine : Config.pathProblem path = none := (Config.valid_iff.1 valid).2
    rw [Server.mount, parse_of_pathProblem fine, Option.map_some]
  case answers =>
    have met : Route.matchesPath ⟨path.toList.map .char⟩ path = true :=
      (matchesPath_chars path path).2 rfl
    exact now.answers_of_met ⟨⟨path.toList.map .char⟩, registry⟩ time met
  case quiet =>
    intro more idle
    exact now.quiet_run idle
  case series =>
    intro f hf
    exact Metric.Family.series_ne_nil_of_mem_snapshot hf
  case fails =>
    rw [← held]
    exact Metric.Store.encode_eq_error_iff

/-- A metric with labels that was not changed yet. -/
def quietMetric : Metric :=
  ⟨⟨"queued_total", "jobs queued", ["queue"]⟩, "queued_total", .counter, []⟩

/-- A counter that is shown without its name. -/
def namelessMetric : Metric :=
  ⟨⟨"spares_total", "jobs without a queue", []⟩, "", .counter, [⟨[], .counter 0⟩]⟩

/-- A metric is registered before its first change, and scraped. -/
def quietTurns : List Turn :=
  [.act .newRegistry, .act (.newCollector ⟨[quietMetric]⟩), .act (.register 0 0),
    .request ⟨⟨"/metrics".toList.map .char⟩, ⟨0⟩⟩ ⟨0⟩ ⟨"GET", "/metrics"⟩]

/-- A metric without a name is registered through a clone of the registry. -/
def namelessTurns : List Turn :=
  quietTurns ++
    [.act (.newCollector ⟨[namelessMetric]⟩), .act (.cloneRegistry 0), .act (.register 1 1)]

/-- Nothing keeps a metric without series from being scraped, but one without a name does. -/
theorem scrapes_show_now_nameless :
    let console : Log.Console := .unfiltered default
    let quiet := Site.run { console } quietTurns
    let now := Site.run { console } namelessTurns
    Config.Valid {} ∧ ∃ server, Server.mount ⟨0⟩ "/metrics" = some server ∧
      quiet.answer server ⟨1⟩ ⟨"GET", "/metrics"⟩ =
        { status := 200, contentType := some "text/plain; version=0.0.4" } ∧
      now.answer server ⟨2⟩ ⟨"GET", "/metrics"⟩ =
        { status := 500, contentType := some "text/plain; charset=utf-8",
          body := "failed to encode metrics: Error: MetricFamily has no name" } ∧
      now.answer server ⟨2⟩ ⟨"HEAD", "/metrics"⟩ =
        { status := 500, contentType := some "text/plain; charset=utf-8" } := by
  intro console quiet now
  have valid : Config.Valid {} := by decide +kernel
  obtain ⟨⟨server, mounted, scraped⟩, acted, -, -, -⟩ :=
    scrapes_show_now valid ⟨0⟩ console quietTurns
  obtain ⟨⟨server', mounted', scraped'⟩, acted', -, -, fails⟩ :=
    scrapes_show_now valid ⟨0⟩ console namelessTurns
  obtain rfl : server = server' := Option.some.inj (mounted.symm.trans mounted')
  have written : quiet.holdings.store.encode ⟨0⟩ = .ok "" := by
    have named : ((quiet.holdings.store.snapshot ⟨0⟩).any fun f => f.name == "") = false := by
      rw [acted]
      decide +kernel
    refine (Metric.Family.exposition_of_named named).trans ?_
    rw [acted]
    exact congrArg Except.ok (by decide +kernel)
  have failed : now.holdings.store.encode ⟨0⟩ = .error .unnamed := by
    refine (fails .unnamed).2
      ⟨rfl, ⟨1⟩, by decide +kernel, Metric.family namelessMetric, ?_, rfl, ?_⟩
    · rw [acted']
      exact List.mem_singleton_self _
    · exact List.cons_ne_nil _ _
  obtain ⟨get, -⟩ := scraped ⟨1⟩
  obtain ⟨-, get', head', -⟩ := scraped' ⟨2⟩
  refine ⟨valid, server, mounted, get "" written, get' _ failed, head'.trans ?_⟩
  rw [get' _ failed]

/-- A metric with labels that is shown without its name, and was not changed yet. -/
def silentMetric : Metric :=
  ⟨⟨"spares_total", "jobs without a queue", ["queue"]⟩, "", .counter, []⟩

/-- It is registered. -/
def silentTurns : List Turn :=
  [.act .newRegistry, .act (.newCollector ⟨[silentMetric]⟩), .act (.register 0 0)]

/-- A family without a name keeps nothing from being written as long as it has no series. -/
theorem silent_family_is_left_out :
    let now := Site.run { console := .unfiltered default } silentTurns
    (∃ k ∈ Holdings.accepted {} ⟨0⟩ (Turn.acts silentTurns),
        ∃ f ∈ now.holdings.store.families k, f.name = "") ∧
      now.holdings.store.encode ⟨0⟩ = .ok "" := by
  intro now
  have acted : now.holdings = Holdings.run {} (Turn.acts silentTurns) := Site.holdings_run _ _
  rw [acted]
  refine ⟨⟨⟨0⟩, by decide +kernel, Metric.family silentMetric, List.mem_singleton_self _, rfl⟩, ?_⟩
  refine (Metric.Family.exposition_of_named (by decide +kernel)).trans ?_
  exact congrArg Except.ok (by decide +kernel)

end Http

end WorkerTelemetry
