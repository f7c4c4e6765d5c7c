import WorkerTelemetry.Proofs.Activity.Accounting
import WorkerTelemetry.Proofs.Activity.Lookup
import WorkerTelemetry.Proofs.Metric.Blurring

/-!
Two ways of recording. Either every body is registered with a recording layer of its own, or one
such layer is the innermost interceptor of a chain. Main statement: both are answered the same, show
bodies and interceptors the same, and tell and count the same, however long the executions take in
either of them.
-/

namespace WorkerTelemetry

/-- An event without how long something took. -/
def Log.Event.untimed (e : Event) : Event :=
  { e with fields := e.fields.filter fun f => f.1 != "elapsed_ms" }

namespace Activity

open WorkerTelemetry.Metric

variable {τ σ : Type}

/-! ### Programs -/

/-- What is done with a chain once its interceptors are there. -/
inductive Use (σ : Type)
  | register (kind : String) (b : Body σ)
  | dispatch (info : Info) (input : Json)

/-- A use as a call, with bodies put into a wrapper. -/
def Use.call (wrap : Body σ → Body σ) : Use σ → Call σ
  | .register kind b => .register kind (wrap b)
  | .dispatch info input => .dispatch info input

/-- Adds interceptors to the chain in a place, and then uses it. -/
def program (k : Nat) (is : List (Interceptor σ)) (wrap : Body σ → Body σ) (us : List (Use σ)) :
    List (Nat × Call σ) :=
  (is.map fun i => (k, .intercept i)) ++ us.map fun u => (k, u.call wrap)

/-- Every body is recorded by itself. -/
def recordedBodies (m : Metrics) (k : Nat) (is : List (Interceptor σ)) (us : List (Use σ)) :
    List (Nat × Call σ) := program k is (.instrumented m) us

/-- The innermost interceptor records. -/
def recordingLayer (m : Metrics) (k : Nat) (is : List (Interceptor σ)) (us : List (Use σ)) :
    List (Nat × Call σ) := program k (is ++ [.metrics m]) id us

/-! ### The same executors -/

section Runs

variable {m : Metrics} {k : Nat}

/-- The first chain records around its bodies what the second records in its innermost layer. -/
structure Chain.Moves (m : Metrics) (c d : Chain σ) : Prop where
  bodies : ∀ kind, c.bodies.find? kind = (d.bodies.find? kind).map (.instrumented m)
  interceptors : d.interceptors = c.interceptors ++ [.metrics m]

/-- Sessions with such chains in a place, and with one stage. -/
structure Session.Moves (m : Metrics) (k : Nat) (s t : Session τ σ) : Prop where
  chain : (s.chains k).Moves m (t.chains k)
  stage : s.stage = t.stage

namespace Chain.Moves

variable [Listener τ] {c d : Chain σ}

theorem dispatch (moves : c.Moves m d) : (c.dispatch : Executor τ σ) = d.dispatch := by
  funext info input
  simp only [Chain.dispatch, moves.bodies, moves.interceptors]
  cases d.bodies.find? info.kind with
  | none => rfl
  | some b => exact (congrFun₂ (layers_append c.interceptors [.metrics m] b.executor) _ _).symm

theorem register (moves : c.Moves m d) (t : τ) (kind : String) (b : Body σ) :
    (c.register t kind (.instrumented m b)).1.Moves m (d.register t kind b).1 ∧
      (c.register t kind (.instrumented m b)).2 = (d.register t kind b).2 := by
  refine ⟨⟨fun x => ?_, moves.interceptors⟩, ?_⟩
  · simp only [Chain.register, NameMap.find?_insert]
    split
    · rfl
    · exact moves.bodies x
  · simp only [Chain.register, moves.bodies, Option.isSome_map]

end Chain.Moves

namespace Session.Moves

variable [Listener τ] {s t : Session τ σ}

theorem call (moves : s.Moves m k t) (u : Use σ) :
    (s.call k (u.call (.instrumented m))).2 = (t.call k (u.call id)).2 ∧
      (s.call k (u.call (.instrumented m))).1.Moves m k (t.call k (u.call id)).1 := by
  cases u with
  | register kind b =>
    obtain ⟨chain, told⟩ := moves.chain.register s.stage.telemetry kind b
    refine ⟨rfl, ⟨?_, ?_⟩⟩
    · simpa [Use.call, Session.call, put, ← moves.stage] using chain
    · simp only [Use.call, Session.call, id, ← moves.stage, told]
  | dispatch info input =>
    have same : (s.chains k).dispatch info input s.stage =
        (t.chains k).dispatch info input t.stage := by
      rw [moves.chain.dispatch, moves.stage]
    have answer := congrArg (fun x : Result × Stage τ σ => some x.1) same
    exact ⟨answer, ⟨moves.chain, congrArg Prod.snd same⟩⟩

theorem run (moves : s.Moves m k t) (us : List (Use σ)) :
    (s.run (us.map fun u => (k, u.call (.instrumented m)))).2 =
        (t.run (us.map fun u => (k, u.call id))).2 ∧
      (s.run (us.map fun u => (k, u.call (.instrumented m)))).1.Moves m k
        (t.run (us.map fun u => (k, u.call id))).1 := by
  induction us generalizing s t with
  | nil => exact ⟨rfl, moves⟩
  | cons u us ih =>
    obtain ⟨answer, later⟩ := moves.call u
    obtain ⟨answers, last⟩ := ih later
    refine ⟨?_, last⟩
    simp only [List.map_cons, Session.run, answer, answers]

end Session.Moves

/-- Both ways leave their listener and the own state the same. -/
theorem run_recordedBodies [Listener τ] (m : Metrics) (k : Nat) (is : List (Interceptor σ))
    (us : List (Use σ)) (t : τ) (own : σ) :
    ((Session.start t own).run (recordedBodies m k is us)).2 =
        ((Session.start t own).run (recordingLayer m k is us)).2 ∧
      ((Session.start t own).run (recordedBodies m k is us)).1.stage =
        ((Session.start t own).run (recordingLayer m k is us)).1.stage := by
  let others : List (Nat × Call σ) := is.map fun i => (k, .intercept i)
  let s := ((Session.start t own).run others).1
  have bodiless (kind : String) : (s.chains k).bodies.find? kind = none := by
    refine Session.find?_run _ fun b hb => ?_
    simp [others] at hb
  have moves : s.Moves m k (s.call k (.intercept (.metrics m))).1 := by
    refine ⟨⟨fun kind => ?_, ?_⟩, rfl⟩ <;>
      simp [Session.call, Session.put, Chain.intercept, bodiless]
  obtain ⟨answers, last⟩ := moves.run us
  have layer : recordingLayer m k is us =
      others ++ (k, .intercept (.metrics m)) :: us.map fun u => (k, u.call id) := by
    simp [recordingLayer, program, others]
  rw [layer, recordedBodies, program, Session.run_append, Session.run_append]
  exact ⟨congrArg (((Session.start t own).run others).2 ++ ·) answers, last.stage⟩

end Runs

/-! ### Marks -/

namespace Interceptor

/-- Watched interceptors; so many are numbered already. -/
def watchFrom (n : Nat) : List (Interceptor σ) → List (Interceptor (Watched σ))
  | [] => []
  | i :: is => i.watch n :: watchFrom (if i.isCustom then n + 1 else n) is

theorem watchFrom_append_metrics (n : Nat) (is : List (Interceptor σ)) (m : Metrics) :
    watchFrom n (is ++ [.metrics m]) = watchFrom n is ++ [.metrics m] := by
  induction is generalizing n with
  | nil => rfl
  | cons i is ih => exact congrArg (i.watch n :: ·) (ih _)

end Interceptor

/-- Uses with watched bodies; so many are numbered already. -/
def Use.watchFrom (n : Nat) : List (Use σ) → List (Use (Watched σ))
  | [] => []
  | .register kind b :: us => .register kind (b.watch n) :: watchFrom (n + 1) us
  | .dispatch info input :: us => .dispatch info input :: watchFrom n us

/-- Watching goes into wrappers that pass it on. -/
theorem watchFrom_program {wrap : Body σ → Body σ} {wrap' : Body (Watched σ) → Body (Watched σ)}
    (passes : ∀ n b, (wrap b).watch n = wrap' (b.watch n)) (bodies interceptors k : Nat)
    (is : List (Interceptor σ)) (us : List (Use σ)) :
    Call.watchFrom bodies interceptors (program k is wrap us) =
      program k (Interceptor.watchFrom interceptors is) wrap' (Use.watchFrom bodies us) := by
  induction is generalizing interceptors with
  | nil =>
    induction us generalizing bodies with
    | nil => rfl
    | cons u us ih =>
      cases u with
      | register kind b =>
        have here : (k, Call.register kind ((wrap b).watch bodies)) =
            (k, Call.register kind (wrap' (b.watch bodies))) := by rw [passes]
        exact congrArg₂ List.cons here (ih (bodies + 1))
      | dispatch info input => exact congrArg _ (ih bodies)
  | cons i is ih => exact congrArg _ (ih _)

/-- Bodies and interceptors see the same, whatever listens to the two programs. -/
theorem marks_recordedBodies {υ : Type} [Listener τ] [Listener υ] (m : Metrics) (k : Nat)
    (is : List (Interceptor σ)) (us : List (Use σ)) (t : τ) (u : υ) (own : σ) :
    marks t own (recordedBodies m k is us) = marks u own (recordingLayer m k is us) := by
  have hears : HearAlike (fun _ => True) fun (_ : τ) (_ : υ) => True := fun _ _ _ _ _ => trivial
  obtain ⟨-, related⟩ := Session.run_listeners hears (t := t) (u := u) trivial (own, [])
    (Call.watchFrom 0 0 (recordedBodies m k is us)) fun _ _ _ _ => trivial
  have inside : Call.watchFrom 0 0 (recordedBodies m k is us) =
      recordedBodies m k (Interceptor.watchFrom 0 is) (Use.watchFrom 0 us) :=
    watchFrom_program (fun _ _ => rfl) ..
  have around : Call.watchFrom 0 0 (recordingLayer m k is us) =
      recordingLayer m k (Interceptor.watchFrom 0 is) (Use.watchFrom 0 us) := by
    rw [recordingLayer, recordingLayer, ← Interceptor.watchFrom_append_metrics]
    exact watchFrom_program (fun _ _ => rfl) ..
  obtain ⟨-, stages⟩ := run_recordedBodies m k (Interceptor.watchFrom 0 is) (Use.watchFrom 0 us) u
    (own, ([] : List Mark))
  rw [marks, marks, Call.watchedRun, Call.watchedRun, related.own, inside, around, stages]

/-! ### What is told and counted -/

/-- The events that a run hands to the log. -/
def events (t : Telemetry) (own : σ) (calls : List (Nat × Call σ)) : List Log.Event :=
  (tellings t (notices own calls)).map (·.2)

/-- The log is handed these events, and nothing else. -/
theorem console_telemetryAfter (t : Telemetry) (own : σ) (calls : List (Nat × Call σ)) :
    (telemetryAfter t own calls).console =
      (events t own calls).foldl (fun c e => c.emit t.time e) t.console := by
  rw [telemetryAfter_hears, console_foldl_hear, events, List.foldl_map]

theorem untimed_told (t u : Telemetry) (n : Notice) : (told t n).untimed = (told u n).untimed := by
  cases n with
  | event e => rfl
  | finished m info r => simp [told, Telemetry.finished, Log.Event.untimed]

theorem untimed_tellings (t u : Telemetry) (ns : List Notice) :
    ((tellings t ns).map (·.2)).map Log.Event.untimed =
      ((tellings u ns).map (·.2)).map Log.Event.untimed := by
  induction ns generalizing t u with
  | nil => rfl
  | cons n ns ih => exact congrArg₂ List.cons (untimed_told t u n) (ih _ _)

namespace Metrics

variable {m : Metrics} {s t : Store}

theorem sameCounts_record (same : s.SameCounts t) (m : Metrics) (kind : String) (o : Outcome)
    (d e : Duration) :
    (Telemetry.record m s kind o d).SameCounts (Telemetry.record m t kind o e) := by
  have general := (same.observe m.duration [kind, o.label] d.inSeconds e.inSeconds).increase
    m.total [kind, o.label] 1
  cases o with
  | failure => exact general
  | success =>
    unfold Telemetry.record
    cases Special.ofKind? kind with
    | none => exact general
    | some special =>
      cases special with
      | provisionSandbox => exact general.observe m.provision [] d.inSeconds e.inSeconds
      | createPullRequest => exact general.increase m.pullRequests [] 1

/-- Notices are counted alike, whatever the lengths of the executions. -/
theorem sameCounts_foldl_hear {t u : Telemetry} (same : t.store.SameCounts u.store)
    (ns : List Notice) :
    (ns.foldl Listener.hear t).store.SameCounts (ns.foldl Listener.hear u).store := by
  induction ns generalizing t u with
  | nil => exact same
  | cons n ns ih =>
    refine ih ?_
    cases n with
    | event e => exact same
    | finished m info r => exact sameCounts_record same m info.kind (.ofResult r) _ _

theorem series?_through (see : Reading → Reading) (s : Store) (c : CollectorId) (kind : String)
    (o : Outcome) :
    series? (s.through see) c kind o =
      (series? s c kind o).map fun f => ⟨f.labels, see f.reading⟩ := by
  have shown : ((s.through see).families c).flatMap Family.series =
      ((s.families c).flatMap Family.series).map fun f => ⟨f.labels, see f.reading⟩ := by
    simp only [Store.families, Store.collector_through, Collector.families, Collector.through,
      List.flatMap_map, List.map_flatMap, Function.comp_def, family, Metric.through, List.map_map]
    rfl
  rw [series?, Family.find?, shown, List.find?_map]
  rfl

theorem reading_through (see : Reading → Reading) (s : Store) (c : CollectorId) :
    reading (s.through see) c = (reading s c).map see := by
  simp only [reading, Store.collector_through, Collector.through, List.head?_map]
  cases (s.collector c).metrics.head? with
  | none => rfl
  | some m =>
    simp only [Option.map_some, Metric.through, Option.bind_eq_bind, Option.bind_some,
      List.head?_map]
    cases m.series.head? <;> rfl

theorem count_untimed (m : Metrics) (s : Store) (kind : String) (o : Outcome) :
    m.count (s.through Reading.untimed) kind o = m.count s kind o := by
  rw [count, series?_through, Option.map_map]
  simp only [Function.comp_def, Reading.count_untimed, count]

theorem durationSamples_untimed (m : Metrics) (s : Store) (kind : String) (o : Outcome) :
    m.durationSamples (s.through Reading.untimed) kind o = m.durationSamples s kind o := by
  rw [durationSamples, series?_through, Option.map_map]
  simp only [Function.comp_def, Reading.samples_untimed, durationSamples]

theorem pullRequestsCreated_untimed (m : Metrics) (s : Store) :
    m.pullRequestsCreated (s.through Reading.untimed) = m.pullRequestsCreated s := by
  rw [pullRequestsCreated, reading_through, Option.map_map]
  simp only [Function.comp_def, Reading.count_untimed, pullRequestsCreated]

theorem provisionSamples_untimed (m : Metrics) (s : Store) :
    m.provisionSamples (s.through Reading.untimed) = m.provisionSamples s := by
  rw [provisionSamples, reading_through, Option.map_map]
  simp only [Function.comp_def, Reading.samples_untimed, provisionSamples]

/-- All questions for counts and numbers of observations are answered alike. -/
structure CountAlike (m : Metrics) (s t : Store) : Prop where
  count : ∀ kind o, m.count s kind o = m.count t kind o
  samples : ∀ kind o, m.durationSamples s kind o = m.durationSamples t kind o
  pullRequests : m.pullRequestsCreated s = m.pullRequestsCreated t
  sandboxes : m.provisionSamples s = m.provisionSamples t

theorem countAlike (same : s.SameCounts t) : m.CountAlike s t := by
  have seen : s.through Reading.untimed = t.through Reading.untimed := same
  refine ⟨fun kind o => ?_, fun kind o => ?_, ?_, ?_⟩
  · rw [← m.count_untimed s, seen, m.count_untimed]
  · rw [← m.durationSamples_untimed s, seen, m.durationSamples_untimed]
  · rw [← m.pullRequestsCreated_untimed s, seen, m.pullRequestsCreated_untimed]
  · rw [← m.provisionSamples_untimed s, seen, m.provisionSamples_untimed]

end Metrics

/-! ### Both ways agree -/

/-- What two runs have in common that may differ in how long executions took. -/
structure SameButTimes (m : Metrics) (t u : Telemetry) (own : σ)
    (xs ys : List (Nat × Call σ)) : Prop where
  answers : ((Session.start t own).run xs).2 = ((Session.start u own).run ys).2
  state : ((Session.start t own).run xs).1.stage.own = ((Session.start u own).run ys).1.stage.own
  /-- Bodies and interceptors are entered, call and answer in the same order. -/
  marked : marks t own xs = marks u own ys
  /-- The same executions end in the same order. -/
  ended : notices own xs = notices own ys
  told : (events t own xs).map Log.Event.untimed = (events u own ys).map Log.Event.untimed
  logged : (telemetryAfter t own xs).console =
      (events t own xs).foldl (fun c e => c.emit t.time e) t.console ∧
    (telemetryAfter u own ys).console =
      (events u own ys).foldl (fun c e => c.emit u.time e) u.console
  counted : (telemetryAfter t own xs).store.SameCounts (telemetryAfter u own ys).store
  asked : m.CountAlike (telemetryAfter t own xs).store (telemetryAfter u own ys).store

/-- Recording around every body and recording in the innermost layer come to the same, with any
other interceptors and any uses of the chain, and whatever the lengths of the executions. With the
same lengths everything is the same. -/
theorem recordings_agree (m : Metrics) (k : Nat) (is : List (Interceptor σ)) (us : List (Use σ))
    (own : σ) (t : Telemetry) (w : Stopwatch) :
    SameButTimes m t { t with stopwatch := w } own (recordedBodies m k is us)
        (recordingLayer m k is us) ∧
      ((Session.start t own).run (recordedBodies m k is us)).1.stage =
        ((Session.start t own).run (recordingLayer m k is us)).1.stage := by
  let u : Telemetry := { t with stopwatch := w }
  have hears : HearAlike (fun _ => True) fun (_ _ : Telemetry) => True := fun _ _ _ _ _ => trivial
  obtain ⟨answers, related⟩ := Session.run_listeners hears (t := t) (u := u) trivial own
    (recordedBodies m k is us) fun _ _ _ _ => trivial
  obtain ⟨answers', stages⟩ := run_recordedBodies m k is us u own
  have ended : notices own (recordedBodies m k is us) = notices own (recordingLayer m k is us) :=
    congrArg Stage.telemetry (run_recordedBodies m k is us ([] : List Notice) own).2
  have told : (events t own (recordedBodies m k is us)).map Log.Event.untimed =
      (events u own (recordingLayer m k is us)).map Log.Event.untimed := by
    rw [events, events, ended]
    exact untimed_tellings t u _
  have counted : (telemetryAfter t own (recordedBodies m k is us)).store.SameCounts
      (telemetryAfter u own (recordingLayer m k is us)).store := by
    rw [telemetryAfter_hears, telemetryAfter_hears, ended]
    exact Metrics.sameCounts_foldl_hear (t := t) (u := u) rfl _
  refine ⟨?_, (run_recordedBodies m k is us t own).2⟩
  exact {
    answers := answers.trans answers'
    state := related.own.trans (congrArg Stage.own stages)
    marked := marks_recordedBodies m k is us t u own
    ended := ended
    told := told
    logged := ⟨console_telemetryAfter .., console_telemetryAfter ..⟩
    counted := counted
    asked := Metrics.countAlike counted }

end Activity

end WorkerTelemetry
