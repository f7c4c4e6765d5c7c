import WorkerTelemetry.Proofs.Activity.Agreement
import WorkerTelemetry.Proofs.Activity.Recordings

/-!
What the metrics say after a run. The executions that a run completed are read off the run whose
listener keeps all notices. Main statement: the queries and the events of a set of metrics that
began fresh are functions of these completions. Nothing is said about metrics that others write.
-/

namespace WorkerTelemetry

namespace Log.Event

/-- The text in a field. -/
def textOf? (e : Event) (name : String) : Option String :=
  match e.fields.find? fun f => f.1 == name with
  | some (_, .text s) => some s
  | _ => none

end Log.Event

namespace Activity

variable {σ : Type}

/-- Whether an event reports an ending. -/
def Ending.reportedBy (e : Ending) (x : Log.Event) : Bool :=
  x.level == .debug && x.message == "Activity finished" &&
    x.textOf? kindLabel == some e.1 && x.textOf? outcomeLabel == some e.2.label

namespace Notice

/-- The ending of an execution recorded in a set of metrics. -/
def ending? (m : Metrics) : Notice → Option Ending
  | .finished n info r => if n = m then some (info.kind, .ofResult r) else none
  | .event _ => none

end Notice

/-- The endings of the executions recorded in a set of metrics. -/
def completed (m : Metrics) (ns : List Notice) : List Ending := ns.filterMap (Notice.ending? m)

/-- A recorded execution is completed once, after all that went on inside it, with the information
it was given and what it was answered. -/
theorem instrument_kept (m : Metrics) (next : Executor (List Notice) σ) (info : Info)
    (input : Json) (s : Stage (List Notice) σ) :
    instrument m next info input s =
      ((next info input s).1,
        ⟨(next info input s).2.telemetry ++ [.finished m info (next info input s).1],
          (next info input s).2.own⟩) := rfl

theorem completed_append (m : Metrics) (ns : List Notice) (n : Notice) :
    completed m (ns ++ [n]) = completed m ns ++ (n.ending? m).toList := by
  unfold completed
  rw [List.filterMap_append]
  cases h : n.ending? m <;> simp [h]

/-- When such an execution ends, what it was given and what it was answered is added to what was
completed. -/
theorem completed_instrument (m n : Metrics) (next : Executor (List Notice) σ) (info : Info)
    (input : Json) (s : Stage (List Notice) σ) :
    let inside := next info input s
    let outside := instrument n next info input s
    outside.1 = inside.1 ∧
      completed m outside.2.telemetry = completed m inside.2.telemetry ++
        if n = m then [(info.kind, .ofResult inside.1)] else [] := by
  intro inside outside
  refine ⟨rfl, ?_⟩
  rw [show outside = _ from instrument_kept n next info input s, completed_append, Notice.ending?]
  split <;> rfl

/-! ### What telemetry tells -/

/-- The event that a notice makes. -/
def told (t : Telemetry) : Notice → Log.Event
  | .finished _ info r =>
    Telemetry.finished info.kind (.ofResult r) (t.stopwatch.length t.stopwatch.used)
  | .event e => e

/-- Notices with the events they make, one after the other. -/
def tellings (t : Telemetry) : List Notice → List (Notice × Log.Event)
  | [] => []
  | n :: ns => (n, told t n) :: tellings (Listener.hear t n) ns

theorem time_hear (t : Telemetry) (n : Notice) : (Listener.hear t n).time = t.time := by
  cases n <;> rfl

theorem console_hear (t : Telemetry) (n : Notice) :
    (Listener.hear t n).console = t.console.emit t.time (told t n) := by
  cases n <;> rfl

/-- The log is handed what is told, and nothing else. -/
theorem console_foldl_hear (t : Telemetry) (ns : List Notice) :
    (ns.foldl Listener.hear t).console =
      (tellings t ns).foldl (fun c x => c.emit t.time x.2) t.console := by
  induction ns generalizing t with
  | nil => rfl
  | cons n ns ih => rw [List.foldl_cons, ih, time_hear, console_hear]; rfl

theorem reportedBy_finished (e : Ending) (kind : String) (o : Outcome) (d : Duration) :
    e.reportedBy (Telemetry.finished kind o d) = ((kind, o) == e) := by
  obtain ⟨k, p⟩ := e
  have message : (Telemetry.finished kind o d).message = "Activity finished" := rfl
  have kindText : (Telemetry.finished kind o d).textOf? kindLabel = some kind := rfl
  have outcomeText : (Telemetry.finished kind o d).textOf? outcomeLabel = some o.label := rfl
  have label : o.label = p.label ↔ o = p := ⟨Outcome.label_injective, congrArg _⟩
  rw [Bool.eq_iff_iff, Ending.reportedBy, message, kindText, outcomeText]
  simp [Telemetry.finished, label]

theorem completed_cons (m : Metrics) (n : Notice) (ns : List Notice) :
    completed m (n :: ns) = (n.ending? m).toList ++ completed m ns := by
  unfold completed
  rw [List.filterMap_cons]
  cases n.ending? m <;> rfl

/-- Every completed execution is reported by one event that its layer makes. -/
theorem countP_tellings (m : Metrics) (e : Ending) (t : Telemetry) (ns : List Notice) :
    ((tellings t ns).countP fun x => (x.1.ending? m).isSome && e.reportedBy x.2) =
      (completed m ns).count e := by
  induction ns generalizing t with
  | nil => rfl
  | cons n ns ih =>
    rw [tellings, List.countP_cons, ih, completed_cons, List.count_append, Nat.add_comm]
    cases n with
    | event x => rfl
    | finished n info r =>
      by_cases hn : n = m
      · simp [Notice.ending?, hn, told, reportedBy_finished, List.count_singleton]
      · simp [Notice.ending?, hn]

/-! ### What telemetry records -/

namespace Recording

theorem ending?_ofEnding (kind : String) (o : Outcome) (d : Duration) :
    (ofEnding kind o d).filterMap ending? = [(kind, o)] := by
  unfold ofEnding
  split <;> rfl

/-- A success of a special kind is recorded in the metric of this kind too, and nothing else is. -/
theorem countP_ofEnding (special : Special) (kind : String) (o : Outcome) (d : Duration) :
    (ofEnding kind o d).countP
        (match special with
          | .createPullRequest => isPullRequest
          | .provisionSandbox => isProvision) =
      [(kind, o)].count (special.kind, .success) := by
  cases o with
  | failure => cases special <;> simp [ofEnding, isPullRequest, isProvision]
  | success =>
    cases hs : Special.ofKind? kind with
    | none =>
      have other : kind ≠ special.kind := by
        intro heq
        rw [Special.ofKind?_eq_some_iff.2 heq] at hs
        cases hs
      cases special <;> simp [ofEnding, hs, isPullRequest, isProvision, other]
    | some s =>
      cases Special.ofKind?_eq_some_iff.1 hs
      cases special <;> cases s <;> rfl

end Recording

theorem store_hear (t : Telemetry) (m : Metrics) (info : Info) (r : Result) :
    (Listener.hear t (.finished m info r)).store =
      (Recording.ofEnding info.kind (.ofResult r)
        (t.stopwatch.length t.stopwatch.used)).foldl m.take t.store :=
  Metrics.record_eq_foldl_take ..

/-- Notices are recorded: the endings as they come, and those of special kinds twice. -/
theorem Metrics.Holds.foldl_hear {m : Metrics} {t : Telemetry} {rs : List Recording}
    (h : m.Holds t.store rs) {ns : List Notice}
    (apart : ∀ n ∈ ns, n.Allowed fun n => n = m ∨ m.Apart n) :
    ∃ more : List Recording, m.Holds (ns.foldl Listener.hear t).store (rs ++ more) ∧
      more.filterMap Recording.ending? = completed m ns ∧
      more.countP Recording.isPullRequest =
        (completed m ns).count (Special.createPullRequest.kind, .success) ∧
      more.countP Recording.isProvision =
        (completed m ns).count (Special.provisionSandbox.kind, .success) := by
  induction ns generalizing t rs with
  | nil => exact ⟨[], by rwa [List.append_nil], rfl, rfl, rfl⟩
  | cons n ns ih =>
    obtain ⟨hn, hns⟩ := List.forall_mem_cons.1 apart
    cases n with
    | event e => exact ih (t := Listener.hear t (.event e)) h hns
    | finished n info r =>
      by_cases hnm : n = m
      · subst hnm
        have here := h.foldl_take
          (Recording.ofEnding info.kind (.ofResult r) (t.stopwatch.length t.stopwatch.used))
        rw [← store_hear] at here
        obtain ⟨more, hold, ends, prs, sandboxes⟩ := ih here hns
        rw [List.append_assoc] at hold
        refine ⟨_, hold, ?_, ?_, ?_⟩
        · rw [List.filterMap_append, Recording.ending?_ofEnding, ends]
          simp [completed_cons, Notice.ending?]
        · rw [List.countP_append, Recording.countP_ofEnding .createPullRequest, prs]
          simp [completed_cons, Notice.ending?, List.count_cons, Nat.add_comm]
        · rw [List.countP_append, Recording.countP_ofEnding .provisionSandbox, sandboxes]
          simp [completed_cons, Notice.ending?, List.count_cons, Nat.add_comm]
      · have here : m.Holds (Listener.hear t (.finished n info r)).store rs := by
          rw [store_hear]
          exact h.foldl_take_apart (hn.resolve_left hnm) _
        simpa [completed_cons, Notice.ending?, hnm] using ih here hns

/-- What a set of metrics says agrees with what was completed. -/
structure Metrics.Accounts (m : Metrics) (s : Metric.Store) (done : List Ending)
    (told : List (Notice × Log.Event)) : Prop where
  /-- Endings that share a fingerprint are all counted for the first of them. -/
  count : ∀ e : Ending, m.count s e.1 e.2 = e.tally done
  samples : ∀ e : Ending, m.durationSamples s e.1 e.2 = e.tally done
  /-- An ending that shares its fingerprint with no other is counted by itself. -/
  alone : ∀ e : Ending, (∀ f ∈ done, f.key = e.key → f = e) →
    m.count s e.1 e.2 = done.count e ∧ m.durationSamples s e.1 e.2 = done.count e
  events : ∀ e : Ending,
    (told.countP fun x => (x.1.ending? m).isSome && e.reportedBy x.2) = done.count e
  pullRequests : m.pullRequestsCreated s = done.count ("CreatePullRequest", .success)
  sandboxes : m.provisionSamples s = done.count ("ProvisionSandbox", .success)

theorem Metrics.Holds.accounts {m : Metrics} {t : Telemetry} (fresh : m.Fresh t.store)
    {ns : List Notice} (apart : ∀ n ∈ ns, n.Allowed fun n => n = m ∨ m.Apart n)
    (few : (completed m ns).length < Decimal.exactLimit) :
    m.Accounts (ns.foldl Listener.hear t).store (completed m ns) (tellings t ns) := by
  obtain ⟨rs, hold, ends, prs, sandboxes⟩ := Metrics.Holds.foldl_hear fresh apart
  rw [List.nil_append] at hold
  have count : ∀ e : Ending, m.count (ns.foldl Listener.hear t).store e.1 e.2 =
      e.tally (completed m ns) := by
    intro e
    rw [hold.count_eq e (by rwa [ends]), ends]
  have samples : ∀ e : Ending, m.durationSamples (ns.foldl Listener.hear t).store e.1 e.2 =
      e.tally (completed m ns) := by
    intro e
    rw [hold.durationSamples_eq e, ends]
  refine ⟨count, samples, ?_, fun e => countP_tellings m e t ns, ?_, ?_⟩
  · intro e alone
    rw [count e, samples e, Ending.tally_eq_count alone]
    exact ⟨rfl, rfl⟩
  · rw [hold.pullRequestsCreated_eq, prs]
    · rfl
    · rw [prs]
      exact Nat.lt_of_le_of_lt List.count_le_length few
  · rw [hold.provisionSamples_eq, sandboxes]
    rfl

section Runs

variable {m : Metrics} {calls : List (Nat × Call σ)}

/-- The notices of a run whose listener keeps them. -/
def notices (own : σ) (calls : List (Nat × Call σ)) : List Notice :=
  ((Session.start ([] : List Notice) own).run calls).1.stage.telemetry

/-- The telemetry after a run. -/
def telemetryAfter (t : Telemetry) (own : σ) (calls : List (Nat × Call σ)) : Telemetry :=
  ((Session.start t own).run calls).1.stage.telemetry

/-- Telemetry hears the notices of a run in their order, and no others. -/
theorem telemetryAfter_hears (t : Telemetry) (own : σ) (calls : List (Nat × Call σ)) :
    telemetryAfter t own calls = (notices own calls).foldl Listener.hear t := by
  let heard : Telemetry → List Notice → Prop := fun t' ns => t' = ns.foldl Listener.hear t
  have hears : HearAlike (fun _ => True) heard := hearAlike_foldl t
  have start : heard t [] := rfl
  obtain ⟨-, related⟩ := Session.run_listeners hears start own calls fun _ _ _ _ => trivial
  exact related.telemetry

/-- The notices of a program whose metrics satisfy a test. -/
theorem allowed_notices {ok : Metrics → Prop} (own : σ)
    (allowed : ∀ x ∈ calls, ∀ n ∈ x.2.metricSets, ok n) :
    ∀ n ∈ notices own calls, n.Allowed ok := by
  let kept : List Notice → List Notice → Prop := fun ns _ => ∀ n ∈ ns, n.Allowed ok
  have hears : HearAlike ok kept := by
    intro ns _ n hn hns n' hn'
    rcases List.mem_append.1 hn' with hn' | hn'
    · exact hns n' hn'
    · rwa [List.mem_singleton.1 hn']
  have start : kept [] [] := fun n hn => absurd hn List.not_mem_nil
  obtain ⟨-, related⟩ :=
    Session.run_listeners hears (t := []) (u := []) start own calls allowed
  exact related.telemetry

theorem telemetryAfter_eq_foldl {ok : Metrics → Prop} (t : Telemetry) (own : σ)
    (allowed : ∀ x ∈ calls, ∀ n ∈ x.2.metricSets, ok n) :
    telemetryAfter t own calls = (notices own calls).foldl Listener.hear t ∧
      ∀ n ∈ notices own calls, n.Allowed ok :=
  ⟨telemetryAfter_hears t own calls, allowed_notices own allowed⟩

theorem accounts_telemetryAfter (t : Telemetry) (own : σ) (fresh : m.Fresh t.store)
    (apart : ∀ x ∈ calls, ∀ n ∈ x.2.metricSets, n = m ∨ m.Apart n)
    (few : (completed m (notices own calls)).length < Decimal.exactLimit) :
    m.Accounts (telemetryAfter t own calls).store (completed m (notices own calls))
      (tellings t (notices own calls)) := by
  obtain ⟨same, allowed⟩ := telemetryAfter_eq_foldl t own apart
  rw [same]
  exact Metrics.Holds.accounts fresh allowed few

end Runs

/-- After any calls, what fresh metrics say agrees with the executions that the calls completed in
them, and the log was handed the events of these executions. Completed is what goes through a layer
of these metrics, when it has ended, by what the layer was given and what it was answered; what else
is noted completes nothing. -/
theorem run_accounts (m : Metrics) (t : Telemetry) (own : σ) (calls : List (Nat × Call σ))
    (fresh : m.Fresh t.store) (apart : ∀ x ∈ calls, ∀ n ∈ x.2.metricSets, n = m ∨ m.Apart n)
    (few : (completed m (notices own calls)).length < Decimal.exactLimit) :
    m.Accounts (telemetryAfter t own calls).store (completed m (notices own calls))
        (tellings t (notices own calls)) ∧
      (telemetryAfter t own calls).console =
        (tellings t (notices own calls)).foldl (fun c x => c.emit t.time x.2) t.console ∧
      (∀ (n : Metrics) (next : Executor (List Notice) σ) info input s,
        let inside := next info input s
        let outside := instrument n next info input s
        outside.1 = inside.1 ∧
          completed m outside.2.telemetry = completed m inside.2.telemetry ++
            if n = m then [(info.kind, .ofResult inside.1)] else []) ∧
      ∀ ns e, completed m (ns ++ [.event e]) = completed m ns := by
  obtain ⟨same, -⟩ := telemetryAfter_eq_foldl t own apart
  refine ⟨accounts_telemetryAfter t own fresh apart few, ?_, completed_instrument m, ?_⟩
  · rw [same]
    exact console_foldl_hear t (notices own calls)
  · intro ns e
    rw [completed_append]
    exact List.append_nil (completed m ns)

/-- Calls that go through two sets of metrics at several layers, with a body that fails. -/
def layeredCalls (m n : Metrics) : List (Nat × Call Unit) :=
  [(0, .intercept (.metrics m)),
    (0, .intercept (.custom fun info input => .callNext { info with kind := "Inner" } input)),
    (0, .intercept (.metrics n)),
    (0, .register "ProvisionSandbox"
      (.shared (.instrumented m (.plain fun _ input own => (.ok input, own))))),
    (1, .register "Build"
      (.instrumented m (.plain fun _ _ own => (.error (.timeout "late"), own)))),
    (0, .dispatch (.ofKind "ProvisionSandbox") .null),
    (1, .dispatch (.ofKind "Build") .null)]

/-- Telemetry that writes every event and times nothing. -/
def plainTelemetry (s : Metric.Store) : Telemetry :=
  { store := s, console := .unfiltered default, time := ⟨0⟩ }

theorem run_accounts_layeredCalls :
    let (s, n) := Metrics.create {}
    let (s, m) := Metrics.create s
    let ns := notices () (layeredCalls m n)
    let final := telemetryAfter (plainTelemetry s) () (layeredCalls m n)
    m.Fresh s ∧ m.Apart n ∧
      completed m ns = [("Inner", .success), ("ProvisionSandbox", .success), ("Build", .failure)] ∧
      m.Accounts final.store (completed m ns) (tellings (plainTelemetry s) ns) ∧
      final.console = (tellings (plainTelemetry s) ns).foldl
        (fun c x => c.emit ⟨0⟩ x.2) (plainTelemetry s).console := by
  let other := Metrics.create {}
  let recorded := Metrics.create other.1
  have apart : recorded.2.Apart other.2 := by
    simp [recorded, other, Metrics.Apart, Metrics.create, Metrics.collectors,
      Metric.Store.addCollector, List.Disjoint]
  have alone : ∀ x ∈ layeredCalls recorded.2 other.2, ∀ k ∈ x.2.metricSets,
      k = recorded.2 ∨ recorded.2.Apart k := by
    intro x hx k hk
    simp only [layeredCalls, List.mem_cons, List.not_mem_nil, or_false] at hx
    rcases hx with rfl | rfl | rfl | rfl | rfl | rfl | rfl
    all_goals simp [Call.metricSets, Body.metricSets] at hk
    all_goals subst hk
    · exact .inl rfl
    · exact .inr apart
    · exact .inl rfl
    · exact .inl rfl
  obtain ⟨accounts, console, -⟩ := run_accounts recorded.2 (plainTelemetry recorded.1) () _
    (Metrics.fresh_create other.1) alone (by decide +kernel)
  exact ⟨Metrics.fresh_create other.1, apart, by decide +kernel, accounts, console⟩

/-- Two kinds of one fingerprint, each dispatched once. -/
def twinCalls (m : Metrics) : List (Nat × Call Unit) :=
  [(0, .intercept (.metrics m)),
    (0, .register "m78ZVq3Pf2ia" (.plain fun _ input own => (.ok input, own))),
    (0, .register "mV9VBriCQwMe" (.plain fun _ input own => (.ok input, own))),
    (0, .dispatch (.ofKind "m78ZVq3Pf2ia") .null),
    (0, .dispatch (.ofKind "mV9VBriCQwMe") .null)]

/-- Both executions are counted for the kind that came first. -/
theorem twin_kinds_share_a_count :
    let (s, m) := Metrics.create {}
    let final := (telemetryAfter (plainTelemetry s) () (twinCalls m)).store
    m.Fresh s ∧
      completed m (notices () (twinCalls m)) =
        [("m78ZVq3Pf2ia", .success), ("mV9VBriCQwMe", .success)] ∧
      m.count final "m78ZVq3Pf2ia" .success = 2 ∧ m.count final "mV9VBriCQwMe" .success = 0 ∧
      m.durationSamples final "m78ZVq3Pf2ia" .success = 2 ∧
      m.durationSamples final "mV9VBriCQwMe" .success = 0 := by
  have fresh := Metrics.fresh_create {}
  have alone : ∀ x ∈ twinCalls (Metrics.create {}).2, ∀ n ∈ x.2.metricSets,
      n = (Metrics.create {}).2 ∨ (Metrics.create {}).2.Apart n := by
    simp [twinCalls, Call.metricSets, Body.metricSets]
  have accounts : (Metrics.create {}).2.Accounts _ _ _ :=
    accounts_telemetryAfter (plainTelemetry (Metrics.create {}).1) () fresh alone
      (by decide +kernel)
  have done : completed (Metrics.create {}).2 (notices () (twinCalls (Metrics.create {}).2)) =
      [("m78ZVq3Pf2ia", .success), ("mV9VBriCQwMe", .success)] := rfl
  rw [done] at accounts
  refine ⟨fresh, done, ?_, ?_, ?_, ?_⟩
  · exact (accounts.count ("m78ZVq3Pf2ia", .success)).trans (by decide +kernel)
  · exact (accounts.count ("mV9VBriCQwMe", .success)).trans (by decide +kernel)
  · exact (accounts.samples ("m78ZVq3Pf2ia", .success)).trans (by decide +kernel)
  · exact (accounts.samples ("mV9VBriCQwMe", .success)).trans (by decide +kernel)

end Activity

end WorkerTelemetry
