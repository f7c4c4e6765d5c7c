import WorkerTelemetry.Proofs.Activity.Watching

/-!
Erasing instrumentation. A bare program has no metrics interceptors, and its bodies are what all
wrappers wrap. Main statement: a program and its bare form answer the same, leave the same own
state, and let bodies and interceptors see the same; what is told to the listener is not compared.
-/

namespace WorkerTelemetry.Activity

variable {τ υ σ : Type}

/-! ### Bare programs -/

/-- What all wrappers of a body wrap. -/
def Body.bare : Body σ → Body σ
  | .plain act => .plain act
  | .shared b => b.bare
  | .instrumented _ b => b.bare

/-- A call without instrumentation; nothing is left of adding a metrics interceptor. -/
def Call.bare? : Call σ → Option (Call σ)
  | .register kind b => some (.register kind b.bare)
  | .intercept i => if i.isCustom then some (.intercept i) else none
  | .dispatch info input => some (.dispatch info input)

/-- A program without instrumentation. -/
def Call.bareAll (calls : List (Nat × Call σ)) : List (Nat × Call σ) :=
  calls.filterMap fun x => x.2.bare?.map fun c => (x.1, c)

/-! ### A listener that keeps nothing -/

/-- The one listener to which instrumentation makes no difference. -/
instance : Listener Unit where
  hear _ _ := ()

theorem instrument_deaf (m : Metrics) (e : Executor Unit σ) : instrument m e = e := rfl

theorem Body.executor_bare (b : Body σ) : (b.bare.executor : Executor Unit σ) = b.executor := by
  induction b with
  | plain act => rfl
  | shared b ih => exact ih
  | instrumented m b ih =>
    change b.bare.executor = instrument m b.executor
    rw [instrument_deaf]
    exact ih

theorem layers_bare (is : List (Interceptor σ)) (e : Executor Unit σ) :
    layers (is.filter Interceptor.isCustom) e = layers is e := by
  induction is with
  | nil => rfl
  | cons i is ih =>
    cases i with
    | metrics m =>
      change layers (is.filter Interceptor.isCustom) e = instrument m (layers is e)
      rw [instrument_deaf]
      exact ih
    | custom act => exact congrArg (Interceptor.around (.custom act)) ih

/-- A chain with bare bodies and only the interceptors that are someone's own. -/
structure Chain.Bare (c d : Chain σ) : Prop where
  bodies : ∀ kind, d.bodies.find? kind = (c.bodies.find? kind).map Body.bare
  interceptors : d.interceptors = c.interceptors.filter Interceptor.isCustom

namespace Chain.Bare

variable {c d : Chain σ}

theorem dispatch (h : Chain.Bare c d) :
    (d.dispatch : Executor Unit σ) = c.dispatch := by
  funext info input
  unfold Chain.dispatch
  rw [h.bodies, h.interceptors]
  cases c.bodies.find? info.kind with
  | none => rfl
  | some b =>
    simp only [Option.map_some]
    rw [b.executor_bare, layers_bare]

theorem register (h : Chain.Bare c d) (kind : String) (b : Body σ) :
    Chain.Bare (c.register () kind b).1 (d.register () kind b.bare).1 := by
  refine ⟨fun k => ?_, h.interceptors⟩
  simp only [Chain.register, NameMap.find?_insert]
  split
  · rfl
  · exact h.bodies k

theorem intercept (h : Chain.Bare c d) (i : Interceptor σ) (hi : i.isCustom = true) :
    Chain.Bare (c.intercept i) (d.intercept i) := by
  refine ⟨h.bodies, ?_⟩
  simp [Chain.intercept, h.interceptors, hi]

theorem intercept_metrics (h : Chain.Bare c d) (i : Interceptor σ) (hi : i.isCustom = false) :
    Chain.Bare (c.intercept i) d := by
  refine ⟨h.bodies, ?_⟩
  simp [Chain.intercept, h.interceptors, hi]

end Chain.Bare

/-- Sessions on one stage, the chains of the second being those of the first made bare. -/
structure Session.Bare (s t : Session Unit σ) : Prop where
  chains : ∀ k, Chain.Bare (s.chains k) (t.chains k)
  stage : t.stage = s.stage

namespace Session.Bare

variable {s t : Session Unit σ}

theorem put (h : Session.Bare s t) {k : Nat} {c d : Chain σ} (hcd : Chain.Bare c d) :
    Session.Bare (s.put k c) (t.put k d) := by
  refine ⟨fun j => ?_, h.stage⟩
  simp only [Session.put]
  split
  · exact hcd
  · exact h.chains j

theorem put_left (h : Session.Bare s t) {k : Nat} {c : Chain σ}
    (hcd : Chain.Bare c (t.chains k)) : Session.Bare (s.put k c) t := by
  refine ⟨fun j => ?_, h.stage⟩
  simp only [Session.put]
  split
  · next hj => rw [hj]; exact hcd
  · exact h.chains j

/-- One call and its bare form, if something is left of it, are answered the same. -/
theorem call (h : Session.Bare s t) (k : Nat) (x : Call σ) :
    match x.bare? with
    | none => (s.call k x).2 = none ∧ Session.Bare (s.call k x).1 t
    | some y => (t.call k y).2 = (s.call k x).2 ∧ Session.Bare (s.call k x).1 (t.call k y).1 := by
  cases x with
  | register kind b =>
    refine ⟨rfl, (h.put (k := k) ((h.chains k).register kind b)).chains, ?_⟩
    change (⟨(), t.stage.own⟩ : Stage Unit σ) = ⟨(), s.stage.own⟩
    rw [h.stage]
  | intercept i =>
    cases i with
    | metrics m => exact ⟨rfl, h.put_left ((h.chains k).intercept_metrics _ rfl)⟩
    | custom act => exact ⟨rfl, h.put ((h.chains k).intercept _ rfl)⟩
  | dispatch info input =>
    have hd : (t.chains k).dispatch info input t.stage =
        (s.chains k).dispatch info input s.stage := by
      rw [(h.chains k).dispatch, h.stage]
    refine ⟨?_, h.chains, congrArg Prod.snd hd⟩
    change some ((t.chains k).dispatch info input t.stage).1 = some _
    rw [hd]
    rfl

/-- A run and the run of the bare program are answered the same and end on one stage. -/
theorem run (h : Session.Bare s t) (calls : List (Nat × Call σ)) :
    (t.run (Call.bareAll calls)).2 = (s.run calls).2 ∧
      (t.run (Call.bareAll calls)).1.stage = (s.run calls).1.stage := by
  induction calls generalizing s t with
  | nil => exact ⟨rfl, h.stage⟩
  | cons x xs ih =>
    obtain ⟨k, x⟩ := x
    have hx := h.call k x
    cases hy : x.bare? with
    | none =>
      rw [hy] at hx
      obtain ⟨hr, hst⟩ := hx
      obtain ⟨hrs, hend⟩ := ih hst
      have hb : Call.bareAll ((k, x) :: xs) = Call.bareAll xs := by simp [Call.bareAll, hy]
      rw [hb]
      exact ⟨by simpa [Session.run, hr] using hrs, hend⟩
    | some y =>
      rw [hy] at hx
      obtain ⟨hr, hst⟩ := hx
      obtain ⟨hrs, hend⟩ := ih hst
      have hb : Call.bareAll ((k, x) :: xs) = (k, y) :: Call.bareAll xs := by
        simp [Call.bareAll, hy]
      rw [hb]
      exact ⟨by simp [Session.run, hr, hrs], hend⟩

end Session.Bare

/-- Answers and own state are the same with the listener that keeps nothing. -/
theorem Session.run_deaf [Listener τ] (t : τ) (own : σ) (calls : List (Nat × Call σ)) :
    ((Session.start t own).run calls).2 = ((Session.start () own).run calls).2 ∧
      ((Session.start t own).run calls).1.stage.own =
        ((Session.start () own).run calls).1.stage.own := by
  have hears : HearAlike (fun _ => True) fun (_ : τ) (_ : Unit) => True :=
    fun _ _ _ _ _ => trivial
  obtain ⟨hr, hs⟩ := Session.run_listeners hears (t := t) (u := ()) trivial own
    calls fun _ _ _ _ => trivial
  exact ⟨hr, hs.own⟩

/-- A program and its bare form, with any two listeners: the same answers and own state. -/
theorem run_bareAll [Listener τ] [Listener υ] (t : τ) (u : υ) (own : σ)
    (calls : List (Nat × Call σ)) :
    ((Session.start u own).run (Call.bareAll calls)).2 = ((Session.start t own).run calls).2 ∧
      ((Session.start u own).run (Call.bareAll calls)).1.stage.own =
        ((Session.start t own).run calls).1.stage.own := by
  obtain ⟨hr, ho⟩ := Session.run_deaf t own calls
  obtain ⟨br, bo⟩ := Session.run_deaf u own (Call.bareAll calls)
  have start : Session.Bare (Session.start () own) (Session.start () own) :=
    ⟨fun _ => ⟨fun _ => rfl, rfl⟩, rfl⟩
  obtain ⟨er, es⟩ := start.run calls
  exact ⟨br.trans (er.trans hr.symm), bo.trans ((congrArg Stage.own es).trans ho.symm)⟩

/-! ### Watched programs -/

theorem Body.bare_watch (n : Nat) (b : Body σ) : (b.watch n).bare = b.bare.watch n := by
  induction b with
  | plain act => rfl
  | shared b ih => exact ih
  | instrumented m b ih => exact ih

/-- Making a program bare and watching it commute. -/
theorem bareAll_watchFrom (bodies interceptors : Nat) (calls : List (Nat × Call σ)) :
    Call.bareAll (Call.watchFrom bodies interceptors calls) =
      Call.watchFrom bodies interceptors (Call.bareAll calls) := by
  induction calls generalizing bodies interceptors with
  | nil => rfl
  | cons c cs ih =>
    obtain ⟨k, c⟩ := c
    cases c with
    | register kind b =>
      have h := ih (bodies + 1) interceptors
      simp only [Call.bareAll, Call.watchFrom, List.filterMap_cons, Call.bare?, Option.map_some,
        Body.bare_watch] at h ⊢
      rw [h]
    | intercept i =>
      cases i with
      | metrics m => exact ih bodies interceptors
      | custom act => exact congrArg _ (ih bodies (interceptors + 1))
    | dispatch info input => exact congrArg _ (ih bodies interceptors)

/-- Instrumentation changes no answer and no own state, and bodies and interceptors see the same
with it and without it: they make the same marks in the same order, and the marks are those of the
very runs that are compared. -/
theorem bare_program_same (t u : Telemetry) (own : σ) (calls : List (Nat × Call σ)) :
    let full := (Session.start t own).run calls
    let bare := (Session.start u own).run (Call.bareAll calls)
    let watched := Call.watchedRun t own calls
    let watchedBare := Call.watchedRun u own (Call.bareAll calls)
    bare.2 = full.2 ∧ bare.1.stage.own = full.1.stage.own ∧
      watchedBare.1.stage.own.2 = watched.1.stage.own.2 ∧
      (watched.2 = full.2 ∧ watched.1.stage.own.1 = full.1.stage.own) ∧
      (watchedBare.2 = bare.2 ∧ watchedBare.1.stage.own.1 = bare.1.stage.own) := by
  intro full bare watched watchedBare
  obtain ⟨hr, ho⟩ := run_bareAll t u own calls
  obtain ⟨wr, wo, _⟩ := watchedRun_agrees t own calls
  obtain ⟨br, bo, _⟩ := watchedRun_agrees u own (Call.bareAll calls)
  refine ⟨hr, ho, ?_, ⟨wr, wo⟩, ⟨br, bo⟩⟩
  have hm := (run_bareAll t u (own, []) (Call.watchFrom 0 0 calls)).2
  rw [bareAll_watchFrom] at hm
  exact congrArg Prod.snd hm

end WorkerTelemetry.Activity
