import WorkerTelemetry.Proofs.Activity.Agreement

/-!
Watched programs. Every body marks its executions, and every interceptor but instrumentation marks
when it is entered, what it calls, what its calls are answered and what it answers, all in one list
beside the own state. Main statement: watching a program changes none of its answers, nothing of
its own state and nothing that its listener hears, so the marks tell what happens in the program
itself.
-/

namespace WorkerTelemetry.Activity

variable {τ υ σ α β : Type}

/-- What bodies and interceptors can see of a run. They are numbered in the order in which they
are registered. -/
inductive Mark
  | executed (body : Nat) (info : Info) (input : Json) (r : Result)
  | entered (interceptor : Nat) (info : Info) (input : Json)
  | called (interceptor : Nat) (info : Info) (input : Json)
  | answered (interceptor : Nat) (r : Result)
  | left (interceptor : Nat) (r : Result)

/-- An own state and the marks made so far. -/
abbrev Watched (σ : Type) := σ × List Mark

/-- Makes a mark. -/
def Plan.mark (m : Mark) : Plan (Watched σ) Unit := .change fun s => (s.1, s.2 ++ [m])

/-- The same plan with its calls, their answers and its own answer marked. -/
def Plan.watch (n : Nat) : Plan σ Result → Plan (Watched σ) Result
  | .answer r => (Plan.mark (.left n r)).bind fun _ => .answer r
  | .read next => .read fun s => (next s.1).watch n
  | .write o next => (Plan.change fun s => (o, s.2)).bind fun _ => next.watch n
  | .call info input next =>
    (Plan.mark (.called n info input)).bind fun _ =>
      .call info input fun r => (Plan.mark (.answered n r)).bind fun _ => (next r).watch n

/-- The same interceptor, watched; instrumentation is not. -/
def Interceptor.watch (n : Nat) : Interceptor σ → Interceptor (Watched σ)
  | .metrics m => .metrics m
  | .custom act => .custom fun info input =>
    (Plan.mark (.entered n info input)).bind fun _ => (act info input).watch n

/-- The same body with its executions marked. -/
def Body.watch (n : Nat) : Body σ → Body (Watched σ)
  | .plain act => .plain fun info input s =>
    let (r, own) := act info input s.1
    (r, (own, s.2 ++ [.executed n info input r]))
  | .shared b => .shared (b.watch n)
  | .instrumented m b => .instrumented m (b.watch n)

/-- Whether an interceptor is someone's own, and no instrumentation. -/
def Interceptor.isCustom : Interceptor σ → Bool
  | .metrics _ => false
  | .custom _ => true

/-- A watched program; so many bodies and interceptors are numbered already. -/
def Call.watchFrom (bodies interceptors : Nat) :
    List (Nat × Call σ) → List (Nat × Call (Watched σ))
  | [] => []
  | (k, .register kind b) :: cs =>
    (k, .register kind (b.watch bodies)) :: watchFrom (bodies + 1) interceptors cs
  | (k, .intercept i) :: cs =>
    (k, .intercept (i.watch interceptors)) ::
      watchFrom bodies (if i.isCustom then interceptors + 1 else interceptors) cs
  | (k, .dispatch info input) :: cs =>
    (k, .dispatch info input) :: watchFrom bodies interceptors cs

/-- The run of a watched program. -/
def Call.watchedRun [Listener τ] (t : τ) (own : σ) (calls : List (Nat × Call σ)) :
    Session τ (Watched σ) × List Result :=
  (Session.start t (own, [])).run (watchFrom 0 0 calls)

/-! ### Watching changes nothing -/

/-- The own state beside the marks. -/
def Watched.Holds (own : σ) (s : Watched σ) : Prop := own = s.1

variable {heard : τ → υ → Prop}

/-- A mark in front of a computation is seen by the marks alone. -/
theorem agree_mark {x : StateM (Stage τ σ) α} {e : Executor υ (Watched σ)} {m : Mark}
    {f : Unit → Plan (Watched σ) α} (h : Agree heard Watched.Holds x ((f ()).run e)) :
    Agree heard Watched.Holds x (((Plan.mark m).bind f).run e) :=
  fun s t hst => h s { t with own := (t.own.1, t.own.2 ++ [m]) } ⟨hst.telemetry, hst.own⟩

theorem Plan.agree_watch (n : Nat) (p : Plan σ Result) :
    Plan.Agree heard Watched.Holds p (p.watch n) := by
  intro e f hef
  induction p with
  | answer r => exact agree_mark (agree_pure r)
  | read next ih =>
    intro s t hst
    change ((next s.own).run e s).1 = (((next t.own.1).watch n).run f t).1 ∧
      Stage.Related heard Watched.Holds ((next s.own).run e s).2
        (((next t.own.1).watch n).run f t).2
    rw [hst.own]
    exact ih t.own.1 s t hst
  | write o next ih =>
    exact fun s t hst =>
      ih { s with own := o } { t with own := (o, t.own.2) } ⟨hst.telemetry, rfl⟩
  | call info input next ih =>
    apply agree_mark
    exact (hef info input).bind fun r => agree_mark (ih r)

theorem Body.alike_watch (n : Nat) (b : Body σ) :
    Body.Alike (fun _ => True) Watched.Holds b (b.watch n) := by
  induction b with
  | plain act =>
    refine .plain fun info input a s h => ?_
    rw [show a = s.1 from h]
    exact ⟨rfl, rfl⟩
  | shared b ih => exact .shared ih
  | instrumented m b ih => exact .instrumented trivial ih

theorem Interceptor.alike_watch (n : Nat) (i : Interceptor σ) :
    Interceptor.Alike (fun _ => True) heard Watched.Holds i (i.watch n) := by
  cases i with
  | metrics m => exact .metrics trivial
  | custom act =>
    refine .custom fun info input e f hef => ?_
    exact agree_mark ((act info input).agree_watch n e f hef)

theorem Call.alike_watchFrom (bodies interceptors : Nat) (calls : List (Nat × Call σ)) :
    List.Forall₂
      (fun x y => x.1 = y.1 ∧ Call.Alike (fun _ => True) heard Watched.Holds x.2 y.2)
      calls (watchFrom bodies interceptors calls) := by
  induction calls generalizing bodies interceptors with
  | nil => exact .nil
  | cons c cs ih =>
    obtain ⟨k, c⟩ := c
    cases c with
    | register kind b => exact .cons ⟨rfl, .register kind (b.alike_watch bodies)⟩ (ih _ _)
    | intercept i => exact .cons ⟨rfl, .intercept (i.alike_watch interceptors)⟩ (ih _ _)
    | dispatch info input => exact .cons ⟨rfl, .dispatch info input⟩ (ih _ _)

/-- A watched program answers what the program answers, with the same own state and the same
listener at the end. -/
theorem watchedRun_agrees [Listener τ] (t : τ) (own : σ) (calls : List (Nat × Call σ)) :
    (Call.watchedRun t own calls).2 = ((Session.start t own).run calls).2 ∧
      (Call.watchedRun t own calls).1.stage.own.1 =
        ((Session.start t own).run calls).1.stage.own ∧
      (Call.watchedRun t own calls).1.stage.telemetry =
        ((Session.start t own).run calls).1.stage.telemetry := by
  have hears : HearAlike (fun _ => True) fun t u : τ => t = u := fun t u n _ h => by rw [h]
  have h : Session.Alike (fun _ => True) (fun t u : τ => t = u) Watched.Holds
      (Session.start t own) (Session.start t (own, [])) := .start rfl rfl
  obtain ⟨hr, hs⟩ := h.run hears (Call.alike_watchFrom 0 0 calls)
  exact ⟨hr.symm, hs.stage.own.symm, hs.stage.telemetry.symm⟩

end WorkerTelemetry.Activity
