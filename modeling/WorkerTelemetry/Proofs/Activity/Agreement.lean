import Mathlib.Data.List.Forall2
import WorkerTelemetry.Activity.Session

/-!
Two sessions side by side, with listeners and own states of perhaps different types. If what is
registered on one side behaves like what is registered on the other, all calls are answered alike
and the relations between the listeners and between the own states last. Nothing is said about
programs that differ in their instrumentation.
-/

namespace WorkerTelemetry.Activity

variable {τ υ σ ρ α β : Type}

/-- Stages whose listeners are related, and whose own states are. -/
structure Stage.Related (heard : τ → υ → Prop) (own : σ → ρ → Prop)
    (s : Stage τ σ) (t : Stage υ ρ) : Prop where
  telemetry : heard s.telemetry t.telemetry
  own : own s.own t.own

/-- The notices of programs whose metrics satisfy a test. -/
def Notice.Allowed (ok : Metrics → Prop) : Notice → Prop
  | .finished m _ _ => ok m
  | .event _ => True

/-- Listeners stay related when both hear the same notice. -/
def HearAlike [Listener τ] [Listener υ] (ok : Metrics → Prop) (heard : τ → υ → Prop) : Prop :=
  ∀ t u n, n.Allowed ok → heard t u → heard (Listener.hear t n) (Listener.hear u n)

/-- From related stages on, both computations answer the same and end in related stages. -/
def Agree (heard : τ → υ → Prop) (own : σ → ρ → Prop) (x : StateM (Stage τ σ) α)
    (y : StateM (Stage υ ρ) α) : Prop :=
  ∀ s t, Stage.Related heard own s t →
    (x s).1 = (y t).1 ∧ Stage.Related heard own (x s).2 (y t).2

section Computations

variable {heard : τ → υ → Prop} {own : σ → ρ → Prop}

theorem agree_pure (a : α) : Agree heard own (pure a) (pure a) :=
  fun _ _ h => ⟨rfl, h⟩

theorem Agree.bind {x : StateM (Stage τ σ) α} {y : StateM (Stage υ ρ) α}
    {f : α → StateM (Stage τ σ) β} {g : α → StateM (Stage υ ρ) β} (hx : Agree heard own x y)
    (hf : ∀ a, Agree heard own (f a) (g a)) : Agree heard own (x >>= f) (y >>= g) := by
  intro s t h
  obtain ⟨ha, hs⟩ := hx s t h
  have hb := hf (x s).1 (x s).2 (y t).2 hs
  rw [ha] at hb
  change (f (x s).1 (x s).2).1 = _ ∧ Stage.Related heard own (f (x s).1 (x s).2).2 _
  rw [ha]
  exact hb

theorem agree_modify {f : Stage τ σ → Stage τ σ} {g : Stage υ ρ → Stage υ ρ}
    (h : ∀ s t, Stage.Related heard own s t → Stage.Related heard own (f s) (g t)) :
    Agree heard own (modify f) (modify g) :=
  fun s t hst => ⟨rfl, h s t hst⟩

end Computations

/-- Executors that agree on all information and all input. -/
def Executor.Agree (heard : τ → υ → Prop) (own : σ → ρ → Prop) (e : Executor τ σ)
    (f : Executor υ ρ) : Prop :=
  ∀ info input, Activity.Agree heard own (e info input) (f info input)

/-- Plans that agree whatever agreeing executors their calls go to. -/
def Plan.Agree (heard : τ → υ → Prop) (own : σ → ρ → Prop) (p : Plan σ α) (q : Plan ρ α) : Prop :=
  ∀ e f, Executor.Agree heard own e f → Activity.Agree heard own (p.run e) (q.run f)

/-- Bodies with the same wrappers around acts that behave alike. -/
inductive Body.Alike (ok : Metrics → Prop) (own : σ → ρ → Prop) : Body σ → Body ρ → Prop
  | plain {act : Info → Json → σ → Result × σ} {act' : Info → Json → ρ → Result × ρ}
      (h : ∀ info input a b, own a b →
        (act info input a).1 = (act' info input b).1 ∧
        own (act info input a).2 (act' info input b).2) : Alike ok own (.plain act) (.plain act')
  | shared {b : Body σ} {c : Body ρ} : Alike ok own b c → Alike ok own (.shared b) (.shared c)
  | instrumented {m : Metrics} (hm : ok m) {b : Body σ} {c : Body ρ} :
      Alike ok own b c → Alike ok own (.instrumented m b) (.instrumented m c)

/-- Interceptors that record alike, or whose plans agree. -/
inductive Interceptor.Alike (ok : Metrics → Prop) (heard : τ → υ → Prop) (own : σ → ρ → Prop) :
    Interceptor σ → Interceptor ρ → Prop
  | metrics {m : Metrics} (hm : ok m) : Alike ok heard own (.metrics m) (.metrics m)
  | custom {act : Info → Json → Plan σ Result} {act' : Info → Json → Plan ρ Result}
      (h : ∀ info input, Plan.Agree heard own (act info input) (act' info input)) :
      Alike ok heard own (.custom act) (.custom act')

/-- Chains with alike bodies under the same kinds and alike interceptors in the same order. -/
structure Chain.Alike (ok : Metrics → Prop) (heard : τ → υ → Prop) (own : σ → ρ → Prop)
    (c : Chain σ) (d : Chain ρ) : Prop where
  bodies : ∀ kind, Option.Rel (Body.Alike ok own) (c.bodies.find? kind) (d.bodies.find? kind)
  interceptors : List.Forall₂ (Interceptor.Alike ok heard own) c.interceptors d.interceptors

/-- Calls that do the same with alike bodies and interceptors. -/
inductive Call.Alike (ok : Metrics → Prop) (heard : τ → υ → Prop) (own : σ → ρ → Prop) :
    Call σ → Call ρ → Prop
  | register (kind : String) {b : Body σ} {c : Body ρ} (h : Body.Alike ok own b c) :
      Alike ok heard own (.register kind b) (.register kind c)
  | intercept {i : Interceptor σ} {j : Interceptor ρ} (h : Interceptor.Alike ok heard own i j) :
      Alike ok heard own (.intercept i) (.intercept j)
  | dispatch (info : Info) (input : Json) :
      Alike ok heard own (.dispatch info input) (.dispatch info input)

/-- Sessions with alike chains and related stages. -/
structure Session.Alike (ok : Metrics → Prop) (heard : τ → υ → Prop) (own : σ → ρ → Prop)
    (s : Session τ σ) (t : Session υ ρ) : Prop where
  chains : ∀ k, Chain.Alike ok heard own (s.chains k) (t.chains k)
  stage : Stage.Related heard own s.stage t.stage

section Programs

variable {ok : Metrics → Prop} {heard : τ → υ → Prop} {own : σ → ρ → Prop}

namespace Chain.Alike

variable {c : Chain σ} {d : Chain ρ}

theorem empty : Chain.Alike ok heard own ({} : Chain σ) ({} : Chain ρ) :=
  ⟨fun _ => .none, .nil⟩

theorem isSome_eq (h : Chain.Alike ok heard own c d) (kind : String) :
    (c.bodies.find? kind).isSome = (d.bodies.find? kind).isSome := by
  have hb := h.bodies kind
  cases hc : c.bodies.find? kind <;> cases hd : d.bodies.find? kind <;> rw [hc, hd] at hb <;>
    first | rfl | cases hb

theorem intercept (h : Chain.Alike ok heard own c d) {i : Interceptor σ} {j : Interceptor ρ}
    (hij : Interceptor.Alike ok heard own i j) :
    Chain.Alike ok heard own (c.intercept i) (d.intercept j) :=
  ⟨h.bodies, List.rel_append h.interceptors (.cons hij .nil)⟩

end Chain.Alike

namespace Session.Alike

variable {s : Session τ σ} {t : Session υ ρ}

theorem start {t : τ} {u : υ} {a : σ} {b : ρ} (ht : heard t u) (ho : own a b) :
    Session.Alike ok heard own (.start t a) (.start u b) :=
  ⟨fun _ => .empty, ht, ho⟩

theorem put (h : Session.Alike ok heard own s t) {k : Nat} {c : Chain σ} {d : Chain ρ}
    (hcd : Chain.Alike ok heard own c d) : Session.Alike ok heard own (s.put k c) (t.put k d) := by
  refine ⟨fun j => ?_, h.stage⟩
  simp only [Session.put]
  split
  · exact hcd
  · exact h.chains j

end Session.Alike

end Programs

section Runs

variable {ok : Metrics → Prop} {heard : τ → υ → Prop} {own : σ → ρ → Prop} [Listener τ]
  [Listener υ]

theorem Stage.Related.notice {s : Stage τ σ} {t : Stage υ ρ} (h : Stage.Related heard own s t)
    (hears : HearAlike ok heard) {n : Notice} (hn : n.Allowed ok) :
    Stage.Related heard own (s.notice n) (t.notice n) :=
  ⟨hears _ _ n hn h.telemetry, h.own⟩

theorem Executor.Agree.instrument {e : Executor τ σ} {f : Executor υ ρ}
    (h : Executor.Agree heard own e f) (hears : HearAlike ok heard) {m : Metrics} (hm : ok m) :
    Executor.Agree heard own (instrument m e) (instrument m f) := by
  intro info input
  refine (h info input).bind fun r => ?_
  refine Agree.bind ?_ fun _ => agree_pure r
  exact agree_modify fun _ _ hst => hst.notice hears hm

theorem Body.Alike.executor {b : Body σ} {c : Body ρ} (h : Body.Alike ok own b c)
    (hears : HearAlike ok heard) : Executor.Agree heard own b.executor c.executor := by
  induction h with
  | plain h =>
    intro info input s t hst
    obtain ⟨hr, ho⟩ := h info input s.own t.own hst.own
    exact ⟨hr, hst.telemetry, ho⟩
  | shared _ ih => exact ih
  | instrumented hm _ ih => exact ih.instrument hears hm

theorem Interceptor.Alike.around {i : Interceptor σ} {j : Interceptor ρ} {e : Executor τ σ}
    {f : Executor υ ρ} (h : Interceptor.Alike ok heard own i j) (hears : HearAlike ok heard)
    (hef : Executor.Agree heard own e f) :
    Executor.Agree heard own (i.around e) (j.around f) := by
  cases h with
  | metrics hm => exact hef.instrument hears hm
  | custom h => exact fun info input => h info input e f hef

theorem layers_agree {is : List (Interceptor σ)} {js : List (Interceptor ρ)} {e : Executor τ σ}
    {f : Executor υ ρ} (h : List.Forall₂ (Interceptor.Alike ok heard own) is js)
    (hears : HearAlike ok heard) (hef : Executor.Agree heard own e f) :
    Executor.Agree heard own (layers is e) (layers js f) := by
  induction h with
  | nil => exact hef
  | cons hij _ ih => exact hij.around hears ih

namespace Chain.Alike

variable {c : Chain σ} {d : Chain ρ}

theorem dispatch (h : Chain.Alike ok heard own c d) (hears : HearAlike ok heard) :
    Executor.Agree heard own c.dispatch d.dispatch := by
  intro info input
  have hb := h.bodies info.kind
  unfold Chain.dispatch
  cases hc : c.bodies.find? info.kind <;> cases hd : d.bodies.find? info.kind <;>
    rw [hc, hd] at hb
  · refine Agree.bind ?_ fun _ => agree_pure _
    exact agree_modify fun _ _ hst => hst.notice hears trivial
  · cases hb
  · cases hb
  · cases hb with
    | some hb => exact layers_agree h.interceptors hears (hb.executor hears) info input

theorem register (h : Chain.Alike ok heard own c d) (hears : HearAlike ok heard) {t : τ} {u : υ}
    (htu : heard t u) (kind : String) {b : Body σ} {b' : Body ρ} (hb : Body.Alike ok own b b') :
    Chain.Alike ok heard own (c.register t kind b).1 (d.register u kind b').1 ∧
      heard (c.register t kind b).2 (d.register u kind b').2 := by
  refine ⟨⟨fun k => ?_, h.interceptors⟩, ?_⟩
  · simp only [Chain.register, NameMap.find?_insert]
    split
    · exact .some hb
    · exact h.bodies k
  · simp only [Chain.register, h.isSome_eq]
    split
    · exact hears _ _ _ trivial htu
    · exact htu

end Chain.Alike

namespace Session.Alike

variable {s : Session τ σ} {t : Session υ ρ}

/-- One call is answered alike. -/
theorem call (h : Session.Alike ok heard own s t) (hears : HearAlike ok heard) (k : Nat)
    {x : Call σ} {y : Call ρ} (hxy : Call.Alike ok heard own x y) :
    (s.call k x).2 = (t.call k y).2 ∧ Session.Alike ok heard own (s.call k x).1 (t.call k y).1 := by
  cases hxy with
  | register kind hb =>
    obtain ⟨hc, ht⟩ := (h.chains k).register hears h.stage.telemetry kind hb
    exact ⟨rfl, (h.put hc).chains, ht, h.stage.own⟩
  | intercept hij => exact ⟨rfl, h.put ((h.chains k).intercept hij)⟩
  | dispatch info input =>
    obtain ⟨hr, hs⟩ := (h.chains k).dispatch hears info input _ _ h.stage
    exact ⟨congrArg some hr, h.chains, hs⟩

/-- All calls of a run are answered alike, and the relations last. -/
theorem run (h : Session.Alike ok heard own s t) (hears : HearAlike ok heard)
    {xs : List (Nat × Call σ)} {ys : List (Nat × Call ρ)}
    (hxy : List.Forall₂ (fun x y => x.1 = y.1 ∧ Call.Alike ok heard own x.2 y.2) xs ys) :
    (s.run xs).2 = (t.run ys).2 ∧ Session.Alike ok heard own (s.run xs).1 (t.run ys).1 := by
  induction hxy generalizing s t with
  | nil => exact ⟨rfl, h⟩
  | @cons x y xs ys hxy _ ih =>
    obtain ⟨k, x⟩ := x
    obtain ⟨k', y⟩ := y
    obtain ⟨rfl, hxy⟩ := hxy
    obtain ⟨hr, hst⟩ := h.call hears k hxy
    obtain ⟨hrs, hend⟩ := ih hst
    refine ⟨?_, hend⟩
    simp only [Session.run, hr, hrs]

end Session.Alike

end Runs

/-! ### One program with two listeners -/

/-- A listener that hears what a list keeps. -/
theorem hearAlike_foldl [Listener τ] {ok : Metrics → Prop} (t : τ) :
    HearAlike ok fun (t' : τ) (ns : List Notice) => t' = ns.foldl Listener.hear t := by
  rintro t' ns n - rfl
  change _ = (ns ++ [n]).foldl Listener.hear t
  rw [List.foldl_append]
  rfl

section Same

variable {ok : Metrics → Prop} {heard : τ → υ → Prop}

/-- A plan sees nothing of the listener. -/
theorem Plan.agree_self (p : Plan σ α) : Plan.Agree heard Eq p p := by
  intro e f hef
  induction p with
  | answer a => exact agree_pure a
  | read next ih =>
    intro s t hst
    change ((next s.own).run e s).1 = ((next t.own).run f t).1 ∧
      Stage.Related heard Eq ((next s.own).run e s).2 ((next t.own).run f t).2
    rw [hst.own]
    exact ih t.own s t hst
  | write o next ih =>
    refine Agree.bind (agree_modify fun s t hst => ⟨hst.telemetry, rfl⟩) fun _ => ih
  | call info input next ih => exact (hef info input).bind ih

/-- The metrics that a body records into. -/
def Body.metricSets : Body σ → List Metrics
  | .plain _ => []
  | .shared b => b.metricSets
  | .instrumented m b => m :: b.metricSets

/-- The metrics that a call brings into a program. -/
def Call.metricSets : Call σ → List Metrics
  | .register _ b => b.metricSets
  | .intercept (.metrics m) => [m]
  | _ => []

theorem Body.alike_self {b : Body σ} (h : ∀ m ∈ b.metricSets, ok m) : Body.Alike ok Eq b b := by
  induction b with
  | plain act => exact .plain fun info input a b hab => by rw [hab]; exact ⟨rfl, rfl⟩
  | shared b ih => exact .shared (ih h)
  | instrumented m b ih =>
    obtain ⟨hm, hb⟩ := List.forall_mem_cons.1 h
    exact .instrumented hm (ih hb)

theorem Call.alike_self {c : Call σ} (h : ∀ m ∈ c.metricSets, ok m) :
    Call.Alike ok heard Eq c c := by
  cases c with
  | register kind b => exact .register kind (Body.alike_self h)
  | intercept i =>
    cases i with
    | metrics m => exact .intercept (.metrics (h m (List.mem_singleton.2 rfl)))
    | custom act => exact .intercept (.custom fun info input => (act info input).agree_self)
  | dispatch info input => exact .dispatch info input

/-- The same calls with another listener are answered the same and leave the same own state. -/
theorem Session.run_listeners [Listener τ] [Listener υ] (hears : HearAlike ok heard) {t : τ} {u : υ}
    (htu : heard t u) (a : σ) (calls : List (Nat × Call σ))
    (h : ∀ x ∈ calls, ∀ m ∈ x.2.metricSets, ok m) :
    ((Session.start t a).run calls).2 = ((Session.start u a).run calls).2 ∧
      Stage.Related heard Eq ((Session.start t a).run calls).1.stage
        ((Session.start u a).run calls).1.stage := by
  have start : Session.Alike ok heard Eq (Session.start t a) (Session.start u a) := .start htu rfl
  have same : List.Forall₂ (fun x y => x.1 = y.1 ∧ Call.Alike ok heard Eq x.2 y.2) calls calls :=
    List.forall₂_same.2 fun x hx => ⟨rfl, Call.alike_self (h x hx)⟩
  obtain ⟨hr, hs⟩ := start.run hears same
  exact ⟨hr, hs.stage⟩

end Same

end WorkerTelemetry.Activity
