import Mathlib.Tactic.Choose
import WorkerTelemetry.Activity.Chain
import WorkerTelemetry.Activity.Stock

/-!
How interceptors nest. The interceptors of a chain are split anywhere: the later ones form an
executor around the body, and the earlier ones go around that executor. Main statement: what this
means for interceptors that leave a mark when they are entered and when they are left. The marks
are read off the own state; nothing else that the interceptors do with it is looked at.
-/

namespace WorkerTelemetry.Activity

variable {τ σ μ α : Type}

/-! ### Plans up to their first call -/

namespace Plan

/-- Where a plan stops to read and write. -/
inductive Stop (σ α : Type)
  | answered (a : α)
  | calls (info : Info) (input : Json) (next : Result → Plan σ α)

/-- Reads and writes up to the answer or the first call. -/
def advance : Plan σ α → σ → Stop σ α × σ
  | .answer a, s => (.answered a, s)
  | .read next, s => (next s).advance s
  | .write s next, _ => next.advance s
  | .call info input next, s => (.calls info input next, s)

theorem run_of_answered {p : Plan σ α} {st : Stage τ σ} {a : α} {s : σ}
    (h : p.advance st.own = (.answered a, s)) (e : Executor τ σ) :
    p.run e st = (a, { st with own := s }) := by
  induction p generalizing st with
  | answer b => cases h; rfl
  | read next ih => exact ih st.own h
  | write o next ih => exact @ih { st with own := o } h
  | call info input next ih => cases h

theorem run_of_calls {p : Plan σ α} {st : Stage τ σ} {info : Info} {input : Json}
    {next : Result → Plan σ α} {s : σ} (h : p.advance st.own = (.calls info input next, s))
    (e : Executor τ σ) :
    p.run e st = (next (e info input { st with own := s }).1).run e
      (e info input { st with own := s }).2 := by
  induction p generalizing st with
  | answer b => cases h
  | read next ih => exact ih st.own h
  | write o next ih => exact @ih { st with own := o } h
  | call info input next ih => cases h; rfl

end Plan

/-! ### Interceptors that leave marks -/

/-- An interceptor with the mark it leaves when it is entered, and the one it leaves when it is
left; this one may depend on an answer. -/
structure Frame (σ μ : Type) where
  act : Info → Json → Plan σ Result
  enter : μ
  leave : Result → μ

namespace Frame

def interceptor (f : Frame σ μ) : Interceptor σ := .custom f.act

/-- Leaves the first mark, calls once with what it was given, leaves the other mark, answers. -/
def CallsOnce (trail : σ → List μ) (f : Frame σ μ) : Prop :=
  ∀ info input s, ∃ next s', (f.act info input).advance s = (.calls info input next, s') ∧
    trail s' = trail s ++ [f.enter] ∧
    ∀ r t, ∃ a t' seen, (next r).advance t = (.answered a, t') ∧
      trail t' = trail t ++ [f.leave seen]

/-- Leaves both marks and answers without a call. -/
def Answers (trail : σ → List μ) (f : Frame σ μ) : Prop :=
  ∀ info input s, ∃ a s' seen, (f.act info input).advance s = (.answered a, s') ∧
    trail s' = trail s ++ [f.enter, f.leave seen]

/-- Marks for leaving frames, the last of them first. -/
def leaves (fs : List (Frame σ μ)) (seen : List Result) : List μ :=
  (List.zipWith Frame.leave fs seen).reverse

end Frame

variable [Listener τ] {trail : σ → List μ}

/-- Inside of frames that call once, any executor is run once. What goes before and what follows
does not depend on the executor. -/
theorem layers_frames {fs : List (Frame σ μ)} (once : ∀ f ∈ fs, f.CallsOnce trail) (info : Info)
    (input : Json) (st : Stage τ σ) :
    ∃ (entered : Stage τ σ) (leaving : Result → Stage τ σ → Result × Stage τ σ),
      trail entered.own = trail st.own ++ fs.map Frame.enter ∧
      (∀ r t, ∃ seen, seen.length = fs.length ∧
        trail (leaving r t).2.own = trail t.own ++ Frame.leaves fs seen) ∧
      ∀ e, layers (fs.map Frame.interceptor) e info input st =
        leaving (e info input entered).1 (e info input entered).2 := by
  induction fs generalizing st with
  | nil =>
    refine ⟨st, fun r t => (r, t), ?_, ?_, fun e => rfl⟩
    · simp
    · exact fun r t => ⟨[], rfl, by simp [Frame.leaves]⟩
  | cons f fs ih =>
    obtain ⟨hf, hfs⟩ := List.forall_mem_cons.1 once
    obtain ⟨next, s, stop, mark, after⟩ := hf info input st.own
    obtain ⟨entered, leaving, enters, leaves, inner⟩ := ih hfs { st with own := s }
    -- what follows is what the frames inside do, and then the rest of the plan of `f`
    choose a t' seen answered mark' using after
    refine ⟨entered, fun r t =>
      (a (leaving r t).1 (leaving r t).2.own,
        { (leaving r t).2 with own := t' (leaving r t).1 (leaving r t).2.own }), ?_, ?_, ?_⟩
    · rw [enters, mark, List.map_cons, List.append_assoc, List.singleton_append]
    · intro r t
      obtain ⟨rs, length, left⟩ := leaves r t
      refine ⟨seen (leaving r t).1 (leaving r t).2.own :: rs, ?_, ?_⟩
      · rw [List.length_cons, length, List.length_cons]
      · rw [mark', left, List.append_assoc]
        simp [Frame.leaves]
    · intro e
      have step := Plan.run_of_calls stop (layers (fs.map Frame.interceptor) e)
      rw [inner e] at step
      exact step.trans (Plan.run_of_answered (answered _ _) _)

/-- A frame that answers by itself is the last one that is entered. Nothing depends on what is
inside of it. -/
theorem layers_answers {front : List (Frame σ μ)} {k : Frame σ μ}
    (once : ∀ f ∈ front, f.CallsOnce trail) (answers : k.Answers trail) (info : Info)
    (input : Json) (st : Stage τ σ) :
    ∃ (outcome : Result × Stage τ σ) (seen : List Result), seen.length = front.length + 1 ∧
      trail outcome.2.own = trail st.own ++ (front ++ [k]).map Frame.enter ++
        Frame.leaves (front ++ [k]) seen ∧
      ∀ e, layers (front.map Frame.interceptor) (k.interceptor.around e) info input st =
        outcome := by
  obtain ⟨entered, leaving, enters, leaves, inner⟩ := layers_frames once info input st
  obtain ⟨a, s, last, answered, marks⟩ := answers info input entered.own
  obtain ⟨seen, length, left⟩ := leaves a { entered with own := s }
  refine ⟨leaving a { entered with own := s }, seen ++ [last], ?_, ?_, fun e => ?_⟩
  · rw [List.length_append, length, List.length_singleton]
  · rw [left, marks, enters, Frame.leaves, Frame.leaves, List.zipWith_append length.symm]
    simp
  · rw [inner (k.interceptor.around e)]
    have alone : k.interceptor.around e info input entered = (a, { entered with own := s }) :=
      Plan.run_of_answered answered e
    rw [alone]

/-! ### Bodies and chains -/

namespace Body

/-- What is done by the body that all wrappers wrap. -/
def act : Body σ → Info → Json → σ → Result × σ
  | .plain act => act
  | .shared b => b.act
  | .instrumented _ b => b.act

/-- Every execution leaves a mark. -/
def Leaves (trail : σ → List μ) (ran : μ) (b : Body σ) : Prop :=
  ∀ info input s, trail (b.act info input s).2 = trail s ++ [ran]

theorem own_executor (b : Body σ) (info : Info) (input : Json) (st : Stage τ σ) :
    (b.executor info input st).2.own = (b.act info input st.own).2 := by
  induction b with
  | plain act => rfl
  | shared b ih => exact ih
  | instrumented m b ih => exact ih

end Body

namespace Chain

/-- Adds interceptors one after the other. -/
def interceptAll (c : Chain σ) (is : List (Interceptor σ)) : Chain σ := is.foldl intercept c

theorem interceptAll_eq (c : Chain σ) (is : List (Interceptor σ)) :
    c.interceptAll is = { c with interceptors := c.interceptors ++ is } := by
  unfold interceptAll
  induction is generalizing c with
  | nil => simp
  | cons i is ih => simp [ih, intercept]

/-- A dispatch goes through the interceptors in the order in which they were added. -/
theorem dispatch_interceptAll (bodies : NameMap (Body σ)) (b : Body σ)
    (is : List (Interceptor σ)) (info : Info) (input : Json) :
    (interceptAll { bodies := bodies.insert info.kind b } is).dispatch info input =
      layers is (b.executor : Executor τ σ) info input := by
  rw [interceptAll_eq]
  simp [dispatch]

end Chain

/-- Later interceptors form an executor around the body, and earlier ones go around it. So marks
for entering come in the order in which the interceptors were added, and marks for leaving in the
reverse order; the body runs once, or not at all if some interceptor answers by itself. -/
theorem dispatch_nests (bodies : NameMap (Body σ)) (info : Info) (input : Json)
    (trail : σ → List μ) :
    let run (is : List (Interceptor σ)) (b : Body σ) : StateM (Stage τ σ) Result :=
      (Chain.interceptAll { bodies := bodies.insert info.kind b } is).dispatch info input
    (∀ is js b, run (is ++ js) b = layers is (layers js b.executor) info input) ∧
      (∀ is js b b', (b'.executor : Executor τ σ) = layers js b.executor →
        run is b' = run (is ++ js) b) ∧
      (∀ fs : List (Frame σ μ), (∀ f ∈ fs, f.CallsOnce trail) → ∀ st : Stage τ σ,
        ∃ (entered : Stage τ σ) (leaving : Result → Stage τ σ → Result × Stage τ σ),
          trail entered.own = trail st.own ++ fs.map Frame.enter ∧
          (∀ r t, ∃ seen, seen.length = fs.length ∧
            trail (leaving r t).2.own = trail t.own ++ Frame.leaves fs seen) ∧
          ∀ b, run (fs.map Frame.interceptor) b st =
            leaving (b.executor info input entered).1 (b.executor info input entered).2) ∧
      (∀ fs : List (Frame σ μ), (∀ f ∈ fs, f.CallsOnce trail) →
        ∀ b ran, Body.Leaves trail ran b → ∀ st : Stage τ σ, ∃ seen, seen.length = fs.length ∧
          trail (run (fs.map Frame.interceptor) b st).2.own =
            trail st.own ++ fs.map Frame.enter ++ [ran] ++ Frame.leaves fs seen) ∧
      ∀ (front : List (Frame σ μ)) (k : Frame σ μ), (∀ f ∈ front, f.CallsOnce trail) →
        k.Answers trail → ∀ st : Stage τ σ,
          ∃ (outcome : Result × Stage τ σ) (seen : List Result),
            seen.length = front.length + 1 ∧
            trail outcome.2.own = trail st.own ++ (front ++ [k]).map Frame.enter ++
              Frame.leaves (front ++ [k]) seen ∧
            ∀ rest b,
              run (front.map Frame.interceptor ++ k.interceptor :: rest) b st = outcome := by
  intro run
  have through (is : List (Interceptor σ)) (b : Body σ) :
      run is b = layers is b.executor info input := Chain.dispatch_interceptAll ..
  refine ⟨?_, ?_, ?_, ?_, ?_⟩
  · intro is js b
    rw [through, layers_append]
  · intro is js b b' h
    rw [through, through, layers_append, h]
  · intro fs once st
    obtain ⟨entered, leaving, enters, leaves, inner⟩ := layers_frames once info input st
    refine ⟨entered, leaving, enters, leaves, fun b => ?_⟩
    rw [through, inner]
  · intro fs once b ran hb st
    obtain ⟨entered, leaving, enters, leaves, inner⟩ := layers_frames once info input st
    obtain ⟨seen, length, left⟩ :=
      leaves (b.executor info input entered).1 (b.executor info input entered).2
    refine ⟨seen, length, ?_⟩
    rw [through, inner, left, b.own_executor, hb, enters]
  · intro front k once answers st
    obtain ⟨outcome, seen, length, marks, same⟩ := layers_answers once answers info input st
    refine ⟨outcome, seen, length, marks, fun rest b => ?_⟩
    rw [through, layers_append, layers_cons]
    exact same (layers rest b.executor)

/-- The interceptors inside of one that answers by itself are not entered. -/
example :
    ((Chain.interceptAll { bodies := NameMap.empty.insert "Echo" Stock.echo }
        [Stock.pass "outer", Stock.short "inner" (.ok .null), Stock.pass "never"]).dispatch
      (.ofKind "Echo") .null (⟨[], default⟩ : Stage (List Notice) Stock.Memory)).2.own.trail =
      ["outer:enter", "inner:enter", "inner:ok", "outer:ok"] := by
  decide +kernel

/-! ### Ready-made interceptors -/

namespace Stock

theorem pass_frame (name : String) : ∃ f : Frame Memory String, f.interceptor = pass name ∧
    f.enter = name ++ ":enter" ∧ (∀ r, f.leave r = name ++ ":" ++ resultMark r) ∧
    f.CallsOnce Memory.trail := by
  refine ⟨⟨_, name ++ ":enter", fun r => name ++ ":" ++ resultMark r⟩, rfl, rfl, fun r => rfl, ?_⟩
  intro info input s
  exact ⟨_, _, rfl, rfl, fun r t => ⟨r, _, r, rfl, rfl⟩⟩

theorem short_frame (name : String) (r : Result) : ∃ f : Frame Memory String,
    f.interceptor = short name r ∧ f.enter = name ++ ":enter" ∧
    (∀ r, f.leave r = name ++ ":" ++ resultMark r) ∧ f.Answers Memory.trail := by
  refine ⟨⟨_, name ++ ":enter", fun r => name ++ ":" ++ resultMark r⟩, rfl, rfl, fun r => rfl, ?_⟩
  intro info input s
  exact ⟨r, _, r, rfl, by simp⟩

end Stock

end WorkerTelemetry.Activity
