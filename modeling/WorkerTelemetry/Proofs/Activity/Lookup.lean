import WorkerTelemetry.Proofs.Activity.Watching
import WorkerTelemetry.Proofs.Text.Quoting

/-!
Which body a dispatch reaches. The calls made so far decide it: the body is the one registered last
under the kind that is dispatched, whatever kind the interceptors call on with. Main statement: what
any further call does after any calls, said by the calls themselves.
-/

namespace WorkerTelemetry.Activity

variable {τ σ α : Type}

/-! ### What calls say -/

namespace Call

def isRegistration : Call σ → Bool
  | .register _ _ => true
  | _ => false

/-- The body was registered in a place under a kind, and none was registered there under this kind
since. It is the body with number `n`. -/
def Latest (calls : List (Nat × Call σ)) (k : Nat) (kind : String) (n : Nat) (b : Body σ) : Prop :=
  ∃ before after, calls = before ++ (k, .register kind b) :: after ∧
    (∀ b', (k, .register kind b') ∉ after) ∧ n = before.countP fun x => x.2.isRegistration

/-- The interceptors added in a place, in their order. -/
def added (k : Nat) (calls : List (Nat × Call σ)) : List (Interceptor σ) :=
  calls.filterMap fun x =>
    match x.2 with
    | .intercept i => if x.1 = k then some i else none
    | _ => none

variable {calls : List (Nat × Call σ)} {k : Nat} {kind : String}

theorem exists_latest (h : ∃ b, (k, .register kind b) ∈ calls) :
    ∃ n b, Latest calls k kind n b := by
  induction calls with
  | nil =>
    obtain ⟨b, hb⟩ := h
    cases hb
  | cons c cs ih =>
    by_cases later : ∃ b, (k, .register kind b) ∈ cs
    · obtain ⟨n, b, before, after, rfl, none_after, -⟩ := ih later
      exact ⟨_, b, c :: before, after, rfl, none_after, rfl⟩
    · obtain ⟨b, hb⟩ := h
      rcases List.mem_cons.1 hb with rfl | hb
      · exact ⟨_, b, [], cs, rfl, fun b' hb' => later ⟨b', hb'⟩, rfl⟩
      · exact absurd ⟨b, hb⟩ later

end Call

/-! ### Chains after calls -/

namespace Session

variable [Listener τ] {s : Session τ σ} {calls : List (Nat × Call σ)} {k : Nat} {kind : String}

theorem run_append (s : Session τ σ) (xs ys : List (Nat × Call σ)) :
    s.run (xs ++ ys) =
      (((s.run xs).1.run ys).1, (s.run xs).2 ++ ((s.run xs).1.run ys).2) := by
  induction xs generalizing s with
  | nil => rfl
  | cons x xs ih => simp only [List.cons_append, run, ih, List.append_assoc]

theorem find?_register (s : Session τ σ) (k : Nat) (kind : String) (b : Body σ) :
    ((s.call k (.register kind b)).1.chains k).bodies.find? kind = some b := by
  simp [call, put, Chain.register]

/-- Other calls leave the body under a kind. -/
theorem find?_call (s : Session τ σ) {x : Nat × Call σ} (h : ∀ b, x ≠ (k, .register kind b)) :
    ((s.call x.1 x.2).1.chains k).bodies.find? kind = (s.chains k).bodies.find? kind := by
  obtain ⟨j, c⟩ := x
  cases c with
  | register l b =>
    by_cases hj : k = j
    · subst hj
      have other : kind ≠ l := by
        rintro rfl
        exact h b rfl
      simp [call, put, Chain.register, other]
    · simp [call, put, hj]
  | intercept i =>
    by_cases hj : k = j
    · simp [call, put, Chain.intercept, hj]
    · simp [call, put, hj]
  | dispatch info input => rfl

theorem find?_run (s : Session τ σ) (h : ∀ b, (k, .register kind b) ∉ calls) :
    ((s.run calls).1.chains k).bodies.find? kind = (s.chains k).bodies.find? kind := by
  induction calls generalizing s with
  | nil => rfl
  | cons x xs ih =>
    have others : ∀ b, (k, .register kind b) ∉ xs := fun b hb => h b (List.mem_cons_of_mem x hb)
    have here : ∀ b, x ≠ (k, .register kind b) := by
      rintro b rfl
      exact h b List.mem_cons_self
    exact (ih (s.call x.1 x.2).1 others).trans (s.find?_call here)

theorem find?_run_latest {n : Nat} {b : Body σ} (s : Session τ σ)
    (h : Call.Latest calls k kind n b) :
    ((s.run calls).1.chains k).bodies.find? kind = some b := by
  obtain ⟨before, after, rfl, none_after, -⟩ := h
  rw [run_append]
  exact (find?_run _ none_after).trans (find?_register _ k kind b)

theorem interceptors_run (s : Session τ σ) (calls : List (Nat × Call σ)) (k : Nat) :
    ((s.run calls).1.chains k).interceptors = (s.chains k).interceptors ++ Call.added k calls := by
  induction calls generalizing s with
  | nil => exact (List.append_nil _).symm
  | cons x xs ih =>
    obtain ⟨j, c⟩ := x
    refine (ih (s.call j c).1).trans ?_
    cases c with
    | register l b =>
      by_cases hj : k = j <;> simp [call, put, Chain.register, Call.added, hj]
    | intercept i =>
      by_cases hj : k = j
      · simp [call, put, Chain.intercept, Call.added, hj]
      · simp [call, put, Call.added, hj, Ne.symm hj]
    | dispatch info input => rfl

/-- A kind is known exactly if something was registered under it. -/
theorem isSome_find?_run (t : τ) (own : σ) (calls : List (Nat × Call σ)) (k : Nat)
    (kind : String) :
    ((((start t own).run calls).1.chains k).bodies.find? kind).isSome ↔
      ∃ b, (k, .register kind b) ∈ calls := by
  by_cases h : ∃ b, (k, .register kind b) ∈ calls
  · obtain ⟨n, b, latest⟩ := Call.exists_latest h
    rw [find?_run_latest _ latest]
    simp [h]
  · have never : ∀ b, (k, .register kind b) ∉ calls := fun b hb => h ⟨b, hb⟩
    rw [find?_run _ never]
    simp [h, start]

end Session

/-! ### Calling on -/

/-- Calls before it answers, whatever it reads. -/
def Plan.CallsOn : Plan σ α → Prop
  | .answer _ => False
  | .read next => ∀ s, (next s).CallsOn
  | .write _ next => next.CallsOn
  | .call _ _ _ => True

/-- Calls what it is put around, whatever it is given. -/
def Interceptor.CallsOn : Interceptor σ → Prop
  | .metrics _ => True
  | .custom act => ∀ info input, (act info input).CallsOn

/-! ### Marks of bodies -/

/-- A mark that is no execution of a body, or one of the body with a number. -/
def Mark.OfBody (n : Nat) : Mark → Prop
  | .executed body _ _ _ => body = n
  | _ => True

/-- Every mark that is made satisfies a test. -/
def MarksOnly (test : Mark → Prop) (x : StateM (Stage τ (Watched σ)) α) : Prop :=
  ∀ s, ∃ ms, (x s).2.own.2 = s.own.2 ++ ms ∧ ∀ m ∈ ms, test m

variable {test : Mark → Prop}

theorem marksOnly_pure (a : α) : MarksOnly test (pure a : StateM (Stage τ (Watched σ)) α) :=
  fun s => ⟨[], (List.append_nil s.own.2).symm, by simp⟩

theorem MarksOnly.bind {β : Type} {x : StateM (Stage τ (Watched σ)) α}
    {f : α → StateM (Stage τ (Watched σ)) β} (hx : MarksOnly test x)
    (hf : ∀ a, MarksOnly test (f a)) : MarksOnly test (x >>= f) := by
  intro s
  obtain ⟨ms, hms, first⟩ := hx s
  obtain ⟨ms', hms', rest⟩ := hf (x s).1 (x s).2
  refine ⟨ms ++ ms', ?_, List.forall_mem_append.2 ⟨first, rest⟩⟩
  rw [← List.append_assoc, ← hms]
  exact hms'

/-- A mark in front of a computation. -/
theorem MarksOnly.mark {e : Executor τ (Watched σ)} {m : Mark} (hm : test m)
    {f : Unit → Plan (Watched σ) α} (h : MarksOnly test ((f ()).run e)) :
    MarksOnly test (((Plan.mark m).bind f).run e) := by
  intro s
  obtain ⟨ms, hms, rest⟩ := h { s with own := (s.own.1, s.own.2 ++ [m]) }
  refine ⟨m :: ms, ?_, List.forall_mem_cons.2 ⟨hm, rest⟩⟩
  rw [← List.singleton_append, ← List.append_assoc]
  exact hms

/-- A watched plan makes no mark of a body itself. -/
theorem Plan.marksOnly_watch {n j : Nat} {e : Executor τ (Watched σ)}
    (he : ∀ info input, MarksOnly (Mark.OfBody n) (e info input)) (p : Plan σ Result) :
    MarksOnly (Mark.OfBody n) ((p.watch j).run e) := by
  induction p with
  | answer r => exact .mark trivial (marksOnly_pure r)
  | read next ih => exact fun s => ih s.own.1 s
  | write o next ih => exact fun s => ih { s with own := (o, s.own.2) }
  | call info input next ih =>
    exact .mark trivial ((he info input).bind fun r => .mark trivial (ih r))

/-- A mark of the body with a number. -/
def Mark.Executes (n : Nat) : Mark → Prop
  | .executed body _ _ _ => body = n
  | _ => False

/-- Some mark that is made satisfies a test. -/
def MarksSome (test : Mark → Prop) (x : StateM (Stage τ (Watched σ)) α) : Prop :=
  ∀ s, ∃ ms, (x s).2.own.2 = s.own.2 ++ ms ∧ ∃ m ∈ ms, test m

/-- What follows makes further marks and takes none away. -/
theorem MarksSome.bind {β : Type} {x : StateM (Stage τ (Watched σ)) α}
    {f : α → StateM (Stage τ (Watched σ)) β} (hx : MarksSome test x)
    (hf : ∀ a s, ∃ ms, (f a s).2.own.2 = s.own.2 ++ ms) : MarksSome test (x >>= f) := by
  intro s
  obtain ⟨ms, hms, m, hm, passes⟩ := hx s
  obtain ⟨ms', hms'⟩ := hf (x s).1 (x s).2
  refine ⟨ms ++ ms', ?_, m, List.mem_append_left ms' hm, passes⟩
  rw [← List.append_assoc, ← hms]
  exact hms'

theorem MarksSome.mark {e : Executor τ (Watched σ)} {m : Mark} {f : Unit → Plan (Watched σ) α}
    (h : MarksSome test ((f ()).run e)) : MarksSome test (((Plan.mark m).bind f).run e) := by
  intro s
  obtain ⟨ms, hms, m', hm', passes⟩ := h { s with own := (s.own.1, s.own.2 ++ [m]) }
  refine ⟨m :: ms, ?_, m', List.mem_cons_of_mem m hm', passes⟩
  rw [← List.singleton_append, ← List.append_assoc]
  exact hms

/-- A watched plan that calls on makes the marks of what it calls. -/
theorem Plan.marksSome_watch {n j : Nat} {e : Executor τ (Watched σ)}
    (only : ∀ info input, MarksOnly (Mark.OfBody n) (e info input))
    (makes : ∀ info input, MarksSome test (e info input)) {p : Plan σ Result} (on : p.CallsOn) :
    MarksSome test ((p.watch j).run e) := by
  induction p with
  | answer r => exact on.elim
  | read next ih => exact fun s => ih s.own.1 (on s.own.1) s
  | write o next ih => exact fun s => ih on { s with own := (o, s.own.2) }
  | call info input next ih =>
    refine .mark ((makes info input).bind fun r s => ?_)
    have rest : MarksOnly (Mark.OfBody n)
        (((Plan.mark (.answered j r)).bind fun _ => (next r).watch j).run e) :=
      .mark trivial ((next r).marksOnly_watch only)
    exact (rest s).imp fun ms h => h.1

section Executors

variable [Listener τ]

theorem marksOnly_instrument {e : Executor τ (Watched σ)} {info : Info} {input : Json}
    (he : MarksOnly test (e info input)) (m : Metrics) :
    MarksOnly test (instrument m e info input) := by
  refine he.bind fun r => ?_
  exact fun s => ⟨[], (List.append_nil s.own.2).symm, by simp⟩

/-- The marks of a watched body. -/
theorem Body.marksOnly_watch (n : Nat) (b : Body σ) (info : Info) (input : Json) :
    MarksOnly (Mark.OfBody n) ((b.watch n).executor info input : StateM (Stage τ _) Result) := by
  induction b with
  | plain act => exact fun s => ⟨[_], rfl, List.forall_mem_singleton.2 rfl⟩
  | shared b ih => exact ih
  | instrumented m b ih => exact marksOnly_instrument ih m

/-- No layer around a body brings in another one, whatever it calls on with. -/
theorem marksOnly_layers {n : Nat} {is : List (Interceptor (Watched σ))}
    (watched : ∀ i ∈ is, ∃ j i', i = Interceptor.watch j i') {e : Executor τ (Watched σ)}
    (he : ∀ info input, MarksOnly (Mark.OfBody n) (e info input)) (info : Info) (input : Json) :
    MarksOnly (Mark.OfBody n) (layers is e info input) := by
  induction is generalizing info input with
  | nil => exact he info input
  | cons i is ih =>
    obtain ⟨⟨j, i', rfl⟩, others⟩ := List.forall_mem_cons.1 watched
    cases i' with
    | metrics m => exact marksOnly_instrument (ih others info input) m
    | custom act => exact .mark trivial ((act info input).marksOnly_watch (ih others))

theorem marksSome_instrument {e : Executor τ (Watched σ)} {info : Info} {input : Json}
    (he : MarksSome test (e info input)) (m : Metrics) :
    MarksSome test (instrument m e info input) :=
  he.bind fun _ s => ⟨[], (List.append_nil s.own.2).symm⟩

theorem Body.marksSome_watch (n : Nat) (b : Body σ) (info : Info) (input : Json) :
    MarksSome (Mark.Executes n) ((b.watch n).executor info input : StateM (Stage τ _) Result) := by
  induction b with
  | plain act => exact fun s => ⟨[_], rfl, _, List.mem_singleton_self _, rfl⟩
  | shared b ih => exact ih
  | instrumented m b ih => exact marksSome_instrument ih m

/-- Layers that call on let the body be reached. -/
theorem marksSome_layers {n : Nat} {is : List (Interceptor (Watched σ))}
    (watched : ∀ i ∈ is, ∃ j i', i = Interceptor.watch j i' ∧ i'.CallsOn)
    {e : Executor τ (Watched σ)} (only : ∀ info input, MarksOnly (Mark.OfBody n) (e info input))
    (makes : ∀ info input, MarksSome test (e info input)) (info : Info) (input : Json) :
    MarksSome test (layers is e info input) := by
  induction is generalizing info input with
  | nil => exact makes info input
  | cons i is ih =>
    obtain ⟨⟨j, i', rfl, on⟩, others⟩ := List.forall_mem_cons.1 watched
    have inside : ∀ info input, MarksOnly (Mark.OfBody n) (layers is e info input) :=
      marksOnly_layers (fun i hi => (others i hi).imp fun j h => h.imp fun i' h => h.1) only
    cases i' with
    | metrics m => exact marksSome_instrument (ih others info input) m
    | custom act => exact .mark (Plan.marksSome_watch inside (ih others) (on info input))

end Executors

namespace Call

variable {calls : List (Nat × Call σ)} {k : Nat} {kind : String}

theorem watchFrom_append (bodies interceptors : Nat) (xs ys : List (Nat × Call σ)) :
    ∃ interceptors', watchFrom bodies interceptors (xs ++ ys) = watchFrom bodies interceptors xs ++
      watchFrom (bodies + xs.countP fun x => x.2.isRegistration) interceptors' ys := by
  induction xs generalizing bodies interceptors with
  | nil => exact ⟨interceptors, rfl⟩
  | cons x xs ih =>
    obtain ⟨j, c⟩ := x
    cases c with
    | register l b =>
      obtain ⟨i', h⟩ := ih (bodies + 1) interceptors
      refine ⟨i', ?_⟩
      simp [watchFrom, h, isRegistration, Nat.add_assoc, Nat.add_comm 1]
    | intercept i =>
      obtain ⟨i', h⟩ := ih bodies (if i.isCustom then interceptors + 1 else interceptors)
      exact ⟨i', by simp [watchFrom, h, isRegistration]⟩
    | dispatch info input =>
      obtain ⟨i', h⟩ := ih bodies interceptors
      exact ⟨i', by simp [watchFrom, h, isRegistration]⟩

theorem countP_watchFrom (bodies interceptors : Nat) (calls : List (Nat × Call σ)) :
    ((watchFrom bodies interceptors calls).countP fun x => x.2.isRegistration) =
      calls.countP fun x => x.2.isRegistration := by
  induction calls generalizing bodies interceptors with
  | nil => rfl
  | cons x xs ih =>
    obtain ⟨j, c⟩ := x
    cases c with
    | register l b => rw [watchFrom, List.countP_cons, List.countP_cons, ih]; rfl
    | intercept i => rw [watchFrom, List.countP_cons, List.countP_cons, ih]; rfl
    | dispatch info input => rw [watchFrom, List.countP_cons, List.countP_cons, ih]; rfl

/-- A call and the call it is in a watched program. -/
inductive WatchedAs : Call σ → Call (Watched σ) → Prop
  | register (kind : String) (n : Nat) (b : Body σ) :
      WatchedAs (.register kind b) (.register kind (b.watch n))
  | intercept (n : Nat) (i : Interceptor σ) : WatchedAs (.intercept i) (.intercept (i.watch n))
  | dispatch (info : Info) (input : Json) :
      WatchedAs (.dispatch info input) (.dispatch info input)

theorem exists_of_mem_watchFrom {bodies interceptors : Nat} {y : Nat × Call (Watched σ)}
    (h : y ∈ watchFrom bodies interceptors calls) :
    ∃ x ∈ calls, x.1 = y.1 ∧ WatchedAs x.2 y.2 := by
  induction calls generalizing bodies interceptors with
  | nil => cases h
  | cons x xs ih =>
    have later {m i : Nat} (h : y ∈ watchFrom m i xs) :
        ∃ x' ∈ x :: xs, x'.1 = y.1 ∧ WatchedAs x'.2 y.2 := by
      obtain ⟨x', hx', same⟩ := ih h
      exact ⟨x', List.mem_cons_of_mem x hx', same⟩
    obtain ⟨j, c⟩ := x
    cases c with
    | register l b =>
      rcases List.mem_cons.1 h with rfl | h
      · exact ⟨_, List.mem_cons_self, rfl, .register l bodies b⟩
      · exact later h
    | intercept i =>
      rcases List.mem_cons.1 h with rfl | h
      · exact ⟨_, List.mem_cons_self, rfl, .intercept interceptors i⟩
      · exact later h
    | dispatch info input =>
      rcases List.mem_cons.1 h with rfl | h
      · exact ⟨_, List.mem_cons_self, rfl, .dispatch info input⟩
      · exact later h

/-- The latest body of a watched program is the latest one, watched. -/
theorem Latest.watch {n : Nat} {b : Body σ} (h : Latest calls k kind n b) :
    Latest (watchFrom 0 0 calls) k kind n (b.watch n) := by
  obtain ⟨before, after, rfl, none_after, rfl⟩ := h
  obtain ⟨i, split⟩ := watchFrom_append 0 0 before ((k, .register kind b) :: after)
  rw [Nat.zero_add] at split
  refine ⟨watchFrom 0 0 before, _, split, fun b' hb' => ?_, (countP_watchFrom 0 0 before).symm⟩
  obtain ⟨⟨j, c⟩, hc, rfl, same⟩ := exists_of_mem_watchFrom hb'
  cases same with
  | register _ _ b'' => exact none_after b'' hc

/-- The interceptors of a watched program are those of the program, watched. -/
theorem watched_added (k : Nat) (calls : List (Nat × Call σ)) :
    ∀ i ∈ added k (watchFrom 0 0 calls), ∃ j, ∃ i' ∈ added k calls, i = Interceptor.watch j i' := by
  intro i hi
  obtain ⟨⟨j, c⟩, hc, hci⟩ := List.mem_filterMap.1 hi
  obtain ⟨⟨j', c'⟩, hc', rfl, same⟩ := exists_of_mem_watchFrom hc
  cases c with
  | register l b => cases hci
  | dispatch info input => cases hci
  | intercept i' =>
    dsimp only at hci same
    split at hci
    · cases hci
      cases same with
      | intercept n i'' =>
        next here => exact ⟨n, i'', List.mem_filterMap.2 ⟨_, hc', if_pos here⟩, rfl⟩
    · cases hci

end Call

/-! ### Dispatches after calls -/

namespace Session

variable [Listener τ]

/-- A dispatch of a kind that is known goes through the interceptors to the latest body. -/
theorem call_dispatch_latest {calls : List (Nat × Call σ)} {k n : Nat} {b : Body σ} {info : Info}
    (t : τ) (own : σ) (input : Json) (latest : Call.Latest calls k info.kind n b) :
    let s := ((start t own).run calls).1
    s.call k (.dispatch info input) =
      ({ s with stage := (layers (Call.added k calls) b.executor info input s.stage).2 },
        some (layers (Call.added k calls) b.executor info input s.stage).1) := by
  intro s
  have known : (s.chains k).bodies.find? info.kind = some b := find?_run_latest _ latest
  have added : (s.chains k).interceptors = Call.added k calls := interceptors_run ..
  simp only [call, Chain.dispatch, known, added]
  rfl

/-- A dispatch of another kind is told and refused, and changes nothing else. -/
theorem call_dispatch_unknown {calls : List (Nat × Call σ)} {k : Nat} {info : Info} (t : τ)
    (own : σ) (input : Json) (never : ∀ b, (k, .register info.kind b) ∉ calls) :
    let s := ((start t own).run calls).1
    s.call k (.dispatch info input) =
      ({ s with stage := s.stage.notice (.event (Chain.unknown info.kind)) },
        some (.error (Chain.notRegistered info.kind))) := by
  intro s
  have unknown : (s.chains k).bodies.find? info.kind = none := find?_run _ never
  simp only [call, Chain.dispatch, unknown]
  rfl

/-- A registration is told exactly if the kind was known. -/
theorem stage_register (s : Session τ σ) (k : Nat) (kind : String) (b : Body σ) :
    (s.call k (.register kind b)).1.stage =
      if kind ∈ (s.chains k).kinds then s.stage.notice (.event (Chain.replaced kind))
      else s.stage := by
  simp only [call, Chain.register, Chain.kinds, NameMap.mem_names]
  split <;> rfl

theorem mem_kinds (t : τ) (own : σ) (calls : List (Nat × Call σ)) (k : Nat) (kind : String) :
    kind ∈ (((start t own).run calls).1.chains k).kinds ↔ ∃ b, (k, .register kind b) ∈ calls :=
  NameMap.mem_names.trans (isSome_find?_run t own calls k kind)

end Session

/-! ### What the calls decide -/

/-- The message of a refusal tells the kind. -/
theorem Chain.notRegistered_injective :
    Function.Injective fun kind => (notRegistered kind).message := by
  intro kind kind' h
  have front := (String.append_left_inj _).1 h
  exact Text.quote_injective ((String.append_right_inj _).1 front)

section Outcomes

variable [Listener τ]

/-- The marks that the bodies and interceptors of a program make. -/
def marks (t : τ) (own : σ) (calls : List (Nat × Call σ)) : List Mark :=
  (Call.watchedRun t own calls).1.stage.own.2

/-- A further dispatch goes through all interceptors to a body, and to no other; and the body is
executed if they call on. -/
structure Reaches (t : τ) (own : σ) (calls : List (Nat × Call σ)) (k : Nat) (info : Info)
    (input : Json) (n : Nat) (b : Body σ) : Prop where
  call :
    let s := ((Session.start t own).run calls).1
    s.call k (.dispatch info input) =
      ({ s with stage := (layers (Call.added k calls) b.executor info input s.stage).2 },
        some (layers (Call.added k calls) b.executor info input s.stage).1)
  marks : ∃ during,
    marks t own (calls ++ [(k, .dispatch info input)]) = marks t own calls ++ during ∧
      (∀ body info' input' r, .executed body info' input' r ∈ during → body = n) ∧
      ((∀ i ∈ Call.added k calls, i.CallsOn) →
        ∃ info' input' r, .executed n info' input' r ∈ during)

/-- A further dispatch is refused before any interceptor or body sees it. -/
structure Refuses (t : τ) (own : σ) (calls : List (Nat × Call σ)) (k : Nat) (info : Info)
    (input : Json) : Prop where
  /-- It is told, and changes nothing else. -/
  call :
    let s := ((Session.start t own).run calls).1
    s.call k (.dispatch info input) =
      ({ s with stage := s.stage.notice (.event (Chain.unknown info.kind)) },
        some (.error (Chain.notRegistered info.kind)))
  error : (Chain.notRegistered info.kind).kind = .application ∧
    (Chain.notRegistered info.kind).nonRetryable = true
  /-- No other kind is refused by this message. -/
  named : ∀ kind,
    (Chain.notRegistered kind).message = (Chain.notRegistered info.kind).message →
      kind = info.kind
  marks : marks t own (calls ++ [(k, .dispatch info input)]) = marks t own calls
  metrics : ∀ t : Telemetry,
    ((Session.start t own).run (calls ++ [(k, .dispatch info input)])).1.stage.telemetry.store =
      ((Session.start t own).run calls).1.stage.telemetry.store

variable {calls : List (Nat × Call σ)} {k : Nat} {info : Info}

/-- A dispatch in a watched program is the same dispatch. -/
theorem marks_dispatch (t : τ) (own : σ) (calls : List (Nat × Call σ)) (k : Nat) (info : Info)
    (input : Json) :
    marks t own (calls ++ [(k, .dispatch info input)]) =
      ((Call.watchedRun t own calls).1.call k (.dispatch info input)).1.stage.own.2 := by
  obtain ⟨i, split⟩ := Call.watchFrom_append 0 0 calls [(k, .dispatch info input)]
  rw [marks, Call.watchedRun, split, Session.run_append]
  rfl

theorem Call.Latest.reaches {n : Nat} {b : Body σ} (t : τ) (own : σ) (input : Json)
    (latest : Call.Latest calls k info.kind n b) : Reaches t own calls k info input n b := by
  refine ⟨Session.call_dispatch_latest t own input latest, ?_⟩
  have watched := Call.watched_added k calls
  obtain ⟨during, made, only⟩ := marksOnly_layers
    (fun i hi => (watched i hi).imp fun j h => h.imp fun i' h => h.2) (b.marksOnly_watch n) info
    input (Call.watchedRun t own calls).1.stage
  refine ⟨during, ?_, fun body info' input' r h => only _ h, fun on => ?_⟩
  · have call := Session.call_dispatch_latest t (own, ([] : List Mark)) input latest.watch
    rw [marks_dispatch]
    exact (congrArg (fun x => x.1.stage.own.2) call).trans made
  · obtain ⟨during', made', m, hm, executes⟩ := marksSome_layers
      (fun i hi => (watched i hi).imp fun j h => h.imp fun i' h => ⟨h.2, on i' h.1⟩)
      (b.marksOnly_watch n) (b.marksSome_watch n) info input
      (Call.watchedRun t own calls).1.stage
    -- what is added to the marks is told by the marks before and after
    obtain rfl : during = during' := List.append_cancel_left (made.symm.trans made')
    cases m with
    | executed body info' input' r =>
      obtain rfl : body = n := executes
      exact ⟨info', input', r, hm⟩
    | _ => exact executes.elim

theorem refuses (t : τ) (own : σ) (input : Json)
    (never : ∀ b, (k, .register info.kind b) ∉ calls) : Refuses t own calls k info input where
  call := Session.call_dispatch_unknown t own input never
  error := ⟨rfl, rfl⟩
  named kind h := Chain.notRegistered_injective h
  marks := by
    have never' : ∀ b, (k, .register info.kind b) ∉ Call.watchFrom 0 0 calls := by
      intro b hb
      obtain ⟨⟨j, c⟩, hc, rfl, same⟩ := Call.exists_of_mem_watchFrom hb
      cases same with
      | register _ _ b' => exact never b' hc
    have call := Session.call_dispatch_unknown t (own, ([] : List Mark)) input never'
    rw [marks_dispatch]
    exact congrArg (fun x => x.1.stage.own.2) call
  metrics t := by
    have call := Session.call_dispatch_unknown t own input never
    rw [Session.run_append]
    exact congrArg (fun x => x.1.stage.telemetry.store) call

/-- What any call does after any calls: the kinds are those registered so far, in ascending order
and once each; a registration is told if its kind is among them; a dispatch of one of them reaches
the body registered last under the kind that is dispatched; any other is refused. -/
theorem dispatch_reaches_latest (t : τ) (own : σ) (calls : List (Nat × Call σ)) (k : Nat) :
    let s := ((Session.start t own).run calls).1
    (s.chains k).kinds.Pairwise (· < ·) ∧ (s.chains k).kinds.Nodup ∧
      (∀ kind, kind ∈ (s.chains k).kinds ↔ ∃ b, (k, .register kind b) ∈ calls) ∧
      (∀ kind b, (s.call k (.register kind b)).1.stage =
        if kind ∈ (s.chains k).kinds then s.stage.notice (.event (Chain.replaced kind))
        else s.stage) ∧
      (∀ info input, info.kind ∈ (s.chains k).kinds →
        (∃ n b, Call.Latest calls k info.kind n b) ∧
        ∀ n b, Call.Latest calls k info.kind n b → Reaches t own calls k info input n b) ∧
      ∀ info input, info.kind ∉ (s.chains k).kinds → Refuses t own calls k info input := by
  intro s
  have known := Session.mem_kinds t own calls k
  have ascending := (s.chains k).bodies.ascending
  refine ⟨ascending, ascending.imp String.ne_of_lt, known, s.stage_register k, ?_, ?_⟩
  · intro info input h
    exact ⟨Call.exists_latest ((known info.kind).1 h), fun n b latest => latest.reaches t own input⟩
  · intro info input h
    refine refuses t own input fun b hb => h ?_
    exact (known info.kind).2 ⟨b, hb⟩

end Outcomes

/-- The body under the kind that was dispatched sees the kind that an interceptor called on with. -/
example :
    ((Session.start ([] : List Notice) ()).run
      [(0, .register "Build" (.plain fun info _ own => (.ok (.text info.kind), own))),
        (0, .register "Test" (.plain fun _ input own => (.ok input, own))),
        (0, .intercept (.custom fun info input => .callNext { info with kind := "Test" } input)),
        (0, .dispatch (.ofKind "Build") .null)]).2 = [.ok (.text "Test")] := by
  rfl

/-- No interceptor can turn an unknown kind into a known one. -/
example :
    ((Session.start ([] : List Notice) ()).run
      [(0, .register "Build" (.plain fun _ input own => (.ok input, own))),
        (0, .intercept (.custom fun info input => .callNext { info with kind := "Build" } input)),
        (0, .dispatch (.ofKind "Missing") .null)]).2 =
      [.error (Chain.notRegistered "Missing")] := by
  rfl

end WorkerTelemetry.Activity
