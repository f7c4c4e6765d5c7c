import WorkerTelemetry.Lifecycle.Runtime
import WorkerTelemetry.Proofs.Lifecycle.Delivery

/-!
When the server of a started runtime stops. The runtime's receiver is there before anybody can have
a handle, and its own handle stays until the server is over, so the receiver finds the first trigger
and never a closed channel. Main statement: `stops_iff_triggered`, for all that is done with the
runtime and with the handles and receivers of others. How long the server goes on with requests that
it has begun to answer is left open.
-/

namespace WorkerTelemetry.Lifecycle

namespace Shutdown

variable {past : History} {s : Shutdown} {h : Nat}

/-- Only triggers put the flag up, and nothing takes it down. -/
theorem triggered_step (s : Shutdown) (a : Step) :
    (s.step a).1.triggered = true ↔ s.triggered = true ∨ isTrigger (a, (s.step a).2) = true := by
  have done := step_done s a
  generalize s.step a = next at done
  cases done with
  | trigger there =>
    cases up : s.triggered <;> simp [Shutdown.trigger, isTrigger, up]
  | noHandle => cases a <;> simp [isTrigger]
  | noReceiver => cases a <;> simp [isTrigger]
  | _ => simp [isTrigger]

/-- Triggering again changes nothing. -/
theorem step_trigger_of_triggered (up : s.triggered = true) (h : Nat) :
    (s.step (.trigger h)).1 = s := by
  have done := step_done s (.trigger h)
  generalize s.step (.trigger h) = next at done
  cases done with
  | trigger there => exact if_pos up
  | noHandle => rfl
  | noReceiver => rfl

end Shutdown

/-- The server has stopped, or never came up; the runtime is gone. -/
def Service.isOver : Service → Bool
  | .idle | .serving _ => false
  | .stopped | .unmountable | .finished => true

namespace Runtime

open Shutdown (History Triggered Subscribed Received Given Dropped DroppedReceiver Live Waits Due
  Reflects untilTrigger isTrigger)

/-- The record of what was done before anybody else had a handle. -/
def opening : History := [(.subscribe ownHandle, .receiver ownReceiver)]

/-- Nobody has dropped the runtime's handle, or done anything with its receiver. -/
def Untouched (past : History) : Prop :=
  ∀ x ∈ past, x.1 ≠ .drop ownHandle ∧ x.1.receiver? ≠ some ownReceiver

theorem reflects_newShutdown : Reflects opening newShutdown :=
  Reflects.start.step (.subscribe ownHandle)

section Own

variable {past : History} {s : Shutdown}

theorem triggered_opening : Triggered (opening ++ past) ↔ Triggered past := by
  simp [Triggered, opening, isTrigger]

theorem live_own (untouched : Untouched past) : Live (opening ++ past) ownHandle := by
  refine ⟨.inl rfl, ?_⟩
  intro dropped
  rcases List.mem_append.1 dropped with old | new
  · simp [opening] at old
  · exact (untouched _ new).1 rfl

theorem waits_own (untouched : Untouched past) : Waits (opening ++ past) ownReceiver := by
  refine ⟨⟨ownHandle, List.mem_cons_self⟩, ?_⟩
  intro dropped
  rcases List.mem_append.1 dropped with old | new
  · simp [opening] at old
  · exact (untouched _ new).2 rfl

/-- The runtime's receiver subscribed before all triggers, and never receives before the server. -/
theorem due_own (untouched : Untouched past) :
    Due (opening ++ past) ownReceiver ↔ Triggered past := by
  have early : Subscribed (untilTrigger (opening ++ past)) ownReceiver :=
    ⟨ownHandle, List.mem_cons_self⟩
  have unread : ¬ Received (opening ++ past) ownReceiver := by
    intro received
    rcases List.mem_append.1 received with old | new
    · simp [opening] at old
    · exact (untouched _ new).2 rfl
  rw [Due, triggered_opening]
  exact ⟨fun due => due.1, fun fired => ⟨fired, early, unread⟩⟩

end Own

/-- What the receiver that stops the server would find now. -/
def found? (rt : Runtime) : Option Reception :=
  (rt.shutdown.channel.waiting? ownReceiver).map rt.shutdown.channel.look

theorem ready_eq (rt : Runtime) :
    rt.shutdown.ready ownReceiver = (rt.found?.map (· != .empty)).getD true := by
  unfold Shutdown.ready found?
  cases rt.shutdown.channel.waiting? ownReceiver <;> rfl

/-! ### Moves -/

/-- Something that is done with a runtime, or with the handles and receivers that others have. -/
inductive Move
  | hold (a : Shutdown.Step)
  | log (severity : Severity) (message : String) (keyvals : List Json)
  | serve
  | request (r : Http.Request)
  | join

/-- What others can do: only the runtime drops its handle, or does anything with its receiver. -/
def Move.Foreign : Move → Prop
  | .hold a => a ≠ .drop ownHandle ∧ a.receiver? ≠ some ownReceiver
  | .log _ _ _ | .serve | .request _ | .join => True

def move (rt : Runtime) : Move → Runtime
  | .hold a => { rt with shutdown := (rt.shutdown.step a).1 }
  | .log severity message keyvals => rt.log severity message keyvals
  | .serve => rt.serve
  | .request r => (rt.respond r).1
  | .join => rt.join.1

def moves (rt : Runtime) (ms : List Move) : Runtime := ms.foldl move rt

/-- What a move adds to the record. -/
def noted (rt : Runtime) : Move → History
  | .hold a => [(a, (rt.shutdown.step a).2)]
  | .log _ _ _ | .serve | .request _ | .join => []

/-- What was done with the handles and receivers since the runtime was there. -/
def record (rt : Runtime) : List Move → History
  | [] => []
  | m :: rest => rt.noted m ++ (rt.move m).record rest

theorem moves_hold (rt : Runtime) (steps : List Shutdown.Step) :
    rt.moves (steps.map .hold) = { rt with shutdown := (rt.shutdown.run steps).1 } := by
  induction steps generalizing rt with
  | nil => rfl
  | cons a rest ih => exact ih (rt.move (.hold a))

theorem record_hold (rt : Runtime) (steps : List Shutdown.Step) :
    rt.record (steps.map .hold) = rt.shutdown.history steps := by
  induction steps generalizing rt with
  | nil => rfl
  | cons a rest ih => exact congrArg _ (ih (rt.move (.hold a)))

/-- A signal triggers as any handle does. -/
theorem trigger_eq_move {rt : Runtime} (held : rt.shutdown.channel.hasHandle ownHandle = true) :
    rt.trigger = rt.move (.hold (.trigger ownHandle)) := by
  simp [trigger, move, Shutdown.step, Shutdown.withHandle, held]

/-- The path of the metrics is a route. -/
def Mounts (rt : Runtime) : Prop :=
  (Http.Server.mount rt.registry rt.config.observability.metricsPath).isSome = true

/-- What the runtime does of itself: it stays as it is for others, or it is over. -/
inductive Turn (rt : Runtime) : Runtime → Prop
  | keeps {rt' : Runtime} : rt'.registry = rt.registry → rt'.config = rt.config →
      rt'.shutdown = rt.shutdown → rt'.service.isOver = rt.service.isOver → Turn rt rt'
  | ends {rt' : Runtime} : rt'.registry = rt.registry → rt'.config = rt.config →
      rt'.shutdown = rt.release.shutdown → rt.service.isOver = false → rt'.service.isOver = true →
      (¬ rt.Mounts ∨ rt.shutdown.ready ownReceiver = true) → Turn rt rt'

theorem serve_turn (rt : Runtime) : Turn rt rt.serve := by
  cases service : rt.service with
  | idle =>
    have lasts : rt.service.isOver = false := by rw [service]; rfl
    cases mounted : Http.Server.mount rt.registry rt.config.observability.metricsPath with
    | none =>
      simp only [serve, service, mounted]
      exact .ends rfl rfl rfl lasts rfl (.inl (by simp [Mounts, mounted]))
    | some server =>
      simp only [serve, service, mounted]
      split
      · next ready => exact .ends rfl rfl rfl lasts rfl (.inr ready)
      · exact .keeps rfl rfl rfl lasts.symm
  | serving _ | stopped | unmountable | finished =>
    simp only [serve, service]
    exact .keeps rfl rfl rfl rfl

theorem respond_turn (rt : Runtime) (r : Http.Request) : Turn rt (rt.respond r).1 := by
  cases service : rt.service with
  | serving server =>
    simp only [respond, service]
    exact .keeps rfl rfl rfl (by rw [service])
  | idle | stopped | unmountable | finished =>
    simp only [respond, service]
    exact .keeps rfl rfl rfl rfl

theorem join_turn (rt : Runtime) : Turn rt rt.join.1 := by
  cases service : rt.service with
  | idle | finished =>
    simp only [join, service]
    exact .keeps rfl rfl rfl rfl
  | stopped | unmountable =>
    simp only [join, service]
    exact .keeps rfl rfl rfl (by rw [service]; rfl)
  | serving server =>
    have lasts : rt.service.isOver = false := by rw [service]; rfl
    simp only [join, service]
    split
    · next ready => exact .ends rfl rfl rfl lasts rfl (.inr ready)
    · exact .keeps rfl rfl rfl rfl

theorem release_triggered (rt : Runtime) :
    rt.release.shutdown.triggered = rt.shutdown.triggered := by
  have drops (s : Shutdown) (a : Shutdown.Step) (quiet : ∀ answer, isTrigger (a, answer) = false) :
      (s.step a).1.triggered = s.triggered := by
    rw [Bool.eq_iff_iff, Shutdown.triggered_step, quiet]
    simp
  exact (drops _ (.drop ownHandle) (fun _ => rfl)).trans
    (drops _ (.dropReceiver ownReceiver) (fun _ => rfl))

/-! ### Runs -/

/-- How a runtime stands after it started and what was recorded since. -/
structure Tracks (start : Runtime) (past : History) (now : Runtime) : Prop where
  registry : now.registry = start.registry
  config : now.config = start.config
  untouched : Untouched past
  flag : now.shutdown.triggered = true ↔ Triggered past
  lasting : now.service.isOver = false → Reflects (opening ++ past) now.shutdown
  ended : now.service.isOver = true → ¬ start.Mounts ∨ Triggered past

namespace Tracks

variable {start now : Runtime} {past : History}

theorem mounts_iff (seen : Tracks start past now) : now.Mounts ↔ start.Mounts := by
  rw [Mounts, seen.registry, seen.config, Mounts]

/-- While the runtime is there, its receiver finds the trigger or nothing at all. -/
theorem found (seen : Tracks start past now) (lasts : now.service.isOver = false) :
    (Triggered past → now.found? = some .received) ∧
      (¬ Triggered past → now.found? = some .empty) := by
  have reflects := seen.lasting lasts
  obtain ⟨n, there⟩ := reflects.exists_waiting (waits_own seen.untouched)
  have is_open := reflects.isOpen_iff.2 ⟨ownHandle, live_own seen.untouched⟩
  obtain ⟨due, done⟩ := reflects.look_eq there
  rw [due_own seen.untouched] at due done
  rw [found?, there, Option.map_some]
  constructor
  · intro fired
    rw [due fired]
  · intro quiet
    rw [done quiet, if_pos is_open]

theorem found_iff (seen : Tracks start past now) (lasts : now.service.isOver = false) :
    (now.found? = some .received ↔ Triggered past) ∧
      (now.found? = some .empty ↔ ¬ Triggered past) := by
  obtain ⟨fired, quiet⟩ := seen.found lasts
  by_cases triggered : Triggered past
  · simp [fired triggered, triggered]
  · simp [quiet triggered, triggered]

theorem ready_iff (seen : Tracks start past now) (lasts : now.service.isOver = false) :
    now.shutdown.ready ownReceiver = true ↔ Triggered past := by
  rw [ready_eq]
  by_cases fired : Triggered past
  · simp [(seen.found lasts).1 fired, fired]
  · simp [(seen.found lasts).2 fired, fired]

theorem hold (seen : Tracks start past now) {a : Shutdown.Step} (foreign : (Move.hold a).Foreign) :
    Tracks start (past ++ now.noted (.hold a)) (now.move (.hold a)) := by
  refine ⟨seen.registry, seen.config, ?_, ?_, ?_, ?_⟩
  · intro x hx
    rcases List.mem_append.1 hx with old | new
    · exact seen.untouched x old
    · rw [List.mem_singleton.1 new]
      exact foreign
  · rw [noted, Shutdown.triggered_snoc, ← seen.flag]
    exact Shutdown.triggered_step now.shutdown a
  · intro lasts
    have later := (seen.lasting lasts).step a
    rwa [List.append_assoc] at later
  · intro now_over
    rcases seen.ended now_over with unmountable | fired
    · exact .inl unmountable
    · exact .inr (Shutdown.triggered_snoc.2 (.inl fired))

theorem turn (seen : Tracks start past now) {next : Runtime} (turn : Turn now next) :
    Tracks start past next := by
  cases turn with
  | keeps registry config shutdown service =>
    refine ⟨registry.trans seen.registry, config.trans seen.config, seen.untouched, ?_, ?_, ?_⟩
    · rw [shutdown]
      exact seen.flag
    · rw [shutdown, service]
      exact seen.lasting
    · rw [service]
      exact seen.ended
  | ends registry config shutdown lasted gone cause =>
    refine ⟨registry.trans seen.registry, config.trans seen.config, seen.untouched, ?_, ?_, ?_⟩
    · rw [shutdown, release_triggered]
      exact seen.flag
    · intro lasts
      rw [gone] at lasts
      cases lasts
    · intro _
      rw [← seen.mounts_iff, ← seen.ready_iff lasted]
      exact cause

theorem move (seen : Tracks start past now) {m : Move} (foreign : m.Foreign) :
    Tracks start (past ++ now.noted m) (now.move m) := by
  cases m with
  | hold a => exact seen.hold foreign
  | log severity message keyvals =>
    rw [noted, List.append_nil]
    exact seen.turn (.keeps rfl rfl rfl rfl)
  | serve =>
    rw [noted, List.append_nil]
    exact seen.turn (serve_turn now)
  | request r =>
    rw [noted, List.append_nil]
    exact seen.turn (respond_turn now r)
  | join =>
    rw [noted, List.append_nil]
    exact seen.turn (join_turn now)

theorem moves (seen : Tracks start past now) {ms : List Move} (foreign : ∀ m ∈ ms, m.Foreign) :
    Tracks start (past ++ now.record ms) (now.moves ms) := by
  induction ms generalizing past now with
  | nil =>
    rw [record, List.append_nil]
    exact seen
  | cons m rest ih =>
    obtain ⟨first, others⟩ := List.forall_mem_cons.1 foreign
    have later := ih (seen.move first) others
    rwa [List.append_assoc] at later

end Tracks

variable {host : Net.Host} {t t' : Telemetry} {logging : Bool} {c : Config} {rt : Runtime}

/-- A runtime that has started waits for `serve`, with a new shutdown. -/
theorem start_ok (started : start host t logging c = (t', .ok rt)) :
    rt.service = .idle ∧ rt.shutdown = newShutdown ∧ rt.config = c := by
  unfold start at started
  dsimp only at started
  split at started
  · cases started
  · split at started
    · cases started
    · obtain ⟨-, same⟩ := Prod.mk.inj started
      obtain rfl := Except.ok.inj same
      exact ⟨rfl, rfl, rfl⟩

theorem tracks_start (started : start host t logging c = (t', .ok rt)) : Tracks rt [] rt := by
  obtain ⟨idle, fresh, -⟩ := start_ok started
  refine ⟨rfl, rfl, ?_, ?_, ?_, ?_⟩
  · simp [Untouched]
  · simp [fresh, newShutdown, Triggered]
  · intro _
    rw [fresh]
    exact reflects_newShutdown
  · rw [idle]
    simp [Service.isOver]

/-- Serving, and waiting for the end of it. -/
theorem join_serve (lasts : rt.service.isOver = false) (mounts : rt.Mounts) :
    rt.serve.join.2 = if rt.shutdown.ready ownReceiver then .stopped else .running := by
  obtain ⟨server, mounted⟩ := Option.isSome_iff_exists.1 mounts
  cases service : rt.service with
  | idle =>
    cases ready : rt.shutdown.ready ownReceiver <;>
      simp [serve, service, mounted, ready, join, release]
  | serving old =>
    have same : rt.serve = rt := by simp [serve, service]
    cases ready : rt.shutdown.ready ownReceiver <;> simp [same, join, service, ready]
  | stopped | unmountable | finished =>
    rw [service] at lasts
    cases lasts

/-- The receiver that stops the server finds a message exactly if some handle was triggered since
the runtime started, before or while it serves; dropping all other handles is never taken for that.
As long as the server is not over, the runtime's own handle is there. -/
theorem stops_iff_triggered (started : start host t logging c = (t', .ok rt)) (ms : List Move)
    (foreign : ∀ m ∈ ms, m.Foreign) :
    let now := rt.moves ms
    let past := rt.record ms
    (now.service.isOver = false →
      now.shutdown.channel.hasHandle ownHandle = true ∧
      now.trigger = now.move (.hold (.trigger ownHandle)) ∧
      (now.found? = some .received ↔ Triggered past) ∧
      (now.found? = some .empty ↔ ¬ Triggered past) ∧
      (now.shutdown.ready ownReceiver = true ↔ Triggered past)) ∧
    (now.Mounts →
      (now.service.isOver = false →
        (now.serve.join.2 = .stopped ↔ Triggered past) ∧
        (now.serve.join.2 = .running ↔ ¬ Triggered past)) ∧
      (now.service.isOver = true → Triggered past)) ∧
    (Triggered past → ∀ h, (now.shutdown.step (.trigger h)).1 = now.shutdown) := by
  intro now past
  have seen : Tracks rt past now := (tracks_start started).moves foreign
  refine ⟨?_, ?_, ?_⟩
  · intro lasts
    have held := (seen.lasting lasts).live_iff.2 (live_own seen.untouched)
    obtain ⟨received, empty⟩ := seen.found_iff lasts
    exact ⟨held, trigger_eq_move held, received, empty, seen.ready_iff lasts⟩
  · intro mounts
    constructor
    · intro lasts
      rw [join_serve lasts mounts, ← seen.ready_iff lasts]
      cases now.shutdown.ready ownReceiver <;> simp
    · intro now_over
      exact (seen.ended now_over).resolve_left (not_not_intro (seen.mounts_iff.1 mounts))
  · intro triggered h
    exact Shutdown.step_trigger_of_triggered (seen.flag.2 triggered) h

/-- A host that lets its loopback addresses be listened on. -/
def loopbackHost : Net.Host := { isLocal := Net.isLoopback, freePort := 9090 }

/-- A handle is cloned, subscribes and is dropped. -/
def comingAndGoing : List Shutdown.Step := [.clone ownHandle, .subscribe 1, .drop 1]

/-- Another one triggers twice before it is dropped. -/
def triggeredTwice : List Shutdown.Step :=
  comingAndGoing ++ [.clone ownHandle, .trigger 2, .trigger 2, .drop 2]

/-- What was done before the server runs is not missed, and dropped handles do not stop it. -/
theorem stops_iff_triggered_loopbackHost :
    ∃ t' rt, start loopbackHost { console := .unfiltered default, time := ⟨0⟩ } true {} =
        (t', .ok rt) ∧
      rt.Mounts ∧ (∀ m ∈ triggeredTwice.map Move.hold, m.Foreign) ∧
      (¬ Triggered (newShutdown.history comingAndGoing) ∧
        (rt.moves (comingAndGoing.map .hold)).serve.join.2 = .running) ∧
      Triggered (newShutdown.history triggeredTwice) ∧
        (rt.moves (triggeredTwice.map .hold)).serve.join.2 = .stopped := by
  have starts : (start loopbackHost { console := .unfiltered default, time := ⟨0⟩ } true
      {}).2.toOption.isSome = true := by decide +kernel
  generalize begun : start loopbackHost { console := .unfiltered default, time := ⟨0⟩ } true {} =
    result at starts
  obtain ⟨t', _ | rt⟩ := result
  · cases starts
  obtain ⟨idle, fresh, standard⟩ := start_ok begun
  have mounts : rt.Mounts := by
    rw [Mounts, standard, Http.Server.mount, Option.isSome_map]
    decide +kernel
  have foreign : ∀ m ∈ triggeredTwice.map Move.hold, m.Foreign := by
    simp [triggeredTwice, comingAndGoing, Move.Foreign, ownHandle, Shutdown.Step.receiver?]
  have foreign_first : ∀ m ∈ comingAndGoing.map Move.hold, m.Foreign := by
    intro m hm
    exact foreign m (List.map_subset _ (List.subset_append_left _ _) hm)
  have quiet : ¬ Triggered (newShutdown.history comingAndGoing) := by
    rintro ⟨x, hx, trigger⟩
    revert x
    decide
  have fired : Triggered (newShutdown.history triggeredTwice) :=
    ⟨(.trigger 2, .flag true), by decide, rfl⟩
  -- nothing but steps with handles was done, so the runtime still waits for its server
  have lasts (steps : List Shutdown.Step) :
      (rt.moves (steps.map .hold)).service.isOver = false := by
    rw [moves_hold, idle]
    rfl
  have mounts_later (steps : List Shutdown.Step) : (rt.moves (steps.map .hold)).Mounts := by
    rw [moves_hold]
    exact mounts
  obtain ⟨-, first, -⟩ := stops_iff_triggered begun _ foreign_first
  obtain ⟨-, second, -⟩ := stops_iff_triggered begun _ foreign
  rw [record_hold, fresh] at first second
  exact ⟨t', rt, rfl, mounts, foreign,
    ⟨quiet, ((first (mounts_later _)).1 (lasts _)).2.2 quiet⟩,
    fired, ((second (mounts_later _)).1 (lasts _)).1.2 fired⟩

end Runtime

end WorkerTelemetry.Lifecycle
