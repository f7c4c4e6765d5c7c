import Mathlib.Data.List.TakeWhile
import WorkerTelemetry.Lifecycle.Shutdown

/-!
Who learns of a shutdown, and when. What was done and answered so far decides every further answer:
the flag is up from the first trigger on, and that trigger reaches each receiver that was there
before it, once. Main statement: `answers_after`, for all ways in which handles are cloned, used and
dropped. Steps come one after the other; nothing is said of two that are done at the same time.
-/

namespace WorkerTelemetry.Lifecycle.Shutdown

/-! ### What a step does -/

/-- The handle that a step is done with. -/
def Step.handle? : Step → Option Nat
  | .subscribe h | .clone h | .trigger h | .isTriggered h | .drop h => some h
  | .tryReceive _ | .dropReceiver _ => none

/-- The receiver that a step is done with. -/
def Step.receiver? : Step → Option Nat
  | .tryReceive r | .dropReceiver r => some r
  | .subscribe _ | .clone _ | .trigger _ | .isTriggered _ | .drop _ => none

/-- What a step comes to: the shutdown behind it, and the answer. -/
inductive Done (s : Shutdown) : Step → Shutdown × Answer → Prop
  | subscribe {h} : s.channel.hasHandle h = true →
      Done s (.subscribe h)
        ({ s with channel := s.channel.subscribe }, .receiver s.channel.receivers.length)
  | clone {h} : s.channel.hasHandle h = true →
      Done s (.clone h)
        ({ s with channel := s.channel.addHandle }, .handle s.channel.handles.length)
  | trigger {h} : s.channel.hasHandle h = true → Done s (.trigger h) (s.trigger, .flag true)
  | isTriggered {h} : s.channel.hasHandle h = true →
      Done s (.isTriggered h) (s, .flag s.triggered)
  | drop {h} : s.channel.hasHandle h = true →
      Done s (.drop h) ({ s with channel := s.channel.dropHandle h }, .dropped)
  | tryReceive {r n} : s.channel.waiting? r = some n →
      Done s (.tryReceive r)
        ({ s with channel := (s.channel.receive r n).1 }, .reception (s.channel.receive r n).2)
  | dropReceiver {r n} : s.channel.waiting? r = some n →
      Done s (.dropReceiver r) ({ s with channel := s.channel.dropReceiver r }, .dropped)
  | noHandle {a h} : a.handle? = some h → s.channel.hasHandle h = false → Done s a (s, .gone)
  | noReceiver {a r} : a.receiver? = some r → s.channel.waiting? r = none → Done s a (s, .gone)

theorem step_done (s : Shutdown) (a : Step) : Done s a (s.step a) := by
  have handled {h : Nat} {act : Shutdown × Answer} (held : a.handle? = some h)
      (done : s.channel.hasHandle h = true → Done s a act) : Done s a (s.withHandle h act) := by
    unfold withHandle
    cases there : s.channel.hasHandle h with
    | true => exact done there
    | false => exact .noHandle held there
  cases a with
  | subscribe h => exact handled rfl .subscribe
  | clone h => exact handled rfl .clone
  | trigger h => exact handled rfl .trigger
  | isTriggered h => exact handled rfl .isTriggered
  | drop h => exact handled rfl .drop
  | tryReceive r =>
    rw [step]
    cases there : s.channel.waiting? r with
    | none => exact .noReceiver rfl there
    | some n => exact .tryReceive there
  | dropReceiver r =>
    rw [step]
    cases there : s.channel.waiting? r with
    | none => exact .noReceiver rfl there
    | some n => exact .dropReceiver there

/-- Triggering makes and drops nothing. -/
theorem trigger_keeps (s : Shutdown) : s.trigger.channel.handles = s.channel.handles ∧
    s.trigger.channel.receivers = s.channel.receivers := by
  unfold trigger Channel.send
  split
  · exact ⟨rfl, rfl⟩
  · split <;> exact ⟨rfl, rfl⟩

/-! ### The record of a run -/

/-- What was done, each step with its answer, the earliest first. -/
abbrev History := List (Step × Answer)

/-- The record of a run. -/
def history (s : Shutdown) (steps : List Step) : History := steps.zip (s.run steps).2

theorem history_cons (s : Shutdown) (a : Step) (rest : List Step) :
    s.history (a :: rest) = (a, (s.step a).2) :: (s.step a).1.history rest := rfl

theorem history_append (s : Shutdown) (xs ys : List Step) :
    s.history (xs ++ ys) = s.history xs ++ (s.run xs).1.history ys := by
  induction xs generalizing s with
  | nil => rfl
  | cons a xs ih =>
    rw [List.cons_append, history_cons, history_cons, ih]
    rfl

/-- Where an entry stands in the record, its step was done. -/
theorem history_split {s : Shutdown} {steps : List Step} {earlier later : History} {a : Step}
    {answer : Answer} (found : s.history steps = earlier ++ (a, answer) :: later) :
    ∃ xs ys, steps = xs ++ a :: ys ∧ s.history xs = earlier ∧
      ((s.run xs).1.step a).2 = answer := by
  induction steps generalizing s earlier with
  | nil => simp [history] at found
  | cons b rest ih =>
    rw [history_cons] at found
    cases earlier with
    | nil =>
      obtain ⟨first, -⟩ := List.cons.inj found
      obtain ⟨rfl, rfl⟩ := Prod.mk.inj first
      exact ⟨[], rest, rfl, rfl, rfl⟩
    | cons y earlier =>
      obtain ⟨first, others⟩ := List.cons.inj found
      obtain ⟨xs, ys, rfl, before, answered⟩ := ih others
      refine ⟨b :: xs, ys, rfl, ?_, answered⟩
      rw [history_cons, before, first]

variable {past : History} {x : Step × Answer} {s : Shutdown} {a : Step} {next : Shutdown × Answer}
  {h r : Nat}

def isTrigger : Step × Answer → Bool
  | (.trigger _, .flag _) => true
  | _ => false

/-- Some handle was triggered. -/
def Triggered (past : History) : Prop := ∃ x ∈ past, isTrigger x = true

/-- What was done before the first trigger. -/
def untilTrigger (past : History) : History := past.takeWhile fun x => !isTrigger x

/-- A handle was there from the start, or a clone has made it. -/
def Given (past : History) (h : Nat) : Prop := h = 0 ∨ ∃ g, (.clone g, .handle h) ∈ past

def Dropped (past : History) (h : Nat) : Prop := (.drop h, .dropped) ∈ past

def Live (past : History) (h : Nat) : Prop := Given past h ∧ ¬ Dropped past h

def Subscribed (past : History) (r : Nat) : Prop := ∃ h, (.subscribe h, .receiver r) ∈ past

def DroppedReceiver (past : History) (r : Nat) : Prop := (.dropReceiver r, .dropped) ∈ past

/-- A receiver has subscribed and was not dropped. -/
def Waits (past : History) (r : Nat) : Prop := Subscribed past r ∧ ¬ DroppedReceiver past r

def Received (past : History) (r : Nat) : Prop := (.tryReceive r, .reception .received) ∈ past

/-- The first trigger came after the subscription of a receiver, which has not received yet. -/
def Due (past : History) (r : Nat) : Prop :=
  Triggered past ∧ Subscribed (untilTrigger past) r ∧ ¬ Received past r

theorem triggered_snoc : Triggered (past ++ [x]) ↔ Triggered past ∨ isTrigger x = true := by
  simp [Triggered, or_and_right, exists_or]

theorem given_snoc : Given (past ++ [x]) h ↔ Given past h ∨ ∃ g, (.clone g, .handle h) = x := by
  simp [Given, exists_or, or_assoc]

theorem dropped_snoc : Dropped (past ++ [x]) h ↔ Dropped past h ∨ (.drop h, .dropped) = x := by
  simp [Dropped]

theorem subscribed_snoc : Subscribed (past ++ [x]) r ↔
    Subscribed past r ∨ ∃ h, (.subscribe h, .receiver r) = x := by
  simp [Subscribed, exists_or]

theorem droppedReceiver_snoc : DroppedReceiver (past ++ [x]) r ↔
    DroppedReceiver past r ∨ (.dropReceiver r, .dropped) = x := by
  simp [DroppedReceiver]

theorem received_snoc : Received (past ++ [x]) r ↔
    Received past r ∨ (.tryReceive r, .reception .received) = x := by
  simp [Received]

theorem Subscribed.of_untilTrigger (early : Subscribed (untilTrigger past) r) :
    Subscribed past r := by
  obtain ⟨h, found⟩ := early
  exact ⟨h, (List.takeWhile_prefix _).subset found⟩

theorem untilTrigger_append_of_triggered (fired : Triggered past) (more : History) :
    untilTrigger (past ++ more) = untilTrigger past := by
  obtain ⟨x, hx, trigger⟩ := fired
  unfold untilTrigger
  rw [List.takeWhile_append, if_neg]
  intro same
  have whole := (List.takeWhile_prefix _).eq_of_length same
  have quiet := List.takeWhile_eq_self_iff.1 whole x hx
  simp [trigger] at quiet

/-- All that was done before a first trigger was done until then. -/
theorem untilTrigger_snoc_trigger (quiet : ¬ Triggered past) (trigger : isTrigger x = true) :
    untilTrigger (past ++ [x]) = past := by
  have pass : ∀ y ∈ past, (!isTrigger y) = true := by
    intro y hy
    cases fires : isTrigger y with
    | true => exact absurd ⟨y, hy, fires⟩ quiet
    | false => rfl
  unfold untilTrigger
  rw [List.takeWhile_append_of_pos pass]
  simp [trigger]

/-- A receiver is due as before if the next step is no reception of its own and no first trigger. -/
theorem due_snoc (known : isTrigger x = true → Triggered past)
    (other : (.tryReceive r, .reception .received) ≠ x) : Due (past ++ [x]) r ↔ Due past r := by
  have fired : Triggered (past ++ [x]) ↔ Triggered past := by
    rw [triggered_snoc]
    exact or_iff_left_of_imp known
  unfold Due
  rw [fired, received_snoc, or_iff_left other]
  constructor
  · rintro ⟨fired, early, rest⟩
    rw [untilTrigger_append_of_triggered fired] at early
    exact ⟨fired, early, rest⟩
  · rintro ⟨fired, early, rest⟩
    rw [untilTrigger_append_of_triggered fired]
    exact ⟨fired, early, rest⟩

/-! ### Handles and receivers -/

/-- Things that are numbered as they appear, and may go again; a number is never used twice. -/
structure Numbered (given gone : Nat → Prop) (count : Nat) (there : Nat → Prop) : Prop where
  given_iff : ∀ k, given k ↔ k < count
  there_iff : ∀ k, there k ↔ given k ∧ ¬ gone k
  given_of_gone : ∀ k, gone k → given k

namespace Numbered

variable {given given' gone gone' there there' : Nat → Prop} {count count' n : Nat}

theorem congr (kept : Numbered given gone count there) (hgiven : ∀ k, given' k ↔ given k)
    (hgone : ∀ k, gone' k ↔ gone k) (hcount : count' = count) (hthere : ∀ k, there' k ↔ there k) :
    Numbered given' gone' count' there' := by
  obtain ⟨given_iff, there_iff, given_of_gone⟩ := kept
  constructor <;> intro k <;> simp only [hgiven, hgone, hcount, hthere]
  · exact given_iff k
  · exact there_iff k
  · exact given_of_gone k

theorem issue (kept : Numbered given gone count there)
    (hgiven : ∀ k, given' k ↔ given k ∨ k = count) (hgone : ∀ k, gone' k ↔ gone k)
    (hcount : count' = count + 1) (hthere : ∀ k, there' k ↔ k = count ∨ there k) :
    Numbered given' gone' count' there' := by
  subst hcount
  obtain ⟨given_iff, there_iff, given_of_gone⟩ := kept
  have unused : ¬ gone count := by
    intro used
    have := (given_iff count).1 (given_of_gone count used)
    omega
  constructor <;> intro k
  · rw [hgiven, given_iff]
    omega
  · rw [hthere, hgiven, hgone, there_iff]
    by_cases hk : k = count
    · subst hk
      simp [unused]
    · simp [hk]
  · rw [hgone, hgiven]
    intro used
    exact .inl (given_of_gone k used)

theorem remove (kept : Numbered given gone count there) (had : there n)
    (hgiven : ∀ k, given' k ↔ given k) (hgone : ∀ k, gone' k ↔ gone k ∨ k = n)
    (hcount : count' = count) (hthere : ∀ k, there' k ↔ there k ∧ k ≠ n) :
    Numbered given' gone' count' there' := by
  subst hcount
  obtain ⟨given_iff, there_iff, given_of_gone⟩ := kept
  constructor <;> intro k
  · rw [hgiven, given_iff]
  · rw [hthere, hgiven, hgone, there_iff, not_or, and_assoc]
  · rw [hgone, hgiven]
    rintro (used | rfl)
    · exact given_of_gone k used
    · exact ((there_iff k).1 had).1

end Numbered

/-- The handles and the receivers of a channel are those of the record. -/
structure Kept (past : History) (c : Channel) : Prop where
  handles : Numbered (Given past) (Dropped past) c.handles.length fun h => c.hasHandle h = true
  receivers : Numbered (Subscribed past) (DroppedReceiver past) c.receivers.length
    fun r => (c.waiting? r).isSome = true

namespace Kept

theorem start : Kept [] Channel.create := by
  constructor
  · constructor <;> intro k
    · simp [Given, Channel.create]
    · cases k <;> simp [Given, Dropped, Channel.create, Channel.hasHandle]
    · simp [Dropped]
  · constructor <;> intro k <;>
      simp [Subscribed, DroppedReceiver, Channel.create, Channel.waiting?]

/-- A step that makes and drops no handle keeps all handles. -/
theorem handles_frame {c d : Channel} (kept : Kept past c) (same : d.handles = c.handles)
    (clone : ∀ n, x.2 ≠ .handle n) (drop : ∀ h, (.drop h, .dropped) ≠ x) :
    Numbered (Given (past ++ [x])) (Dropped (past ++ [x])) d.handles.length
      fun h => d.hasHandle h = true := by
  obtain ⟨b, answer⟩ := x
  refine kept.handles.congr ?_ ?_ (by rw [same]) ?_ <;> intro k
  · simp [given_snoc, fun n => (clone n).symm]
  · rw [dropped_snoc, or_iff_left (drop k)]
  · rw [Channel.hasHandle, same, Channel.hasHandle]

/-- A step that adds and drops no receiver keeps all receivers. -/
theorem receivers_frame {c d : Channel} (kept : Kept past c)
    (count : d.receivers.length = c.receivers.length)
    (waits : ∀ r, (d.waiting? r).isSome = (c.waiting? r).isSome)
    (subscribe : ∀ n, x.2 ≠ .receiver n) (drop : ∀ r, (.dropReceiver r, .dropped) ≠ x) :
    Numbered (Subscribed (past ++ [x])) (DroppedReceiver (past ++ [x])) d.receivers.length
      fun r => (d.waiting? r).isSome = true := by
  obtain ⟨b, answer⟩ := x
  refine kept.receivers.congr ?_ ?_ count ?_ <;> intro k
  · simp [subscribed_snoc, fun n => (subscribe n).symm]
  · rw [droppedReceiver_snoc, or_iff_left (drop k)]
  · rw [waits]

/-- A step that makes or drops nothing changes nothing here. -/
theorem frame {c d : Channel} (kept : Kept past c) (handles : d.handles = c.handles)
    (count : d.receivers.length = c.receivers.length)
    (waits : ∀ r, (d.waiting? r).isSome = (c.waiting? r).isSome)
    (idle : x.2 ≠ .dropped ∧ (∀ n, x.2 ≠ .handle n) ∧ ∀ n, x.2 ≠ .receiver n) :
    Kept (past ++ [x]) d := by
  obtain ⟨drop, clone, subscribe⟩ := idle
  constructor
  · refine kept.handles_frame handles clone ?_
    rintro h rfl
    exact drop rfl
  · refine kept.receivers_frame count waits subscribe ?_
    rintro r rfl
    exact drop rfl

theorem step (kept : Kept past s.channel) (done : Done s a next) :
    Kept (past ++ [(a, next.2)]) next.1.channel := by
  cases done with
  | subscribe there =>
    refine ⟨kept.handles_frame rfl (by simp) (by simp), ?_⟩
    refine kept.receivers.issue ?_ ?_ List.length_append ?_ <;> intro k
    · simp [subscribed_snoc, eq_comm]
    · simp [droppedReceiver_snoc]
    · rw [Channel.waiting?_subscribe]
      split <;> simp_all
  | clone there =>
    refine ⟨?_, kept.receivers_frame rfl (fun _ => rfl) (by simp) (by simp)⟩
    refine kept.handles.issue ?_ ?_ List.length_append ?_ <;> intro k
    · simp [given_snoc, eq_comm]
    · simp [dropped_snoc]
    · rw [Channel.hasHandle_addHandle]
      split <;> simp_all
  | drop there =>
    refine ⟨?_, kept.receivers_frame rfl (fun _ => rfl) (by simp) (by simp)⟩
    refine kept.handles.remove there ?_ ?_ List.length_set ?_ <;> intro k
    · simp [given_snoc]
    · simp [dropped_snoc, eq_comm]
    · rw [Channel.hasHandle_dropHandle]
      split <;> simp_all
  | dropReceiver there =>
    refine ⟨kept.handles_frame rfl (by simp) (by simp), ?_⟩
    have waited := Option.isSome_of_eq_some there
    refine kept.receivers.remove waited ?_ ?_ List.length_set ?_ <;> intro k
    · simp [subscribed_snoc]
    · simp [droppedReceiver_snoc, eq_comm]
    · rw [Channel.waiting?_dropReceiver]
      split <;> simp_all
  | trigger there =>
    obtain ⟨handles, receivers⟩ := trigger_keeps s
    refine kept.frame handles (by rw [receivers]) ?_ (by simp)
    intro r
    rw [Channel.waiting?, receivers, Channel.waiting?]
  | tryReceive there =>
    exact kept.frame rfl List.length_set (fun q => Channel.isSome_waiting?_receive there) (by simp)
  | isTriggered there => exact kept.frame rfl rfl (fun _ => rfl) (by simp)
  | noHandle gone => exact kept.frame rfl rfl (fun _ => rfl) (by simp)
  | noReceiver gone => exact kept.frame rfl rfl (fun _ => rfl) (by simp)

end Kept

/-! ### The one message -/

/-- The flag, the message and the place of every receiver are those of the record. -/
structure Delivered (past : History) (s : Shutdown) : Prop where
  flag : s.triggered = true ↔ Triggered past
  few : s.channel.sent ≤ 1
  unsent : ¬ Triggered past → s.channel.sent = 0
  due : ∀ r n, s.channel.waiting? r = some n →
    n ≤ s.channel.sent ∧ (n < s.channel.sent ↔ Due past r)
  early : ∀ r, Received past r → Triggered past ∧ Subscribed (untilTrigger past) r
  once : ∀ r, past.count (.tryReceive r, .reception .received) ≤ 1

namespace Delivered

theorem start : Delivered [] {} where
  flag := by simp [Triggered]
  few := by simp [Channel.create]
  unsent _ := rfl
  due r n there := by simp [Channel.create, Channel.waiting?] at there
  early r received := by simp [Received] at received
  once r := by simp

/-- A step that neither triggers for the first time nor receives, and adds no receiver. -/
theorem frame {t : Shutdown} (kept : Delivered past s) (flag : t.triggered = s.triggered)
    (sent : t.channel.sent = s.channel.sent)
    (waits : ∀ r n, t.channel.waiting? r = some n →
      s.channel.waiting? r = some n ∨ n = t.channel.sent ∧ ¬ Due past r)
    (known : isTrigger x = true → Triggered past) (idle : x.2 ≠ .reception .received) :
    Delivered (past ++ [x]) t := by
  have other (r : Nat) : (.tryReceive r, .reception .received) ≠ x := by
    rintro rfl
    exact idle rfl
  have fired : Triggered (past ++ [x]) ↔ Triggered past := by
    rw [triggered_snoc]
    exact or_iff_left_of_imp known
  constructor
  · rw [flag, fired]
    exact kept.flag
  · rw [sent]
    exact kept.few
  · rw [sent, fired]
    exact kept.unsent
  · intro r n there
    rw [due_snoc known (other r)]
    rcases waits r n there with old | ⟨rfl, done⟩
    · rw [sent]
      exact kept.due r n old
    · simp [done]
  · intro r received
    rw [received_snoc, or_iff_left (other r)] at received
    obtain ⟨old, early⟩ := kept.early r received
    rw [untilTrigger_append_of_triggered old]
    exact ⟨fired.2 old, early⟩
  · intro r
    rw [List.count_append, List.count_singleton, if_neg (by simpa using (other r).symm)]
    exact kept.once r

/-- The first trigger sends the message to all who wait. -/
theorem trigger (kept : Delivered past s) (same : Kept past s.channel) (h : Nat) :
    Delivered (past ++ [(.trigger h, .flag true)]) s.trigger := by
  -- only the first trigger sends, and then nothing was sent before
  by_cases fired : Triggered past
  · have up : s.triggered = true := kept.flag.2 fired
    rw [show s.trigger = s from if_pos up]
    exact kept.frame rfl rfl (fun r n there => .inl there) (fun _ => fired) (by simp)
  have down : ¬ s.triggered = true := mt kept.flag.1 fired
  have nothing : s.channel.sent = 0 := kept.unsent fired
  have now : Triggered (past ++ [(.trigger h, .flag true)]) := triggered_snoc.2 (.inr rfl)
  have until_now := untilTrigger_snoc_trigger (x := (.trigger h, .flag true)) fired rfl
  have nobody (r : Nat) : ¬ Received past r := fun received => fired (kept.early r received).1
  rw [show s.trigger = { channel := s.channel.send, triggered := true } from if_neg down]
  refine ⟨by simp [now], ?_, fun quiet => absurd now quiet, ?_, ?_, ?_⟩
  · dsimp only
    unfold Channel.send
    split <;> simp [nothing]
  -- whoever waits has subscribed, so waits for the very first message
  · intro r n there
    have before : s.channel.waiting? r = some n := by
      have receivers := (trigger_keeps s).2
      rw [show s.trigger = { channel := s.channel.send, triggered := true } from if_neg down]
        at receivers
      rwa [Channel.waiting?, receivers] at there
    have zero : n = 0 := by
      have := (kept.due r n before).1
      omega
    have subscribed : Subscribed past r :=
      ((same.receivers.there_iff r).1 (Option.isSome_of_eq_some before)).1
    have due : Due (past ++ [(.trigger h, .flag true)]) r := by
      refine ⟨now, ?_, ?_⟩
      · rw [until_now]
        exact subscribed
      · rw [received_snoc]
        simp [nobody]
    rw [Channel.send_of_waiting before, zero, nothing]
    simp [due]
  · intro r received
    rw [received_snoc] at received
    simp [nobody] at received
  · intro r
    have none : past.count (.tryReceive r, .reception .received) = 0 :=
      List.count_eq_zero.2 (nobody r)
    simp [List.count_append, none]

/-- A receiver that is due receives; any other finds nothing. -/
theorem tryReceive (kept : Delivered past s) {n : Nat} (there : s.channel.waiting? r = some n) :
    Delivered (past ++ [(.tryReceive r, .reception (s.channel.receive r n).2)])
      { s with channel := (s.channel.receive r n).1 } := by
  obtain ⟨place, due_iff⟩ := kept.due r n there
  rw [Channel.receive_eq kept.few place]
  -- a receiver behind the message gets it; any other stays where it is
  by_cases waits : n < s.channel.sent
  · have due : Due past r := due_iff.1 waits
    rw [if_pos waits]
    refine ⟨?_, kept.few, ?_, ?_, ?_, ?_⟩
    · rw [triggered_snoc, kept.flag]
      simp [isTrigger]
    · intro quiet
      exact absurd (triggered_snoc.2 (.inl due.1)) quiet
    · intro q m found
      dsimp only at found ⊢
      rw [Channel.waiting?_set there] at found
      by_cases own : q = r
      · subst own
        rw [if_pos rfl] at found
        obtain rfl := Option.some.inj found
        have received : Received (past ++ [(.tryReceive q, .reception .received)]) q :=
          received_snoc.2 (.inr rfl)
        simp [Due, received]
      · rw [if_neg own] at found
        rw [due_snoc (by simp [isTrigger]) (by simpa using own)]
        exact kept.due q m found
    · intro q received
      rw [untilTrigger_append_of_triggered due.1]
      refine ⟨triggered_snoc.2 (.inl due.1), ?_⟩
      rcases received_snoc.1 received with old | new
      · exact (kept.early q old).2
      · have own : q = r := by simpa using new
        rw [own]
        exact due.2.1
    · intro q
      by_cases own : q = r
      · subst own
        have none : past.count (.tryReceive q, .reception .received) = 0 :=
          List.count_eq_zero.2 due.2.2
        simp [List.count_append, none]
      · have other : ((.tryReceive r, .reception .received) : Step × Answer) ≠
            (.tryReceive q, .reception .received) := by simpa using Ne.symm own
        rw [List.count_append, List.count_singleton, if_neg (by simpa using other)]
        exact kept.once q
  · rw [if_neg waits]
    have done : ¬ Due past r := mt due_iff.2 waits
    refine kept.frame rfl rfl ?_ (by simp [isTrigger]) (by split <;> simp)
    intro q m found
    dsimp only at found ⊢
    rw [Channel.waiting?_set there] at found
    by_cases own : q = r
    · subst own
      rw [if_pos rfl] at found
      exact .inr ⟨(Option.some.inj found).symm, done⟩
    · rw [if_neg own] at found
      exact .inl found

theorem step (kept : Delivered past s) (same : Kept past s.channel) (done : Done s a next) :
    Delivered (past ++ [(a, next.2)]) next.1 := by
  cases done with
  | subscribe there =>
    refine kept.frame rfl rfl ?_ (by simp [isTrigger]) (by simp)
    intro q m found
    dsimp only at found ⊢
    rw [Channel.waiting?_subscribe] at found
    -- the new receiver begins behind everything sent, and was not there before any trigger
    by_cases new : q = s.channel.receivers.length
    · rw [if_pos new] at found
      refine .inr ⟨(Option.some.inj found).symm, ?_⟩
      intro due
      have old := (same.receivers.given_iff q).1 due.2.1.of_untilTrigger
      omega
    · rw [if_neg new] at found
      exact .inl found
  | dropReceiver there =>
    refine kept.frame rfl rfl ?_ (by simp [isTrigger]) (by simp)
    intro q m found
    dsimp only at found ⊢
    rw [Channel.waiting?_dropReceiver] at found
    split at found
    · cases found
    · exact .inl found
  | trigger there => exact kept.trigger same _
  | tryReceive there => exact kept.tryReceive there
  | clone there => exact kept.frame rfl rfl (fun _ _ => .inl) (by simp [isTrigger]) (by simp)
  | drop there => exact kept.frame rfl rfl (fun _ _ => .inl) (by simp [isTrigger]) (by simp)
  | isTriggered there => exact kept.frame rfl rfl (fun _ _ => .inl) (by simp [isTrigger]) (by simp)
  | noHandle gone =>
    exact kept.frame rfl rfl (fun _ _ => .inl) (by cases a <;> simp [isTrigger]) (by simp)
  | noReceiver gone =>
    exact kept.frame rfl rfl (fun _ _ => .inl) (by cases a <;> simp [isTrigger]) (by simp)

end Delivered

/-! ### Runs -/

/-- A shutdown is what the record says. -/
structure Reflects (past : History) (s : Shutdown) : Prop where
  kept : Kept past s.channel
  delivered : Delivered past s

namespace Reflects

theorem start : Reflects [] {} := ⟨.start, .start⟩

theorem step (seen : Reflects past s) (a : Step) :
    Reflects (past ++ [(a, (s.step a).2)]) (s.step a).1 :=
  ⟨seen.kept.step (step_done s a), seen.delivered.step seen.kept (step_done s a)⟩

theorem run (seen : Reflects past s) (steps : List Step) :
    Reflects (past ++ s.history steps) (s.run steps).1 := by
  induction steps generalizing past s with
  | nil =>
    rw [history, List.zip_nil_left, List.append_nil]
    exact seen
  | cons a rest ih =>
    have later := ih (seen.step a)
    rwa [List.append_assoc, List.singleton_append, ← history_cons] at later

theorem live_iff (seen : Reflects past s) : s.channel.hasHandle h = true ↔ Live past h :=
  seen.kept.handles.there_iff h

theorem waits_iff (seen : Reflects past s) : (s.channel.waiting? r).isSome = true ↔ Waits past r :=
  seen.kept.receivers.there_iff r

/-- What a receiver that is there gets if it looks now. -/
theorem look_eq (seen : Reflects past s) {n : Nat} (there : s.channel.waiting? r = some n) :
    (Due past r → s.channel.look n = .received) ∧
      (¬ Due past r → s.channel.look n = if s.channel.isOpen then .empty else .closed) := by
  obtain ⟨place, due_iff⟩ := seen.delivered.due r n there
  have found : s.channel.look n = (s.channel.receive r n).2 := rfl
  rw [found, Channel.receive_eq seen.delivered.few place]
  constructor
  · intro due
    exact if_pos (due_iff.2 due)
  · intro done
    exact if_neg (mt due_iff.1 done)

end Reflects

/-- The answers that follow what was done so far. -/
structure Rules (past : History) (answer : Step → Answer) : Prop where
  /-- The flag is up exactly if some handle was triggered. -/
  flag : ∀ h, Live past h → ∃ b, answer (.isTriggered h) = .flag b ∧ (b = true ↔ Triggered past)
  received : ∀ r, Waits past r → (answer (.tryReceive r) = .reception .received ↔ Due past r)
  closed : ∀ r, Waits past r →
    (answer (.tryReceive r) = .reception .closed ↔ ¬ Due past r ∧ ∀ h, ¬ Live past h)
  empty : ∀ r, Waits past r →
    (answer (.tryReceive r) = .reception .empty ↔ ¬ Due past r ∧ ∃ h, Live past h)
  neverLagged : ∀ a, answer a ≠ .reception .lagged
  trigger : ∀ h, Live past h → answer (.trigger h) = .flag true
  drop : ∀ h, Live past h → answer (.drop h) = .dropped
  dropReceiver : ∀ r, Waits past r → answer (.dropReceiver r) = .dropped
  /-- A new handle, and a new receiver, has a number of its own. -/
  clone : ∀ h, Live past h → ∃ g, answer (.clone h) = .handle g ∧ ¬ Given past g
  subscribe : ∀ h, Live past h → ∃ r, answer (.subscribe h) = .receiver r ∧ ¬ Subscribed past r
  /-- Nothing is done with a handle or a receiver that is not there. -/
  noHandle : ∀ a h, a.handle? = some h → ¬ Live past h → answer a = .gone
  noReceiver : ∀ a r, a.receiver? = some r → ¬ Waits past r → answer a = .gone

namespace Reflects

theorem exists_waiting (seen : Reflects past s) (waits : Waits past r) :
    ∃ n, s.channel.waiting? r = some n :=
  Option.isSome_iff_exists.1 (seen.waits_iff.2 waits)

theorem isOpen_iff (seen : Reflects past s) : s.channel.isOpen = true ↔ ∃ h, Live past h := by
  simp only [Channel.isOpen_iff, seen.live_iff]

theorem tryReceive_cases (seen : Reflects past s) (waits : Waits past r) :
    (Due past r ∧ (s.step (.tryReceive r)).2 = .reception .received) ∨
      (¬ Due past r ∧ (s.step (.tryReceive r)).2 =
        .reception (if s.channel.isOpen then .empty else .closed)) := by
  obtain ⟨n, there⟩ := seen.exists_waiting waits
  have answer : (s.step (.tryReceive r)).2 = .reception (s.channel.look n) := by
    rw [Shutdown.step, there]
    rfl
  rw [answer]
  by_cases due : Due past r
  · exact .inl ⟨due, congrArg _ ((seen.look_eq there).1 due)⟩
  · exact .inr ⟨due, congrArg _ ((seen.look_eq there).2 due)⟩

theorem step_ne_lagged (seen : Reflects past s) (a : Step) :
    (s.step a).2 ≠ .reception .lagged := by
  have done := step_done s a
  generalize s.step a = next at done
  cases done with
  | @tryReceive r n there =>
    have found : (s.channel.receive r n).2 = s.channel.look n := rfl
    obtain ⟨due, done⟩ := seen.look_eq there
    rw [found]
    by_cases h : Due past r
    · simp [due h]
    · rw [done h]
      split <;> simp
  | _ => simp

theorem rules (seen : Reflects past s) : Rules past fun a => (s.step a).2 := by
  have held {h : Nat} (live : Live past h) : s.channel.hasHandle h = true := seen.live_iff.2 live
  constructor
  case flag =>
    intro h live
    exact ⟨s.triggered, by simp [Shutdown.step, withHandle, held live], seen.delivered.flag⟩
  case received =>
    intro r waits
    rcases seen.tryReceive_cases waits with ⟨due, answer⟩ | ⟨done, answer⟩
    · simp [answer, due]
    · simp only [answer, done, iff_false]
      split <;> simp
  case closed =>
    intro r waits
    rw [← not_exists, ← seen.isOpen_iff]
    rcases seen.tryReceive_cases waits with ⟨due, answer⟩ | ⟨done, answer⟩
    · simp [answer, due]
    · cases opened : s.channel.isOpen <;> simp [answer, done, opened]
  case empty =>
    intro r waits
    rw [← seen.isOpen_iff]
    rcases seen.tryReceive_cases waits with ⟨due, answer⟩ | ⟨done, answer⟩
    · simp [answer, due]
    · cases opened : s.channel.isOpen <;> simp [answer, done, opened]
  case neverLagged => exact seen.step_ne_lagged
  case trigger =>
    intro h live
    simp [Shutdown.step, withHandle, held live]
  case drop =>
    intro h live
    simp [Shutdown.step, withHandle, held live]
  case dropReceiver =>
    intro r waits
    obtain ⟨n, there⟩ := seen.exists_waiting waits
    simp [Shutdown.step, there]
  case clone =>
    intro h live
    refine ⟨s.channel.handles.length, by simp [Shutdown.step, withHandle, held live], ?_⟩
    rw [seen.kept.handles.given_iff]
    omega
  case subscribe =>
    intro h live
    refine ⟨s.channel.receivers.length, by simp [Shutdown.step, withHandle, held live], ?_⟩
    rw [seen.kept.receivers.given_iff]
    omega
  case noHandle =>
    intro a h handle gone
    have absent : s.channel.hasHandle h = false := by simpa using mt seen.live_iff.1 gone
    cases a <;> cases handle <;> simp [Shutdown.step, withHandle, absent]
  case noReceiver =>
    intro a r receiver gone
    have absent : s.channel.waiting? r = none := by simpa using mt seen.waits_iff.1 gone
    cases a <;> cases receiver <;> simp [Shutdown.step, absent]

end Reflects

/-- A receiver's number was not given out before its subscription. -/
theorem subscribed_once {steps : List Step} {earlier later : History}
    (found : history {} steps = earlier ++ (.subscribe h, .receiver r) :: later) :
    ¬ Subscribed earlier r := by
  obtain ⟨xs, ys, -, rfl, answered⟩ := history_split found
  have rules : Rules (history {} xs) _ := (Reflects.start.run xs).rules
  by_cases live : Live (history {} xs) h
  · obtain ⟨q, gives, new⟩ := rules.subscribe h live
    have same : q = r := Answer.receiver.inj (gives.symm.trans answered)
    rwa [same] at new
  · have gone := rules.noHandle (.subscribe h) h rfl live
    cases gone.symm.trans answered

/-- Everything that is answered follows from what was done and answered before: the first trigger is
received once by each receiver that had subscribed, and by no other. -/
theorem answers_after (steps : List Step) :
    let past := history {} steps
    Rules past (fun a => ((run {} steps).1.step a).2) ∧
      (∀ h more, Triggered past → Live (history {} (steps ++ more)) h →
        ((run {} (steps ++ more)).1.step (.isTriggered h)).2 = .flag true) ∧
      (∀ r, past.count (.tryReceive r, .reception .received) ≤ 1) ∧
      ∀ earlier h r later, past = earlier ++ (.subscribe h, .receiver r) :: later →
        Triggered earlier → ¬ Received past r := by
  intro past
  have seen (xs : List Step) : Reflects (history {} xs) (run {} xs).1 := Reflects.start.run xs
  refine ⟨(seen steps).rules, ?_, (seen steps).delivered.once, ?_⟩
  · intro h more fired live
    obtain ⟨b, answer, up⟩ := (seen (steps ++ more)).rules.flag h live
    have still : Triggered (history {} (steps ++ more)) := by
      rw [history_append]
      obtain ⟨x, hx, trigger⟩ := fired
      exact ⟨x, List.mem_append_left _ hx, trigger⟩
    rw [answer, up.2 still]
  · intro earlier h r later split fired received
    obtain ⟨-, early⟩ := (seen steps).delivered.early r received
    have before : untilTrigger (history {} steps) = untilTrigger earlier := by
      rw [show history {} steps = _ from split, untilTrigger_append_of_triggered fired]
    rw [before] at early
    exact subscribed_once split early.of_untilTrigger

-- a receiver gets the trigger, once, although no handle is left
example : history {} [.subscribe 0, .trigger 0, .drop 0, .tryReceive 0, .tryReceive 0] =
    [(.subscribe 0, .receiver 0), (.trigger 0, .flag true), (.drop 0, .dropped),
      (.tryReceive 0, .reception .received), (.tryReceive 0, .reception .closed)] := by
  decide

end WorkerTelemetry.Lifecycle.Shutdown
