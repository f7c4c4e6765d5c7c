/-!
A channel from several handles to several receivers that keeps one message. A receiver gets the
messages sent after its subscription; if it waits too long it skips those that are no longer kept.
A message that nobody could receive is not sent at all.
-/

namespace WorkerTelemetry.Lifecycle

/-- A channel; messages carry nothing, so only their number counts. -/
structure Channel where
  sent : Nat := 0
  /-- Whether each handle is still there. -/
  handles : List Bool := []
  /-- The number of the message that each receiver waits for; nothing for one that was dropped. -/
  receivers : List (Option Nat) := []
  deriving DecidableEq, Repr, Inhabited

inductive Reception
  | received
  | empty
  | closed
  | lagged
  deriving DecidableEq, Repr

namespace Channel

def create : Channel := { handles := [true] }

def hasHandle (c : Channel) (h : Nat) : Bool := c.handles.getD h false

def waiting? (c : Channel) (r : Nat) : Option Nat := (c.receivers[r]?).join

def isOpen (c : Channel) : Bool := c.handles.any id

def addHandle (c : Channel) : Channel := { c with handles := c.handles ++ [true] }

/-- Adds a receiver; it waits for the next message. -/
def subscribe (c : Channel) : Channel := { c with receivers := c.receivers ++ [some c.sent] }

/-- Sends a message, if there is any receiver. -/
def send (c : Channel) : Channel :=
  if c.receivers.any Option.isSome then { c with sent := c.sent + 1 } else c

def dropHandle (c : Channel) (h : Nat) : Channel := { c with handles := c.handles.set h false }

def dropReceiver (c : Channel) (r : Nat) : Channel := { c with receivers := c.receivers.set r none }

/-- What a receiver that waits for a message finds. -/
def look (c : Channel) (next : Nat) : Reception :=
  if next = c.sent then (if c.isOpen then .empty else .closed)
  else if next + 1 = c.sent then .received
  else .lagged

/-- Receives: after a message the receiver waits for the next, after a lag for the one kept. -/
def receive (c : Channel) (r next : Nat) : Channel × Reception :=
  let found := c.look next
  let next :=
    match found with
    | .received => next + 1
    | .lagged => c.sent - 1
    | _ => next
  ({ c with receivers := c.receivers.set r (some next) }, found)

variable {c : Channel} {h k r q n : Nat}

@[simp] theorem hasHandle_addHandle :
    c.addHandle.hasHandle k = if k = c.handles.length then true else c.hasHandle k := by
  simp only [hasHandle, addHandle, List.getD_eq_getElem?_getD, List.getElem?_append]
  grind

@[simp] theorem hasHandle_dropHandle :
    (c.dropHandle h).hasHandle k = if k = h then false else c.hasHandle k := by
  simp only [hasHandle, dropHandle, List.getD_eq_getElem?_getD, List.getElem?_set]
  grind

theorem isOpen_iff : c.isOpen = true ↔ ∃ h, c.hasHandle h = true := by
  simp only [isOpen, hasHandle, List.any_eq_true, List.getD_eq_getElem?_getD]
  constructor
  · rintro ⟨b, found, there⟩
    obtain ⟨h, at_h⟩ := List.getElem?_of_mem found
    exact ⟨h, by simpa [at_h] using there⟩
  · rintro ⟨h, there⟩
    cases at_h : c.handles[h]? with
    | none => simp [at_h] at there
    | some b => exact ⟨b, List.mem_of_getElem? at_h, by simpa [at_h] using there⟩

@[simp] theorem waiting?_subscribe :
    c.subscribe.waiting? q = if q = c.receivers.length then some c.sent else c.waiting? q := by
  simp only [waiting?, subscribe, List.getElem?_append]
  grind

@[simp] theorem waiting?_dropReceiver :
    (c.dropReceiver r).waiting? q = if q = r then none else c.waiting? q := by
  simp only [waiting?, dropReceiver, List.getElem?_set]
  grind

theorem lt_of_waiting (there : c.waiting? r = some n) : r < c.receivers.length := by
  simp only [waiting?] at there
  grind

/-- A message is sent as soon as one receiver is there. -/
theorem send_of_waiting (there : c.waiting? r = some n) :
    c.send = { c with sent := c.sent + 1 } := by
  have found : c.receivers[r]? = some (some n) := Option.join_eq_some_iff.1 there
  have some_one : c.receivers.any Option.isSome = true :=
    List.any_eq_true.2 ⟨some n, List.mem_of_getElem? found, rfl⟩
  rw [send, if_pos some_one]

theorem waiting?_set (there : c.waiting? r = some n) (m : Nat) :
    waiting? { c with receivers := c.receivers.set r (some m) } q =
      if q = r then some m else c.waiting? q := by
  have inside := lt_of_waiting there
  simp only [waiting?, List.getElem?_set]
  grind

/-- A receiver that has looked is still there. -/
theorem isSome_waiting?_receive (there : c.waiting? r = some n) :
    ((c.receive r n).1.waiting? q).isSome = (c.waiting? q).isSome := by
  simp only [receive]
  rw [waiting?_set there]
  split
  · next same => rw [same, there]; rfl
  · rfl

/-- While at most one message was sent, a receiver that has not missed any gets it if it waits for
it, and waits for the next from then on. -/
theorem receive_eq (few : c.sent ≤ 1) (due : n ≤ c.sent) :
    c.receive r n = ({ c with receivers := c.receivers.set r (some c.sent) },
      if n < c.sent then .received else if c.isOpen then .empty else .closed) := by
  rcases Nat.lt_or_eq_of_le due with waits | rfl
  · have hn : n = 0 := by omega
    have hs : c.sent = 1 := by omega
    simp [receive, look, hn, hs]
  · cases opened : c.isOpen <;> simp [receive, look, opened]

end Channel

end WorkerTelemetry.Lifecycle
