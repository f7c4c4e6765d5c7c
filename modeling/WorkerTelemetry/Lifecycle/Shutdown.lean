import WorkerTelemetry.Lifecycle.Broadcast

/-!
Shutting down in an orderly way: any handle triggers the shutdown, the first trigger is broadcast,
and those who subscribed before it learn of it.
-/

namespace WorkerTelemetry.Lifecycle

/-- A shutdown and everyone who holds a handle or a receiver of it. -/
structure Shutdown where
  channel : Channel := .create
  triggered : Bool := false
  deriving DecidableEq, Repr, Inhabited

namespace Shutdown

/-- Something that is done with handles and receivers, which are numbered as they appear. -/
inductive Step
  | subscribe (handle : Nat)
  | clone (handle : Nat)
  | trigger (handle : Nat)
  | isTriggered (handle : Nat)
  | tryReceive (receiver : Nat)
  | drop (handle : Nat)
  | dropReceiver (receiver : Nat)
  deriving DecidableEq, Repr

inductive Answer
  | receiver (n : Nat)
  | handle (n : Nat)
  | flag (b : Bool)
  | reception (r : Reception)
  | dropped
  /-- The handle or the receiver is not there, or no more. -/
  | gone
  deriving DecidableEq, Repr

/-- Triggers the shutdown; only the first trigger is broadcast. -/
def trigger (s : Shutdown) : Shutdown :=
  if s.triggered then s else { channel := s.channel.send, triggered := true }

def withHandle (s : Shutdown) (h : Nat) (act : Shutdown × Answer) : Shutdown × Answer :=
  if s.channel.hasHandle h then act else (s, .gone)

def step (s : Shutdown) : Step → Shutdown × Answer
  | .subscribe h => s.withHandle h
    ({ s with channel := s.channel.subscribe }, .receiver s.channel.receivers.length)
  | .clone h => s.withHandle h
    ({ s with channel := s.channel.addHandle }, .handle s.channel.handles.length)
  | .trigger h => s.withHandle h (s.trigger, .flag true)
  | .isTriggered h => s.withHandle h (s, .flag s.triggered)
  | .drop h => s.withHandle h ({ s with channel := s.channel.dropHandle h }, .dropped)
  | .tryReceive r =>
    match s.channel.waiting? r with
    | none => (s, .gone)
    | some next =>
      let (channel, found) := s.channel.receive r next
      ({ s with channel := channel }, .reception found)
  | .dropReceiver r =>
    match s.channel.waiting? r with
    | none => (s, .gone)
    | some _ => ({ s with channel := s.channel.dropReceiver r }, .dropped)

def run (s : Shutdown) : List Step → Shutdown × List Answer
  | [] => (s, [])
  | a :: rest =>
    let (s, answer) := s.step a
    let (s, answers) := s.run rest
    (s, answer :: answers)

/-- Whether a receiver no longer waits. -/
def ready (s : Shutdown) (r : Nat) : Bool :=
  match s.channel.waiting? r with
  | none => true
  | some next => s.channel.look next != .empty

end Shutdown

end WorkerTelemetry.Lifecycle
