/-!
Byte writers as they behave, call by call. A call may be interrupted, in which case it is made
again, may take a part of the bytes offered, may take none, or may fail. Interruptions come in
finite runs, so writing always ends. Nothing is assumed about the order in which these happen.
-/

namespace WorkerTelemetry.Log

/-- How a call that is not interrupted ends. -/
inductive Reply
  /-- Takes at most this many bytes. -/
  | takes (most : Nat)
  /-- Takes every byte offered. -/
  | takesAll
  /-- Takes nothing and reports an error. -/
  | fails
  deriving DecidableEq, Repr

/-- A call that is not interrupted, after a number of calls that are. -/
structure Turn where
  interruptions : Nat
  reply : Reply
  deriving DecidableEq, Repr

/-- A writer: how it will behave, given the number of calls made so far, and what it was given. -/
structure Writer where
  turn : Nat → Turn
  calls : Nat := 0
  flushes : Nat := 0
  accepted : List UInt8 := []

namespace Writer

def steady : Writer := { turn := fun _ => ⟨0, .takesAll⟩ }

instance : Inhabited Writer := ⟨steady⟩

/-- Offers bytes until all are taken, a call takes none, or a call fails. -/
def writeAll (w : Writer) (bytes : List UInt8) : Writer :=
  if h : bytes = [] then w
  else
    let turn := w.turn w.calls
    let called := { w with calls := w.calls + turn.interruptions + 1 }
    match turn.reply with
    | .fails => called
    | .takesAll => { called with accepted := w.accepted ++ bytes }
    | .takes 0 => called
    | .takes (n + 1) =>
      have : (bytes.drop (n + 1)).length < bytes.length := by
        have := List.length_pos_iff.2 h
        rw [List.length_drop]
        omega
      writeAll { called with accepted := w.accepted ++ bytes.take (n + 1) } (bytes.drop (n + 1))
termination_by bytes.length

/-- Flushes the writer; what a flush answers does not matter. -/
def flush (w : Writer) : Writer := { w with flushes := w.flushes + 1 }

/-- A schedule that repeats: every so many calls one fails, else is interrupted, else takes
nothing; any other call takes at most `chunk` bytes. Zero stands for never and for no limit. -/
structure Schedule where
  failEvery : Nat := 0
  interruptEvery : Nat := 0
  zeroEvery : Nat := 0
  chunk : Nat := 0
  deriving DecidableEq, Repr

namespace Schedule

/-- Whether call number `n` is one of every `period`. -/
def falls (period n : Nat) : Bool := period != 0 && n % period == 0

/-- How call number `n` ends, if it is not interrupted. -/
def reply (s : Schedule) (n : Nat) : Reply :=
  if falls s.failEvery n then .fails
  else if falls s.zeroEvery n then .takes 0
  else if s.chunk = 0 then .takesAll
  else .takes s.chunk

def interrupts (s : Schedule) (n : Nat) : Bool :=
  !falls s.failEvery n && falls s.interruptEvery n

/-- The number of interrupted calls from number `n` on, up to a bound. -/
def interruptionsFrom (s : Schedule) (n : Nat) : Nat → Nat
  | 0 => 0
  | bound + 1 => if s.interrupts n then 1 + s.interruptionsFrom (n + 1) bound else 0

/-- The next turn after `calls` calls. With a period of one every call is interrupted, unless some
calls fail; then the failing call ends the run of interruptions. -/
def turn (s : Schedule) (calls : Nat) : Turn :=
  let interruptions := s.interruptionsFrom (calls + 1) (s.failEvery + 1)
  ⟨interruptions, s.reply (calls + 1 + interruptions)⟩

end Schedule

/-- A writer that behaves by a repeating schedule. -/
def scheduled (s : Schedule) : Writer := { turn := s.turn }

end Writer

end WorkerTelemetry.Log
