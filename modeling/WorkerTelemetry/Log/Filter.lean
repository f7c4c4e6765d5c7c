import WorkerTelemetry.Log.Event
import WorkerTelemetry.Log.Pattern
import WorkerTelemetry.Text.Bytes
import WorkerTelemetry.Text.Lines

/-!
Filters of events by level and speaking part. A filter is a list of directives, such as `warn` or
`worker::http=debug`; the most specific directive that concerns an event decides. Directives may
also name a span and the fields of an event; those that only a span can satisfy never concern an
event on its own.
-/

namespace WorkerTelemetry.Log

def Level.verbosity : Level → Nat
  | .error => 1
  | .warn => 2
  | .info => 3
  | .debug => 4
  | .trace => 5

structure Directive where
  /-- The start of the names of the parts concerned. -/
  target : Option String := none
  /-- The span that has to be entered. -/
  span : Option String := none
  /-- The fields an event must have, each with whether a value is asked for as well. -/
  fields : List (String × Bool) := []
  /-- The greatest verbosity let through; 0 lets nothing through. -/
  verbosity : Nat := 5
  deriving DecidableEq, Repr

namespace Directive

/-- Whether the directive can decide about an event outside of any span. -/
def isStatic (d : Directive) : Bool := d.span.isNone && d.fields.all fun f => !f.2

def concerns (d : Directive) (e : Event) : Bool :=
  (match d.target with
    | none => true
    | some t => t.toList.isPrefixOf e.target.toList) &&
  d.fields.all fun f => e.fields.any fun g => g.1 == f.1

/-- The length of the target, none being less than any. -/
def targetSize (d : Directive) : Nat := (d.target.map fun t => t.utf8ByteSize + 1).getD 0

/-- What a directive names, for comparing: the longer target first, then the more fields, then
the names themselves. -/
def scope (d : Directive) : Nat × Nat × String × List String :=
  (d.targetSize, d.fields.length, d.target.getD "", d.fields.map (·.1))

def before (a b : Directive) : Bool :=
  let (n, k, t, fs) := a.scope
  let (m, l, u, gs) := b.scope
  decide (m < n) || (m == n && (decide (l < k) || (l == k &&
    (decide (u < t) || (u == t && decide (gs < fs))))))

/-- The verbosity of a level name. A number from 0 to 5 is one too, and the empty name stands for
errors. -/
def verbosityOf (s : String) : Option Nat :=
  let digits := if s.toList.head? = some '+' then s.toList.drop 1 else s.toList
  if digits ≠ [] ∧ digits.all Char.isDigit = true ∧ Nat.ofDigitChars 10 digits 0 ≤ 5 then
    some (Nat.ofDigitChars 10 digits 0)
  else
    match Text.toLowerAscii s with
    | "" => some 1
    | "off" => some 0
    | "error" => some 1
    | "warn" => some 2
    | "info" => some 3
    | "debug" => some 4
    | "trace" => some 5
    | _ => none

/-- Why a directive cannot be read. -/
inductive Fault
  | malformed
  /-- A part of it would begin or end inside of a character. -/
  | severed
  deriving DecidableEq, Repr

/-- Where the reading of a directive stands; positions are those where a part began. -/
inductive Stage
  | start
  | levelOrTarget (start : Nat)
  | span (start : Nat)
  | field (start : Nat)
  | fields
  | target
  | level (start : Nat)

/-- A character that a directive may begin with, a bracket apart. -/
def opens (c : Char) : Bool :=
  c == '-' || c == ':' || c == '_' || Text.isLetterOrNumber c

/-- A field of a directive: its name, and perhaps a value behind an equals sign. A second equals
sign ends the value. -/
def fieldOf (s : String) : Except Fault (String × Bool) :=
  match Text.splitText '=' s with
  | name :: value :: _ => if Pattern.isValue value then .ok (name, true) else .error .malformed
  | _ => .ok (s, false)

def piece (cs : List Char) (start stop : Nat) : Except Fault String :=
  match Text.sliceBytes start stop cs with
  | some p => .ok (String.ofList p)
  | none => .error .severed

def tail (cs : List Char) (start : Nat) : Except Fault String :=
  match Text.dropBytes start cs with
  | some p => .ok (String.ofList p)
  | none => .error .severed

/-- Reads one character; `cs` is the whole directive and `i` the position of the character. -/
def step (cs : List Char) (i : Nat) (c : Char) (d : Directive) :
    Stage → Except Fault (Directive × Stage)
  | .start =>
    if c = '[' then .ok (d, .span (i + 1))
    else if opens c then .ok (d, .levelOrTarget i)
    else .error .malformed
  | .levelOrTarget s =>
    if c = '=' then do return ({ d with target := some (← piece cs s i) }, .level (i + 1))
    else if c = '[' then do return ({ d with target := some (← piece cs s i) }, .span (i + 1))
    else .ok (d, .levelOrTarget s)
  | .target => if c = '=' then .ok (d, .level (i + 1)) else .error .malformed
  | .span s =>
    if c = ']' then do return ({ d with span := some (← piece cs s i) }, .target)
    else if c = '\x7b' then do
      let name ← piece cs s i
      return ({ d with span := if name = "" then none else some name }, .field (i + 1))
    else .ok (d, .span s)
  | .field s =>
    if c = '\x7d' then do
      let text ← piece cs s i
      if text = "" then throw .malformed
      return ({ d with fields := d.fields ++ [← fieldOf text] }, .fields)
    else .ok (d, .field s)
  | .fields => if c = ']' then .ok (d, .target) else .error .malformed
  | .level s => .ok (d, .level s)

/-- Reads the characters from position `i` on. -/
def run (cs : List Char) : Nat → List Char → Directive → Stage → Except Fault (Directive × Stage)
  | _, [], d, st => .ok (d, st)
  | i, c :: rest, d, st => do
    let (d, st) ← step cs i c d st
    run cs (i + c.utf8Size) rest d st

/-- Reads a directive. A name that is no level is a target with every level. Positions are counted
in bytes without the blanks in front, but parts are taken from the directive as it stands, so such
blanks shift the parts. -/
def parse (s : String) : Except Fault Directive := do
  let cs := s.toList
  match ← run cs 0 (Text.trimChars cs) {} .start with
  | (d, .levelOrTarget start) =>
    let name ← tail cs start
    match (if name = "" then some 5 else verbosityOf name) with
    | some v => return { d with verbosity := v }
    | none => return { d with target := some name }
  | (d, .level start) =>
    let name ← tail cs start
    if name = "" then return d
    match verbosityOf name with
    | some v => return { d with verbosity := v }
    | none => throw .malformed
  | (d, .target) => return d
  | _ => throw .malformed

end Directive

/-- A filter: its directives, those to be tried first in front. -/
structure Filter where
  directives : List Directive
  deriving DecidableEq, Repr

namespace Filter

/-- Puts a directive behind those that are tried before it, instead of one of the same scope. -/
def place (d : Directive) : List Directive → List Directive
  | [] => [d]
  | e :: es =>
    if d.scope = e.scope then d :: es
    else if d.before e then d :: e :: es
    else e :: place d es

/-- The filter of some directives; of two with one scope the later counts. -/
def ofDirectives (ds : List Directive) : Filter :=
  ⟨(ds.filter Directive.isStatic).foldl (fun acc d => place d acc) []⟩

def everything : Filter := ofDirectives [{}]

def ofSeverity (s : Severity) : Filter :=
  ofDirectives [{ verbosity := (Directive.verbosityOf s.label).getD 0 }]

/-- Reads directives between commas; without any, errors are let through. -/
def parse (s : String) : Except Directive.Fault Filter :=
  let parts := (Text.splitText ',' s).filter (· ≠ "")
  if parts = [] then .ok (ofDirectives [{ verbosity := 1 }])
  else (parts.mapM Directive.parse).map ofDirectives

/-- Whether an event is let through: the first directive that concerns it decides. -/
def passes (f : Filter) (e : Event) : Bool :=
  match f.directives.find? fun d => d.concerns e with
  | some d => decide (e.level.verbosity ≤ d.verbosity)
  | none => false

end Filter

/-- Where events go: those that the filter lets through are written to the sink. -/
structure Console where
  filter : Filter
  sink : Sink

namespace Console

def unfiltered (sink : Sink) : Console := ⟨.everything, sink⟩

def emit (c : Console) (time : Timestamp) (e : Event) : Console :=
  if c.filter.passes e then { c with sink := c.sink.write time e.record } else c

end Console

end WorkerTelemetry.Log
