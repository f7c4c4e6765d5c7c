import WorkerTelemetry.Decimal.Layout
import WorkerTelemetry.Text.Lines
import WorkerTelemetry.Text.Quoted

/-!
Socket addresses: an internet address and a port. Version 4 addresses are four decimal octets
without needless zeros; version 6 addresses stand between brackets, are eight hexadecimal groups,
one run of which may be left out, and may end in a version 4 address and a scope.
-/

namespace WorkerTelemetry.Net

inductive IpAddress
  | v4 (a b c d : Nat)
  | v6 (groups : List Nat) (scope : Nat)
  deriving DecidableEq, Repr

structure SocketAddress where
  ip : IpAddress
  port : Nat
  deriving DecidableEq, Repr

namespace SocketAddress

def digitValue? (base : Nat) (c : Char) : Option Nat :=
  let n :=
    if c.isDigit then some (c.toNat - 48)
    else if 'a' ≤ c ∧ c ≤ 'f' then some (c.toNat - 87)
    else if 'A' ≤ c ∧ c ≤ 'F' then some (c.toNat - 55)
    else none
  n.filter (· < base)

/-- The value of digits, the first being the highest. -/
def valueOf (base : Nat) (ds : List Char) : Nat :=
  ds.foldl (fun n c => n * base + (digitValue? base c).getD 0) 0

/-- Reads a number below a bound, with at most so many digits. -/
def readNumber (base : Nat) (maxDigits : Option Nat) (zeros : Bool) (bound : Nat)
    (cs : List Char) : Option (Nat × List Char) :=
  let ds := cs.takeWhile fun c => (digitValue? base c).isSome
  let n := valueOf base ds
  if ds = [] then none
  else if (maxDigits.map fun m => decide (m < ds.length)).getD false = true then none
  else if zeros = false ∧ ds.head? = some '0' ∧ 1 < ds.length then none
  else if bound ≤ n then none
  else some (n, cs.drop ds.length)

def readChar (c : Char) : List Char → Option (List Char)
  | d :: cs => if d = c then some cs else none
  | [] => none

def readOctet (cs : List Char) : Option (Nat × List Char) := readNumber 10 (some 3) false 256 cs

def readV4 (cs : List Char) : Option ((Nat × Nat × Nat × Nat) × List Char) := do
  let (a, cs) ← readOctet cs
  let (b, cs) ← readOctet (← readChar '.' cs)
  let (c, cs) ← readOctet (← readChar '.' cs)
  let (d, cs) ← readOctet (← readChar '.' cs)
  return ((a, b, c, d), cs)

/-- Reads something behind a colon; the first item has none. -/
def behindColon {α : Type} (first : Bool) (read : List Char → Option (α × List Char))
    (cs : List Char) : Option (α × List Char) :=
  if first then read cs else (readChar ':' cs).bind read

/-- Reads at most `left` groups; says whether they ended in a version 4 address. -/
def readGroups : Nat → Bool → List Char → List Nat × Bool × List Char
  | 0, _, cs => ([], false, cs)
  | left + 1, first, cs =>
    match (if left = 0 then none else behindColon first readV4 cs) with
    | some ((a, b, c, d), cs) => ([a * 256 + b, c * 256 + d], true, cs)
    | none =>
      match behindColon first (readNumber 16 (some 4) true 65536) cs with
      | none => ([], false, cs)
      | some (g, cs) =>
        let (gs, v4, cs) := readGroups left false cs
        (g :: gs, v4, cs)

/-- Reads the eight groups of a version 6 address; two colons stand for at least one zero group. -/
def readV6 (cs : List Char) : Option (List Nat × List Char) :=
  let (head, v4, cs) := readGroups 8 true cs
  if head.length = 8 then some (head, cs)
  else if v4 then none
  else do
    let cs ← readChar ':' (← readChar ':' cs)
    let (tail, _, cs) := readGroups (7 - head.length) true cs
    return (head ++ List.replicate (8 - head.length - tail.length) 0 ++ tail, cs)

def readPort (cs : List Char) : Option (Nat × List Char) := do
  readNumber 10 none true 65536 (← readChar ':' cs)

/-- Reads the scope of a version 6 address; without one it is zero. -/
def readScope (cs : List Char) : Nat × List Char :=
  ((readChar '%' cs).bind (readNumber 10 none true 0x100000000)).getD (0, cs)

def readSocketV4 (cs : List Char) : Option (SocketAddress × List Char) := do
  let ((a, b, c, d), cs) ← readV4 cs
  let (port, cs) ← readPort cs
  return (⟨.v4 a b c d, port⟩, cs)

def readSocketV6 (cs : List Char) : Option (SocketAddress × List Char) := do
  let (groups, cs) ← readV6 (← readChar '[' cs)
  let (scope, cs) := readScope cs
  let (port, cs) ← readPort (← readChar ']' cs)
  return (⟨.v6 groups scope, port⟩, cs)

def parse (s : String) : Option SocketAddress :=
  match (readSocketV4 s.toList).orElse fun _ => readSocketV6 s.toList with
  | some (a, []) => some a
  | _ => none

def numberText (n : Nat) : String := String.ofList (Decimal.digitChars n)

/-- The length of the run of zeros at the front. -/
def zeroRun (gs : List Nat) : Nat := (gs.takeWhile (· == 0)).length

/-- The start and length of the first longest run of zeros. -/
def longestZeroRun : Nat → List Nat → Nat × Nat
  | i, [] => (i, 0)
  | i, g :: gs =>
    let here := zeroRun (g :: gs)
    let later := longestZeroRun (i + 1) gs
    if later.2 ≤ here then (i, here) else later

def groupsText (gs : List Nat) : String :=
  ":".intercalate (gs.map fun g => String.ofList (Text.hexDigits g))

/-- The text of an internet address: the longest run of zero groups is left out. -/
def ipText : IpAddress → String
  | .v4 a b c d => ".".intercalate ([a, b, c, d].map numberText)
  | .v6 [0, 0, 0, 0, 0, 0xffff, g, h] _ =>
    "::ffff:" ++ ".".intercalate ([g / 256, g % 256, h / 256, h % 256].map numberText)
  | .v6 groups _ =>
    let (start, length) := longestZeroRun 0 groups
    if length < 2 then groupsText groups
    else groupsText (groups.take start) ++ "::" ++ groupsText (groups.drop (start + length))

def toText (a : SocketAddress) : String :=
  match a.ip with
  | .v4 .. => ipText a.ip ++ ":" ++ numberText a.port
  | .v6 _ scope =>
    "[" ++ ipText a.ip ++ (if scope = 0 then "" else "%" ++ numberText scope) ++ "]:" ++
      numberText a.port

example : (parse "127.0.0.1:0080").map toText = some "127.0.0.1:80" := by decide +kernel
example : parse "127.0.0.01:80" = none ∧ parse "1.2.3.4:65536" = none := by decide +kernel
example : (parse "[1:0:0:2::%7]:80").map toText = some "[1:0:0:2::%7]:80" := by decide +kernel

end SocketAddress

end WorkerTelemetry.Net
