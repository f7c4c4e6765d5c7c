import WorkerTelemetry.Net.SocketAddress
import WorkerTelemetry.Text.Blank

/-!
Listening on a host: an address text is resolved, and the address is bound if it is an address of
this host and not taken. A text that is no socket address still means one if it is an address in a
looser form, or a name that the host knows, with a port behind the last colon.
-/

namespace WorkerTelemetry.Net

/-- What a host lets a program listen on. -/
structure Host where
  /-- The addresses of this host. -/
  isLocal : IpAddress → Bool
  /-- The names that the host knows, in small letters. -/
  names : List (String × IpAddress) := []
  /-- The addresses that others listen on. -/
  taken : List SocketAddress := []
  /-- The port that is chosen when any port will do. -/
  freePort : Nat

/-- The unspecified address and the loopback addresses. -/
def isLoopback : IpAddress → Bool
  | .v4 0 0 0 0 => true
  | .v4 127 _ _ _ => true
  | .v6 [0, 0, 0, 0, 0, 0, 0, n] _ => n == 0 || n == 1
  | _ => false

/-- Why a listener cannot be bound. -/
inductive BindFault
  | invalidAddress
  | invalidPort
  | nulInName
  | unknownName
  | inUse
  | notLocal
  deriving DecidableEq, Repr

namespace BindFault

/-- The number of a fault that the operating system reports, its kind and its wording. -/
def system : BindFault → Option (Nat × String × String)
  | .inUse => some (98, "AddrInUse", "Address already in use")
  | .notLocal => some (99, "AddrNotAvailable", "Cannot assign requested address")
  | _ => none

/-- The kind and the wording of a fault that is found without binding. -/
def own : BindFault → String × String
  | .invalidPort => ("InvalidInput", "invalid port value")
  | .nulInName => ("InvalidInput", "file name contained an unexpected NUL byte")
  | .unknownName =>
    ("Uncategorized", "failed to lookup address information: Name or service not known")
  | _ => ("InvalidInput", "invalid socket address")

def message (f : BindFault) : String :=
  match f.system with
  | some (code, _, text) => text ++ " (os error " ++ SocketAddress.numberText code ++ ")"
  | none => f.own.2

def listing (f : BindFault) : String :=
  match f.system with
  | some (code, kind, text) =>
    "Os \x7b code: " ++ SocketAddress.numberText code ++ ", kind: " ++ kind ++ ", message: " ++
      Text.quote text ++ " \x7d"
  | none =>
    let (head, label) := if f = .unknownName then ("Custom", "error") else ("Error", "message")
    head ++ " \x7b kind: " ++ f.own.1 ++ ", " ++ label ++ ": " ++ Text.quote f.own.2 ++ " \x7d"

end BindFault

/-- Reads a port that may have a plus sign. -/
def readSignedPort (cs : List Char) : Option Nat :=
  let ds :=
    match cs with
    | '+' :: ds => ds
    | ds => ds
  match SocketAddress.readNumber 10 none true 65536 ds with
  | some (n, []) => some n
  | _ => none

/-! ### Loose addresses -/

/-- Reads a part of a loose address: hexadecimal behind `0x`, octal behind a zero, else decimal. -/
def readPart (cs : List Char) : Option (Nat × List Char) :=
  let (base, digits) :=
    match cs with
    | '0' :: 'x' :: ds => (16, ds)
    | '0' :: 'X' :: ds => (16, ds)
    | '0' :: _ => (8, cs)
    | _ => (10, cs)
  SocketAddress.readNumber base none true 0x100000000 digits

/-- Reads at most so many parts with points between them; each but the last is one octet. -/
def readParts : Nat → List Char → Option (List Nat)
  | 0, _ => none
  | left + 1, cs =>
    match readPart cs with
    | some (n, []) => some [n]
    | some (n, '.' :: cs) => if n < 256 then (readParts left cs).map (n :: ·) else none
    | _ => none

/-- The address of some parts: the last one fills the octets that are left. -/
def addressOfParts : List Nat → Option IpAddress
  | [n] => some (.v4 (n / 0x1000000) (n / 0x10000 % 256) (n / 256 % 256) (n % 256))
  | [a, n] =>
    if n < 0x1000000 then some (.v4 a (n / 0x10000) (n / 256 % 256) (n % 256)) else none
  | [a, b, n] => if n < 0x10000 then some (.v4 a b (n / 256) (n % 256)) else none
  | [a, b, c, n] => if n < 256 then some (.v4 a b c n) else none
  | _ => none

/-- The version 6 address, perhaps with a scope, that a text is. -/
def readBareV6 (cs : List Char) : Option IpAddress := do
  let (groups, cs) ← SocketAddress.readV6 cs
  let (scope, cs) := SocketAddress.readScope cs
  if cs = [] then some (.v6 groups scope) else none

def Host.lookup (h : Host) (name : List Char) : Option IpAddress :=
  ((readParts 4 name).bind addressOfParts).orElse fun _ =>
    (readBareV6 name).orElse fun _ =>
      (h.names.find? fun e => e.1 == Text.toLowerAscii (String.ofList name)).map (·.2)

def Host.resolve (h : Host) (text : String) : Except BindFault SocketAddress :=
  match SocketAddress.parse text with
  | some a => .ok a
  | none =>
    let back := text.toList.reverse
    let port := (back.takeWhile (· != ':')).reverse
    match back.drop port.length with
    | [] => .error .invalidAddress
    | _ :: front =>
      match readSignedPort port with
      | none => .error .invalidPort
      | some n =>
        if front.contains '\x00' then .error .nulInName
        else
          match h.lookup front.reverse with
          | some ip => .ok ⟨ip, n⟩
          | none => .error .unknownName

/-- Binds a listener; port zero stands for any free port. -/
def Host.bind (h : Host) (text : String) : Except BindFault SocketAddress := do
  let a ← h.resolve text
  if !h.isLocal a.ip then throw .notLocal
  if a ∈ h.taken then throw .inUse
  return if a.port = 0 then { a with port := h.freePort } else a

/-- A loose address of four plain octets is that address. -/
theorem addressOfParts_four {a b c d : Nat} (h : d < 256) :
    addressOfParts [a, b, c, d] = some (.v4 a b c d) := if_pos h

example : (readParts 4 "127.1".toList).bind addressOfParts = some (.v4 127 0 0 1) := by
  decide +kernel
example : (readParts 4 "0x7f000001".toList).bind addressOfParts = some (.v4 127 0 0 1) := by
  decide +kernel
example : (readParts 4 "1.2.3".toList).bind addressOfParts = some (.v4 1 2 0 3) := by
  decide +kernel
example : readParts 4 "08".toList = none ∧ readParts 4 "1.2.3.4.5".toList = none := by
  decide +kernel

end WorkerTelemetry.Net
