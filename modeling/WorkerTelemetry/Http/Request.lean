/-!
Requests: a method and the path that a target asks for. A target is a path with an optional query
and fragment, a full address with a scheme, or a bare authority, which has no path. Percent signs
are not decoded.
-/

namespace WorkerTelemetry.Http

/-- A character of a method. -/
def isTokenChar (c : Char) : Bool := c.isAlphanum || "!#$%&'*+-.^_`|~".toList.contains c

def isMethod (s : String) : Bool := !s.toList.isEmpty && s.toList.all isTokenChar

/-- Whether the code of a character is within bounds. -/
def within (low high : Nat) (c : Char) : Bool := low ≤ c.toNat && c.toNat ≤ high

def isPathChar (c : Char) : Bool :=
  within 0x21 0x22 c || within 0x24 0x3b c || c == '=' || within 0x40 0x5f c ||
    within 0x61 0x7e c || 0x80 ≤ c.toNat

def isQueryChar (c : Char) : Bool :=
  c == '!' || within 0x24 0x3b c || c == '=' || within 0x3f 0x7e c || 0x80 ≤ c.toNat

/-- The path in front of a query and a fragment; an empty one is the root. -/
def readPath (cs : List Char) : Option (List Char) :=
  let path := cs.takeWhile fun c => c != '?' && c != '#'
  let query :=
    match cs.drop path.length with
    | '?' :: rest => rest.takeWhile (· != '#')
    | _ => []
  if path.all isPathChar && query.all isQueryChar then
    some (if path.isEmpty then ['/'] else path)
  else none

/-- What was seen of an authority. -/
structure AuthorityState where
  colons : Nat := 0
  opened : Bool := false
  closed : Bool := false
  percent : Bool := false
  endsInAt : Bool := false
  deriving DecidableEq, Repr

/-- The most colons that an authority has in one go. -/
def colonLimit : Nat := 8

/-- Takes one character of an authority. Brackets and an at sign make what was in front of them
unimportant. -/
def AuthorityState.take (st : AuthorityState) (c : Char) : Option AuthorityState :=
  if c = ':' then
    if colonLimit ≤ st.colons then none
    else some { st with colons := st.colons + 1, endsInAt := false }
  else if c = '[' then
    if st.percent || st.opened then none else some { st with opened := true, endsInAt := false }
  else if c = ']' then
    if !st.opened || st.closed then none
    else some { st with closed := true, colons := 0, percent := false, endsInAt := false }
  else if c = '@' then some { st with colons := 0, percent := false, endsInAt := true }
  else if c = '%' then some { st with percent := true, endsInAt := false }
  else if c.isAlphanum || "!$&'()*+,-.;=_~".toList.contains c then
    some { st with endsInAt := false }
  else none

/-- The length of the authority at the front; nothing if it is malformed. -/
def authorityLength (cs : List Char) : Option Nat := do
  let front := cs.takeWhile fun c => c != '/' && c != '?' && c != '#'
  let st ← front.foldlM AuthorityState.take {}
  if st.opened != st.closed || 1 < st.colons || st.endsInAt || st.percent then none
  else some front.length

def isSchemeChar (c : Char) : Bool := c.isAlphanum || "+-.~".toList.contains c

/-- The greatest length of a scheme. -/
def schemeLimit : Nat := 64

/-- What follows a scheme: nothing if it is too long, and no scheme if there is none. -/
def afterScheme (cs : List Char) : Option (Option (List Char)) :=
  let scheme := cs.takeWhile isSchemeChar
  match cs.drop scheme.length with
  | ':' :: '/' :: '/' :: rest =>
    if cs.length ≤ 3 then some none
    else if schemeLimit < scheme.length then none
    else some (some rest)
  | _ => some none

/-- The greatest length of a target in bytes. -/
def targetLimit : Nat := 65534

def targetPath (s : String) : Option String :=
  let cs := s.toList
  if cs.isEmpty || targetLimit < s.utf8ByteSize then none
  else if cs = ['*'] then some "*"
  else if cs.head? = some '/' then (readPath cs).map String.ofList
  else do
    match ← afterScheme cs with
    | none => if (← authorityLength cs) = cs.length then some "" else none
    | some rest =>
      let n ← authorityLength rest
      if n = 0 then none else (readPath (rest.drop n)).map String.ofList

structure Request where
  method : String
  path : String
  deriving DecidableEq, Repr

def Request.make (method target : String) : Option Request :=
  if isMethod method then (targetPath target).map fun path => ⟨method, path⟩ else none

example : targetPath "/metrics?x=1#y" = some "/metrics" ∧ targetPath "/ metrics" = none := by
  decide +kernel
example : targetPath "http://h:1" = some "/" ∧ targetPath "h:1" = some "" := by decide +kernel
example : targetPath "a~b://h/m" = some "/m" ∧ targetPath "/\u007f" = none := by decide +kernel

end WorkerTelemetry.Http
