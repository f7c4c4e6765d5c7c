import WorkerTelemetry.Decimal.Numeral
import WorkerTelemetry.Json.Text
import WorkerTelemetry.Text.Blank
import WorkerTelemetry.Text.Letter

/-!
Patterns for the values of fields: regular expressions, of which only the form is read here, as no
event outside of a span is held against one. A pattern stands between braces, so it has no closing
brace, and what would need one (a count, a code point of any length, a property) is malformed.
There are no tables of letter case and of categories: ignoring case, word edges, and digits, blanks
and word characters are for bytes only. Sets of bytes and bytes given by number have to be ASCII;
a character beyond that stands for its own bytes.
-/

namespace WorkerTelemetry.Log.Pattern

/-- The flags that decide about the form. -/
structure Mode where
  /-- Letter case is ignored. -/
  caseless : Bool := false
  /-- Characters are met, not bytes. -/
  unicode : Bool := true
  /-- Blanks and comments are passed over. -/
  spaced : Bool := false
  deriving DecidableEq, Repr

namespace Mode

/-- The letters of flags, and the sign in front of flags that are cleared. -/
def letters : List Char := "imsRUux-".toList

/-- The mode after flags are set, and those behind a minus sign cleared. -/
def set (m : Mode) (flags : List Char) : Mode :=
  let on := flags.takeWhile (· != '-')
  let off := flags.drop on.length
  let pick (letter : Char) (now : Bool) := (now || on.contains letter) && !off.contains letter
  ⟨pick 'i' m.caseless, pick 'u' m.unicode, pick 'x' m.spaced⟩

/-- Passes over blanks and comments; a comment goes from a number sign to the end of its line. -/
def skipSpace : Bool → List Char → List Char
  | _, [] => []
  | true, c :: cs => skipSpace (c != '\n') cs
  | false, c :: cs =>
    if Text.isBlank c then skipSpace false cs
    else if c = '#' then skipSpace true cs
    else c :: cs

/-- Passes over what does not count. -/
def skip (m : Mode) (cs : List Char) : List Char := if m.spaced then skipSpace false cs else cs

/-- The character that is taken to follow a hyphen in a set; a comment counts as its sign only. -/
def peek (m : Mode) (cs : List Char) : Option Char :=
  if m.spaced then
    match cs.dropWhile Text.isBlank with
    | '#' :: cs => (cs.dropWhile Text.isBlank).head?
    | cs => cs.head?
  else cs.head?

end Mode

inductive Atom
  /-- A character, perhaps written by the number of a byte. -/
  | char (c : Char) (byte : Bool)
  /-- Digits, blanks or word characters, or everything else. -/
  | category (negated : Bool)
  /-- A place in the text. -/
  | place
  /-- A place where a word begins or ends, or where none does. -/
  | wordEdge
  deriving DecidableEq, Repr

/-- Whether an atom may stand outside of sets. -/
def Mode.takes (m : Mode) : Atom → Bool
  | .char c byte =>
    if m.unicode then !m.caseless else decide (c.toNat < 0x80) || !byte
  | .category negated => !m.unicode && !negated
  | .place => true
  | .wordEdge => !m.unicode

def Mode.takesInSet (m : Mode) : Atom → Bool
  | .char c _ => if m.unicode then !m.caseless else decide (c.toNat < 0x80)
  | .category negated => !m.unicode && !negated
  | _ => false

/-- Reads so many hexadecimal digits and adds them to a number. -/
def readHex (m : Mode) : Nat → Nat → List Char → Option (Nat × List Char)
  | 0, value, cs => some (value, cs)
  | n + 1, value, cs =>
    match m.skip cs with
    | [] => none
    | c :: cs => (Json.hexValue c).bind fun d => readHex m n (value * 16 + d) cs

/-- Whether a number is that of a character. -/
def isScalar (n : Nat) : Bool := n < 0xd800 || (0xdfff < n && n < 0x110000)

/-- Reads a character that is given by so many hexadecimal digits. -/
def readCodePoint (m : Mode) (digits : Nat) (cs : List Char) : Option (Atom × List Char) :=
  match readHex m digits 0 cs with
  | some (n, cs) => if isScalar n then some (.char (Char.ofNat n) (digits == 2), cs) else none
  | none => none

/-- The characters that letters stand for behind a backslash. -/
def controls : List (Char × Char) :=
  [('a', '\u0007'), ('f', '\u000c'), ('t', '\t'), ('n', '\n'), ('r', '\r'), ('v', '\u000b')]

def readEscape (m : Mode) : List Char → Option (Atom × List Char)
  | [] => none
  | c :: cs =>
    if c = 'x' then readCodePoint m 2 cs
    else if c = 'u' then readCodePoint m 4 cs
    else if c = 'U' then readCodePoint m 8 cs
    else if ['d', 's', 'w'].contains c then some (.category false, cs)
    else if ['D', 'S', 'W'].contains c then some (.category true, cs)
    else if ['A', 'z'].contains c then some (.place, cs)
    else if ['b', 'B', '<', '>'].contains c then some (.wordEdge, cs)
    else
      match controls.find? fun e => e.1 == c with
      | some e => some (.char e.2 false, cs)
      | none =>
        if c.isAlphanum || decide (0x80 ≤ c.toNat) then none else some (.char c false, cs)

/-- The depth of parts side by side; a part on its own is not nested. -/
def joinDepth : List Nat → Nat
  | [] => 0
  | [d] => d
  | ds => ds.foldl max 0 + 1

def depthLimit : Nat := 250

/-! ### Sets of characters -/

/-- A set that is being read. -/
structure OpenSet where
  /-- The depths of the items since the last operation. -/
  items : List Nat := []
  /-- The depth of what stands in front of the last operation. -/
  operand : Option Nat := none
  /-- Nothing but hyphens has been read, so that a hyphen, and a bracket in the very front, are
  items. -/
  fresh : Bool := true
  deriving DecidableEq, Repr

namespace OpenSet

def push (s : OpenSet) (depth : Nat) : OpenSet :=
  { s with items := depth :: s.items, fresh := false }

def depth (s : OpenSet) : Nat :=
  match s.operand with
  | none => joinDepth s.items
  | some d => max d (joinDepth s.items) + 1

def operate (s : OpenSet) : OpenSet := ⟨[], some s.depth, false⟩

end OpenSet

def classNames : List String :=
  ["alnum", "alpha", "ascii", "blank", "cntrl", "digit", "graph", "lower", "print", "punct",
    "space", "upper", "word", "xdigit"]

/-- Reads a named class behind its bracket; says whether it is negated. -/
def readClass : List Char → Option (Bool × List Char)
  | ':' :: cs =>
    let (negated, cs) :=
      match cs with
      | '^' :: cs => (true, cs)
      | cs => (false, cs)
    let name := cs.takeWhile (· != ':')
    match cs.drop name.length with
    | ':' :: ']' :: cs =>
      if classNames.contains (String.ofList name) then some (negated, cs) else none
    | _ => none
  | _ => none

/-- Whether a named class may stand in a set. -/
def Mode.takesClass (m : Mode) (negated : Bool) : Bool :=
  if m.unicode then !m.caseless else !negated

/-- Begins a set behind its bracket. The bytes outside of a set are not all ASCII. -/
def openSet (m : Mode) (cs : List Char) : Option (List Char) :=
  match m.skip cs with
  | '^' :: cs => if m.unicode then some cs else none
  | cs => some cs

def readItem (m : Mode) : List Char → Option (Atom × List Char)
  | [] => none
  | '\\' :: cs => readEscape m cs
  | c :: cs => some (.char c false, cs)

/-- Reads one item of a set, or two with a hyphen between them, which are a range. -/
def readRange (m : Mode) (cs : List Char) : Option (List Char) := do
  let (first, cs) ← readItem m cs
  let next := m.skip cs
  if next.head? = some '-' ∧ m.peek next.tail ≠ some ']' ∧ m.peek next.tail ≠ some '-' then
    let (last, cs) ← readItem m (m.skip next.tail)
    match first, last with
    | .char a _, .char b _ =>
      if a ≤ b ∧ m.takesInSet first = true ∧ m.takesInSet last = true then some cs else none
    | _, _ => none
  else if m.takesInSet first then some next
  else none

/-- Reads sets up to the end of the outermost one; says its depth. Every round takes a character. -/
def readSet (m : Mode) : Nat → List OpenSet → List Char → Option (Nat × List Char)
  | 0, _, _ => none
  | _, [], _ => none
  | fuel + 1, s :: outer, cs =>
    match m.skip cs with
    | [] => none
    | c :: cs =>
      if s.fresh = true ∧ (c = '-' ∨ c = ']' ∧ s.items = []) then
        if m.takesInSet (.char c false) then
          readSet m fuel ({ s.push 0 with fresh := c == '-' } :: outer) cs
        else none
      else if c = ']' then
        match outer with
        | [] => some (s.depth + 1, cs)
        | above :: outer => readSet m fuel (above.push (s.depth + 1) :: outer) cs
      else if c = '[' then
        match readClass cs with
        | some (negated, cs) =>
          if m.takesClass negated then readSet m fuel (s.push 0 :: outer) cs else none
        | none => (openSet m cs).bind (readSet m fuel ({} :: { s with fresh := false } :: outer))
      else if ['&', '-', '~'].contains c = true ∧ cs.head? = some c then
        readSet m fuel (s.operate :: outer) cs.tail
      else (readRange m (c :: cs)).bind (readSet m fuel (s.push 0 :: outer))

/-! ### Groups -/

/-- A group that is being read. -/
structure Group where
  mode : Mode := {}
  /-- The depths of the parts of the branch, the latest first; flags cannot be repeated. -/
  parts : List (Option Nat) := []
  /-- The depths of the branches in front. -/
  branches : List Nat := []
  deriving DecidableEq, Repr

namespace Group

def push (g : Group) (part : Option Nat) : Group := { g with parts := part :: g.parts }

def branchDepth (g : Group) : Nat := joinDepth (g.parts.map (·.getD 0))

/-- The depth of what has been read. -/
def depth (g : Group) : Nat := joinDepth (g.branchDepth :: g.branches)

/-- The group behind a bar. -/
def nextBranch (g : Group) : Group :=
  { g with parts := [], branches := g.branchDepth :: g.branches }

/-- The group after its latest part is repeated; there has to be one. -/
def repeated (g : Group) : Option Group :=
  match g.parts with
  | some d :: parts => some { g with parts := some (d + 1) :: parts }
  | _ => none

end Group

structure Reading where
  group : Group := {}
  /-- The groups around it, the innermost first. -/
  outer : List Group := []
  /-- The names of groups so far. -/
  names : List String := []
  deriving DecidableEq, Repr

/-- Reads flags up to a colon or a closing bracket, which is given back; no flag is there twice. -/
def readFlags : List Char → List Char → Option (List Char × Char × List Char)
  | _, [] => none
  | flags, c :: cs =>
    if c = ':' ∨ c = ')' then
      if flags.getLast? = some '-' then none else some (flags, c, cs)
    else if Mode.letters.contains c = true ∧ flags.contains c = false then
      readFlags (flags ++ [c]) cs
    else none

/-- Whether characters are the name of a group. -/
def isName : List Char → Bool
  | [] => false
  | c :: cs =>
    (c == '_' || Text.isLetter c) &&
      cs.all fun c => ['_', '.', '[', ']'].contains c || Text.isLetterOrNumber c

namespace Reading

def push (r : Reading) (part : Option Nat) : Reading := { r with group := r.group.push part }

def enter (r : Reading) (m : Mode) : Reading :=
  { r with group := { mode := m }, outer := r.group :: r.outer }

/-- Begins a named group behind the bracket of its name. -/
def openNamed (r : Reading) (cs : List Char) : Option (Reading × List Char) :=
  let name := cs.takeWhile (· != '>')
  match cs.drop name.length with
  | [] => none
  | _ :: rest =>
    if isName name = true ∧ r.names.contains (String.ofList name) = false then
      some ({ r with names := String.ofList name :: r.names }.enter r.group.mode, rest)
    else none

/-- Begins a group behind its bracket, or changes the flags of the group around. -/
def openGroup (r : Reading) (cs : List Char) : Option (Reading × List Char) :=
  match r.group.mode.skip cs with
  | '?' :: 'P' :: '<' :: cs => r.openNamed cs
  | '?' :: '<' :: cs => r.openNamed cs
  | '?' :: cs =>
    match readFlags [] cs with
    | none => none
    | some (flags, stop, cs) =>
      let m := r.group.mode.set flags
      if stop = ':' then some (r.enter m, cs)
      else if flags = [] then none
      else some ({ r with group := { r.group with mode := m }.push none }, cs)
  | cs => some (r.enter r.group.mode, cs)

def closeGroup (r : Reading) : Option Reading :=
  match r.outer with
  | [] => none
  | g :: outer => some { r with group := g.push (some (r.group.depth + 1)), outer := outer }

def takeAtom (r : Reading) (a : Atom) : Option Reading :=
  if r.group.mode.takes a then some (r.push (some 0)) else none

def take (r : Reading) (c : Char) (cs : List Char) : Option (Reading × List Char) :=
  let m := r.group.mode
  if c = '(' then r.openGroup cs
  else if c = ')' then r.closeGroup.map (·, cs)
  else if c = '|' then some ({ r with group := r.group.nextBranch }, cs)
  else if c = '[' then
    ((openSet m cs).bind (readSet m (cs.length + 1) [{}])).map fun s => (r.push (some s.1), s.2)
  else if ['?', '*', '+'].contains c then
    r.group.repeated.map fun g =>
      ({ r with group := g }, if cs.head? = some '?' then cs.tail else cs)
  else if c = '\x7b' then none
  else if c = '\\' then
    (readEscape m cs).bind fun e => (r.takeAtom e.1).map (·, e.2)
  else if c = '.' then if m.unicode then some (r.push (some 0), cs) else none
  else if c = '^' ∨ c = '$' then (r.takeAtom .place).map (·, cs)
  else (r.takeAtom (.char c false)).map (·, cs)

/-- Whether what is left makes a pattern. Every round takes a character. -/
def finish : Nat → Reading → List Char → Bool
  | 0, _, _ => false
  | fuel + 1, r, cs =>
    match r.group.mode.skip cs with
    | [] => r.outer.isEmpty && decide (r.group.depth ≤ depthLimit)
    | c :: cs =>
      match r.take c cs with
      | some (r, cs) => finish fuel r cs
      | none => false

end Reading

def isPattern (cs : List Char) : Bool := Reading.finish (cs.length + 1) {} cs

def isNumber (cs : List Char) : Bool :=
  let (whole, rest) := Decimal.Numeral.spanDigits cs
  let (fraction, rest) :=
    match rest with
    | '.' :: rest => Decimal.Numeral.spanDigits rest
    | rest => ([], rest)
  if whole ++ fraction = [] then
    ["inf", "infinity", "nan"].contains (Text.toLowerAscii (String.ofList cs))
  else
    match Decimal.Numeral.readPower rest with
    | some (_, []) => true
    | _ => false

/-- Whether a field may be asked for a value: a number or a pattern. A number is a pattern as well,
unless a plus sign stands in front. -/
def isValue (s : String) : Bool :=
  match s.toList with
  | '+' :: cs => isNumber cs
  | cs => isPattern cs

/-- A character that means itself wherever it stands. -/
def isPlain (c : Char) : Bool := c.isAlphanum

theorem take_plain {r : Reading} {c : Char} (hm : r.group.mode = {}) (hc : isPlain c = true)
    (cs : List Char) : r.take c cs = some (r.push (some 0), cs) := by
  have h : ∀ d : Char, d.isAlphanum = false → c ≠ d := by
    intro d hd e
    rw [e, isPlain, hd] at hc
    cases hc
  simp [Reading.take, Reading.takeAtom, Mode.takes, hm, h '(' (by decide), h ')' (by decide),
    h '|' (by decide), h '[' (by decide), h '?' (by decide), h '*' (by decide),
    h '+' (by decide), h '\x7b' (by decide), h '\\' (by decide), h '.' (by decide),
    h '^' (by decide), h '$' (by decide)]

theorem joinDepth_zeros {ds : List Nat} (h : ∀ d ∈ ds, d = 0) : joinDepth ds ≤ 1 := by
  match ds with
  | [] => simp [joinDepth]
  | [d] => simp [joinDepth, h d]
  | d :: e :: ds =>
    have hf : ∀ l : List Nat, (∀ d ∈ l, d = 0) → l.foldl max 0 = 0 := by
      intro l
      induction l with
      | nil => intro _; rfl
      | cons a l ih =>
        intro hl
        rw [List.foldl_cons, hl a List.mem_cons_self, Nat.max_self]
        exact ih fun d hd => hl d (List.mem_cons_of_mem _ hd)
    simp [joinDepth, hf _ h]

theorem finish_plain {cs : List Char} (hc : ∀ c ∈ cs, isPlain c = true) (parts : List (Option Nat))
    (hp : ∀ p ∈ parts, p = some 0) :
    Reading.finish (cs.length + 1) ⟨⟨{}, parts, []⟩, [], []⟩ cs = true := by
  induction cs generalizing parts with
  | nil =>
    have : joinDepth (parts.map (·.getD 0)) ≤ 1 := by
      refine joinDepth_zeros fun d hd => ?_
      obtain ⟨p, hm, he⟩ := List.mem_map.1 hd
      rw [← he, hp p hm, Option.getD_some]
    exact decide_eq_true (Nat.le_trans this (by decide))
  | cons c cs ih =>
    have ht := take_plain (r := ⟨⟨{}, parts, []⟩, [], []⟩) rfl (hc c List.mem_cons_self) cs
    simp only [Reading.finish, List.length_cons, Mode.skip, Bool.false_eq_true, if_false, ht]
    exact ih (fun d hd => hc d (List.mem_cons_of_mem _ hd)) (some 0 :: parts) fun p hm => by
      rcases List.mem_cons.1 hm with rfl | hm
      · rfl
      · exact hp p hm

/-- Letters and digits are a pattern. -/
theorem isPattern_plain {cs : List Char} (h : ∀ c ∈ cs, isPlain c = true) : isPattern cs = true :=
  finish_plain h [] fun _ hp => absurd hp List.not_mem_nil

example : isValue "" = true ∧ isValue "a**" = true ∧ isValue "()" = true := by decide +kernel
example : isValue "*" = false ∧ isValue "(" = false ∧ isValue "[" = false := by decide +kernel
example : isValue "+1.5e3" = true ∧ isValue "+" = false ∧ isValue "\\u00e9" = true := by
  decide +kernel
example : isValue "\\b" = false ∧ isValue "(?-u:\\b)" = true ∧ isValue "\\w+" = false := by
  decide +kernel
example : isValue "[]-A]" = true ∧ isValue "[--a]" = true ∧ isValue "[a-" = false := by
  decide +kernel
example : isValue "[z-a]" = false ∧ isValue "[a-z&&[^b]]" = true ∧ isValue "[]a]" = true := by
  decide +kernel
example : isValue "(?i)a" = false ∧ isValue "(?i-u)a" = true ∧ isValue "(?ii)" = false := by
  decide +kernel
example : isValue "(?i-u)é" = true ∧ isValue "(?-u)[é]" = false ∧ isValue "(?-u)\\xff" = false := by
  decide +kernel
example : isValue "(?<n>a)(?P<m>b)" = true ∧ isValue "(?<n>a)(?<n>b)" = false := by decide +kernel

end WorkerTelemetry.Log.Pattern
