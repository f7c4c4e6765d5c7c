import WorkerTelemetry.Text.Lines

/-!
Routes. A route is a path in which braces stand for captures: `x` between braces takes one segment,
`*x` all that is left. A capture that ends the route cannot be empty; one that a slash follows can.
A doubled brace stands for itself. Any other character has to be met as it is, so a route without
captures matches one path only.
-/

namespace WorkerTelemetry.Http

inductive Piece
  | char (c : Char)
  /-- One segment; where it ends the route it is not empty. -/
  | capture
  /-- All that is left, which is not empty. -/
  | rest
  deriving DecidableEq, Repr

structure Route where
  pieces : List Piece
  deriving DecidableEq, Repr

namespace Route

/-- Replaces doubled braces by single ones, which are marked. -/
def markBraces : List Char → List (Char × Bool)
  | [] => []
  | [c] => [(c, false)]
  | c :: d :: cs =>
    if c = d ∧ (c = '\x7b' ∨ c = '\x7d') then (c, true) :: markBraces cs
    else (c, false) :: markBraces (d :: cs)

/-- Goes on to the end of a name; says how many characters it takes, and what follows. -/
def closeName : List (Char × Bool) → Option (Nat × List (Char × Bool))
  | [] => none
  | (c, marked) :: cs =>
    if c = '\x7d' ∧ marked = false then some (0, cs)
    else if c = '*' ∨ c = '/' then none
    else (closeName cs).map fun r => (r.1 + 1, r.2)

theorem closeName_length {cs rest : List (Char × Bool)} {n : Nat}
    (h : closeName cs = some (n, rest)) : rest.length < cs.length := by
  induction cs generalizing n rest with
  | nil => cases h
  | cons c cs ih =>
    rw [closeName] at h
    split at h
    · cases h; simp
    · split at h
      · cases h
      · obtain ⟨⟨m, r⟩, hr, he⟩ := Option.map_eq_some_iff.1 h
        cases he
        exact Nat.lt_succ_of_lt (ih hr)

def readCapture : List (Char × Bool) → Option (Piece × List (Char × Bool))
  | [] => none
  | (c, _) :: cs =>
    if c = '\x7d' then none
    else
      match closeName cs with
      | none => none
      | some (n, rest) =>
        if c = '*' then (if n = 0 ∨ rest ≠ [] then none else some (.rest, []))
        else
          match rest with
          | [] => some (.capture, [])
          | d :: _ => if d.1 = '/' then some (.capture, rest) else none

theorem readCapture_length {cs rest : List (Char × Bool)} {p : Piece}
    (h : readCapture cs = some (p, rest)) : rest.length < cs.length := by
  cases cs with
  | nil => cases h
  | cons c cs =>
    obtain ⟨c, m⟩ := c
    simp only [readCapture] at h
    split at h
    · cases h
    · cases hc : closeName cs with
      | none => rw [hc] at h; cases h
      | some r =>
        obtain ⟨n, r⟩ := r
        have := closeName_length hc
        rw [hc] at h
        simp only at h
        split at h
        · split at h
          · cases h
          · cases h; simp
        · split at h
          · cases h; simp
          · split at h
            · cases h; exact Nat.lt_succ_of_lt this
            · cases h

def readPieces (cs : List (Char × Bool)) : Option (List Piece) :=
  match cs with
  | [] => some []
  | (c, marked) :: cs =>
    if marked = true then (readPieces cs).map (.char c :: ·)
    else if c = '\x7d' then none
    else if c = '\x7b' then
      match h : readCapture cs with
      | none => none
      | some (p, rest) =>
        have := readCapture_length h
        (readPieces rest).map (p :: ·)
    else (readPieces cs).map (.char c :: ·)
termination_by cs.length

/-- The most captures of one segment that a route has. -/
def captureLimit : Nat := 25

def isOldCapture (segment : List Char) : Bool :=
  segment.head? == some ':' || segment.head? == some '*'

def parse (path : String) : Option Route := do
  let cs := path.toList
  if cs.head? ≠ some '/' then none
  else if (Text.splitOnChar '/' cs).any isOldCapture then none
  else
    let pieces ← readPieces (markBraces cs)
    if captureLimit < pieces.count .capture then none else some ⟨pieces⟩

def meets : List Piece → List Char → Bool
  | [], path => path.isEmpty
  | .char c :: ps, path =>
    match path with
    | d :: path => c == d && meets ps path
    | [] => false
  | .capture :: ps, path =>
    let segment := path.takeWhile (· != '/')
    !(ps.isEmpty && segment.isEmpty) && meets ps (path.drop segment.length)
  | .rest :: _, path => !path.isEmpty

def matchesPath (r : Route) (path : String) : Bool := meets r.pieces path.toList

theorem meets_chars {cs path : List Char} : meets (cs.map .char) path = true ↔ cs = path := by
  induction cs generalizing path with
  | nil => cases path <;> simp [meets]
  | cons c cs ih => cases path <;> simp [meets, ih]

example : (parse "/\x7bx\x7d/b").map (·.matchesPath "//b") = some true := by decide +kernel
example : (parse "/a/\x7bx\x7d").map (·.matchesPath "/a/") = some false := by decide +kernel

end Route

end WorkerTelemetry.Http
