/-!
Decimal numerals as written: a sign, whole digits, perhaps fraction digits, perhaps an exponent
part. Main statement: reading gives back what was written, whatever follows that is not a
continuation of the numeral.
-/

namespace WorkerTelemetry.Decimal

/-- A written number. No fraction digits means no fraction part. -/
structure Numeral where
  negative : Bool
  whole : List Char
  fraction : List Char
  /-- Whether the exponent is negative, and its digits. -/
  power : Option (Bool × List Char)
  deriving DecidableEq, Repr

namespace Numeral

/-- The exponent part: its sign is always written. -/
def powerChars : Option (Bool × List Char) → List Char
  | none => []
  | some (negative, digits) => 'e' :: (if negative then '-' else '+') :: digits

def fractionChars (digits : List Char) : List Char := if digits = [] then [] else '.' :: digits

def chars (n : Numeral) : List Char :=
  (if n.negative then ['-'] else []) ++ n.whole ++ fractionChars n.fraction ++ powerChars n.power

def toText (n : Numeral) : String := String.ofList n.chars

def spanDigits (cs : List Char) : List Char × List Char :=
  (cs.takeWhile Char.isDigit, cs.dropWhile Char.isDigit)

/-- Reads whole digits: a zero stands alone. -/
def readWhole : List Char → Option (List Char × List Char)
  | '0' :: cs => if (cs.head?.map Char.isDigit).getD false then none else some (['0'], cs)
  | cs =>
    match spanDigits cs with
    | ([], _) => none
    | (digits, rest) => some (digits, rest)

def readFraction : List Char → Option (List Char × List Char)
  | '.' :: cs =>
    match spanDigits cs with
    | ([], _) => none
    | (digits, rest) => some (digits, rest)
  | cs => some ([], cs)

def readPowerSign : List Char → Bool × List Char
  | '-' :: cs => (true, cs)
  | '+' :: cs => (false, cs)
  | cs => (false, cs)

def readPower : List Char → Option (Option (Bool × List Char) × List Char)
  | c :: cs =>
    if c = 'e' ∨ c = 'E' then
      let (negative, cs) := readPowerSign cs
      match spanDigits cs with
      | ([], _) => none
      | (digits, rest) => some (some (negative, digits), rest)
    else some (none, c :: cs)
  | [] => some (none, [])

def readSign : List Char → Bool × List Char
  | '-' :: cs => (true, cs)
  | cs => (false, cs)

def read (cs : List Char) : Option (Numeral × List Char) := do
  let (negative, cs) := readSign cs
  let (whole, cs) ← readWhole cs
  let (fraction, cs) ← readFraction cs
  let (power, cs) ← readPower cs
  return (⟨negative, whole, fraction, power⟩, cs)

/-- Numerals that follow the grammar: digits only, no needless zero in front, and an exponent part
with digits. -/
structure WellFormed (n : Numeral) : Prop where
  whole_digits : ∀ c ∈ n.whole, c.isDigit = true
  whole_ne_nil : n.whole ≠ []
  whole_zero : n.whole.head? = some '0' → n.whole = ['0']
  fraction_digits : ∀ c ∈ n.fraction, c.isDigit = true
  power_digits : ∀ p, n.power = some p → p.2 ≠ [] ∧ ∀ c ∈ p.2, c.isDigit = true

/-- A character that a numeral could go on with. -/
def continues (c : Char) : Bool := c.isDigit || c == '.' || c == 'e' || c == 'E'

/-- A text that does not continue a numeral in front of it. -/
def Stops (rest : List Char) : Prop := ∀ c, rest.head? = some c → continues c = false

theorem spanDigits_append {ds rest : List Char} (hd : ∀ c ∈ ds, c.isDigit = true)
    (hr : ∀ c, rest.head? = some c → c.isDigit = false) :
    spanDigits (ds ++ rest) = (ds, rest) := by
  have ht : rest.takeWhile Char.isDigit = [] ∧ rest.dropWhile Char.isDigit = rest := by
    cases rest with
    | nil => exact ⟨rfl, rfl⟩
    | cons c cs => simp [List.takeWhile, List.dropWhile, hr c rfl]
  simp [spanDigits, List.takeWhile_append_of_pos hd, List.dropWhile_append_of_pos hd, ht.1, ht.2]

theorem readPower_append {p : Option (Bool × List Char)} {rest : List Char}
    (hp : ∀ q, p = some q → q.2 ≠ [] ∧ ∀ c ∈ q.2, c.isDigit = true) (hr : Stops rest) :
    readPower (powerChars p ++ rest) = some (p, rest) := by
  cases p with
  | none =>
    cases rest with
    | nil => rfl
    | cons c cs =>
      have := hr c rfl
      simp only [continues, Bool.or_eq_false_iff, beq_eq_false_iff_ne] at this
      simp [powerChars, readPower, this.1.2, this.2]
  | some q =>
    obtain ⟨negative, digits⟩ := q
    obtain ⟨hne, hd⟩ := hp _ rfl
    have hs := @spanDigits_append digits rest hd fun c hc => by
      have := hr c hc
      simp only [continues, Bool.or_eq_false_iff] at this
      exact this.1.1.1
    cases negative <;> simp only [powerChars, List.cons_append, readPower, true_or,
      Bool.false_eq_true, if_true, if_false, readPowerSign, hs]

theorem powerChars_head {p : Option (Bool × List Char)} {rest : List Char} {c : Char}
    (hr : Stops rest) (hc : (powerChars p ++ rest).head? = some c) :
    c.isDigit = false ∧ c ≠ '.' := by
  cases p with
  | none =>
    have := hr c hc
    simp only [continues, Bool.or_eq_false_iff, beq_eq_false_iff_ne] at this
    exact ⟨this.1.1.1, this.1.1.2⟩
  | some q =>
    simp only [powerChars, List.cons_append, List.head?_cons, Option.some.injEq] at hc
    subst hc
    decide

theorem readFraction_append {f : List Char} {p : Option (Bool × List Char)} {rest : List Char}
    (hf : ∀ c ∈ f, c.isDigit = true) (hr : Stops rest) :
    readFraction (fractionChars f ++ (powerChars p ++ rest)) = some (f, powerChars p ++ rest) := by
  cases f with
  | nil =>
    simp only [fractionChars, if_true, List.nil_append]
    generalize ht : powerChars p ++ rest = t
    cases t with
    | nil => rfl
    | cons c cs =>
      have := (powerChars_head (p := p) hr (c := c) (by rw [ht]; rfl)).2
      unfold readFraction
      split
      · next h => exact absurd (List.cons.inj h).1 this
      · rfl
  | cons d ds =>
    have hs := @spanDigits_append (d :: ds) (powerChars p ++ rest) hf
      fun c hc => (powerChars_head hr hc).1
    simp only [fractionChars, reduceCtorEq, if_false, List.cons_append, readFraction]
    rw [List.cons_append] at hs
    rw [hs]

theorem fractionChars_head {f : List Char} {p : Option (Bool × List Char)} {rest : List Char}
    {c : Char} (hr : Stops rest)
    (hc : (fractionChars f ++ (powerChars p ++ rest)).head? = some c) : c.isDigit = false := by
  unfold fractionChars at hc
  split at hc
  · exact (powerChars_head hr hc).1
  · simp only [List.cons_append, List.head?_cons, Option.some.injEq] at hc
    subst hc
    decide

theorem readWhole_append {w t : List Char} (hd : ∀ c ∈ w, c.isDigit = true) (hne : w ≠ [])
    (hz : w.head? = some '0' → w = ['0']) (ht : ∀ c, t.head? = some c → c.isDigit = false) :
    readWhole (w ++ t) = some (w, t) := by
  cases w with
  | nil => exact absurd rfl hne
  | cons d ds =>
    by_cases h0 : d = '0'
    · subst h0
      obtain rfl : ds = [] := (List.cons.inj (hz rfl)).2
      cases t with
      | nil => rfl
      | cons c cs => simp [readWhole, ht c rfl]
    · have hs := spanDigits_append hd ht
      rw [List.cons_append] at hs ⊢
      unfold readWhole
      split
      · next h => exact absurd (List.cons.inj h).1 h0
      · rw [hs]

theorem readSign_append {b : Bool} {w t : List Char} (hd : ∀ c ∈ w, c.isDigit = true)
    (hne : w ≠ []) :
    readSign ((if b then ['-'] else []) ++ (w ++ t)) = (b, w ++ t) := by
  cases b with
  | true => rfl
  | false =>
    cases w with
    | nil => exact absurd rfl hne
    | cons d ds =>
      have hd := hd d (by simp)
      simp only [Bool.false_eq_true, if_false, List.nil_append, List.cons_append]
      unfold readSign
      split
      · next h => rw [(List.cons.inj h).1] at hd; exact absurd hd (by decide)
      · rfl

/-- A numeral is read back from its text, whatever stops it. -/
theorem read_append {n : Numeral} {rest : List Char} (hn : n.WellFormed) (hr : Stops rest) :
    read (n.chars ++ rest) = some (n, rest) := by
  have e : n.chars ++ rest = (if n.negative then ['-'] else []) ++
      (n.whole ++ (fractionChars n.fraction ++ (powerChars n.power ++ rest))) := by
    simp [chars]
  rw [e]
  unfold read
  rw [readSign_append hn.whole_digits hn.whole_ne_nil]
  simp only
  rw [readWhole_append hn.whole_digits hn.whole_ne_nil hn.whole_zero
    fun c hc => fractionChars_head hr hc]
  simp only [Option.bind_eq_bind, Option.bind_some]
  rw [readFraction_append hn.fraction_digits hr]
  simp only [Option.bind_some]
  rw [readPower_append hn.power_digits hr]
  rfl

end Numeral

end WorkerTelemetry.Decimal
