/-!
Texts inside JSON. Only the quote, the backslash and the characters below the space are escaped;
all others stand for themselves. Main statement: reading a written text gives the text back and
leaves what follows.
-/

namespace WorkerTelemetry.Json

def escapeDigits (n : Nat) : List Char :=
  [Nat.digitChar (n / 4096 % 16), Nat.digitChar (n / 256 % 16), Nat.digitChar (n / 16 % 16),
    Nat.digitChar (n % 16)]

def escapeChar (c : Char) : List Char :=
  if c = '"' then ['\\', '"']
  else if c = '\\' then ['\\', '\\']
  else if c = '\x08' then ['\\', 'b']
  else if c = '\t' then ['\\', 't']
  else if c = '\n' then ['\\', 'n']
  else if c = '\x0c' then ['\\', 'f']
  else if c = '\r' then ['\\', 'r']
  else if c.toNat < 0x20 then '\\' :: 'u' :: escapeDigits c.toNat
  else [c]

/-- A text between its quotes. -/
def textChars (s : String) : List Char := '"' :: (s.toList.flatMap escapeChar ++ ['"'])

def hexValue (c : Char) : Option Nat :=
  if c.isDigit then some (c.toNat - 48)
  else if 'a' ≤ c ∧ c ≤ 'f' then some (c.toNat - 87)
  else if 'A' ≤ c ∧ c ≤ 'F' then some (c.toNat - 55)
  else none

def hexFour (a b c d : Char) : Option Nat := do
  return (← hexValue a) * 4096 + (← hexValue b) * 256 + (← hexValue c) * 16 + (← hexValue d)

/-- The character of an escape by a single letter. -/
def unescapeLetter : Char → Option Char
  | '"' => some '"'
  | '\\' => some '\\'
  | '/' => some '/'
  | 'b' => some '\x08'
  | 'f' => some '\x0c'
  | 'n' => some '\n'
  | 'r' => some '\r'
  | 't' => some '\t'
  | _ => none

/-- The character of one escape by number, or of two that form a pair of surrogates. -/
def pairChar (high low : Nat) : Option Char :=
  if 0xd800 ≤ high ∧ high < 0xdc00 ∧ 0xdc00 ≤ low ∧ low < 0xe000 then
    some (Char.ofNat (0x10000 + (high - 0xd800) * 0x400 + (low - 0xdc00)))
  else none

/-- Reads a text from behind its opening quote; `acc` holds the characters read so far, last
first. -/
def readText : List Char → List Char → Option (List Char × List Char)
  | [], _ => none
  | '"' :: cs, acc => some (acc.reverse, cs)
  | '\\' :: 'u' :: a :: b :: c :: d :: cs, acc =>
    match hexFour a b c d with
    | none => none
    | some n =>
      if n < 0xd800 ∨ 0xe000 ≤ n then readText cs (Char.ofNat n :: acc)
      else
        match cs with
        | '\\' :: 'u' :: e :: f :: g :: h :: rest =>
          match (hexFour e f g h).bind (pairChar n) with
          | none => none
          | some x => readText rest (x :: acc)
        | _ => none
  | '\\' :: c :: cs, acc =>
    match unescapeLetter c with
    | none => none
    | some x => readText cs (x :: acc)
  | c :: cs, acc => if c.toNat < 0x20 then none else readText cs (c :: acc)

theorem hexFour_escapeDigits {n : Nat} (h : n < 0x20) :
    hexFour (Nat.digitChar (n / 4096 % 16)) (Nat.digitChar (n / 256 % 16))
      (Nat.digitChar (n / 16 % 16)) (Nat.digitChar (n % 16)) = some n := by
  have key : ∀ n < 0x20, hexFour (Nat.digitChar (n / 4096 % 16)) (Nat.digitChar (n / 256 % 16))
      (Nat.digitChar (n / 16 % 16)) (Nat.digitChar (n % 16)) = some n := by decide +kernel
  exact key n h

theorem readText_escapeChar (c : Char) (cs acc : List Char) :
    readText (escapeChar c ++ cs) acc = readText cs (c :: acc) := by
  by_cases hq : c = '"'
  · subst hq; rfl
  by_cases hb : c = '\\'
  · subst hb; rfl
  by_cases h8 : c = '\x08'
  · subst h8; rfl
  by_cases h9 : c = '\t'
  · subst h9; rfl
  by_cases hn : c = '\n'
  · subst hn; rfl
  by_cases hf : c = '\x0c'
  · subst hf; rfl
  by_cases hr : c = '\r'
  · subst hr; rfl
  by_cases h : c.toNat < 0x20
  · have hs : c.toNat < 0xd800 ∨ 0xe000 ≤ c.toNat := Or.inl (by omega)
    simp [escapeChar, hq, hb, h8, h9, hn, hf, hr, h, escapeDigits, readText,
      hexFour_escapeDigits h, hs]
  · simp only [escapeChar, hq, hb, h8, h9, hn, hf, hr, h, if_false]
    rw [List.singleton_append, readText.eq_def]
    split
    · contradiction
    · next e => exact absurd (List.cons.inj e).1 hq
    · next e => exact absurd (List.cons.inj e).1 hb
    · next e => exact absurd (List.cons.inj e).1 hb
    · next e =>
      obtain ⟨rfl, rfl⟩ := List.cons.inj e
      simp [h]

theorem readText_flatMap (s cs acc : List Char) :
    readText (s.flatMap escapeChar ++ cs) acc = readText cs (s.reverse ++ acc) := by
  induction s generalizing acc with
  | nil => rfl
  | cons c s ih => simp [List.append_assoc, readText_escapeChar, ih]

/-- A written text is read back from behind its opening quote. -/
theorem readText_textChars (s : String) (rest : List Char) :
    readText (s.toList.flatMap escapeChar ++ '"' :: rest) [] = some (s.toList, rest) := by
  rw [readText_flatMap, readText]
  simp

/-- No written character lies below the space. -/
theorem toNat_of_mem_escapeChar {c d : Char} (h : d ∈ escapeChar c) : 0x20 ≤ d.toNat := by
  by_cases hc : c.toNat < 0x20
  · have key : ((List.range 0x20).all fun n =>
        (escapeChar (Char.ofNat n)).all fun d => Nat.ble 0x20 d.toNat) = true := by decide +kernel
    have := List.all_eq_true.1 key c.toNat (List.mem_range.2 hc)
    rw [Char.ofNat_toNat] at this
    exact Nat.le_of_ble_eq_true (List.all_eq_true.1 this d h)
  · unfold escapeChar at h
    repeat' split at h
    all_goals first
      | (simp only [List.mem_cons, List.not_mem_nil, or_false] at h
         rcases h with rfl | rfl <;> decide)
      | (simp only [List.mem_cons, List.not_mem_nil, or_false] at h; subst h; omega)

end WorkerTelemetry.Json
