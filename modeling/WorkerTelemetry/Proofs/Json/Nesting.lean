import WorkerTelemetry.Proofs.Json.Grammar
import WorkerTelemetry.Text.Bytes

/-!
How deep bytes stand in a document. A scan of the bytes of an object keeps track of brackets and
texts and sees where the object is closed. Main statements: a whole document leaves the scan at the
depth where it found it, and of two objects whose first key begins alike none is a proper end of the
other. The scan is no reader: it accepts much that is no document.
-/

namespace WorkerTelemetry.Document

open Text (utf8)

/-- Where a scan stands. -/
inductive Place
  /-- In front of the object. -/
  | start
  /-- Inside of so many brackets of the object, outside of texts. -/
  | outside (depth : Nat)
  /-- Behind the first letter of `true`. -/
  | literal (depth : Nat)
  | inText (depth : Nat)
  /-- Behind a backslash in a text. -/
  | escaped (depth : Nat)
  | closed
  /-- Where no document goes on. -/
  | lost
  deriving DecidableEq, Repr

namespace Place

/-- The place behind a closing bracket. -/
def close : Nat → Place
  | 0 => .closed
  | depth + 1 => .outside depth

/-- The place behind a byte. -/
def step : Place → UInt8 → Place
  | .start, b => if b = 0x7b then .outside 0 else .lost
  | .outside n, b =>
    if b = 0x22 then .inText n
    else if b = 0x7b ∨ b = 0x5b then .outside (n + 1)
    else if b = 0x7d ∨ b = 0x5d then close n
    else if b = 0x74 then .literal n
    else .outside n
  | .literal n, b => if b = 0x72 then .outside n else .lost
  | .inText n, b => if b = 0x22 then .outside n else if b = 0x5c then .escaped n else .inText n
  | .escaped n, b =>
    if b ∈ ([0x22, 0x5c, 0x62, 0x74, 0x6e, 0x66, 0x72, 0x75] : List UInt8) then .inText n
    else .lost
  | .closed, _ => .lost
  | .lost, _ => .lost

/-- The place behind bytes. -/
def scan (p : Place) (bs : List UInt8) : Place := bs.foldl step p

theorem scan_append (p : Place) (as bs : List UInt8) : p.scan (as ++ bs) = (p.scan as).scan bs :=
  List.foldl_append

theorem scan_cons (p : Place) (b : UInt8) (bs : List UInt8) :
    p.scan (b :: bs) = (p.step b).scan bs := rfl

theorem scan_lost (bs : List UInt8) : Place.lost.scan bs = .lost := by
  induction bs with
  | nil => rfl
  | cons b bs ih => exact ih

theorem step_ne_start (p : Place) (b : UInt8) : p.step b ≠ .start := by
  have close_ne (n : Nat) : close n ≠ .start := by cases n <;> simp [close]
  cases p <;> simp only [step] <;> repeat' split
  all_goals first | exact close_ne _ | simp

/-- A scan does not come back to where it began. -/
theorem scan_ne_start {bs : List UInt8} (h : bs ≠ []) (p : Place) : p.scan bs ≠ .start := by
  induction bs generalizing p with
  | nil => exact absurd rfl h
  | cons b bs ih =>
    rw [scan_cons]
    cases bs with
    | nil => exact step_ne_start p b
    | cons c cs => exact ih (by simp) _

/-! ### Texts and numerals -/

theorem scan_inText {bs : List UInt8} (h : ∀ b ∈ bs, b ≠ 0x22 ∧ b ≠ 0x5c) (n : Nat) :
    (Place.inText n).scan bs = .inText n := by
  induction bs with
  | nil => rfl
  | cons b bs ih =>
    obtain ⟨hb, hbs⟩ := List.forall_mem_cons.1 h
    have stay : (Place.inText n).step b = .inText n := by simp [step, hb]
    rw [scan_cons, stay]
    exact ih hbs

/-- An escaped character stays in its text. -/
theorem scan_escapeChar (n : Nat) (c : Char) :
    (Place.inText n).scan (utf8 (Json.escapeChar c)) = .inText n := by
  by_cases hq : c = '"'
  · subst hq; rfl
  by_cases hb : c = '\\'
  · subst hb; rfl
  by_cases h8 : c = '\x08'
  · subst h8; rfl
  by_cases h9 : c = '\t'
  · subst h9; rfl
  by_cases hn : c = '\n'
  · subst hn; rfl
  by_cases hf : c = '\x0c'
  · subst hf; rfl
  by_cases hr : c = '\r'
  · subst hr; rfl
  by_cases h : c.toNat < 0x20
  · have digits : ∀ k < 0x20, ∀ b ∈ utf8 (Json.escapeDigits k), b ≠ 0x22 ∧ b ≠ 0x5c := by
      decide +kernel
    have whole : Json.escapeChar c = '\\' :: 'u' :: Json.escapeDigits c.toNat := by
      simp [Json.escapeChar, hq, hb, h8, h9, hn, hf, hr, h]
    rw [whole]
    exact scan_inText (digits c.toNat h) n
  · have whole : Json.escapeChar c = [c] := by
      simp [Json.escapeChar, hq, hb, h8, h9, hn, hf, hr, h]
    rw [whole]
    refine scan_inText (fun b hmem => ⟨?_, ?_⟩) n
    · rintro rfl
      obtain ⟨d, hd, heq⟩ := Text.mem_utf8 hmem (by decide)
      rw [List.mem_singleton.1 hd] at heq
      exact hq (Char.toNat_inj.1 heq)
    · rintro rfl
      obtain ⟨d, hd, heq⟩ := Text.mem_utf8 hmem (by decide)
      rw [List.mem_singleton.1 hd] at heq
      exact hb (Char.toNat_inj.1 heq)

theorem scan_textChars (n : Nat) (s : String) :
    (Place.outside n).scan (utf8 (Json.textChars s)) = .outside n := by
  have inner : ∀ cs : List Char,
      (Place.inText n).scan (utf8 (cs.flatMap Json.escapeChar)) = .inText n := by
    intro cs
    induction cs with
    | nil => rfl
    | cons c cs ih => rw [List.flatMap_cons, Text.utf8_append, scan_append, scan_escapeChar, ih]
  have whole : utf8 (Json.textChars s) =
      0x22 :: (utf8 (s.toList.flatMap Json.escapeChar) ++ [0x22]) := by
    rw [Json.textChars, ← List.singleton_append, Text.utf8_append, Text.utf8_append]
    rfl
  have enter : (Place.outside n).step 0x22 = .inText n := rfl
  rw [whole, scan_cons, enter, scan_append, inner]
  rfl

/-- Nothing in a numeral changes the place. -/
theorem scan_numeral (n : Nat) {numeral : Decimal.Numeral} (h : numeral.WellFormed) :
    (Place.outside n).scan (utf8 numeral.chars) = .outside n := by
  have stay : ∀ bs : List UInt8,
      (∀ b ∈ bs, b ∉ ([0x22, 0x7b, 0x5b, 0x7d, 0x5d, 0x74] : List UInt8)) →
      (Place.outside n).scan bs = .outside n := by
    intro bs hbs
    induction bs with
    | nil => rfl
    | cons b bs ih =>
      obtain ⟨hb, hbs⟩ := List.forall_mem_cons.1 hbs
      have here : (Place.outside n).step b = .outside n := by
        simp only [List.mem_cons, List.not_mem_nil, or_false, not_or] at hb
        simp [step, hb]
      rw [scan_cons, here]
      exact ih hbs
  refine stay _ fun b hb hmem => ?_
  have small : b.toNat < 0x80 := by
    have key : ∀ d ∈ ([0x22, 0x7b, 0x5b, 0x7d, 0x5d, 0x74] : List UInt8), d.toNat < 0x80 := by
      simp
    exact key b hmem
  obtain ⟨c, hc, heq⟩ := Text.mem_utf8 hb small
  have other : ∀ d ∈ ([0x22, 0x7b, 0x5b, 0x7d, 0x5d, 0x74] : List UInt8),
      (Char.ofNat d.toNat).isDigit = false ∧ Char.ofNat d.toNat ∉ ['-', '+', '.', 'e'] := by
    intro d hd
    simp only [List.mem_cons, List.not_mem_nil, or_false] at hd
    rcases hd with rfl | rfl | rfl | rfl | rfl | rfl <;> decide
  have hother := other b hmem
  rw [← heq, Char.ofNat_toNat] at hother
  rcases Decimal.Numeral.mem_chars h hc with hd | hd
  · rw [hother.1] at hd
    cases hd
  · exact hother.2 hd

/-! ### Documents -/

mutual

/-- A document leaves the scan at the depth where it found it. -/
theorem scan_chars : ∀ {d : Document}, d.WellFormed → ∀ n : Nat,
    (Place.outside n).scan (utf8 d.chars) = .outside n
  | .null, _, n => rfl
  | .bool true, _, n => rfl
  | .bool false, _, n => rfl
  | .number _, h, n => scan_numeral n h
  | .text s, _, n => scan_textChars n s
  | .list [], _, n => rfl
  | .list (d :: ds), h, n => by
    have whole : utf8 (chars (.list (d :: ds))) =
        0x5b :: (utf8 d.chars ++ utf8 (itemsChars ds)) := by
      rw [chars, ← List.singleton_append, Text.utf8_append, Text.utf8_append]
      rfl
    have enter : (Place.outside n).step 0x5b = .outside (n + 1) := rfl
    rw [whole, scan_cons, enter, scan_append, scan_chars h.1, scan_itemsChars h.2]
    rfl
  | .object [], _, n => rfl
  | .object (m :: ms), h, n => by
    have whole : utf8 (chars (.object (m :: ms))) =
        0x7b :: (utf8 (memberChars m) ++ utf8 (membersChars ms)) := by
      rw [chars, ← List.singleton_append, Text.utf8_append, Text.utf8_append]
      rfl
    have enter : (Place.outside n).step 0x7b = .outside (n + 1) := rfl
    rw [whole, scan_cons, enter, scan_append, scan_memberChars h.1, scan_membersChars h.2]
    rfl

theorem scan_itemsChars : ∀ {ds : List Document}, AllWellFormed ds → ∀ n : Nat,
    (Place.outside n).scan (utf8 (itemsChars ds)) = close n
  | [], _, n => rfl
  | d :: ds, h, n => by
    have whole : utf8 (itemsChars (d :: ds)) = 0x2c :: (utf8 d.chars ++ utf8 (itemsChars ds)) := by
      rw [itemsChars, ← List.singleton_append, Text.utf8_append, Text.utf8_append]
      rfl
    have enter : (Place.outside n).step 0x2c = .outside n := rfl
    rw [whole, scan_cons, enter, scan_append, scan_chars h.1, scan_itemsChars h.2]

theorem scan_memberChars : ∀ {m : String × Document}, m.2.WellFormed → ∀ n : Nat,
    (Place.outside n).scan (utf8 (memberChars m)) = .outside n
  | (k, d), h, n => by
    have whole : utf8 (memberChars (k, d)) = utf8 (Json.textChars k) ++ 0x3a :: utf8 d.chars := by
      rw [memberChars, Text.utf8_append, ← List.singleton_append, Text.utf8_append]
      rfl
    have pass : (Place.outside n).step 0x3a = .outside n := rfl
    rw [whole, scan_append, scan_textChars, scan_cons, pass, scan_chars h]

theorem scan_membersChars : ∀ {ms : List (String × Document)}, MembersWellFormed ms →
    ∀ n : Nat, (Place.outside n).scan (utf8 (membersChars ms)) = close n
  | [], _, n => rfl
  | m :: ms, h, n => by
    have whole : utf8 (membersChars (m :: ms)) =
        0x2c :: (utf8 (memberChars m) ++ utf8 (membersChars ms)) := by
      rw [membersChars, ← List.singleton_append, Text.utf8_append, Text.utf8_append]
      rfl
    have enter : (Place.outside n).step 0x2c = .outside n := rfl
    rw [whole, scan_cons, enter, scan_append, scan_memberChars h.1, scan_membersChars h.2]

end

/-- The scan of an object ends where the object is closed. -/
theorem scan_object {m : String × Document} {ms : List (String × Document)}
    (h : (object (m :: ms)).WellFormed) :
    Place.start.scan (utf8 (chars (.object (m :: ms)))) = .closed := by
  have whole : utf8 (chars (.object (m :: ms))) =
      0x7b :: (utf8 (memberChars m) ++ utf8 (membersChars ms)) := by
    rw [chars, ← List.singleton_append, Text.utf8_append, Text.utf8_append]
    rfl
  have enter : Place.start.step 0x7b = .outside 0 := rfl
  rw [whole, scan_cons, enter, scan_append, scan_memberChars h.1, scan_membersChars h.2]
  rfl

/-- An object whose first key is `time` closes nothing but itself. -/
theorem scan_time_ne_closed {d : Document} {ms : List (String × Document)}
    (h : (object (("time", d) :: ms)).WellFormed) {p : Place} (hp : p ≠ .start) :
    p.scan (utf8 (chars (.object (("time", d) :: ms)))) ≠ .closed := by
  obtain ⟨bs, hbs⟩ : ∃ bs, utf8 (chars (.object (("time", d) :: ms))) =
      [0x7b, 0x22, 0x74, 0x69] ++ bs := ⟨_, rfl⟩
  have of_lost : p.scan [0x7b, 0x22, 0x74, 0x69] = .lost →
      p.scan (utf8 (chars (.object (("time", d) :: ms)))) ≠ .closed := by
    intro off
    rw [hbs, scan_append, off, scan_lost]
    simp
  cases p with
  | start => exact absurd rfl hp
  | outside n =>
    rw [scan_chars h]
    simp
  | literal n => exact of_lost rfl
  | inText n =>
    -- the quote ends the text, and no word begins with the first letters of the key
    exact of_lost rfl
  | escaped n => exact of_lost rfl
  | closed => exact of_lost rfl
  | lost => exact of_lost rfl

end Place

/-- Of two objects whose first key is `time` none is a proper end of the other. -/
theorem eq_nil_of_append_time {d e : Document} {ms ns : List (String × Document)}
    (hd : (object (("time", d) :: ms)).WellFormed) (he : (object (("time", e) :: ns)).WellFormed)
    {q : List UInt8}
    (h : q ++ utf8 (chars (.object (("time", d) :: ms))) =
      utf8 (chars (.object (("time", e) :: ns)))) : q = [] := by
  by_cases hq : q = []
  · exact hq
  · have closes := Place.scan_object he
    rw [← h, Place.scan_append] at closes
    exact absurd closes (Place.scan_time_ne_closed hd (Place.scan_ne_start hq _))

end WorkerTelemetry.Document
