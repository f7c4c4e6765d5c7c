import WorkerTelemetry.Json.Basic
import WorkerTelemetry.Proofs.Decimal.Canonical

/-!
Documents whose numerals follow the grammar, and what such documents look like from outside. Main
statements: every value is written as such a document, and no control character occurs in one.
-/

namespace WorkerTelemetry

namespace Decimal.Numeral

/-- The characters of a numeral. -/
theorem mem_chars {n : Numeral} (h : n.WellFormed) {c : Char} (hc : c ∈ n.chars) :
    c.isDigit = true ∨ c ∈ ['-', '+', '.', 'e'] := by
  simp only [chars, List.mem_append] at hc
  rcases hc with ((hc | hc) | hc) | hc
  · right
    split at hc
    · simp_all
    · cases hc
  · exact .inl (h.whole_digits c hc)
  · unfold fractionChars at hc
    split at hc
    · cases hc
    · rcases List.mem_cons.1 hc with rfl | hc
      · right; decide
      · exact .inl (h.fraction_digits c hc)
  · cases hp : n.power with
    | none =>
      rw [hp] at hc
      cases hc
    | some p =>
      obtain ⟨negative, digits⟩ := p
      rw [hp] at hc
      rcases List.mem_cons.1 hc with rfl | hc
      · right; decide
      rcases List.mem_cons.1 hc with rfl | hc
      · right
        cases negative <;> decide
      · exact .inl ((h.power_digits _ hp).2 c hc)

theorem exists_chars_eq_cons {n : Numeral} (h : n.WellFormed) :
    ∃ c cs, n.chars = c :: cs ∧ (c.isDigit = true ∨ c = '-') := by
  obtain ⟨d, ds, hd⟩ := List.exists_cons_of_ne_nil h.whole_ne_nil
  have digit := h.whole_digits d (hd ▸ List.mem_cons_self)
  unfold chars
  rw [hd]
  cases n.negative with
  | true => exact ⟨'-', _, rfl, .inr rfl⟩
  | false => exact ⟨d, _, rfl, .inl digit⟩

end Decimal.Numeral

namespace Document

mutual

/-- Whether all numerals in a document follow the grammar. -/
def WellFormed : Document → Prop
  | .null => True
  | .bool _ => True
  | .number n => n.WellFormed
  | .text _ => True
  | .list ds => AllWellFormed ds
  | .object ms => MembersWellFormed ms

def AllWellFormed : List Document → Prop
  | [] => True
  | d :: ds => d.WellFormed ∧ AllWellFormed ds

def MembersWellFormed : List (String × Document) → Prop
  | [] => True
  | (_, d) :: ms => d.WellFormed ∧ MembersWellFormed ms

end

/-! ### No control characters -/

theorem le_of_isDigit {c : Char} (h : c.isDigit = true) : 0x20 ≤ c.toNat := by
  simp only [Char.isDigit, Bool.and_eq_true, decide_eq_true_eq, ge_iff_le,
    UInt32.le_iff_toNat_le] at h
  have key : (48 : UInt32).toNat ≤ c.toNat := h.1
  exact Nat.le_trans (by decide) key

theorem le_of_mem_textChars {s : String} {c : Char} (h : c ∈ Json.textChars s) :
    0x20 ≤ c.toNat := by
  unfold Json.textChars at h
  rcases List.mem_cons.1 h with rfl | h
  · decide
  rcases List.mem_append.1 h with h | h
  · obtain ⟨d, _, hd⟩ := List.mem_flatMap.1 h
    exact Json.toNat_of_mem_escapeChar hd
  · rw [List.mem_singleton.1 h]
    decide

theorem le_of_mem_numeral {n : Decimal.Numeral} (h : n.WellFormed) {c : Char}
    (hc : c ∈ n.chars) : 0x20 ≤ c.toNat := by
  rcases Decimal.Numeral.mem_chars h hc with hd | hc
  · exact le_of_isDigit hd
  · have key : ∀ d ∈ ['-', '+', '.', 'e'], 0x20 ≤ d.toNat := by simp
    exact key c hc

mutual

/-- No character of a document lies below the space. -/
theorem le_of_mem_chars : ∀ {d : Document}, d.WellFormed → ∀ {c : Char}, c ∈ d.chars →
    0x20 ≤ c.toNat
  | .null, _, c, hc => by
    have key : ∀ d ∈ ['n', 'u', 'l', 'l'], 0x20 ≤ d.toNat := by simp
    exact key c hc
  | .bool true, _, c, hc => by
    have key : ∀ d ∈ ['t', 'r', 'u', 'e'], 0x20 ≤ d.toNat := by simp
    exact key c hc
  | .bool false, _, c, hc => by
    have key : ∀ d ∈ ['f', 'a', 'l', 's', 'e'], 0x20 ≤ d.toNat := by simp
    exact key c hc
  | .number n, h, c, hc => le_of_mem_numeral h hc
  | .text s, _, c, hc => le_of_mem_textChars hc
  | .list [], _, c, hc => by
    have key : ∀ d ∈ ['[', ']'], 0x20 ≤ d.toNat := by simp
    exact key c hc
  | .list (d :: ds), h, c, hc => by
    rcases List.mem_cons.1 hc with rfl | hc
    · decide
    rcases List.mem_append.1 hc with hc | hc
    · exact le_of_mem_chars h.1 hc
    · exact le_of_mem_itemsChars h.2 hc
  | .object [], _, c, hc => by
    have key : ∀ d ∈ ['\x7b', '\x7d'], 0x20 ≤ d.toNat := by simp
    exact key c hc
  | .object (m :: ms), h, c, hc => by
    rcases List.mem_cons.1 hc with rfl | hc
    · decide
    rcases List.mem_append.1 hc with hc | hc
    · exact le_of_mem_memberChars h.1 hc
    · exact le_of_mem_membersChars h.2 hc

theorem le_of_mem_itemsChars : ∀ {ds : List Document}, AllWellFormed ds → ∀ {c : Char},
    c ∈ itemsChars ds → 0x20 ≤ c.toNat
  | [], _, c, hc => by
    rw [List.mem_singleton.1 hc]
    decide
  | d :: ds, h, c, hc => by
    rcases List.mem_cons.1 hc with rfl | hc
    · decide
    rcases List.mem_append.1 hc with hc | hc
    · exact le_of_mem_chars h.1 hc
    · exact le_of_mem_itemsChars h.2 hc

theorem le_of_mem_memberChars : ∀ {m : String × Document}, m.2.WellFormed → ∀ {c : Char},
    c ∈ memberChars m → 0x20 ≤ c.toNat
  | (k, d), h, c, hc => by
    rcases List.mem_append.1 hc with hc | hc
    · exact le_of_mem_textChars hc
    rcases List.mem_cons.1 hc with rfl | hc
    · decide
    · exact le_of_mem_chars h hc

theorem le_of_mem_membersChars : ∀ {ms : List (String × Document)}, MembersWellFormed ms →
    ∀ {c : Char}, c ∈ membersChars ms → 0x20 ≤ c.toNat
  | [], _, c, hc => by
    rw [List.mem_singleton.1 hc]
    decide
  | m :: ms, h, c, hc => by
    rcases List.mem_cons.1 hc with rfl | hc
    · decide
    rcases List.mem_append.1 hc with hc | hc
    · exact le_of_mem_memberChars h.1 hc
    · exact le_of_mem_membersChars h.2 hc

end

end Document

namespace Json

theorem Number.wellFormed_of_numeral? {n : Number} {numeral : Decimal.Numeral}
    (h : n.numeral? = some numeral) : numeral.WellFormed := by
  cases n with
  | int n =>
    cases h
    exact Decimal.Numeral.ofInt_wellFormed n
  | real x =>
    rw [numeral?] at h
    split at h
    · cases h
      exact Decimal.finiteNumeral_wellFormed ..
    · cases h

theorem Number.toDocument_wellFormed (n : Number) : n.toDocument.WellFormed := by
  unfold Number.toDocument
  split
  · next h => exact wellFormed_of_numeral? h
  · trivial

mutual

/-- Every value is written with numerals that follow the grammar. -/
theorem toDocument_wellFormed : ∀ v : Json, v.toDocument.WellFormed
  | .null => trivial
  | .bool _ => trivial
  | .number n => n.toDocument_wellFormed
  | .text _ => trivial
  | .list vs => toDocuments_wellFormed vs
  | .object ms => toDocumentMembers_wellFormed ms

theorem toDocuments_wellFormed : ∀ vs : List Json, Document.AllWellFormed (toDocuments vs)
  | [] => trivial
  | v :: vs => ⟨toDocument_wellFormed v, toDocuments_wellFormed vs⟩

theorem toDocumentMembers_wellFormed :
    ∀ ms : List (String × Json), Document.MembersWellFormed (toDocumentMembers ms)
  | [] => trivial
  | (_, v) :: ms => ⟨toDocument_wellFormed v, toDocumentMembers_wellFormed ms⟩

end

end Json

end WorkerTelemetry
