import Mathlib.Data.List.Basic
import WorkerTelemetry.Text.Lines
import WorkerTelemetry.Text.Quoted

/-!
What a quoted text tells. No quoted character is the beginning of another one, so a text can be
told from its quoted form. Main statement: different texts are quoted differently.
-/

namespace WorkerTelemetry.Text

/-! ### Code points -/

theorem digitChar_injective {m n : Nat} (hm : m < 16) (hn : n < 16)
    (h : m.digitChar = n.digitChar) : m = n := by
  have apart : ∀ i < 16, ∀ j < 16, i.digitChar = j.digitChar → i = j := by decide
  exact apart m hm n hn h

theorem hexDigits_injective : Function.Injective hexDigits := by
  intro m
  induction m using Nat.strongRecOn with
  | ind m ih =>
    intro n h
    unfold hexDigits at h ih
    have below (k : Nat) : k % 16 < 16 := Nat.mod_lt k (by decide)
    rw [Nat.toDigits_eq_if (by decide), Nat.toDigits_eq_if (n := n) (by decide)] at h
    by_cases hm : m < 16 <;> by_cases hn : n < 16 <;> simp only [hm, hn, if_true, if_false] at h
    · exact digitChar_injective hm hn (List.singleton_inj.1 h)
    · exact absurd (List.append_eq_singleton_iff.1 h.symm) (by simp [Nat.toDigits_ne_nil])
    · exact absurd (List.append_eq_singleton_iff.1 h) (by simp [Nat.toDigits_ne_nil])
    · obtain ⟨front, last⟩ := List.append_inj' h rfl
      have quotients : m / 16 = n / 16 := ih (m / 16) (by omega) front
      have remainders := digitChar_injective (below m) (below n) (List.singleton_inj.1 last)
      omega

theorem brace_notMem_hexDigits (n : Nat) : '\x7d' ∉ hexDigits n := by
  have digit : ∀ i < 16, '\x7d' ≠ i.digitChar := by decide
  induction n using Nat.strongRecOn with
  | ind n ih =>
    unfold hexDigits at ih ⊢
    rw [Nat.toDigits_eq_if (by decide)]
    split
    next hn => simp [digit n hn]
    next hn =>
      have here := digit (n % 16) (Nat.mod_lt n (by decide))
      simp [ih (n / 16) (by omega), here]

/-! ### Characters -/

/-- The characters that are quoted by a letter, with these letters. -/
def letters : List (Char × Char) :=
  [('"', '"'), ('\\', '\\'), ('\n', 'n'), ('\r', 'r'), ('\t', 't'), ('\x00', '0')]

/-- How a character can be quoted. -/
inductive QuotedAs (c : Char) : List Char → Prop
  | plain (h : c ≠ '\\') : QuotedAs c [c]
  | letter {l : Char} (h : (c, l) ∈ letters) : QuotedAs c ['\\', l]
  | code : QuotedAs c ('\\' :: 'u' :: '\x7b' :: hexDigits c.toNat ++ ['\x7d'])

theorem quotedAs_quoteChar (c : Char) : QuotedAs c (quoteChar c) := by
  unfold quoteChar
  repeat' split
  all_goals first
    | exact .code
    | exact .plain ‹_›
    | subst_vars; exact .letter (by simp [letters])

theorem letters_injective {c d l : Char} (hc : (c, l) ∈ letters) (hd : (d, l) ∈ letters) :
    c = d := by
  simp only [letters, List.mem_cons, Prod.mk.injEq, List.not_mem_nil, or_false] at hc hd
  rcases hc with ⟨rfl, rfl⟩ | ⟨rfl, rfl⟩ | ⟨rfl, rfl⟩ | ⟨rfl, rfl⟩ | ⟨rfl, rfl⟩ | ⟨rfl, rfl⟩ <;>
    simpa [eq_comm] using hd

theorem ne_of_mem_letters {c l : Char} (h : (c, l) ∈ letters) : l ≠ 'u' := by
  rintro rfl
  simp [letters] at h

namespace QuotedAs

variable {c d : Char} {vs ws xs ys : List Char}

/-- A quoted character is told from what stands after it. -/
theorem append_inj (hc : QuotedAs c vs) (hd : QuotedAs d ws) (h : vs ++ xs = ws ++ ys) :
    c = d ∧ xs = ys := by
  cases hc with
  | plain hc =>
    cases hd with
    | plain hd => exact List.cons.inj h
    | letter hd => exact absurd (List.cons.inj h).1 hc
    | code => exact absurd (List.cons.inj h).1 hc
  | letter hc =>
    cases hd with
    | plain hd => exact absurd (List.cons.inj h).1.symm hd
    | letter hd =>
      obtain ⟨rfl, rfl⟩ := List.cons.inj (List.cons.inj h).2
      exact ⟨letters_injective hc hd, rfl⟩
    | code => exact absurd (List.cons.inj (List.cons.inj h).2).1 (ne_of_mem_letters hc)
  | code =>
    cases hd with
    | plain hd => exact absurd (List.cons.inj h).1.symm hd
    | letter hd => exact absurd (List.cons.inj (List.cons.inj h).2).1.symm (ne_of_mem_letters hd)
    | code =>
      have digits : hexDigits c.toNat ++ '\x7d' :: xs = hexDigits d.toNat ++ '\x7d' :: ys := by
        simpa using h
      obtain ⟨front, back⟩ :=
        eq_of_first_stop (brace_notMem_hexDigits _) (brace_notMem_hexDigits _) digits
      exact ⟨Char.toNat_inj.1 (hexDigits_injective front), back⟩

theorem ne_nil (h : QuotedAs c vs) : vs ≠ [] := by
  cases h <;> exact List.cons_ne_nil _ _

end QuotedAs

/-! ### Texts -/

theorem flatMap_quoteChar_injective :
    Function.Injective fun cs : List Char => cs.flatMap quoteChar := by
  intro cs
  induction cs with
  | nil =>
    intro ds h
    cases ds with
    | nil => rfl
    | cons d ds => exact absurd (List.append_eq_nil_iff.1 h.symm).1 (quotedAs_quoteChar d).ne_nil
  | cons c cs ih =>
    intro ds h
    cases ds with
    | nil => exact absurd (List.append_eq_nil_iff.1 h).1 (quotedAs_quoteChar c).ne_nil
    | cons d ds =>
      obtain ⟨rfl, rest⟩ := (quotedAs_quoteChar c).append_inj (quotedAs_quoteChar d) h
      rw [ih rest]

/-- Different texts are quoted differently. -/
theorem quote_injective : Function.Injective quote := by
  intro s t h
  have chars : quoteChars s.toList = quoteChars t.toList := String.ofList_injective h
  have inner := List.append_cancel_right (List.cons.inj chars).2
  exact String.toList_injective (flatMap_quoteChar_injective inner)

end WorkerTelemetry.Text
