/-!
White space and ASCII letter case. White space is the Unicode property White_Space, not the
ASCII class of the core library; letter case is ASCII only.
-/

namespace WorkerTelemetry.Text

/-- The characters with the Unicode property White_Space. -/
def isBlank (c : Char) : Bool :=
  let n := c.toNat
  (0x9 ≤ n && n ≤ 0xd) || n == 0x20 || n == 0x85 || n == 0xa0 || n == 0x1680 ||
    (0x2000 ≤ n && n ≤ 0x200a) || n == 0x2028 || n == 0x2029 || n == 0x202f ||
    n == 0x205f || n == 0x3000

/-- Removes the blanks at both ends. -/
def trimChars (cs : List Char) : List Char :=
  ((cs.dropWhile isBlank).reverse.dropWhile isBlank).reverse

def trim (s : String) : String := String.ofList (trimChars s.toList)

def isBlankText (s : String) : Bool := s.toList.all isBlank

/-- Capital ASCII letters become small ones; every other character stays. -/
def toLowerAscii (s : String) : String := String.ofList (s.toList.map Char.toLower)

theorem isBlank_of_isWhitespace {c : Char} (h : c.isWhitespace = true) : isBlank c = true := by
  simp only [Char.isWhitespace, Bool.or_eq_true, decide_eq_true_eq] at h
  rcases h with ((rfl | rfl) | rfl) | rfl <;> decide

example : trim "\u2003 warn\u3000\n" = "warn" := by decide
example : isBlankText " \u0085" = true ∧ isBlankText "\u200b" = false := by decide

end WorkerTelemetry.Text
