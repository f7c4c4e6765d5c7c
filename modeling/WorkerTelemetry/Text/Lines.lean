/-!
Lines of a text. A line ends at a line feed; the text after the last line feed is a line of its
own unless it is empty. A carriage return directly before a line feed belongs to the line's end.
-/

namespace WorkerTelemetry.Text

/-- The pieces between the characters equal to `sep`; there is always at least one piece. -/
def splitOnChar (sep : Char) : List Char → List (List Char)
  | [] => [[]]
  | c :: cs =>
    if c = sep then [] :: splitOnChar sep cs
    else
      match splitOnChar sep cs with
      | [] => [[c]]
      | p :: ps => (c :: p) :: ps

/-- Drops one carriage return at the end. -/
def dropReturn (cs : List Char) : List Char :=
  if cs.getLast? = some '\r' then cs.dropLast else cs

/-- The lines among the pieces between line feeds: all but the last were ended by one. -/
def linesOfPieces : List (List Char) → List (List Char)
  | [] => []
  | [last] => if last = [] then [] else [last]
  | p :: q :: ps => dropReturn p :: linesOfPieces (q :: ps)

def lines (s : String) : List String :=
  (linesOfPieces (splitOnChar '\n' s.toList)).map String.ofList

/-- The pieces of a text between the characters equal to `sep`. -/
def splitText (sep : Char) (s : String) : List String :=
  (splitOnChar sep s.toList).map String.ofList

theorem splitOnChar_append_cons {sep : Char} {xs : List Char} (h : sep ∉ xs) (ys : List Char) :
    splitOnChar sep (xs ++ sep :: ys) = xs :: splitOnChar sep ys := by
  induction xs with
  | nil => rw [List.nil_append, splitOnChar, if_pos rfl]
  | cons x xs ih =>
    rw [List.mem_cons, not_or] at h
    rw [List.cons_append, splitOnChar, if_neg (Ne.symm h.1), ih h.2]

theorem splitOnChar_ne_nil (sep : Char) (cs : List Char) : splitOnChar sep cs ≠ [] := by
  cases cs with
  | nil => simp [splitOnChar]
  | cons c cs =>
    rw [splitOnChar]
    split
    · simp
    · split <;> simp

/-- The pieces on both sides of a separator are those of the whole. -/
theorem splitOnChar_append (sep : Char) (xs ys : List Char) :
    splitOnChar sep (xs ++ sep :: ys) = splitOnChar sep xs ++ splitOnChar sep ys := by
  induction xs with
  | nil => exact splitOnChar_append_cons List.not_mem_nil ys
  | cons x xs ih =>
    rw [List.cons_append, splitOnChar, splitOnChar, ih]
    by_cases hx : x = sep
    · rw [if_pos hx, if_pos hx, List.cons_append]
    · rw [if_neg hx, if_neg hx]
      cases hp : splitOnChar sep xs with
      | nil => exact absurd hp (splitOnChar_ne_nil sep xs)
      | cons p ps => rfl

/-- What stands in front of the first separator is told from what stands behind it. -/
theorem eq_of_first_stop {α : Type} {stop : α} {a b c d : List α} (ha : stop ∉ a) (hb : stop ∉ b)
    (h : a ++ stop :: c = b ++ stop :: d) : a = b ∧ c = d := by
  induction a generalizing b with
  | nil =>
    cases b with
    | nil => exact ⟨rfl, (List.cons.inj h).2⟩
    | cons y b => exact absurd (List.cons.inj h).1 (List.ne_of_not_mem_cons hb)
  | cons x a ih =>
    cases b with
    | nil => exact absurd (List.cons.inj h).1.symm (List.ne_of_not_mem_cons ha)
    | cons y b =>
      obtain ⟨rfl, rest⟩ := List.cons.inj h
      obtain ⟨rfl, same⟩ :=
        ih (List.not_mem_of_not_mem_cons ha) (List.not_mem_of_not_mem_cons hb) rest
      exact ⟨rfl, same⟩

/-- What stands between two line feeds is a line. -/
theorem mem_lines {s : String} {a l b : List Char}
    (text : s.toList = a ++ '\n' :: (l ++ '\n' :: b)) (feedless : '\n' ∉ l) :
    String.ofList (dropReturn l) ∈ lines s := by
  have ended (ps : List (List Char)) {q : List Char} {qs : List (List Char)} :
      dropReturn l ∈ linesOfPieces (ps ++ l :: q :: qs) := by
    induction ps with
    | nil => exact List.mem_cons_self
    | cons p ps ih =>
      cases ps with
      | nil => exact List.mem_cons_of_mem _ ih
      | cons p' ps => exact List.mem_cons_of_mem _ ih
  refine List.mem_map_of_mem ?_
  rw [text, splitOnChar_append, splitOnChar_append_cons feedless]
  cases hq : splitOnChar '\n' b with
  | nil => exact absurd hq (splitOnChar_ne_nil '\n' b)
  | cons q qs => exact ended _

/-- Lines that are ended by line feeds are read back, but for a carriage return at their end. -/
theorem lines_join {ls : List String} (h : ∀ l ∈ ls, '\n' ∉ l.toList) :
    lines (String.join (ls.map (· ++ "\n"))) =
      ls.map fun l => String.ofList (dropReturn l.toList) := by
  have pieces : splitOnChar '\n' (String.join (ls.map (· ++ "\n"))).toList =
      ls.map String.toList ++ [[]] := by
    induction ls with
    | nil => rfl
    | cons l ls ih =>
      have hl : '\n' ∉ l.toList := h l List.mem_cons_self
      have hls := ih fun k hk => h k (List.mem_cons_of_mem l hk)
      rw [String.toList_join] at hls ⊢
      rw [List.map_cons, List.flatMap_cons, String.toList_append, List.append_assoc]
      exact (splitOnChar_append_cons hl _).trans (congrArg (l.toList :: ·) hls)
  have kept (ps : List (List Char)) : linesOfPieces (ps ++ [[]]) = ps.map dropReturn := by
    induction ps with
    | nil => rfl
    | cons p ps ih =>
      cases ps with
      | nil => rfl
      | cons q qs => exact congrArg (dropReturn p :: ·) ih
  rw [lines, pieces, kept, List.map_map, List.map_map]
  rfl

example : lines "a\r\nb\n\nc\r" = ["a", "b", "", "c\r"] := by decide +kernel
example : lines "" = [] ∧ lines "\n" = [""] := by decide +kernel

end WorkerTelemetry.Text
