import WorkerTelemetry.Proofs.Json.Grammar

/-!
Reading what was written. A document whose numerals follow the grammar is read back from its
compact text, with its members in their order and with all repetitions. A text is longer than the
number of values in it, so its length is fuel enough.
-/

namespace WorkerTelemetry.Document

open Decimal (Numeral)

theorem skipSpace_cons {c : Char} {cs : List Char} (h : isSpace c = false) :
    skipSpace (c :: cs) = c :: cs :=
  List.dropWhile_cons_of_neg (by simp [h])

theorem readKey_textChars (k : String) (rest : List Char) :
    readKey (Json.textChars k ++ ':' :: rest) = some (k, rest) := by
  have whole : Json.textChars k ++ ':' :: rest =
      '"' :: (k.toList.flatMap Json.escapeChar ++ '"' :: ':' :: rest) := by
    simp [Json.textChars]
  rw [whole, readKey, skipSpace_cons (by decide)]
  simp only [Json.readText_textChars, skipSpace_cons (show isSpace ':' = false by decide),
    String.ofList_toList]

/-- A numeral begins like no other token. -/
theorem exists_numeral_eq_cons {n : Numeral} (h : n.WellFormed) :
    ∃ c cs, n.chars = c :: cs ∧ isSpace c = false ∧
      ∀ d ∈ ['n', 't', 'f', '"', '[', ']', '{'], c ≠ d := by
  obtain ⟨c, cs, hcs, hc⟩ := Numeral.exists_chars_eq_cons h
  have blank : ∀ d ∈ [' ', '\t', '\n', '\r'], d.isDigit = false ∧ d ≠ '-' := by simp
  have other : ∀ d ∈ ['n', 't', 'f', '"', '[', ']', '{'], d.isDigit = false ∧ d ≠ '-' := by
    simp
  have differs : ∀ d, d.isDigit = false ∧ d ≠ '-' → c ≠ d := by
    rintro d ⟨hd, hne⟩ rfl
    rcases hc with hc | hc
    · rw [hd] at hc
      cases hc
    · exact hne hc
  refine ⟨c, cs, hcs, ?_, fun d hd => differs d (other d hd)⟩
  simp [isSpace, differs _ (blank ' ' (by decide)), differs _ (blank '\t' (by decide)),
    differs _ (blank '\n' (by decide)), differs _ (blank '\r' (by decide))]

/-- The text of a document begins with neither a blank nor a closing bracket. -/
theorem exists_chars_eq_cons : ∀ {d : Document}, d.WellFormed →
    ∃ c cs, d.chars = c :: cs ∧ isSpace c = false ∧ c ≠ ']'
  | .null, _ => ⟨'n', _, rfl, by decide, by decide⟩
  | .bool true, _ => ⟨'t', _, rfl, by decide, by decide⟩
  | .bool false, _ => ⟨'f', _, rfl, by decide, by decide⟩
  | .number n, h => by
    obtain ⟨c, cs, hcs, blank, other⟩ := exists_numeral_eq_cons h
    exact ⟨c, cs, hcs, blank, other ']' (by decide)⟩
  | .text s, _ => ⟨'"', _, rfl, by decide, by decide⟩
  | .list [], _ => ⟨'[', _, rfl, by decide, by decide⟩
  | .list (d :: ds), _ => ⟨'[', _, rfl, by decide, by decide⟩
  | .object [], _ => ⟨'\x7b', _, rfl, by decide, by decide⟩
  | .object (m :: ms), _ => ⟨'\x7b', _, rfl, by decide, by decide⟩

theorem stops_itemsChars (ds : List Document) (rest : List Char) :
    Numeral.Stops (itemsChars ds ++ rest) := by
  cases ds with
  | nil => intro c hc; cases hc; decide
  | cons d ds => intro c hc; cases hc; decide

theorem stops_membersChars (ms : List (String × Document)) (rest : List Char) :
    Numeral.Stops (membersChars ms ++ rest) := by
  cases ms with
  | nil => intro c hc; cases hc; decide
  | cons m ms => intro c hc; cases hc; decide

theorem readValue_number {n : Numeral} (h : n.WellFormed) {rest : List Char}
    (hr : Numeral.Stops rest) (fuel : Nat) :
    readValue (fuel + 1) (n.chars ++ rest) = some (.number n, rest) := by
  have back := Numeral.read_append h hr
  obtain ⟨c, cs, hcs, blank, other⟩ := exists_numeral_eq_cons h
  rw [hcs, List.cons_append] at back ⊢
  rw [readValue, skipSpace_cons blank]
  split
  · next e => exact absurd (List.cons.inj e).1 (other 'n' (by decide))
  · next e => exact absurd (List.cons.inj e).1 (other 't' (by decide))
  · next e => exact absurd (List.cons.inj e).1 (other 'f' (by decide))
  · next e => exact absurd (List.cons.inj e).1 (other '"' (by decide))
  · next e => exact absurd (List.cons.inj e).1 (other '[' (by decide))
  · next e => exact absurd (List.cons.inj e).1 (other '\x7b' (by decide))
  · rw [back]
    rfl

theorem readValue_text (s : String) (rest : List Char) (fuel : Nat) :
    readValue (fuel + 1) (Json.textChars s ++ rest) = some (.text s, rest) := by
  have whole : Json.textChars s ++ rest =
      '"' :: (s.toList.flatMap Json.escapeChar ++ '"' :: rest) := by
    simp [Json.textChars]
  rw [whole, readValue, skipSpace_cons (by decide)]
  simp only [Json.readText_textChars, Option.map_some, String.ofList_toList]

theorem readValue_list (fuel : Nat) {c : Char} {cs : List Char} (blank : isSpace c = false)
    (hc : c ≠ ']') :
    readValue (fuel + 1) ('[' :: c :: cs) =
      match readValue fuel (c :: cs) with
      | some (d, cs) => (readItems fuel cs [d]).map fun (ds, cs) => (.list ds, cs)
      | none => none := by
  rw [readValue, skipSpace_cons (by decide)]
  simp only [skipSpace_cons blank]
  split
  · next e => exact absurd (List.cons.inj e).1 hc
  · rfl

theorem readValue_object (fuel : Nat) (cs : List Char) :
    readValue (fuel + 1) ('\x7b' :: '"' :: cs) =
      match readKey ('"' :: cs) with
      | some (k, cs) =>
        match readValue fuel cs with
        | some (d, cs) => (readMembers fuel cs [(k, d)]).map fun (ms, cs) => (.object ms, cs)
        | none => none
      | none => none := rfl

theorem readItems_comma (fuel : Nat) (cs : List Char) (acc : List Document) :
    readItems (fuel + 1) (',' :: cs) acc =
      match readValue fuel cs with
      | some (d, cs) => readItems fuel cs (d :: acc)
      | none => none := rfl

theorem readMembers_comma (fuel : Nat) (cs : List Char) (acc : List (String × Document)) :
    readMembers (fuel + 1) (',' :: cs) acc =
      match readKey cs with
      | some (k, cs) =>
        match readValue fuel cs with
        | some (d, cs) => readMembers fuel cs ((k, d) :: acc)
        | none => none
      | none => none := rfl

mutual

/-- A document is read back from the front of a text. -/
theorem readValue_chars : ∀ {d : Document}, d.WellFormed → ∀ {rest : List Char},
    Numeral.Stops rest → ∀ {fuel : Nat}, d.chars.length ≤ fuel →
    readValue fuel (d.chars ++ rest) = some (d, rest)
  | d, h, rest, _, 0, hf => by
    obtain ⟨c, cs, hcs, -⟩ := exists_chars_eq_cons h
    rw [hcs] at hf
    cases hf
  | .null, _, rest, _, fuel + 1, _ => rfl
  | .bool true, _, rest, _, fuel + 1, _ => rfl
  | .bool false, _, rest, _, fuel + 1, _ => rfl
  | .number n, h, rest, hr, fuel + 1, _ => readValue_number h hr fuel
  | .text s, _, rest, _, fuel + 1, _ => readValue_text s rest fuel
  | .list [], _, rest, _, fuel + 1, _ => rfl
  | .list (d :: ds), h, rest, _, fuel + 1, hf => by
    simp only [chars, List.length_cons, List.length_append] at hf
    obtain ⟨c, cs, hcs, blank, hc⟩ := exists_chars_eq_cons h.1
    have first : readValue fuel (d.chars ++ (itemsChars ds ++ rest)) =
        some (d, itemsChars ds ++ rest) :=
      readValue_chars h.1 (stops_itemsChars ds rest) (by omega)
    have others : readItems fuel (itemsChars ds ++ rest) [d] = some (d :: ds, rest) :=
      readItems_itemsChars h.2 [d] (by omega)
    have whole : chars (.list (d :: ds)) ++ rest = '[' :: (d.chars ++ (itemsChars ds ++ rest)) := by
      simp [chars]
    rw [whole, hcs, List.cons_append, readValue_list fuel blank hc, ← List.cons_append, ← hcs,
      first]
    dsimp only
    rw [others]
    rfl
  | .object [], _, rest, _, fuel + 1, _ => rfl
  | .object ((k, d) :: ms), h, rest, _, fuel + 1, hf => by
    simp only [chars, memberChars, List.length_cons, List.length_append] at hf
    have first : readValue fuel (d.chars ++ (membersChars ms ++ rest)) =
        some (d, membersChars ms ++ rest) :=
      readValue_chars h.1 (stops_membersChars ms rest) (by omega)
    have others : readMembers fuel (membersChars ms ++ rest) [(k, d)] = some ((k, d) :: ms, rest) :=
      readMembers_membersChars h.2 [(k, d)] (by omega)
    have whole : chars (.object ((k, d) :: ms)) ++ rest =
        '\x7b' :: (Json.textChars k ++ ':' :: (d.chars ++ (membersChars ms ++ rest))) := by
      simp [chars, memberChars]
    have key := readKey_textChars k (d.chars ++ (membersChars ms ++ rest))
    rw [Json.textChars, List.cons_append] at key whole
    rw [whole, readValue_object, key]
    dsimp only
    rw [first]
    dsimp only
    rw [others]
    rfl

theorem readItems_itemsChars : ∀ {ds : List Document}, AllWellFormed ds →
    ∀ (acc : List Document) {rest : List Char} {fuel : Nat}, (itemsChars ds).length ≤ fuel →
    readItems fuel (itemsChars ds ++ rest) acc = some (acc.reverse ++ ds, rest)
  | [], _, acc, rest, 0, hf => by cases hf
  | d :: ds, _, acc, rest, 0, hf => by cases hf
  | [], _, acc, rest, fuel + 1, _ => by
    rw [List.append_nil]
    rfl
  | d :: ds, h, acc, rest, fuel + 1, hf => by
    simp only [itemsChars, List.length_cons, List.length_append] at hf
    have first : readValue fuel (d.chars ++ (itemsChars ds ++ rest)) =
        some (d, itemsChars ds ++ rest) :=
      readValue_chars h.1 (stops_itemsChars ds rest) (by omega)
    have others : readItems fuel (itemsChars ds ++ rest) (d :: acc) =
        some ((d :: acc).reverse ++ ds, rest) :=
      readItems_itemsChars h.2 (d :: acc) (by omega)
    have whole : itemsChars (d :: ds) ++ rest = ',' :: (d.chars ++ (itemsChars ds ++ rest)) := by
      simp [itemsChars]
    rw [whole, readItems_comma, first]
    dsimp only
    rw [others]
    simp

theorem readMembers_membersChars : ∀ {ms : List (String × Document)}, MembersWellFormed ms →
    ∀ (acc : List (String × Document)) {rest : List Char} {fuel : Nat},
    (membersChars ms).length ≤ fuel →
    readMembers fuel (membersChars ms ++ rest) acc = some (acc.reverse ++ ms, rest)
  | [], _, acc, rest, 0, hf => by cases hf
  | m :: ms, _, acc, rest, 0, hf => by cases hf
  | [], _, acc, rest, fuel + 1, _ => by
    rw [List.append_nil]
    rfl
  | (k, d) :: ms, h, acc, rest, fuel + 1, hf => by
    simp only [membersChars, memberChars, List.length_cons, List.length_append] at hf
    have first : readValue fuel (d.chars ++ (membersChars ms ++ rest)) =
        some (d, membersChars ms ++ rest) :=
      readValue_chars h.1 (stops_membersChars ms rest) (by omega)
    have others : readMembers fuel (membersChars ms ++ rest) ((k, d) :: acc) =
        some (((k, d) :: acc).reverse ++ ms, rest) :=
      readMembers_membersChars h.2 ((k, d) :: acc) (by omega)
    have whole : membersChars ((k, d) :: ms) ++ rest =
        ',' :: (Json.textChars k ++ ':' :: (d.chars ++ (membersChars ms ++ rest))) := by
      simp [membersChars, memberChars]
    rw [whole, readMembers_comma, readKey_textChars]
    dsimp only
    rw [first]
    dsimp only
    rw [others]
    simp

end

/-- A document is read back from its whole text. -/
theorem parse_render {d : Document} (h : d.WellFormed) : parse d.render = some d := by
  have stops : Numeral.Stops [] := fun c hc => by cases hc
  have back : readValue (d.chars.length + 1) (d.chars ++ []) = some (d, []) :=
    readValue_chars h stops (by omega)
  rw [List.append_nil] at back
  rw [parse, render, String.toList_ofList, back]
  rfl

end WorkerTelemetry.Document
