import WorkerTelemetry.Log.Logger

/-!
Alternating lists of keys and values. A list is decoded two by two from its front. Main statements:
a list of even length does not shift what follows it, so it may be decoded by itself; a list that
was written from attributes is decoded to them; and what stands at each place of the attributes, so
that every element of a list is in one attribute, and in its order.
-/

namespace WorkerTelemetry.Log

/-- Attributes written as keys and values, one after the other. -/
def alternate (attributes : List (String × Json)) : List Json :=
  attributes.flatMap fun a => [.text a.1, a.2]

theorem decodeKeyvals_append {xs : List Json} (even : xs.length % 2 = 0) (ys : List Json) :
    decodeKeyvals (xs ++ ys) = decodeKeyvals xs ++ decodeKeyvals ys := by
  induction xs using decodeKeyvals.induct with
  | case1 => rfl
  | case2 v => cases even
  | case3 k v rest ih =>
    simp only [List.length_cons] at even
    have shorter : rest.length % 2 = 0 := by omega
    rw [List.cons_append, List.cons_append, decodeKeyvals, decodeKeyvals, ih shorter,
      List.cons_append]

/-- The last value of a list of odd length has no partner. -/
theorem decodeKeyvals_concat {xs : List Json} (even : xs.length % 2 = 0) (v : Json) :
    decodeKeyvals (xs ++ [v]) = decodeKeyvals xs ++ [(badKey, v)] :=
  decodeKeyvals_append even [v]

theorem decodeKeyvals_alternate (attributes : List (String × Json)) :
    decodeKeyvals (alternate attributes) = attributes := by
  induction attributes with
  | nil => rfl
  | cons a as ih => exact congrArg (a :: ·) ih

/-- The attribute at a place is made of the two elements that belong there, or of the last one if it
is left alone. -/
theorem getElem?_decodeKeyvals (xs : List Json) (i : Nat) :
    (decodeKeyvals xs)[i]? =
      match xs[2 * i]?, xs[2 * i + 1]? with
      | some k, some v => some (k.nameText, v)
      | some v, none => some (badKey, v)
      | none, _ => none := by
  induction xs using decodeKeyvals.induct generalizing i with
  | case1 => rfl
  | case2 v => cases i <;> rfl
  | case3 k v rest ih =>
    cases i with
    | zero => rfl
    | succ i => exact ih i

theorem length_decodeKeyvals (xs : List Json) :
    (decodeKeyvals xs).length = (xs.length + 1) / 2 := by
  induction xs using decodeKeyvals.induct with
  | case1 => rfl
  | case2 v => simp [decodeKeyvals]
  | case3 k v rest ih =>
    simp only [decodeKeyvals, List.length_cons, ih]
    omega

/-- The value and the key at a place. -/
theorem decodeKeyvals_place (xs : List Json) (i : Nat) :
    ((decodeKeyvals xs).map (·.2))[i]? =
        (if 2 * i + 1 = xs.length then xs.getLast? else xs[2 * i + 1]?) ∧
      ((decodeKeyvals xs).map (·.1))[i]? =
        if 2 * i + 1 = xs.length then some badKey else xs[2 * i]?.map Json.nameText := by
  rw [List.getElem?_map, List.getElem?_map, getElem?_decodeKeyvals]
  rcases Nat.lt_trichotomy (2 * i + 1) xs.length with pair | last | behind
  · have key : 2 * i < xs.length := by omega
    rw [if_neg (Nat.ne_of_lt pair), if_neg (Nat.ne_of_lt pair), List.getElem?_eq_getElem key,
      List.getElem?_eq_getElem pair]
    exact ⟨rfl, rfl⟩
  · have element : 2 * i < xs.length := by omega
    have whole : xs.getLast? = xs[2 * i]? := by
      rw [List.getLast?_eq_getElem?, ← last, Nat.add_sub_cancel]
    have alone : xs[2 * i + 1]? = none := List.getElem?_eq_none (Nat.le_of_eq last.symm)
    rw [if_pos last, if_pos last, whole, alone, List.getElem?_eq_getElem element]
    exact ⟨rfl, rfl⟩
  · have no_key : xs[2 * i]? = none := List.getElem?_eq_none (Nat.le_of_lt_succ behind)
    have no_value : xs[2 * i + 1]? = none := List.getElem?_eq_none (Nat.le_of_lt behind)
    rw [if_neg (Nat.ne_of_gt behind), if_neg (Nat.ne_of_gt behind), no_key, no_value]
    exact ⟨rfl, rfl⟩

/-- Attributes have the elements at odd places for values, in their order, and the element in front
of each for its key; a last element that no key stands in front of is the value of a key of its own,
and there is one exactly if the length is odd. Texts name keys as they are, all else by its JSON
text. Nothing is shifted by a list of even length in front, and attributes that were written as keys
and values are decoded to themselves. -/
theorem decodeKeyvals_places (xs : List Json) :
    let attributes := decodeKeyvals xs
    attributes.length = (xs.length + 1) / 2 ∧
      (∀ i, (attributes.map (·.2))[i]? =
        if 2 * i + 1 = xs.length then xs.getLast? else xs[2 * i + 1]?) ∧
      (∀ i, (attributes.map (·.1))[i]? =
        if 2 * i + 1 = xs.length then some badKey else xs[2 * i]?.map Json.nameText) ∧
      (∀ s, (Json.text s).nameText = s) ∧
      (∀ v : Json, (∀ s, v ≠ .text s) → v.nameText = v.render) ∧
      (∀ written : List (String × Json), decodeKeyvals (alternate written) = written) ∧
      ∀ ys, xs.length % 2 = 0 → decodeKeyvals (xs ++ ys) = attributes ++ decodeKeyvals ys := by
  intro attributes
  refine ⟨length_decodeKeyvals xs, fun i => (decodeKeyvals_place xs i).1,
    fun i => (decodeKeyvals_place xs i).2, fun s => rfl, fun v no_text => ?_,
    decodeKeyvals_alternate, fun ys even => decodeKeyvals_append even ys⟩
  cases v with
  | text s => exact absurd rfl (no_text s)
  | _ => rfl

example : decodeKeyvals [.null, .bool true, .text "last"] =
    [("null", .bool true), ("!BADKEY", .text "last")] := rfl

end WorkerTelemetry.Log
