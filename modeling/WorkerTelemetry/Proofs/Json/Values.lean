import WorkerTelemetry.Proofs.Json.RoundTrip
import WorkerTelemetry.Text.NameMap

/-!
Values, their members and their texts. Main statements: of the members that an object is made of,
the last with a key is what it has under this key; and a value without doubles, whose whole numbers
need no more than 64 bits and whose objects list their members in order, is read back from its text.
Doubles are left out, as they are read by a rule that rounds more than once.
-/

namespace WorkerTelemetry.Json

variable {ms : List (String × Json)} {k : String} {v : Json}

/-! ### Members -/

theorem placeMember_eq (k : String) (v : Json) (ms : List (String × Json)) :
    placeMember k v ms = NameMap.place k v ms := by
  induction ms with
  | nil => rfl
  | cons m ms ih => rw [placeMember, NameMap.place, ih]

theorem ascending_placeMember (h : (ms.map (·.1)).Pairwise (· < ·)) :
    ((placeMember k v ms).map (·.1)).Pairwise (· < ·) := by
  rw [placeMember_eq, NameMap.map_place]
  exact NameSet.place_ascending h

theorem mem_of_mem_placeMember {m : String × Json} (h : m ∈ placeMember k v ms) :
    m = (k, v) ∨ m ∈ ms := by
  induction ms with
  | nil => exact .inl (List.mem_singleton.1 h)
  | cons n ms ih =>
    rw [placeMember] at h
    split at h
    · exact (List.mem_cons.1 h).imp_right id
    · split at h
      · exact (List.mem_cons.1 h).imp_right (List.mem_cons_of_mem n)
      · rcases List.mem_cons.1 h with rfl | later
        · exact .inr List.mem_cons_self
        · exact (ih later).imp_right (List.mem_cons_of_mem n)

/-- A member whose key is larger than all others comes behind them. -/
theorem placeMember_of_last (last : ∀ m ∈ ms, m.1 < k) : placeMember k v ms = ms ++ [(k, v)] := by
  induction ms with
  | nil => rfl
  | cons m ms ih =>
    obtain ⟨lt, rest⟩ := List.forall_mem_cons.1 last
    have not_lt : ¬ k < m.1 := String.lt_asymm lt
    have ne : k ≠ m.1 := by
      rintro rfl
      exact String.lt_irrefl _ lt
    rw [placeMember, if_neg not_lt, if_neg ne, ih rest, List.cons_append]

theorem foldl_placeMember (acc ms : List (String × Json))
    (h : ((acc ++ ms).map (·.1)).Pairwise (· < ·)) :
    ms.foldl (fun acc m => placeMember m.1 m.2 acc) acc = acc ++ ms := by
  induction ms generalizing acc with
  | nil => exact (List.append_nil acc).symm
  | cons m ms ih =>
    have last : ∀ a ∈ acc, a.1 < m.1 := by
      rw [List.map_append, List.map_cons] at h
      intro a ha
      exact (List.pairwise_append.1 h).2.2 _ (List.mem_map_of_mem ha) _ List.mem_cons_self
    rw [List.foldl_cons, placeMember_of_last last, ih _ (by simpa using h), List.append_assoc,
      List.singleton_append]

/-- Members in the order of their keys are listed as they are. -/
theorem ofMembers_of_ascending (h : (ms.map (·.1)).Pairwise (· < ·)) :
    ofMembers ms = .object ms :=
  congrArg Json.object (foldl_placeMember [] ms h)

theorem find?_foldl_placeMember (acc ms : List (String × Json))
    (h : (acc.map (·.1)).Pairwise (· < ·)) (k : String) :
    ((ms.foldl (fun acc m => placeMember m.1 m.2 acc) acc).find? (·.1 == k)).map (·.2) =
      ((ms.reverse.find? (·.1 == k)).map (·.2)).or ((acc.find? (·.1 == k)).map (·.2)) := by
  induction ms generalizing acc with
  | nil => rfl
  | cons m ms ih =>
    rw [List.foldl_cons, ih _ (ascending_placeMember h), placeMember_eq, NameMap.find?_place h,
      List.reverse_cons, List.find?_append, List.find?_singleton]
    by_cases own : m.1 = k
    · simp [own]
    · simp [own, Ne.symm own]

/-- An object has under a key what its last member with this key says. -/
theorem member?_ofMembers (k : String) (ms : List (String × Json)) :
    member? k (ofMembers ms) = (ms.reverse.find? (·.1 == k)).map (·.2) := by
  have found := find?_foldl_placeMember [] ms List.Pairwise.nil k
  rwa [List.find?_nil, Option.map_none, Option.or_none] at found

/-! ### Texts -/

mutual

/-- Whether a value has no doubles, only whole numbers of 64 bits, and objects in order. -/
def Exact : Json → Prop
  | .null => True
  | .bool _ => True
  | .number (.int n) => -(Number.negativeLimit : Int) ≤ n ∧ n < Number.wordLimit
  | .number (.real _) => False
  | .text _ => True
  | .list vs => AllExact vs
  | .object ms => (ms.map (·.1)).Pairwise (· < ·) ∧ MembersExact ms

def AllExact : List Json → Prop
  | [] => True
  | v :: vs => v.Exact ∧ AllExact vs

def MembersExact : List (String × Json) → Prop
  | [] => True
  | (_, v) :: ms => v.Exact ∧ MembersExact ms

end

theorem membersExact_iff : MembersExact ms ↔ ∀ m ∈ ms, m.2.Exact := by
  induction ms with
  | nil => simp [MembersExact]
  | cons m ms ih => rw [MembersExact, ih, List.forall_mem_cons]

theorem exact_foldl_placeMember {acc : List (String × Json)} (h : (object acc).Exact)
    (more : ∀ m ∈ ms, m.2.Exact) :
    (object (ms.foldl (fun acc m => placeMember m.1 m.2 acc) acc)).Exact := by
  induction ms generalizing acc with
  | nil => exact h
  | cons m ms ih =>
    obtain ⟨first, rest⟩ := List.forall_mem_cons.1 more
    refine ih ⟨ascending_placeMember h.1, membersExact_iff.2 fun x hx => ?_⟩ rest
    rcases mem_of_mem_placeMember hx with rfl | old
    · exact first
    · exact membersExact_iff.1 h.2 x old

/-- An object is in order, whatever the order of its members was. -/
theorem exact_ofMembers (h : ∀ m ∈ ms, m.2.Exact) : (ofMembers ms).Exact :=
  exact_foldl_placeMember ⟨List.Pairwise.nil, trivial⟩ h

/-- A whole number of 64 bits is read back as it is. -/
theorem Number.ofNumeral_ofInt {n : Int} (low : -(negativeLimit : Int) ≤ n)
    (high : n < wordLimit) : ofNumeral (Decimal.Numeral.ofInt n) = some (.int n) := by
  have digits : Nat.ofDigitChars 10 (Decimal.digitChars n.natAbs) 0 = n.natAbs :=
    Nat.ofDigitChars_ten_toDigits
  simp only [ofNumeral, Decimal.Numeral.ofInt, digits]
  by_cases negative : n < 0
  · have fits : n.natAbs ≠ 0 ∧ n.natAbs ≤ negativeLimit := by omega
    have same : -Int.ofNat n.natAbs = n := by
      rw [Int.ofNat_eq_natCast]
      omega
    simp only [negative, fits, same, decide_true, Bool.true_eq_false, ne_eq, not_false_eq_true,
      and_self, false_and, and_false, if_true, if_false]
  · have fits : n.natAbs < wordLimit := by omega
    have same : Int.ofNat n.natAbs = n := by
      rw [Int.ofNat_eq_natCast]
      omega
    simp only [negative, fits, same, decide_false, and_self, if_true]

mutual

/-- What is written of such a value says this value. -/
theorem ofDocument_toDocument : ∀ {v : Json}, v.Exact → ofDocument v.toDocument = some v
  | .null, _ => rfl
  | .bool _, _ => rfl
  | .number (.int n), h => by
    have written : (Json.number (.int n)).toDocument = .number (Decimal.Numeral.ofInt n) := rfl
    rw [written, ofDocument, Number.ofNumeral_ofInt h.1 h.2]
    rfl
  | .text _, _ => rfl
  | .list vs, h => by
    rw [toDocument, ofDocument, ofDocuments_toDocuments h]
    rfl
  | .object ms, h => by
    rw [toDocument, ofDocument, ofDocumentMembers_toDocumentMembers h.2, Option.map_some,
      ofMembers_of_ascending h.1]

theorem ofDocuments_toDocuments : ∀ {vs : List Json}, AllExact vs →
    ofDocuments (toDocuments vs) = some vs
  | [], _ => rfl
  | v :: vs, h => by
    rw [toDocuments, ofDocuments, ofDocument_toDocument h.1, ofDocuments_toDocuments h.2]

theorem ofDocumentMembers_toDocumentMembers : ∀ {ms : List (String × Json)}, MembersExact ms →
    ofDocumentMembers (toDocumentMembers ms) = some ms
  | [], _ => rfl
  | (k, v) :: ms, h => by
    rw [toDocumentMembers, ofDocumentMembers, ofDocument_toDocument h.1,
      ofDocumentMembers_toDocumentMembers h.2]

end

/-- Such a value is read back from its text. -/
theorem parse_render_of_exact (h : v.Exact) : parse v.render = some v := by
  rw [parse, render, Document.parse_render v.toDocument_wellFormed, Option.bind_some,
    ofDocument_toDocument h]

end WorkerTelemetry.Json
