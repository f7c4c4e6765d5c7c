import Mathlib.Data.List.Forall2
import WorkerTelemetry.Proofs.Json.RoundTrip
import WorkerTelemetry.Proofs.Log.Framing

/-!
Reading a log back. A writer that refuses no call is given one line for every record that is not
dropped, in the order of the records. Main statement: each of these lines has no control character
and is read as the object of its record, with all attributes in their order. Doubles are compared
by how they are written; nothing is said about the instants behind the times.
-/

namespace WorkerTelemetry

/-- The whole number that a numeral without fraction and exponent stands for. -/
def Decimal.Numeral.intValue? (n : Decimal.Numeral) : Option Int :=
  if n.fraction = [] ∧ n.power = none then
    let magnitude := Int.ofNat (Nat.ofDigitChars 10 n.whole 0)
    some (if n.negative then -magnitude else magnitude)
  else none

namespace Json

mutual

/-- Whether a document says what a value is. -/
def ReadAs : Json → Document → Prop
  | .null, d => d = .null
  | .bool b, d => d = .bool b
  | .number (.int k), d => ∃ n, d = .number n ∧ n.intValue? = some k
  | .number (.real x), d => d.render = (Json.number (.real x)).render
  | .text s, d => d = .text s
  | .list vs, d => ∃ ds, d = .list ds ∧ ReadAsAll vs ds
  | .object ms, d => ∃ es, d = .object es ∧ ReadAsMembers ms es

def ReadAsAll : List Json → List Document → Prop
  | [], ds => ds = []
  | v :: vs, ds => ∃ e es, ds = e :: es ∧ ReadAs v e ∧ ReadAsAll vs es

def ReadAsMembers : List (String × Json) → List (String × Document) → Prop
  | [], ds => ds = []
  | (k, v) :: ms, ds => ∃ e es, ds = (k, e) :: es ∧ ReadAs v e ∧ ReadAsMembers ms es

end

theorem intValue?_ofInt (k : Int) : (Decimal.Numeral.ofInt k).intValue? = some k := by
  have digits : Nat.ofDigitChars 10 (Decimal.digitChars k.natAbs) 0 = k.natAbs :=
    Nat.ofDigitChars_ten_toDigits
  rw [Decimal.Numeral.intValue?, Decimal.Numeral.ofInt, if_pos ⟨rfl, rfl⟩]
  simp only [digits, decide_eq_true_eq, Option.some.injEq, Int.ofNat_eq_natCast]
  split <;> omega

mutual

/-- A value is written as a document that says what it is. -/
theorem readAs_toDocument : ∀ v : Json, v.ReadAs v.toDocument
  | .null => rfl
  | .bool _ => rfl
  | .number (.int k) => ⟨_, rfl, intValue?_ofInt k⟩
  | .number (.real _) => rfl
  | .text _ => rfl
  | .list vs => ⟨_, rfl, readAsAll_toDocuments vs⟩
  | .object ms => ⟨_, rfl, readAsMembers_toDocumentMembers ms⟩

theorem readAsAll_toDocuments : ∀ vs : List Json, ReadAsAll vs (toDocuments vs)
  | [] => rfl
  | v :: vs => ⟨_, _, rfl, readAs_toDocument v, readAsAll_toDocuments vs⟩

theorem readAsMembers_toDocumentMembers :
    ∀ ms : List (String × Json), ReadAsMembers ms (toDocumentMembers ms)
  | [] => rfl
  | (_, v) :: ms => ⟨_, _, rfl, readAs_toDocument v, readAsMembers_toDocumentMembers ms⟩

end

end Json

namespace Log

/-- Whether a line has no control character and reads back as a record at a time. -/
def Record.ReadFrom (line : List UInt8) (x : Timestamp × Record) : Prop :=
  (∀ b ∈ line, 0x20 ≤ b.toNat) ∧
    ∃ text members, Text.ofUtf8? line = some text ∧
      Document.parse text = some (.object (("time", .text x.1.toText) ::
        ("level", .text x.2.severity.name) :: ("msg", .text x.2.message) :: members)) ∧
      List.Forall₂ (fun m a => m.1 = a.1 ∧ a.2.ReadAs m.2) members x.2.attributes

theorem Record.readFrom_body (time : Timestamp) (r : Record) :
    Record.ReadFrom (r.body time) (time, r) := by
  refine ⟨fun b hb => le_of_mem_body hb, _, _, Text.ofUtf8?_utf8 _,
    Document.parse_render (r.toDocument_wellFormed time), ?_⟩
  rw [List.forall₂_map_left_iff, List.forall₂_same]
  exact fun a _ => ⟨rfl, a.2.readAs_toDocument⟩

namespace Sink

variable {s : Sink} {rs : List (Timestamp × Record)}

theorem willing_write (willing : s.writer.Willing) (time : Timestamp) (r : Record) :
    (s.write time r).writer.Willing := by
  intro k
  unfold write
  split
  · dsimp only
    rw [Writer.turn_flush, Writer.turn_writeAll]
    exact willing k
  · exact willing k

theorem pieces_of_willing (willing : s.writer.Willing) : ∀ x ∈ s.pieces rs, x.1 = x.2 ++ [10] := by
  induction rs generalizing s with
  | nil => simp [pieces]
  | cons y rs ih =>
    obtain ⟨time, r⟩ := y
    intro x hx
    rcases List.mem_append.1 hx with hx | hx
    · split at hx
      · rw [List.mem_singleton.1 hx, ← Record.bytes_eq]
        exact willing.taken_eq_self _
      · cases hx
    · exact ih (willing_write willing time r) x hx

/-- A willing writer is given the lines one after the other. -/
theorem written_of_willing (willing : s.writer.Willing) :
    s.written rs = joinLines (s.lines rs) := by
  rw [written_eq, ← map_snd_pieces, joinLines, List.flatMap_map]
  rw [List.map_congr_left (pieces_of_willing willing)]
  rfl

theorem splitOn_written (willing : s.writer.Willing) (rs : List (Timestamp × Record)) :
    (s.written rs).splitOn 10 = s.lines rs ++ [[]] := by
  rw [written_of_willing willing]
  refine splitOn_joinLines fun l hl => ?_
  obtain ⟨x, -, rfl⟩ := List.mem_map.1 hl
  exact x.2.feed_notMem_body x.1

/-- The output has one line for every record that is not dropped, in their order, and each line is
read back as its record. -/
theorem decoded_lines (s : Sink) (willing : s.writer.Willing) (rs : List (Timestamp × Record)) :
    ∃ lines : List (List UInt8), (s.written rs).splitOn 10 = lines ++ [[]] ∧
      List.Forall₂ Record.ReadFrom lines
        (rs.filter fun x => decide (s.minimum ≤ x.2.severity)) := by
  refine ⟨s.lines rs, splitOn_written willing rs, ?_⟩
  rw [lines, List.forall₂_map_left_iff]
  exact List.forall₂_same.2 fun x _ => Record.readFrom_body x.1 x.2

/-- A record whose texts and keys have to be escaped, with a key twice and a key of the line. -/
def oddRecord : Record :=
  ⟨.warn, "two\nlines \"quoted\"", [("msg", .ofNat 7), ("k", .list [.null, .text "\x00"]),
    ("k", .object [("é", .bool true)])]⟩

theorem decoded_lines_oddRecord :
    let s : Sink := ⟨.warn, .scheduled { interruptEvery := 2, chunk := 3 }⟩
    let rs : List (Timestamp × Record) := [(⟨0⟩, oddRecord), (⟨1⟩, ⟨.info, "dropped", []⟩)]
    s.writer.Willing ∧
      ∃ lines : List (List UInt8), (s.written rs).splitOn 10 = lines ++ [[]] ∧
        List.Forall₂ Record.ReadFrom lines [(⟨0⟩, oddRecord)] :=
  have willing := Writer.scheduled_willing (s := { interruptEvery := 2, chunk := 3 }) rfl rfl
  ⟨willing, decoded_lines ⟨.warn, .scheduled { interruptEvery := 2, chunk := 3 }⟩ willing
    [(⟨0⟩, oddRecord), (⟨1⟩, ⟨.info, "dropped", []⟩)]⟩

end Sink

end Log

end WorkerTelemetry
