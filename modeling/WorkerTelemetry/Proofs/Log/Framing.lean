import Mathlib.Data.List.Infix
import WorkerTelemetry.Proofs.Json.Nesting
import WorkerTelemetry.Proofs.Log.Writing
import WorkerTelemetry.Text.Lines

/-!
Lines in what a sink has written. A record that is torn leaves a fragment, and the line of the next
record is appended to it. Main statement: the output consists of whole lines exactly if no record
was torn; so a fragment is never made good by what follows, whatever the records are. Records whose
write failed at once leave nothing, and are simply missing.
-/

namespace WorkerTelemetry.Log

/-! ### Bytes in lines -/

/-- Lines, each ended by a line feed. -/
def joinLines (ls : List (List UInt8)) : List UInt8 := ls.flatMap (· ++ [10])

theorem splitOn_joinLines {ls : List (List UInt8)} (h : ∀ l ∈ ls, 10 ∉ l) :
    (joinLines ls).splitOn 10 = ls ++ [[]] := by
  induction ls with
  | nil => rfl
  | cons l ls ih =>
    obtain ⟨hl, hls⟩ := List.forall_mem_cons.1 h
    rw [joinLines, List.flatMap_cons, List.append_assoc, List.singleton_append,
      List.splitOn_append_cons_self_of_not_mem hl]
    exact congrArg _ (ih hls)

theorem eq_joinLines_of_splitOn {out : List UInt8} {ls : List (List UInt8)}
    (h : out.splitOn 10 = ls ++ [[]]) : out = joinLines ls := by
  have whole : [10].intercalate (out.splitOn 10) = out := List.intercalate_splitOn 10
  rw [← whole, h]
  clear h whole
  induction ls with
  | nil => rfl
  | cons l ls ih =>
    rw [List.cons_append, joinLines, List.flatMap_cons, ← joinLines, ← ih]
    cases ls <;> simp [List.intercalate]

/-- Beginnings of lines, of which no line is a proper end of another, make up whole lines only if
each of them is empty or a whole line. -/
theorem whole_of_flatten_eq {P : List UInt8 → Prop} (feedless : ∀ l, P l → 10 ∉ l)
    (free : ∀ q l, P l → P (q ++ l) → q = []) {ps : List (List UInt8 × List UInt8)}
    (hps : ∀ x ∈ ps, P x.2 ∧ x.1 <+: x.2 ++ [10]) {q : List UInt8} (hq : 10 ∉ q)
    {kept : List (List UInt8)} (hk : ∀ l ∈ kept, P l)
    (h : q ++ (ps.map Prod.fst).flatten = joinLines kept) :
    q = [] ∧ ∀ x ∈ ps, x.1 = [] ∨ x.1 = x.2 ++ [10] := by
  induction ps generalizing q kept with
  | nil =>
    refine ⟨?_, by simp⟩
    cases kept with
    | nil => simpa [joinLines] using h
    | cons k ks => exact absurd (by simp [joinLines] at h; simp [h]) hq
  | cons x ps ih =>
    obtain ⟨p, l⟩ := x
    obtain ⟨⟨hl, hp⟩, others⟩ := List.forall_mem_cons.1 hps
    rw [List.map_cons, List.flatten_cons] at h
    dsimp only at hl hp h
    rcases List.prefix_concat_iff.1 hp with rfl | hp
    · cases kept with
      | nil => simp [joinLines] at h
      | cons k ks =>
        -- the first line feed ends the fragment with this line, and a line that was kept
        obtain ⟨hk, hks⟩ := List.forall_mem_cons.1 hk
        have hql : 10 ∉ q ++ l := by simp [hq, feedless l hl]
        rw [joinLines, List.flatMap_cons, ← joinLines, List.append_assoc, List.append_assoc,
          List.singleton_append, List.singleton_append, ← List.append_assoc] at h
        obtain ⟨rfl, hrest⟩ := Text.eq_of_first_stop hql (feedless k hk) h
        obtain rfl := free q l hl hk
        exact ⟨rfl, List.forall_mem_cons.2 ⟨.inr rfl, (ih others (q := []) (by simp) hks hrest).2⟩⟩
    · have hqp : 10 ∉ q ++ p := by
        simp only [List.mem_append, not_or]
        exact ⟨hq, fun hmem => feedless l hl (hp.subset hmem)⟩
      obtain ⟨hnil, hrest⟩ := ih others hqp hk (by rwa [List.append_assoc])
      obtain ⟨rfl, rfl⟩ := List.append_eq_nil_iff.1 hnil
      exact ⟨rfl, List.forall_mem_cons.2 ⟨.inl rfl, hrest⟩⟩

/-! ### The lines of records -/

namespace Record

/-- The bytes of a record's line without its line feed. -/
def body (r : Record) (time : Timestamp) : List UInt8 := Text.utf8 (r.toDocument time).chars

theorem bytes_eq (r : Record) (time : Timestamp) : r.bytes time = r.body time ++ [10] := by
  rw [bytes, line, Text.utf8_append]
  rfl

theorem toDocument_wellFormed (r : Record) (time : Timestamp) :
    (r.toDocument time).WellFormed := by
  refine ⟨trivial, trivial, trivial, ?_⟩
  induction r.attributes with
  | nil => trivial
  | cons a as ih => exact ⟨a.2.toDocument_wellFormed, ih⟩

/-- No byte of a body lies below the space. -/
theorem le_of_mem_body {r : Record} {time : Timestamp} {b : UInt8} (h : b ∈ r.body time) :
    0x20 ≤ b.toNat := by
  rcases Nat.lt_or_ge b.toNat 0x80 with hb | hb
  · obtain ⟨c, hc, heq⟩ := Text.mem_utf8 h hb
    rw [← heq]
    exact Document.le_of_mem_chars (r.toDocument_wellFormed time) hc
  · omega

theorem feed_notMem_body (r : Record) (time : Timestamp) : 10 ∉ r.body time := by
  intro h
  have le := le_of_mem_body h
  exact absurd le (by decide)

/-- No body is a proper end of another. -/
theorem eq_nil_of_append_body {r r' : Record} {time time' : Timestamp} {q : List UInt8}
    (h : q ++ r.body time = r'.body time') : q = [] :=
  Document.eq_nil_of_append_time (r.toDocument_wellFormed time) (r'.toDocument_wellFormed time') h

end Record

/-! ### What a sink writes -/

namespace Sink

/-- Writes records one after the other. -/
def writeEach (s : Sink) (rs : List (Timestamp × Record)) : Sink :=
  rs.foldl (fun s x => s.write x.1 x.2) s

/-- What the writer takes while records are written. -/
def written (s : Sink) (rs : List (Timestamp × Record)) : List UInt8 :=
  (s.writeEach rs).writer.accepted.drop s.writer.accepted.length

/-- The records that are not dropped for their severity. -/
def emitted (s : Sink) (rs : List (Timestamp × Record)) : List (Timestamp × Record) :=
  rs.filter fun x => s.enabled x.2.severity

/-- The lines of the records that are not dropped. -/
def lines (s : Sink) (rs : List (Timestamp × Record)) : List (List UInt8) :=
  (s.emitted rs).map fun x => x.2.body x.1

/-- No record that is not dropped is torn when its turn comes. -/
def NeverTorn (s : Sink) : List (Timestamp × Record) → Prop
  | [] => True
  | (time, r) :: rs =>
    (s.enabled r.severity = true → ¬ s.writer.Tears (r.bytes time)) ∧
      NeverTorn (s.write time r) rs

/-- What was taken of each record that is not dropped, with its line. -/
def pieces (s : Sink) : List (Timestamp × Record) → List (List UInt8 × List UInt8)
  | [] => []
  | (time, r) :: rs =>
    (if s.enabled r.severity then [(s.writer.taken (r.bytes time), r.body time)] else []) ++
      pieces (s.write time r) rs

variable {s : Sink} {time : Timestamp} {r : Record} {rs : List (Timestamp × Record)}

theorem minimum_write : (s.write time r).minimum = s.minimum := by
  unfold write
  split <;> rfl

theorem accepted_write : (s.write time r).writer.accepted = s.writer.accepted ++
    if s.enabled r.severity then s.writer.taken (r.bytes time) else [] := by
  unfold write
  split
  · dsimp only
    rw [Writer.accepted_flush, Writer.accepted_writeAll]
  · exact (List.append_nil _).symm

theorem emitted_cons : s.emitted ((time, r) :: rs) =
    (if s.enabled r.severity then [(time, r)] else []) ++ (s.write time r).emitted rs := by
  have same : (s.write time r).emitted rs = s.emitted rs := by
    simp only [emitted, enabled, minimum_write]
  rw [same, emitted, List.filter_cons]
  split <;> rfl

theorem accepted_writeEach : (s.writeEach rs).writer.accepted =
    s.writer.accepted ++ ((s.pieces rs).map Prod.fst).flatten := by
  induction rs generalizing s with
  | nil => exact (List.append_nil _).symm
  | cons x rs ih =>
    obtain ⟨time, r⟩ := x
    have step : s.writeEach ((time, r) :: rs) = (s.write time r).writeEach rs := rfl
    rw [step, ih, accepted_write, pieces]
    split <;> simp

theorem written_eq : s.written rs = ((s.pieces rs).map Prod.fst).flatten := by
  rw [written, accepted_writeEach, List.drop_left]

theorem map_snd_pieces : (s.pieces rs).map Prod.snd = s.lines rs := by
  induction rs generalizing s with
  | nil => rfl
  | cons x rs ih =>
    obtain ⟨time, r⟩ := x
    rw [pieces, List.map_append, ih, lines, lines, emitted_cons, List.map_append]
    split <;> rfl

theorem pieces_spec : ∀ x ∈ s.pieces rs,
    (∃ time r, x.2 = Record.body r time) ∧ x.1 <+: x.2 ++ [10] := by
  induction rs generalizing s with
  | nil => simp [pieces]
  | cons y rs ih =>
    obtain ⟨time, r⟩ := y
    intro x hx
    rcases List.mem_append.1 hx with hx | hx
    · split at hx
      · rw [List.mem_singleton.1 hx, ← Record.bytes_eq]
        exact ⟨⟨time, r, rfl⟩, s.writer.taken_prefix _⟩
      · cases hx
    · exact ih x hx

/-- No record is torn exactly if all or nothing is taken of each. -/
theorem neverTorn_iff : s.NeverTorn rs ↔ ∀ x ∈ s.pieces rs, x.1 = [] ∨ x.1 = x.2 ++ [10] := by
  induction rs generalizing s with
  | nil => simp [NeverTorn, pieces]
  | cons y rs ih =>
    obtain ⟨time, r⟩ := y
    rw [NeverTorn, pieces, ih, List.forall_mem_append]
    refine and_congr_left fun _ => ?_
    rw [← Writer.taken_nil_or_self_iff, Record.bytes_eq]
    split <;> simp_all

theorem neverTorn_of_lines {kept : List (List UInt8)} (hk : ∀ l ∈ kept, l ∈ s.lines rs)
    (h : (s.written rs).splitOn 10 = kept ++ [[]]) : s.NeverTorn rs := by
  have whole := eq_joinLines_of_splitOn h
  rw [written_eq] at whole
  have bodies : ∀ l ∈ kept, ∃ time r, l = Record.body r time := by
    intro l hl
    obtain ⟨x, -, rfl⟩ := List.mem_map.1 (hk l hl)
    exact ⟨x.1, x.2, rfl⟩
  have feedless : ∀ l, (∃ time r, l = Record.body r time) → 10 ∉ l := by
    rintro l ⟨time, r, rfl⟩
    exact r.feed_notMem_body time
  have free : ∀ q l, (∃ time r, l = Record.body r time) →
      (∃ time r, q ++ l = Record.body r time) → q = [] := by
    rintro q l ⟨time, r, rfl⟩ ⟨time', r', h⟩
    exact Record.eq_nil_of_append_body h
  rw [neverTorn_iff]
  exact (whole_of_flatten_eq feedless free pieces_spec (q := []) (by simp) bodies whole).2

/-- If no record is torn, the lines that are there come in their order. -/
theorem NeverTorn.lines_sublist (h : s.NeverTorn rs) :
    ∃ kept : List (List UInt8), kept.Sublist (s.lines rs) ∧
      (s.written rs).splitOn 10 = kept ++ [[]] := by
  rw [neverTorn_iff] at h
  have hps : ∀ x ∈ s.pieces rs, (∃ time r, x.2 = Record.body r time) ∧ x.1 <+: x.2 ++ [10] :=
    pieces_spec
  rw [← map_snd_pieces, written_eq]
  generalize s.pieces rs = ps at h hps
  refine ⟨(ps.filter fun x => !x.1.isEmpty).map Prod.snd, List.filter_sublist.map _, ?_⟩
  have joined : (ps.map Prod.fst).flatten =
      joinLines ((ps.filter fun x => !x.1.isEmpty).map Prod.snd) := by
    clear hps
    induction ps with
    | nil => rfl
    | cons x ps ih =>
      obtain ⟨hx, others⟩ := List.forall_mem_cons.1 h
      obtain ⟨p, l⟩ := x
      rw [List.map_cons, List.flatten_cons, ih others]
      dsimp only at hx
      rcases hx with rfl | rfl
      · rfl
      · simp [joinLines]
  rw [joined]
  refine splitOn_joinLines fun l hl => ?_
  obtain ⟨x, hx, rfl⟩ := List.mem_map.1 hl
  obtain ⟨⟨time, r, heq⟩, -⟩ := hps x (List.mem_filter.1 hx).1
  rw [heq]
  exact r.feed_notMem_body time

/-- The output consists of whole lines of the records exactly if no record is torn; the lines then
come in the order of their records. -/
theorem whole_lines_iff_neverTorn (s : Sink) (rs : List (Timestamp × Record)) :
    ((∃ kept : List (List UInt8), (∀ l ∈ kept, l ∈ s.lines rs) ∧
        (s.written rs).splitOn 10 = kept ++ [[]]) ↔ s.NeverTorn rs) ∧
      (s.NeverTorn rs → ∃ kept : List (List UInt8), kept.Sublist (s.lines rs) ∧
        (s.written rs).splitOn 10 = kept ++ [[]]) := by
  refine ⟨⟨?_, ?_⟩, fun h => h.lines_sublist⟩
  · rintro ⟨kept, hk, h⟩
    exact neverTorn_of_lines hk h
  · intro h
    obtain ⟨kept, hk, hsplit⟩ := h.lines_sublist
    exact ⟨kept, fun l hl => hk.subset hl, hsplit⟩

/-- A writer that takes parts of at most 70 bytes, and fails at every second call. -/
def chunkedSink : Sink := ⟨.info, .scheduled { failEvery := 2, chunk := 70 }⟩

/-- A record that does not fit into one part. -/
def longRecord : Record := ⟨.info, "a message that does not fit into the first call", []⟩

/-- A record that does. -/
def shortRecord : Record := ⟨.info, "two", []⟩

/-- The fragment of the first record is joined by the line of the second. -/
theorem fragment_is_joined :
    chunkedSink.written [(⟨0⟩, longRecord), (⟨0⟩, shortRecord)] =
        (longRecord.body ⟨0⟩).take 70 ++ shortRecord.body ⟨0⟩ ++ [10] ∧
      ¬ ∃ kept : List (List UInt8),
        (∀ l ∈ kept, l ∈ chunkedSink.lines [(⟨0⟩, longRecord), (⟨0⟩, shortRecord)]) ∧
        (chunkedSink.written [(⟨0⟩, longRecord), (⟨0⟩, shortRecord)]).splitOn 10 =
          kept ++ [[]] := by
  constructor
  · decide +kernel
  · rintro ⟨kept, hk, h⟩
    have never := neverTorn_of_lines hk h
    refine never.1 rfl (Writer.tears_of_takes (n := 69) ?_ rfl rfl)
    decide +kernel

end Sink

end WorkerTelemetry.Log
