import WorkerTelemetry.Proofs.Log.Decoding
import WorkerTelemetry.Proofs.Log.Deriving

/-!
Two sessions with the same calls, whose sinks have different minimum severities. The calls hand over
the same records, whatever the sinks let through. Main statement: the output of the session with the
higher minimum has the lines of the other output whose level is not below it, in their order; if the
calls are made at other times the lines differ in their times and in nothing else.
-/

namespace WorkerTelemetry

/-- The severity of a name in log lines. -/
def Severity.ofName? (s : String) : Option Severity := all.find? fun v => v.name == s

theorem Severity.ofName?_name (v : Severity) : ofName? v.name = some v := by cases v <;> rfl

namespace Log

/-! ### Levels and times of lines -/

/-- The severity that a line shows, in the first of its members of that name. -/
def shownSeverity? (line : List UInt8) : Option Severity :=
  match (Text.ofUtf8? line).bind Document.parse with
  | some (.object members) =>
    match members.find? fun m => m.1 == "level" with
    | some (_, .text name) => Severity.ofName? name
    | _ => none
  | _ => none

/-- Whether a line shows a severity that is not below a minimum. -/
def showsFrom (minimum : Severity) (line : List UInt8) : Bool :=
  (shownSeverity? line).any fun v => decide (minimum ≤ v)

/-- How a line with a time begins. -/
def timeChars (time : Timestamp) : List Char :=
  '\x7b' :: (Json.textChars "time" ++ ':' :: Json.textChars time.toText)

/-- Two lines that differ in their times and in nothing else. -/
def SameButTime (l l' : List UInt8) : Prop :=
  ∃ (time time' : Timestamp) (rest : List UInt8),
    l = Text.utf8 (timeChars time) ++ rest ∧ l' = Text.utf8 (timeChars time') ++ rest

namespace Record

/-- A line shows the severity of its record, whatever the keys of the attributes are. -/
theorem shownSeverity?_body (r : Record) (time : Timestamp) :
    shownSeverity? (r.body time) = some r.severity := by
  obtain ⟨-, text, members, read, parsed, -⟩ := r.readFrom_body time
  rw [shownSeverity?, read, Option.bind_some, parsed]
  exact Severity.ofName?_name r.severity

theorem showsFrom_body (minimum : Severity) (r : Record) (time : Timestamp) :
    showsFrom minimum (r.body time) = decide (minimum ≤ r.severity) := by
  rw [showsFrom, shownSeverity?_body, Option.any_some]

theorem body_sameButTime (r : Record) (time time' : Timestamp) :
    SameButTime (r.body time) (r.body time') := by
  have split : ∀ t, r.body t = Text.utf8 (timeChars t) ++
      Text.utf8 (Document.membersChars (("level", .text r.severity.name) ::
        ("msg", .text r.message) :: r.attributes.map fun a => (a.1, a.2.toDocument))) := by
    intro t
    rw [← Text.utf8_append]
    simp [body, toDocument, Document.chars, Document.memberChars, timeChars]
  exact ⟨time, time', _, split time, split time'⟩

end Record

namespace Sink

variable {s t : Sink} {rs rs' : List (Timestamp × Record)}

/-- Of the lines that a sink writes, those from a higher minimum on are the lines that a sink with
this minimum writes. -/
theorem lines_of_le (le : s.minimum ≤ t.minimum) (rs : List (Timestamp × Record)) :
    t.lines rs = (s.lines rs).filter (showsFrom t.minimum) := by
  have kept : ((s.emitted rs).filter fun x => showsFrom t.minimum (x.2.body x.1)) =
      t.emitted rs := by
    rw [emitted, emitted, List.filter_filter]
    apply List.filter_congr
    intro x _
    rw [Record.showsFrom_body, enabled, enabled, ← Bool.decide_and, decide_eq_decide]
    exact ⟨And.left, fun h => ⟨h, Severity.le_trans le h⟩⟩
  rw [lines, lines, List.filter_map, Function.comp_def, ← kept]

/-- The same records at other times have the same lines but for the times. -/
theorem lines_sameButTime (same : List.Forall₂ (fun x y => x.2 = y.2) rs rs') :
    List.Forall₂ SameButTime (s.lines rs) (s.lines rs') := by
  induction same with
  | nil => exact .nil
  | @cons x y rs rs' record _ ih =>
    obtain ⟨time, r⟩ := x
    obtain ⟨time', r'⟩ := y
    obtain rfl : r = r' := record
    simp only [lines, emitted, List.filter_cons]
    split
    · exact .cons (r.body_sameButTime time time') ih
    · exact ih

/-- Each line shows a severity that the sink lets through. -/
theorem shown_of_mem_lines {l : List UInt8} (h : l ∈ s.lines rs) :
    ∃ v, shownSeverity? l = some v ∧ s.minimum ≤ v := by
  obtain ⟨x, hx, rfl⟩ := List.mem_map.1 h
  exact ⟨x.2.severity, x.2.shownSeverity?_body x.1, of_decide_eq_true (List.mem_filter.1 hx).2⟩

end Sink

namespace Session

/-! ### The records of a session -/

/-- The records that calls hand over, one after the other. No sink has a part in that. -/
def handed (loggers : List Logger) : List (Timestamp × Call) → List (Timestamp × Record)
  | [] => []
  | (time, c) :: cs =>
    (c.handed loggers).toList.map (fun r => (time, r)) ++
      handed (loggers ++ (c.made loggers).toList) cs

/-- What the writer of a session takes while calls are made. -/
def written (s : Session) (cs : List (Timestamp × Call)) : List UInt8 :=
  (s.run cs).sink.writer.accepted.drop s.sink.writer.accepted.length

theorem sink_call (s : Session) (time : Timestamp) (c : Call) :
    (s.call time c).sink =
      s.sink.writeEach ((c.handed s.loggers).toList.map fun r => (time, r)) := by
  rw [call_eq]
  cases c.handed s.loggers <;> rfl

/-- A session writes the records that its calls hand over, and nothing else. -/
theorem sink_run (s : Session) (cs : List (Timestamp × Call)) :
    (s.run cs).sink = s.sink.writeEach (handed s.loggers cs) := by
  induction cs generalizing s with
  | nil => rfl
  | cons c cs ih =>
    obtain ⟨time, c⟩ := c
    have loggers : (s.call time c).loggers = s.loggers ++ (c.made s.loggers).toList := by
      rw [call_eq]
    calc ((s.call time c).run cs).sink
        = (s.call time c).sink.writeEach (handed (s.call time c).loggers cs) := ih _
      _ = s.sink.writeEach (handed s.loggers ((time, c) :: cs)) := by
        rw [sink_call, loggers, handed, Sink.writeEach, Sink.writeEach, Sink.writeEach,
          List.foldl_append]

theorem written_eq (s : Session) (cs : List (Timestamp × Call)) :
    s.written cs = s.sink.written (handed s.loggers cs) := by
  rw [written, Sink.written, sink_run]

/-- The same calls at other times hand over the same records. -/
theorem handed_congr {xs ys : List (Timestamp × Call)}
    (same : List.Forall₂ (fun x y => x.2 = y.2) xs ys) (loggers : List Logger) :
    List.Forall₂ (fun x y => x.2 = y.2) (handed loggers xs) (handed loggers ys) := by
  induction same generalizing loggers with
  | nil => exact .nil
  | @cons x y xs ys calls _ ih =>
    obtain ⟨time, c⟩ := x
    obtain ⟨time', c'⟩ := y
    obtain rfl : c = c' := calls
    have rest := ih (loggers ++ (c.made loggers).toList)
    rw [handed, handed]
    cases c.handed loggers with
    | none => exact rest
    | some r => exact .cons rfl rest

/-! ### Two minimum severities -/

/-- Calls are made on two sinks that refuse no byte, and the second lets through no less important
records than the first. Then its output has the lines of the other that show a level from its
minimum on, each as it stands there, but for the time if that is another; they come in the same
order, and there are no others. -/
theorem raising_removes_lines (loggers : List Logger) {low high : Sink}
    (willing : low.writer.Willing) (willing' : high.writer.Willing)
    (le : low.minimum ≤ high.minimum) {xs ys : List (Timestamp × Call)}
    (same : xs.map Prod.snd = ys.map Prod.snd) :
    ∃ lines raised : List (List UInt8),
      (written ⟨loggers, low⟩ xs).splitOn 10 = lines ++ [[]] ∧
        (written ⟨loggers, high⟩ ys).splitOn 10 = raised ++ [[]] ∧
        (∀ l ∈ lines, ∃ v, shownSeverity? l = some v ∧ low.minimum ≤ v) ∧
        List.Forall₂ SameButTime (lines.filter (showsFrom high.minimum)) raised ∧
        (xs = ys → lines.filter (showsFrom high.minimum) = raised) := by
  have calls : List.Forall₂ (fun x y => x.2 = y.2) xs ys := by
    rwa [← List.forall₂_eq_eq_eq, List.forall₂_map_left_iff, List.forall₂_map_right_iff] at same
  have filtered := Sink.lines_of_le le (handed loggers xs)
  refine ⟨low.lines (handed loggers xs), high.lines (handed loggers ys), ?_, ?_, ?_, ?_, ?_⟩
  · rw [written_eq, Sink.splitOn_written willing]
  · rw [written_eq, Sink.splitOn_written willing']
  · intro l hl
    exact Sink.shown_of_mem_lines hl
  · rw [← filtered]
    exact Sink.lines_sameButTime (handed_congr calls loggers)
  · rintro rfl
    exact filtered.symm

/-- Calls of every kind; an attribute has the key under which a line shows its severity. -/
def mixedCalls (start : Nat) : List (Timestamp × Call) :=
  [(⟨start⟩, .derive 0 [.text "level", .text "ERROR"]), (⟨start + 1⟩, .log 1 .info "kept low" []),
    (⟨start + 2⟩, .record ⟨.error, "direct", []⟩), (⟨start + 3⟩, .log 1 .warn "both" [.null]),
    (⟨start + 4⟩, .event ⟨.trace, "worker", [("message", .text "quiet")]⟩),
    (⟨start + 5⟩, .event ⟨.error, "worker", [("n", .unsigned 1)]⟩)]

/-- The writers take the bytes in parts of different sizes. -/
theorem raising_removes_lines_mixedCalls :
    let low : Sink := ⟨.debug, .scheduled { interruptEvery := 3, chunk := 2 }⟩
    let high : Sink := ⟨.warn, .steady⟩
    low.writer.Willing ∧ high.writer.Willing ∧ low.minimum ≤ high.minimum ∧
      ∃ lines raised : List (List UInt8),
        (written (start low) (mixedCalls 0)).splitOn 10 = lines ++ [[]] ∧
          (written (start high) (mixedCalls 50)).splitOn 10 = raised ++ [[]] ∧
          List.Forall₂ SameButTime (lines.filter (showsFrom .warn)) raised := by
  intro low high
  have willing : low.writer.Willing := Writer.scheduled_willing rfl rfl
  have willing' : high.writer.Willing := fun _ => rfl
  have le : low.minimum ≤ high.minimum := by decide
  have same : (mixedCalls 0).map Prod.snd = (mixedCalls 50).map Prod.snd := rfl
  obtain ⟨lines, raised, lowSplit, highSplit, -, alike, -⟩ :=
    raising_removes_lines [{}] willing willing' le same
  exact ⟨willing, willing', le, lines, raised, lowSplit, highSplit, alike⟩

end Session

end Log

end WorkerTelemetry
