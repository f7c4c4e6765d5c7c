import Mathlib.Data.List.Basic
import WorkerTelemetry.Log.Filter
import WorkerTelemetry.Log.Session
import WorkerTelemetry.Proofs.Log.Pairing

/-!
What a layer makes of an event. Its fields are visited one by one, and the message may stand
anywhere among them. Main statement: the sink is told what a logger would tell it that is called
with the message and with the other fields as keys and values, the target at their end. So it does
not show in a line which of the two producers it comes from.
-/

namespace WorkerTelemetry

theorem Json.nameText_eq_render {v : Json} (h : ∀ t, v ≠ .text t) : v.nameText = v.render := by
  cases v with
  | text t => exact absurd rfl (h t)
  | _ => rfl

namespace Log

/-! ### Visits -/

namespace Record

variable {r : Record} {f : String × FieldValue} {fs : List (String × FieldValue)}

theorem visit_message (h : f.1 = messageField) :
    r.visit f = { r with message := f.2.toJson.nameText } := if_pos h

theorem visit_other (h : f.1 ≠ messageField) :
    r.visit f = { r with attributes := r.attributes ++ [(f.1, f.2.toJson)] } := if_neg h

/-- Visits leave the severity, and append the fields that are no message. -/
theorem foldl_visit (fs : List (String × FieldValue)) (r : Record) :
    (fs.foldl visit r).severity = r.severity ∧
      (fs.foldl visit r).attributes = r.attributes ++
        (fs.filter fun f => f.1 != messageField).map fun f => (f.1, f.2.toJson) := by
  induction fs generalizing r with
  | nil => simp
  | cons f fs ih =>
    obtain ⟨severity, attributes⟩ := ih (r.visit f)
    rw [List.foldl_cons, severity, attributes]
    by_cases h : f.1 = messageField
    · rw [visit_message h]
      simp [h]
    · rw [visit_other h]
      simp [h]

theorem message_foldl_visit (others : ∀ f ∈ fs, f.1 ≠ messageField) :
    (fs.foldl visit r).message = r.message := by
  induction fs generalizing r with
  | nil => rfl
  | cons f fs ih =>
    obtain ⟨first, rest⟩ := List.forall_mem_cons.1 others
    rw [List.foldl_cons, ih rest, visit_other first]

/-- The last message counts, wherever it stands. -/
theorem message_foldl_visit_append {before after : List (String × FieldValue)} {v : FieldValue}
    (others : ∀ f ∈ after, f.1 ≠ messageField) :
    ((before ++ (messageField, v) :: after).foldl visit r).message = v.toJson.nameText := by
  rw [List.foldl_append, List.foldl_cons, message_foldl_visit others, visit_message rfl]

end Record

namespace Event

/-- What the message of an event is: the text of the last field of that name, its JSON text if its
value is no text, and empty if there is no such field. -/
inductive HasMessage (e : Event) : String → Prop
  | absent (others : ∀ f ∈ e.fields, f.1 ≠ messageField) : HasMessage e ""
  | text {before after : List (String × FieldValue)} {v : FieldValue} {t : String}
      (fields : e.fields = before ++ (messageField, v) :: after)
      (last : ∀ f ∈ after, f.1 ≠ messageField) (value : v.toJson = .text t) : HasMessage e t
  | rendered {before after : List (String × FieldValue)} {v : FieldValue}
      (fields : e.fields = before ++ (messageField, v) :: after)
      (last : ∀ f ∈ after, f.1 ≠ messageField) (value : ∀ t, v.toJson ≠ .text t) :
      HasMessage e v.toJson.render

/-- The fields that are no message, as keys and values, and the target. -/
def keyvals (e : Event) : List Json :=
  alternate (((e.fields.filter fun f => f.1 != messageField).map fun f => (f.1, f.2.toJson)) ++
    [("target", .text e.target)])

variable {e : Event} {m : String}

theorem message_of_hasMessage (h : e.HasMessage m) : e.visited.message = m := by
  change (e.fields.foldl Record.visit ⟨e.level.severity, "", []⟩).message = m
  cases h with
  | absent others => rw [Record.message_foldl_visit others]
  | text fields last value =>
    rw [fields, Record.message_foldl_visit_append last, value]
    rfl
  | @rendered before after v fields last value =>
    rw [fields, Record.message_foldl_visit_append last]
    exact Json.nameText_eq_render value

/-- Every event has a message; the one that its record is given. -/
theorem hasMessage_message (e : Event) : e.HasMessage e.message := by
  unfold message
  split
  next f found =>
    obtain ⟨name, late, early, fields, others⟩ := List.find?_eq_some_iff_append.1 found
    obtain ⟨n, v⟩ := f
    obtain rfl : n = messageField := by simpa using name
    -- the first message from behind is the last one
    have split : e.fields = early.reverse ++ (messageField, v) :: late.reverse := by
      have reversed := congrArg List.reverse fields
      simpa using reversed
    have last : ∀ f ∈ late.reverse, f.1 ≠ messageField := by
      intro f hf
      simpa using others f (List.mem_reverse.1 hf)
    by_cases text : ∃ t, v.toJson = .text t
    · obtain ⟨t, value⟩ := text
      have message := HasMessage.text split last value
      rwa [value]
    · have value : ∀ t, v.toJson ≠ .text t := not_exists.1 text
      rw [Json.nameText_eq_render value]
      exact .rendered split last value
  next none =>
    refine .absent fun f hf => ?_
    have other := List.find?_eq_none.1 none f (List.mem_reverse.2 hf)
    simpa using other

/-- The record that is built up from visits is that of the event. -/
theorem visited_eq (e : Event) : e.visited = e.record := by
  obtain ⟨severity, attributes⟩ := Record.foldl_visit e.fields ⟨e.level.severity, "", []⟩
  have message := message_of_hasMessage e.hasMessage_message
  unfold visited at message ⊢
  unfold record
  rw [Record.mk.injEq]
  exact ⟨severity, message, congrArg (· ++ _) attributes⟩

end Event

/-! ### Two producers -/

variable {s : Sink} {time : Timestamp} {e : Event}

/-- A sink is asked twice whether it lets a severity through, and answers alike. -/
theorem Sink.hear_eq_write (s : Sink) (time : Timestamp) (e : Event) :
    s.hear time e = s.write time e.record := by
  unfold hear
  rw [Event.visited_eq]
  split
  · rfl
  · next disabled => exact (if_neg disabled).symm

/-- What a filter lets through comes to the sink through its layer. -/
theorem Console.emit_eq_hear (c : Console) (time : Timestamp) (e : Event) :
    c.emit time e = if c.filter.passes e then { c with sink := c.sink.hear time e } else c := by
  rw [Sink.hear_eq_write]
  rfl

/-- A logger that puts nothing in front hands over what a layer does. -/
theorem Logger.record_keyvals {m : String} (h : e.HasMessage m) :
    ({} : Logger).record e.level.severity m e.keyvals = e.record := by
  have message : e.message = m := by
    rw [← Event.message_of_hasMessage h, Event.visited_eq]
    rfl
  rw [record, Event.keyvals, decodeKeyvals_alternate, ← message]
  rfl

/-- What an event makes of a sink is what a logger makes of it that is called with the severity and
the message of the event and with its other fields, then the target. -/
theorem Sink.hear_eq_log (s : Sink) (time : Timestamp) (e : Event) :
    (∃ m, e.HasMessage m) ∧ ∀ m, e.HasMessage m →
      s.hear time e = Logger.log {} s time e.level.severity m e.keyvals ∧
        (e.level.severity < s.minimum →
          s.hear time e = s ∧ Logger.log {} s time e.level.severity m e.keyvals = s) := by
  refine ⟨⟨e.message, e.hasMessage_message⟩, fun m message => ?_⟩
  have heard := s.hear_eq_write time e
  have logged : Logger.log {} s time e.level.severity m e.keyvals = s.write time e.record := by
    rw [Logger.log, Logger.record_keyvals message]
  refine ⟨heard.trans logged.symm, fun below => ?_⟩
  have silent : s.write time e.record = s := by
    have disabled : s.enabled e.record.severity = false := decide_eq_false (Nat.not_le.2 below)
    rw [write, disabled]
    rfl
  exact ⟨heard.trans silent, logged.trans silent⟩

/-- The message stands between other fields and is no text. -/
theorem Sink.hear_eq_log_flagMessage :
    Sink.hear ⟨.debug, .steady⟩ ⟨0⟩
        ⟨.trace, "worker", [("n", .flag false), ("message", .flag true), ("k", .text "v")]⟩ =
      Logger.log {} ⟨.debug, .steady⟩ ⟨0⟩ .debug "true"
        [.text "n", .bool false, .text "k", .text "v", .text "target", .text "worker"] := by
  have message : Event.HasMessage
      ⟨.trace, "worker", [("n", .flag false), ("message", .flag true), ("k", .text "v")]⟩
      "true" := by
    refine @Event.HasMessage.rendered _ [("n", .flag false)] [("k", .text "v")] (.flag true) rfl
      ?_ ?_
    · simp [messageField]
    · simp [FieldValue.toJson]
  exact ((Sink.hear_eq_log ⟨.debug, .steady⟩ ⟨0⟩ _).2 "true" message).1

end Log

end WorkerTelemetry
