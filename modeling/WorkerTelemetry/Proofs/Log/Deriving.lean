import Mathlib.Logic.ExistsUnique
import WorkerTelemetry.Proofs.Log.Visiting

/-!
Loggers that are derived from one another. Each has a path: the lists that it and the loggers it
comes from were derived with. Main statement: what a logger hands to the sink has the attributes of
the lists on its path, each list decoded by itself, and then those of the call; whatever other
loggers do or are derived in between changes nothing of it.
-/

namespace WorkerTelemetry.Log.Session

/-! ### What a call does -/

/-- The logger that a call makes, if it makes one. -/
def Call.made (loggers : List Logger) : Call → Option Logger
  | .derive parent keyvals => loggers[parent]?.map fun l => l.derive keyvals
  | _ => none

/-- The record that a call hands to the sink, if it hands one. -/
def Call.handed (loggers : List Logger) : Call → Option Record
  | .derive _ _ => none
  | .log logger severity message keyvals =>
    loggers[logger]?.map fun l => l.record severity message keyvals
  | .record r => some r
  | .event e => some e.record

/-- A call makes a logger or hands over a record, or does nothing. The sink has no part in that. -/
theorem call_eq (s : Session) (time : Timestamp) (c : Call) :
    s.call time c = ⟨s.loggers ++ (c.made s.loggers).toList,
      (c.handed s.loggers).elim s.sink (s.sink.write time)⟩ := by
  obtain ⟨loggers, sink⟩ := s
  cases c with
  | derive parent keyvals =>
    simp only [call, Call.made, Call.handed]
    cases loggers[parent]? <;> simp
  | log logger severity message keyvals =>
    simp only [call, Call.made, Call.handed]
    cases loggers[logger]? <;> simp [Logger.log]
  | record r => simp [call, Call.made, Call.handed]
  | event e => simp [call, Call.made, Call.handed, Sink.hear_eq_write]

/-! ### Derivations -/

/-- The place that a logger is derived from, and the list, if so many loggers are there. -/
def Call.derivation (n : Nat) : Call → Option (Nat × List Json)
  | .derive parent keyvals => if parent < n then some (parent, keyvals) else none
  | _ => none

/-- Derivations, with that of a call. There is one logger more than there are derivations. -/
def note (table : List (Nat × List Json)) (c : Call) : List (Nat × List Json) :=
  table ++ (c.derivation (table.length + 1)).toList

/-- The derivations among calls. The first of them makes the second logger. -/
def derivations (cs : List Call) : List (Nat × List Json) := cs.foldl note []

/-- The lists that lead from the first logger to the one in a place. -/
inductive Path (table : List (Nat × List Json)) : Nat → List (List Json) → Prop
  | first : Path table 0 []
  | derived {n parent : Nat} {keyvals : List Json} {path : List (List Json)}
      (entry : table[n]? = some (parent, keyvals)) (above : Path table parent path) :
      Path table (n + 1) (path ++ [keyvals])

namespace Path

variable {table more : List (Nat × List Json)} {i : Nat} {path path' : List (List Json)}

theorem unique (h : Path table i path) (h' : Path table i path') : path = path' := by
  induction h generalizing path' with
  | first =>
    cases h'
    rfl
  | derived entry above ih =>
    cases h' with
    | derived entry' above' =>
      obtain ⟨rfl, rfl⟩ := Prod.mk.inj (Option.some.inj (entry.symm.trans entry'))
      rw [ih above']

/-- Further derivations change no path. -/
theorem append (h : Path table i path) : Path (table ++ more) i path := by
  induction h with
  | first => exact .first
  | @derived n parent keyvals path entry above ih =>
    refine .derived ?_ ih
    obtain ⟨used, -⟩ := List.getElem?_eq_some_iff.1 entry
    rw [List.getElem?_append_left used, entry]

end Path

/-- Loggers that were made by derivations, each from one that was there before it. -/
structure Made (table : List (Nat × List Json)) (loggers : List Logger) : Prop where
  length : loggers.length = table.length + 1
  first : loggers[0]? = some ⟨[]⟩
  derived : ∀ n parent keyvals, table[n]? = some (parent, keyvals) → parent ≤ n ∧
    ∃ l, loggers[parent]? = some l ∧ loggers[n + 1]? = some (l.derive keyvals)

namespace Made

variable {table : List (Nat × List Json)} {loggers : List Logger} {s : Session} {i : Nat}
  {path : List (List Json)}

theorem start (sink : Sink) : Made [] (Session.start sink).loggers :=
  ⟨rfl, rfl, fun n parent keyvals entry => by cases entry⟩

/-- A logger puts the attributes of its path in front. -/
theorem context (h : Made table loggers) (p : Path table i path) :
    loggers[i]? = some ⟨path.flatMap decodeKeyvals⟩ := by
  induction p with
  | first => exact h.first
  | derived entry above ih =>
    obtain ⟨-, l, hl, child⟩ := h.derived _ _ _ entry
    obtain rfl := Option.some.inj (ih.symm.trans hl)
    rw [child, Logger.derive, List.flatMap_append, List.flatMap_singleton]

/-- Every logger has a path, since each was derived from an earlier one. -/
theorem exists_path (h : Made table loggers) (hi : i < loggers.length) :
    ∃ path, Path table i path := by
  -- not on the table: the parent may stand anywhere in front
  induction i using Nat.strongRecOn with
  | ind i ih =>
    cases i with
    | zero => exact ⟨[], .first⟩
    | succ n =>
      have used : n < table.length := by
        have length := h.length
        omega
      have entry := List.getElem?_eq_getElem used
      obtain ⟨earlier, -⟩ := h.derived n _ _ entry
      obtain ⟨path, above⟩ := ih _ (Nat.lt_succ_of_le earlier) (by omega)
      exact ⟨_, .derived entry above⟩

theorem append (h : Made table loggers) {parent : Nat} {l : Logger}
    (hl : loggers[parent]? = some l) (keyvals : List Json) :
    Made (table ++ [(parent, keyvals)]) (loggers ++ [l.derive keyvals]) := by
  have length := h.length
  obtain ⟨used, -⟩ := List.getElem?_eq_some_iff.1 hl
  refine ⟨by simp [length], ?_, ?_⟩
  · rw [List.getElem?_append_left (by omega), h.first]
  · intro n parent' keyvals' entry
    rcases Nat.lt_or_ge n table.length with old | new
    · rw [List.getElem?_append_left old] at entry
      obtain ⟨earlier, l', hl', child⟩ := h.derived n _ _ entry
      obtain ⟨there, -⟩ := List.getElem?_eq_some_iff.1 hl'
      refine ⟨earlier, l', ?_, ?_⟩
      · rw [List.getElem?_append_left there, hl']
      · rw [List.getElem?_append_left (by omega), child]
    · -- the new entry is the last one
      obtain ⟨bound, -⟩ := List.getElem?_eq_some_iff.1 entry
      obtain rfl : n = table.length := by
        simp at bound
        omega
      rw [List.getElem?_concat_length] at entry
      cases entry
      refine ⟨by omega, l, ?_, ?_⟩
      · rw [List.getElem?_append_left used, hl]
      · rw [← length, List.getElem?_concat_length]

/-- A call makes a logger exactly if it is a derivation. -/
theorem call (h : Made table s.loggers) (time : Timestamp) (c : Call) :
    Made (note table c) (s.call time c).loggers := by
  have length := h.length
  rw [call_eq]
  cases c with
  | derive parent keyvals =>
    simp only [note, Call.derivation, Call.made]
    rcases Nat.lt_or_ge parent s.loggers.length with used | unused
    · have hl := List.getElem?_eq_getElem used
      rw [if_pos (length ▸ used), hl]
      exact h.append hl keyvals
    · rw [if_neg (length ▸ Nat.not_lt.2 unused), List.getElem?_eq_none unused]
      simpa using h
  | log _ _ _ _ => simpa [note, Call.derivation, Call.made] using h
  | record _ => simpa [note, Call.derivation, Call.made] using h
  | event _ => simpa [note, Call.derivation, Call.made] using h

theorem run (h : Made table s.loggers) (cs : List (Timestamp × Call)) :
    Made ((cs.map Prod.snd).foldl note table) (s.run cs).loggers := by
  induction cs generalizing s table with
  | nil => exact h
  | cons c cs ih => exact ih (h.call c.1 c.2)

end Made

/-! ### Runs -/

theorem run_append (s : Session) (cs after : List (Timestamp × Call)) :
    s.run (cs ++ after) = (s.run cs).run after := List.foldl_append

/-- Derivations are only ever added. -/
theorem foldl_note (table : List (Nat × List Json)) (cs : List Call) :
    ∃ more, cs.foldl note table = table ++ more := by
  induction cs generalizing table with
  | nil => exact ⟨[], (List.append_nil table).symm⟩
  | cons c cs ih =>
    obtain ⟨more, h⟩ := ih (note table c)
    rw [List.foldl_cons, h, note, List.append_assoc]
    exact ⟨_, rfl⟩

/-- The attributes that a logger puts in front stay the same, whatever is called afterwards. -/
theorem context_run (sink : Sink) {cs : List (Timestamp × Call)} {i : Nat}
    {path : List (List Json)} (p : Path (derivations (cs.map Prod.snd)) i path)
    (after : List (Timestamp × Call)) :
    (((start sink).run cs).run after).loggers[i]? = some ⟨path.flatMap decodeKeyvals⟩ := by
  have made := (Made.start sink).run (cs ++ after)
  rw [run_append, List.map_append, List.foldl_append] at made
  obtain ⟨more, further⟩ := foldl_note (derivations (cs.map Prod.snd)) (after.map Prod.snd)
  rw [derivations] at further p
  rw [further] at made
  exact made.context p.append

/-- A list of odd length on a path has its last value under a key of its own, and those behind it
are decoded as if it were not there. -/
theorem attributes_of_odd {path above below : List (List Json)} {pairs keyvals : List Json}
    {v : Json} (h : path ++ [keyvals] = above ++ (pairs ++ [v]) :: below)
    (even : pairs.length % 2 = 0) :
    path.flatMap decodeKeyvals ++ decodeKeyvals keyvals =
      above.flatMap decodeKeyvals ++ decodeKeyvals pairs ++
        (badKey, v) :: below.flatMap decodeKeyvals := by
  have all : path.flatMap decodeKeyvals ++ decodeKeyvals keyvals =
      (path ++ [keyvals]).flatMap decodeKeyvals := by
    rw [List.flatMap_append, List.flatMap_singleton]
  rw [all, h, List.flatMap_append, List.flatMap_cons, decodeKeyvals_concat even]
  simp

/-- At every moment of a session each logger has one path, and deriving a logger hands nothing to
the sink. A call on a logger hands over one record, with the attributes of the lists on its path,
each decoded by itself, and those of the call. It does so whatever is called in between, on
whichever loggers; and a list of odd length shifts nothing that stands behind it. -/
theorem logs_along_path (sink : Sink) (cs : List (Timestamp × Call)) :
    let s := (start sink).run cs
    let table := derivations (cs.map Prod.snd)
    (∀ i < s.loggers.length, ∃! path, Path table i path) ∧
      (∀ time parent keyvals, (s.call time (.derive parent keyvals)).sink = s.sink) ∧
      ∀ i path, Path table i path → ∀ after time severity message keyvals,
        let t := s.run after
        let r : Record := ⟨severity, message, path.flatMap decodeKeyvals ++ decodeKeyvals keyvals⟩
        t.call time (.log i severity message keyvals) = ⟨t.loggers, t.sink.write time r⟩ ∧
          ∀ above pairs v below, path ++ [keyvals] = above ++ (pairs ++ [v]) :: below →
            pairs.length % 2 = 0 →
              r.attributes = above.flatMap decodeKeyvals ++ decodeKeyvals pairs ++
                (badKey, v) :: below.flatMap decodeKeyvals := by
  intro s table
  have made : Made table s.loggers := (Made.start sink).run cs
  refine ⟨?_, ?_, ?_⟩
  · intro i hi
    obtain ⟨path, p⟩ := made.exists_path hi
    exact ⟨path, p, fun path' p' => p'.unique p⟩
  · intro time parent keyvals
    rw [call_eq]
    rfl
  · intro i path p after time severity message keyvals t r
    constructor
    · have there : t.loggers[i]? = some ⟨path.flatMap decodeKeyvals⟩ := context_run sink p after
      rw [call_eq]
      simp only [Call.made, Call.handed, there]
      simp [Logger.record, r]
    · intro above pairs v below split even
      exact attributes_of_odd split even

/-- Loggers that are derived with lists of odd length, on both sides of a branch. -/
def branchCalls : List (Timestamp × Call) :=
  [(⟨0⟩, .derive 0 [.text "job", .ofNat 7, .text "odd"]), (⟨1⟩, .derive 0 [.text "sibling"]),
    (⟨2⟩, .log 1 .debug "between" []), (⟨3⟩, .derive 1 [.ofNat 2, .text "b"])]

/-- The lists that lead to a logger are decoded one by one, also after its sibling was used. -/
theorem logs_along_path_branchCalls :
    let t := ((start ⟨.info, .steady⟩).run branchCalls).run
      [(⟨4⟩, .log 2 .error "beside" [.null]), (⟨5⟩, .derive 3 [.text "child"])]
    t.call ⟨6⟩ (.log 3 .warn "below" [.text "k"]) = ⟨t.loggers, t.sink.write ⟨6⟩ ⟨.warn, "below",
      [("job", .ofNat 7), (badKey, .text "odd"), ("2", .text "b"), (badKey, .text "k")]⟩⟩ := by
  have parent : Path (derivations (branchCalls.map Prod.snd)) 1
      [[.text "job", .ofNat 7, .text "odd"]] := .derived rfl .first
  have path : Path (derivations (branchCalls.map Prod.snd)) 3
      [[.text "job", .ofNat 7, .text "odd"], [.ofNat 2, .text "b"]] := .derived rfl parent
  obtain ⟨-, -, logged⟩ := logs_along_path ⟨.info, .steady⟩ branchCalls
  exact (logged 3 _ path _ ⟨6⟩ .warn "below" [.text "k"]).1

end WorkerTelemetry.Log.Session
