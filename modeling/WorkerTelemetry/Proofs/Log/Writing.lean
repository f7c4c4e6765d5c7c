import WorkerTelemetry.Log.Sink

/-!
What a writer takes of the bytes it is offered. Main statements: it takes a beginning of them; it
takes either all or nothing exactly if no call after the first one is refused; and a writer that
refuses no call takes all. Nothing is assumed about the sizes of the parts that are taken.
-/

namespace WorkerTelemetry.Log

/-- Whether a call takes nothing. -/
def Reply.refuses : Reply → Bool
  | .fails => true
  | .takes 0 => true
  | _ => false

namespace Writer

/-- The replies to the calls that offer some bytes, interruptions left out. -/
def replies (w : Writer) (bytes : List UInt8) : List Reply :=
  if h : bytes = [] then []
  else
    let turn := w.turn w.calls
    let called := { w with calls := w.calls + turn.interruptions + 1 }
    match turn.reply with
    | .fails => [.fails]
    | .takesAll => [.takesAll]
    | .takes 0 => [.takes 0]
    | .takes (n + 1) =>
      have : (bytes.drop (n + 1)).length < bytes.length := by
        have := List.length_pos_iff.2 h
        rw [List.length_drop]
        omega
      .takes (n + 1) ::
        replies { called with accepted := w.accepted ++ bytes.take (n + 1) } (bytes.drop (n + 1))
termination_by bytes.length

/-- What is taken of some bytes. -/
def taken (w : Writer) (bytes : List UInt8) : List UInt8 :=
  (w.writeAll bytes).accepted.drop w.accepted.length

/-- A part of the bytes was taken, and then a call was refused. -/
def Tears (w : Writer) (bytes : List UInt8) : Prop := ∃ r ∈ (w.replies bytes).tail, r.refuses = true

/-- A writer that refuses no call. -/
def Willing (w : Writer) : Prop := ∀ k, (w.turn k).reply.refuses = false

theorem accepted_flush (w : Writer) : w.flush.accepted = w.accepted := rfl

theorem turn_flush (w : Writer) : w.flush.turn = w.turn := rfl

theorem turn_writeAll (w : Writer) (bytes : List UInt8) : (w.writeAll bytes).turn = w.turn := by
  fun_induction writeAll w bytes <;> first | rfl | assumption

variable {w : Writer} {bytes : List UInt8}

theorem replies_nil (w : Writer) : w.replies [] = [] := by
  rw [replies, dif_pos rfl]

theorem exists_replies_eq_cons (h : bytes ≠ []) :
    ∃ rs, w.replies bytes = (w.turn w.calls).reply :: rs := by
  rw [replies, dif_neg h]
  dsimp only
  split
  · next e => exact ⟨[], by rw [e]⟩
  · next e => exact ⟨[], by rw [e]⟩
  · next e => exact ⟨[], by rw [e]⟩
  · next e => exact ⟨_, by rw [e]⟩

/-- A refused call is the last one. -/
theorem replies_of_refuses (h : bytes ≠ []) (hr : (w.turn w.calls).reply.refuses = true) :
    w.replies bytes = [(w.turn w.calls).reply] := by
  rw [replies, dif_neg h]
  dsimp only
  split
  · next e => rw [e]
  · next e => rw [e]
  · next e => rw [e]
  · next e =>
    rw [e] at hr
    cases hr

theorem replies_of_takes (h : bytes ≠ []) {n : Nat} (hr : (w.turn w.calls).reply = .takes (n + 1)) :
    w.replies bytes = .takes (n + 1) ::
      replies { w with
        calls := w.calls + (w.turn w.calls).interruptions + 1
        accepted := w.accepted ++ bytes.take (n + 1) } (bytes.drop (n + 1)) := by
  rw [replies, dif_neg h]
  dsimp only
  split
  · next e => rw [e] at hr; cases hr
  · next e => rw [e] at hr; cases hr
  · next e => rw [e] at hr; cases hr
  · next e => rw [e] at hr; cases hr; rfl

/-- What a write adds to the bytes taken before: nothing if the first call is refused, and all if
no call is. -/
theorem writeAll_spec (w : Writer) (bytes : List UInt8) :
    ∃ p, p <+: bytes ∧ (w.writeAll bytes).accepted = w.accepted ++ p ∧
      (p = bytes ↔ ∀ r ∈ w.replies bytes, r.refuses = false) ∧
      (p = [] ↔ bytes = [] ∨ (w.turn w.calls).reply.refuses = true) := by
  fun_induction writeAll w bytes with
  | case1 w =>
    refine ⟨[], List.nil_prefix, (List.append_nil _).symm, ?_, ?_⟩
    · simp [replies_nil]
    · simp
  | case2 w bytes h turn called hreply =>
    have refused : (w.turn w.calls).reply.refuses = true := by
      rw [show (w.turn w.calls).reply = .fails from hreply]
      rfl
    refine ⟨[], List.nil_prefix, (List.append_nil _).symm, ?_, ?_⟩
    · simp [replies_of_refuses h refused, refused, Ne.symm h]
    · simp [refused]
  | case3 w bytes h turn called hreply =>
    have all : (w.turn w.calls).reply = .takesAll := hreply
    have hreplies : w.replies bytes = [.takesAll] := by
      rw [replies, dif_neg h]
      simp only [all]
    refine ⟨bytes, List.prefix_rfl, rfl, ?_, ?_⟩
    · simp [hreplies, Reply.refuses]
    · simp [all, Reply.refuses]
  | case4 w bytes h turn called hreply =>
    have refused : (w.turn w.calls).reply.refuses = true := by
      rw [show (w.turn w.calls).reply = .takes 0 from hreply]
      rfl
    refine ⟨[], List.nil_prefix, (List.append_nil _).symm, ?_, ?_⟩
    · simp [replies_of_refuses h refused, refused, Ne.symm h]
    · simp [refused]
  | case5 w bytes h turn called n hreply hlt ih =>
    obtain ⟨p, ⟨rest, hrest⟩, haccepted, hall, -⟩ := ih
    have part : (w.turn w.calls).reply = .takes (n + 1) := hreply
    have whole : bytes.take (n + 1) ++ p = bytes ↔ p = bytes.drop (n + 1) := by
      constructor
      · intro e
        exact List.append_cancel_left (e.trans (List.take_append_drop (n + 1) bytes).symm)
      · rintro rfl
        exact List.take_append_drop (n + 1) bytes
    refine ⟨bytes.take (n + 1) ++ p, ⟨rest, ?_⟩, ?_, ?_, ?_⟩
    · rw [List.append_assoc, hrest, List.take_append_drop]
    · rw [haccepted, List.append_assoc]
    · rw [whole, hall, replies_of_takes h part, List.forall_mem_cons]
      exact ⟨fun hr => ⟨rfl, hr⟩, fun hr => hr.2⟩
    · simp [part, Reply.refuses, h]

theorem taken_eq {p : List UInt8} (h : (w.writeAll bytes).accepted = w.accepted ++ p) :
    w.taken bytes = p := by
  rw [taken, h, List.drop_left]

theorem accepted_writeAll (w : Writer) (bytes : List UInt8) :
    (w.writeAll bytes).accepted = w.accepted ++ w.taken bytes := by
  obtain ⟨p, -, h, -⟩ := writeAll_spec w bytes
  rw [taken_eq h, h]

theorem taken_prefix (w : Writer) (bytes : List UInt8) : w.taken bytes <+: bytes := by
  obtain ⟨p, hp, h, -⟩ := writeAll_spec w bytes
  rw [taken_eq h]
  exact hp

/-- All or nothing is taken exactly if no call after the first one is refused. -/
theorem taken_nil_or_self_iff : w.taken bytes = [] ∨ w.taken bytes = bytes ↔ ¬ w.Tears bytes := by
  obtain ⟨p, -, h, hall, hnone⟩ := writeAll_spec w bytes
  rw [taken_eq h, hall, hnone]
  by_cases hb : bytes = []
  · simp [hb, Tears, replies_nil]
  obtain ⟨rs, hrs⟩ := exists_replies_eq_cons (w := w) hb
  cases hr : (w.turn w.calls).reply.refuses with
  | true => simp [Tears, replies_of_refuses hb hr]
  | false => simp [Tears, hrs, hb, hr]

/-- A part and then a refusal tear the bytes. -/
theorem tears_of_takes {n : Nat} (hn : n + 1 < bytes.length)
    (hpart : (w.turn w.calls).reply = .takes (n + 1))
    (hnext : (w.turn (w.calls + (w.turn w.calls).interruptions + 1)).reply.refuses = true) :
    w.Tears bytes := by
  have hb : bytes ≠ [] := by
    rintro rfl
    cases hn
  have hrest : bytes.drop (n + 1) ≠ [] := by
    rw [Ne, List.drop_eq_nil_iff]
    omega
  rw [Tears, replies_of_takes hb hpart, List.tail_cons, replies_of_refuses hrest hnext]
  exact ⟨_, List.mem_singleton.2 rfl, hnext⟩

theorem exists_turn_of_mem_replies (w : Writer) (bytes : List UInt8) :
    ∀ r ∈ w.replies bytes, ∃ k, r = (w.turn k).reply := by
  fun_induction replies w bytes with
  | case1 w => simp
  | case2 w bytes h turn hreply =>
    exact fun r hr => ⟨w.calls, (List.mem_singleton.1 hr).trans hreply.symm⟩
  | case3 w bytes h turn hreply =>
    exact fun r hr => ⟨w.calls, (List.mem_singleton.1 hr).trans hreply.symm⟩
  | case4 w bytes h turn hreply =>
    exact fun r hr => ⟨w.calls, (List.mem_singleton.1 hr).trans hreply.symm⟩
  | case5 w bytes h turn called n hreply hlt ih =>
    intro r hr
    rcases List.mem_cons.1 hr with rfl | hr
    · exact ⟨w.calls, hreply.symm⟩
    · exact ih r hr

theorem Willing.taken_eq_self (h : w.Willing) (bytes : List UInt8) : w.taken bytes = bytes := by
  obtain ⟨p, -, haccepted, hall, -⟩ := writeAll_spec w bytes
  rw [taken_eq haccepted, hall]
  intro r hr
  obtain ⟨k, rfl⟩ := exists_turn_of_mem_replies w bytes r hr
  exact h k

theorem scheduled_willing {s : Schedule} (hf : s.failEvery = 0) (hz : s.zeroEvery = 0) :
    (scheduled s).Willing := by
  intro k
  have never : ∀ n, Schedule.falls 0 n = false := fun n => rfl
  simp only [scheduled, Schedule.turn, Schedule.reply, hf, hz, never, Bool.false_eq_true, if_false]
  split
  · rfl
  · next hc =>
    obtain ⟨n, hn⟩ := Nat.exists_eq_succ_of_ne_zero hc
    simp [hn, Reply.refuses]

end Writer

end WorkerTelemetry.Log
