import Mathlib.Data.Nat.Find
import WorkerTelemetry.Proofs.Log.Framing

/-!
The calls of a writer one by one. A behaviour gives the end of every call that is ever made; the
writer that behaves so makes its turns of them. Main statement: what each record makes a sink do,
call by call, for every behaviour whose interruptions come to an end, and what the output is made
of. How long calls take is not looked at, nor what a flush answers.
-/

namespace WorkerTelemetry.Log

/-- How one call ends. -/
inductive Answer
  | interrupted
  | replied (r : Reply)
  deriving DecidableEq

/-- How all calls end that are ever made. Interruptions do not go on for ever. -/
structure Behaviour where
  answer : Nat → Answer
  ends : ∀ n, ∃ m, n ≤ m ∧ answer m ≠ .interrupted

instance : Inhabited Behaviour where
  default := ⟨fun _ => .replied .takesAll, fun n => ⟨n, Nat.le_refl n, by simp⟩⟩

/-- One call: the bytes that are offered, and how it ends. -/
structure Offer where
  bytes : List UInt8
  answer : Answer

namespace Offer

/-- The bytes that are taken. -/
def taken (o : Offer) : List UInt8 :=
  match o.answer with
  | .interrupted => []
  | .replied .fails => []
  | .replied .takesAll => o.bytes
  | .replied (.takes most) => o.bytes.take most

/-- Whether the call fails or takes nothing; an interrupted call does neither. -/
def refused (o : Offer) : Bool :=
  match o.answer with
  | .interrupted => false
  | .replied r => r.refuses

theorem taken_prefix (o : Offer) : o.taken <+: o.bytes := by
  unfold taken
  split
  · exact List.nil_prefix
  · exact List.nil_prefix
  · exact List.prefix_rfl
  · exact List.take_prefix _ _

theorem taken_append_left (o : Offer) : o.taken ++ o.bytes.drop o.taken.length = o.bytes :=
  List.prefix_append_drop o.taken_prefix |>.symm

theorem taken_of_refused {o : Offer} (h : o.refused = true) : o.taken = [] := by
  obtain ⟨bytes, answer⟩ := o
  cases answer with
  | interrupted => rfl
  | replied r =>
    match r with
    | .fails => rfl
    | .takesAll => cases h
    | .takes 0 => rfl
    | .takes (most + 1) => cases h

end Offer

/-- The bytes that are taken by some calls. -/
def takenBy (os : List Offer) : List UInt8 := os.flatMap Offer.taken

/-- The calls that offer some bytes, from call number `n` on. What is left is offered again, until
nothing is left or a call is refused. -/
inductive Offers (answer : Nat → Answer) : Nat → List UInt8 → List Offer → Prop
  | done (n : Nat) : Offers answer n [] []
  | refused {n : Nat} {bytes : List UInt8} (some_left : bytes ≠ [])
      (h : (⟨bytes, answer n⟩ : Offer).refused = true) : Offers answer n bytes [⟨bytes, answer n⟩]
  | again {n : Nat} {bytes : List UInt8} {os : List Offer} (some_left : bytes ≠ [])
      (h : (⟨bytes, answer n⟩ : Offer).refused = false)
      (rest : Offers answer (n + 1) (bytes.drop (Offer.taken ⟨bytes, answer n⟩).length) os) :
      Offers answer n bytes (⟨bytes, answer n⟩ :: os)

namespace Offers

variable {answer : Nat → Answer} {n : Nat} {bytes : List UInt8} {os os' : List Offer}

/-- The answers leave no choice. -/
theorem unique (h : Offers answer n bytes os) (h' : Offers answer n bytes os') : os = os' := by
  induction h generalizing os' with
  | done n =>
    cases h' with
    | done => rfl
    | refused some_left _ => exact absurd rfl some_left
    | again some_left _ _ => exact absurd rfl some_left
  | refused some_left hr =>
    cases h' with
    | done => exact absurd rfl some_left
    | refused => rfl
    | again _ hr' _ => cases hr.symm.trans hr'
  | again some_left hr _ ih =>
    cases h' with
    | done => exact absurd rfl some_left
    | refused _ hr' => cases hr.symm.trans hr'
    | again _ _ rest => rw [ih rest]

/-- A beginning of the bytes is taken; it is all of them exactly if no call is refused. -/
theorem takenBy_spec (h : Offers answer n bytes os) :
    takenBy os <+: bytes ∧ (takenBy os = bytes ↔ ∀ o ∈ os, o.refused = false) := by
  induction h with
  | done n => simp [takenBy]
  | refused some_left hr =>
    have nothing := Offer.taken_of_refused hr
    simp [takenBy, nothing, hr, Ne.symm some_left]
  | @again n bytes os some_left hr rest ih =>
    obtain ⟨beginning, whole⟩ := ih
    have here : takenBy (⟨bytes, answer n⟩ :: os) =
        Offer.taken ⟨bytes, answer n⟩ ++ takenBy os := List.flatMap_cons
    have left := Offer.taken_append_left ⟨bytes, answer n⟩
    dsimp only at left
    rw [here, List.forall_mem_cons, ← whole, and_iff_right hr]
    generalize bytes.drop (Offer.taken ⟨bytes, answer n⟩).length = more at *
    generalize Offer.taken ⟨bytes, answer n⟩ = part at *
    rw [← left, List.append_cancel_left_eq]
    exact ⟨(List.prefix_append_right_inj part).2 beginning, Iff.rfl⟩

/-- Only the last call can be refused. -/
theorem refused_dropLast (h : Offers answer n bytes os) : ∀ o ∈ os.dropLast, o.refused = false := by
  induction h with
  | done n => simp
  | refused some_left hr => simp
  | @again n bytes os some_left hr rest ih =>
    cases os with
    | nil => simp
    | cons o os =>
      rw [List.dropLast_cons_cons, List.forall_mem_cons]
      exact ⟨hr, ih⟩

/-- Interrupted calls offer the same bytes once more. -/
theorem after_interruptions {k : Nat} (some_left : bytes ≠ [])
    (hk : ∀ j < k, answer (n + j) = .interrupted) (h : Offers answer (n + k) bytes os) :
    Offers answer n bytes (List.replicate k ⟨bytes, .interrupted⟩ ++ os) := by
  induction k generalizing n with
  | zero => exact h
  | succ k ih =>
    have now : answer n = .interrupted := hk 0 (Nat.succ_pos k)
    have later : ∀ j < k, answer (n + 1 + j) = .interrupted := by
      intro j hj
      rw [Nat.add_assoc, Nat.add_comm 1 j]
      exact hk (j + 1) (Nat.succ_lt_succ hj)
    rw [Nat.add_comm k 1, ← Nat.add_assoc] at h
    rw [List.replicate_succ, List.cons_append, ← now]
    refine .again some_left (by rw [now]; rfl) ?_
    rw [now]
    exact ih later h

end Offers

/-! ### Turns and calls -/

namespace Writer

/-- The turns of a writer are made of answers to single calls. -/
def Follows (w : Writer) (answer : Nat → Answer) : Prop :=
  ∀ n, (∀ j < (w.turn n).interruptions, answer (n + j) = .interrupted) ∧
    answer (n + (w.turn n).interruptions) = .replied (w.turn n).reply

/-- A writer that has not been called yet and behaves in a given way. -/
def behaving (b : Behaviour) : Writer where
  turn n :=
    { interruptions := Nat.find (b.ends n) - n
      reply := match b.answer (Nat.find (b.ends n)) with
        | .replied r => r
        | .interrupted => .fails }

theorem behaving_follows (b : Behaviour) : (behaving b).Follows b.answer := by
  intro n
  obtain ⟨le, ended⟩ := Nat.find_spec (b.ends n)
  change (∀ j < Nat.find (b.ends n) - n, b.answer (n + j) = .interrupted) ∧
    b.answer (n + (Nat.find (b.ends n) - n)) = .replied ((behaving b).turn n).reply
  constructor
  · intro j hj
    have before := Nat.find_min (b.ends n) (Nat.add_lt_of_lt_sub' hj)
    by_contra other
    exact before ⟨Nat.le_add_right n j, other⟩
  · rw [Nat.add_sub_cancel' le]
    unfold behaving
    cases h : b.answer (Nat.find (b.ends n)) with
    | interrupted => exact absurd h ended
    | replied r => simp only [h]

namespace Schedule

variable {s : Schedule} {n bound : Nat}

/-- How call number `n` ends, the first being call number zero. -/
def answer (s : Schedule) (n : Nat) : Answer :=
  if s.interrupts (n + 1) then .interrupted else .replied (s.reply (n + 1))

theorem falls_iff {period n : Nat} : falls period n = true ↔ period ≠ 0 ∧ period ∣ n := by
  simp [falls, Nat.dvd_iff_mod_eq_zero]

theorem interrupts_of_lt {j : Nat} (h : j < s.interruptionsFrom n bound) :
    s.interrupts (n + j) = true := by
  induction bound generalizing n j with
  | zero => cases h
  | succ bound ih =>
    rw [interruptionsFrom] at h
    split at h
    next now =>
      cases j with
      | zero => exact now
      | succ j =>
        have later := ih (n := n + 1) (j := j) (by omega)
        rwa [Nat.add_assoc, Nat.add_comm 1] at later
    next => cases h

theorem interruptionsFrom_le (s : Schedule) (n bound : Nat) :
    s.interruptionsFrom n bound ≤ bound := by
  induction bound generalizing n with
  | zero => exact Nat.le_refl 0
  | succ bound ih =>
    have later := ih (n + 1)
    rw [interruptionsFrom]
    split <;> omega

theorem interrupts_eq_false (h : s.interruptionsFrom n bound < bound) :
    s.interrupts (n + s.interruptionsFrom n bound) = false := by
  induction bound generalizing n with
  | zero => cases h
  | succ bound ih =>
    rw [interruptionsFrom] at h ⊢
    split
    next now =>
      rw [if_pos now] at h
      have later := ih (n := n + 1) (by omega)
      rwa [Nat.add_assoc] at later
    next now => simpa using now

/-- Unless all calls are interrupted, every run of interruptions ends within the bound. -/
theorem interrupts_after (ends : s.interruptEvery ≠ 1 ∨ s.failEvery ≠ 0) (n : Nat) :
    s.interrupts (n + s.interruptionsFrom n (s.failEvery + 1)) = false := by
  rcases Nat.lt_or_eq_of_le (s.interruptionsFrom_le n (s.failEvery + 1)) with short | full
  · exact interrupts_eq_false short
  have all {j : Nat} (h : j < s.failEvery + 1) : s.interrupts (n + j) = true :=
    interrupts_of_lt (full ▸ h)
  rw [full]
  by_cases never : s.failEvery = 0
  · -- one call was interrupted, and the next one is not
    have now := falls_iff.1 (Bool.and_eq_true_iff.1 (all (Nat.succ_pos _))).2
    have period := ends.resolve_right (not_not_intro never)
    have next : falls s.interruptEvery (n + (s.failEvery + 1)) = false := by
      refine Bool.eq_false_iff.2 fun again => period ?_
      rw [never] at again
      exact Nat.dvd_one.1 ((Nat.dvd_add_right now.2).1 (falls_iff.1 again).2)
    rw [interrupts, next, Bool.and_false]
  · -- one of so many calls fails
    have below := Nat.mod_lt n (Nat.pos_of_ne_zero never)
    have multiple : n + (s.failEvery - n % s.failEvery) = s.failEvery * (n / s.failEvery + 1) := by
      have parts := Nat.div_add_mod n s.failEvery
      rw [Nat.mul_add, Nat.mul_one]
      omega
    have fails : falls s.failEvery (n + (s.failEvery - n % s.failEvery)) = true :=
      falls_iff.2 ⟨never, multiple ▸ Nat.dvd_mul_right _ _⟩
    have interrupted := all (j := s.failEvery - n % s.failEvery) (by omega)
    rw [interrupts, fails] at interrupted
    cases interrupted

end Schedule

/-- A repeating schedule that does not interrupt every call is such a behaviour. -/
theorem scheduled_follows {s : Schedule} (ends : s.interruptEvery ≠ 1 ∨ s.failEvery ≠ 0) :
    (scheduled s).Follows s.answer := by
  intro n
  constructor
  · intro j hj
    have now : s.interrupts (n + 1 + j) = true := Schedule.interrupts_of_lt hj
    rw [Schedule.answer, if_pos]
    rwa [Nat.add_right_comm]
  · have after := Schedule.interrupts_after ends (n + 1)
    change s.answer (n + s.interruptionsFrom (n + 1) (s.failEvery + 1)) = _
    rw [Schedule.answer, Nat.add_right_comm, after]
    rfl

/-- The same writer after calls that took some bytes. -/
def afterOffers (w : Writer) (os : List Offer) : Writer :=
  { w with calls := w.calls + os.length, accepted := w.accepted ++ takenBy os }

/-- The calls of the next turn: some that are interrupted, and one that is not. -/
def turnOffers (w : Writer) (bytes : List UInt8) : List Offer :=
  List.replicate (w.turn w.calls).interruptions ⟨bytes, .interrupted⟩ ++
    [⟨bytes, .replied (w.turn w.calls).reply⟩]

theorem afterOffers_append (w : Writer) (os os' : List Offer) :
    w.afterOffers (os ++ os') = (w.afterOffers os).afterOffers os' := by
  simp [afterOffers, takenBy, Nat.add_assoc]

theorem takenBy_turnOffers (w : Writer) (bytes : List UInt8) :
    takenBy (w.turnOffers bytes) = Offer.taken ⟨bytes, .replied (w.turn w.calls).reply⟩ := by
  unfold turnOffers takenBy
  rw [List.flatMap_append, List.flatMap_singleton, List.flatMap_eq_nil_iff.2, List.nil_append]
  intro o ho
  rw [List.eq_of_mem_replicate ho]
  rfl

theorem length_turnOffers (w : Writer) (bytes : List UInt8) :
    (w.turnOffers bytes).length = (w.turn w.calls).interruptions + 1 := by
  simp [turnOffers]

variable {w : Writer} {bytes : List UInt8}

theorem afterOffers_turnOffers {part : List UInt8}
    (h : Offer.taken ⟨bytes, .replied (w.turn w.calls).reply⟩ = part) :
    w.afterOffers (w.turnOffers bytes) =
      { w with
        calls := w.calls + (w.turn w.calls).interruptions + 1
        accepted := w.accepted ++ part } := by
  rw [afterOffers, takenBy_turnOffers, length_turnOffers, h, Nat.add_assoc]

namespace Follows

variable {answer : Nat → Answer}

/-- A turn that is refused is the last one. -/
theorem offers_refused (follows : w.Follows answer) (some_left : bytes ≠ [])
    (h : (w.turn w.calls).reply.refuses = true) :
    Offers answer w.calls bytes (w.turnOffers bytes) := by
  obtain ⟨interrupted, replied⟩ := follows w.calls
  refine .after_interruptions some_left interrupted ?_
  rw [← replied]
  refine .refused some_left ?_
  rw [replied]
  exact h

/-- After a turn that is not refused, the calls go on with what is left. -/
theorem offers_again (follows : w.Follows answer) (some_left : bytes ≠ [])
    (h : (w.turn w.calls).reply.refuses = false) {part rest : List UInt8}
    (taken : Offer.taken ⟨bytes, .replied (w.turn w.calls).reply⟩ = part)
    (left : bytes.drop part.length = rest) {os : List Offer}
    (ho : Offers answer (w.calls + (w.turn w.calls).interruptions + 1) rest os) :
    Offers answer w.calls bytes (w.turnOffers bytes ++ os) := by
  obtain ⟨interrupted, replied⟩ := follows w.calls
  rw [turnOffers, List.append_assoc]
  refine .after_interruptions some_left interrupted ?_
  rw [← replied] at taken ⊢
  refine .again some_left ?_ (by rwa [taken, left])
  rw [replied]
  exact h

end Follows

/-- A write makes finitely many calls, turn after turn. -/
theorem exists_offers {answer : Nat → Answer} (w : Writer) (follows : w.Follows answer)
    (bytes : List UInt8) :
    ∃ os, Offers answer w.calls bytes os ∧ w.writeAll bytes = w.afterOffers os := by
  fun_induction writeAll w bytes with
  | case1 w => exact ⟨[], .done w.calls, by simp [afterOffers, takenBy]⟩
  | case2 w bytes h turn called hreply =>
    have fails : (w.turn w.calls).reply = .fails := hreply
    have taken : Offer.taken ⟨bytes, .replied (w.turn w.calls).reply⟩ = [] := by rw [fails]; rfl
    refine ⟨w.turnOffers bytes, follows.offers_refused h (by rw [fails]; rfl), ?_⟩
    rw [afterOffers_turnOffers taken, List.append_nil]
  | case3 w bytes h turn called hreply =>
    have all : (w.turn w.calls).reply = .takesAll := hreply
    have taken : Offer.taken ⟨bytes, .replied (w.turn w.calls).reply⟩ = bytes := by rw [all]; rfl
    refine ⟨w.turnOffers bytes ++ [], ?_, ?_⟩
    · exact follows.offers_again h (by rw [all]; rfl) taken List.drop_length (.done _)
    · rw [List.append_nil, afterOffers_turnOffers taken]
  | case4 w bytes h turn called hreply =>
    have none : (w.turn w.calls).reply = .takes 0 := hreply
    have taken : Offer.taken ⟨bytes, .replied (w.turn w.calls).reply⟩ = [] := by rw [none]; rfl
    refine ⟨w.turnOffers bytes, follows.offers_refused h (by rw [none]; rfl), ?_⟩
    rw [afterOffers_turnOffers taken, List.append_nil]
  | case5 w bytes h turn called n hreply hlt ih =>
    have part : (w.turn w.calls).reply = .takes (n + 1) := hreply
    have taken : Offer.taken ⟨bytes, .replied (w.turn w.calls).reply⟩ = bytes.take (n + 1) := by
      rw [part]; rfl
    obtain ⟨os, ho, hw⟩ := ih follows
    refine ⟨w.turnOffers bytes ++ os, ?_, ?_⟩
    · refine follows.offers_again h (by rw [part]; rfl) taken ?_ ho
      rw [List.length_take, List.drop_eq_drop_iff]
      omega
    · rw [hw, afterOffers_append, afterOffers_turnOffers taken]

end Writer

/-! ### Records -/

namespace Sink

/-- What the write of a record makes of a sink whose writer behaves in a given way. -/
structure Adds (answer : Nat → Answer) (s : Sink) (time : Timestamp) (r : Record) : Prop where
  /-- A record below the minimum severity makes no call and no flush. -/
  dropped : r.severity < s.minimum → s.write time r = s
  /-- Any other record makes finitely many calls, and no others are possible. They are followed by
  one flush. What they take is a beginning of the line; it is the whole line exactly if no call is
  refused, and no call follows one that is. -/
  written : s.minimum ≤ r.severity → ∃ os : List Offer,
    (∀ os', Offers answer s.writer.calls (r.bytes time) os' ↔ os' = os) ∧
      s.write time r = ⟨s.minimum, (s.writer.afterOffers os).flush⟩ ∧
      s.writer.taken (r.bytes time) = takenBy os ∧
      takenBy os <+: r.bytes time ∧
      (takenBy os = r.bytes time ↔ ∀ o ∈ os, o.refused = false) ∧
      ∀ o ∈ os.dropLast, o.refused = false

variable {answer : Nat → Answer} {s : Sink}

theorem follows_write (h : s.writer.Follows answer) (time : Timestamp) (r : Record) :
    (s.write time r).writer.Follows answer := by
  unfold write
  split
  · unfold Writer.Follows
    dsimp only
    rw [Writer.turn_flush, Writer.turn_writeAll]
    exact h
  · exact h

theorem follows_writeEach (h : s.writer.Follows answer) (rs : List (Timestamp × Record)) :
    (s.writeEach rs).writer.Follows answer := by
  induction rs generalizing s with
  | nil => exact h
  | cons x rs ih => exact ih (follows_write h x.1 x.2)

/-- One record. -/
theorem adds_write (h : s.writer.Follows answer) (time : Timestamp) (r : Record) :
    s.Adds answer time r := by
  constructor
  · intro below
    have not_above : ¬ s.minimum ≤ r.severity := Nat.not_le_of_lt below
    exact if_neg (by simpa [enabled] using not_above)
  · intro above
    obtain ⟨os, ho, hw⟩ := s.writer.exists_offers h (r.bytes time)
    have taken : s.writer.taken (r.bytes time) = takenBy os := Writer.taken_eq (by rw [hw]; rfl)
    refine ⟨os, fun os' => ⟨fun ho' => ho'.unique ho, fun e => e ▸ ho⟩, ?_, taken,
      ho.takenBy_spec.1, ho.takenBy_spec.2, ho.refused_dropLast⟩
    rw [← hw]
    exact if_pos (decide_eq_true above)

/-- The same with a writer that behaves by a repeating schedule. -/
theorem adds_scheduled {w : Writer.Schedule} (ends : w.interruptEvery ≠ 1 ∨ w.failEvery ≠ 0)
    (minimum : Severity) (before : List (Timestamp × Record)) (time : Timestamp) (r : Record) :
    (writeEach ⟨minimum, .scheduled w⟩ before).Adds w.answer time r :=
  adds_write (follows_writeEach (Writer.scheduled_follows ends) before) time r

/-- What records make a sink do, one after the other. The output is made of what is taken of each
record's line, in the order of the records; so where all or nothing is taken of each, it consists
of whole lines. -/
theorem records_add (b : Behaviour) (minimum : Severity) :
    let s : Sink := ⟨minimum, .behaving b⟩
    (∀ before time r, (s.writeEach before).Adds b.answer time r) ∧
      ∀ rs, (s.writeEach rs).writer.accepted = ((s.pieces rs).map Prod.fst).flatten ∧
        (s.pieces rs).map Prod.snd = s.lines rs ∧
        ((∀ x ∈ s.pieces rs, x.1 = [] ∨ x.1 = x.2 ++ [10]) →
          ∃ kept : List (List UInt8), kept.Sublist (s.lines rs) ∧
            (s.writeEach rs).writer.accepted.splitOn 10 = kept ++ [[]]) := by
  intro s
  refine ⟨fun before time r => ?_, fun rs => ?_⟩
  · exact adds_write (follows_writeEach (Writer.behaving_follows b) before) time r
  · have output : (s.writeEach rs).writer.accepted = ((s.pieces rs).map Prod.fst).flatten :=
      accepted_writeEach
    refine ⟨output, map_snd_pieces, fun whole => ?_⟩
    rw [output, ← written_eq]
    exact (neverTorn_iff.2 whole).lines_sublist

end Sink

end WorkerTelemetry.Log
