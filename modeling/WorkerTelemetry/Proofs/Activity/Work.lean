import WorkerTelemetry.Proofs.Activity.Recordings
import WorkerTelemetry.Proofs.Metric.Steps

/-!
Runs in which sets of metrics are recorded in while all else goes on: collectors and registries are
made, other collectors are changed, and collectors are brought to registries. Main statement: after
any such run a set of metrics holds what was recorded in it, and nothing else.
-/

namespace WorkerTelemetry.Activity

open WorkerTelemetry.Metric

/-- A recording in a set of metrics, through any of its clones, or a step of another kind. -/
inductive Work
  | record (m : Metrics) (x : Recording)
  | other (x : Step)

namespace Work

/-- The steps that work takes. -/
def steps : Work → List Step
  | .record m x => x.changes.map fun y => .update (m.place y.1) 0 y.2.values y.2.act
  | .other x => [x]

/-- Work that changes a set of metrics, or others that share a place with it, by recordings in this
set only. -/
def Spares (m : Metrics) : Work → Prop
  | .record n _ => n = m ∨ m.Apart n
  | .other (.update c _ _ _) => c ∉ m.collectors
  | .other _ => True

/-- Work that records in one set of metrics, and brings collectors to registries. -/
def Arranges (m : Metrics) : Work → Prop
  | .record n _ => n = m
  | .other (.register _ _) => True
  | .other _ => False

/-- What is recorded in a set of metrics. -/
def recording? (m : Metrics) : Work → Option Recording
  | .record n x => if n = m then some x else none
  | .other _ => none

/-- The collector that is brought to a registry. -/
def brought? (r : RegistryId) : Work → Option CollectorId
  | .other (.register q c) => if q = r then some c else none
  | _ => none

theorem Arranges.spares {m : Metrics} {w : Work} (h : w.Arranges m) : w.Spares m := by
  cases w with
  | record n x => exact .inl h
  | other x =>
    cases x with
    | register r c => trivial
    | collector k => cases h
    | registry => cases h
    | update c part values act => cases h

end Work

def recorded (m : Metrics) (ws : List Work) : List Recording := ws.filterMap (Work.recording? m)

/-- The collectors that are brought to a registry, in their order. -/
def brought (r : RegistryId) (ws : List Work) : List CollectorId :=
  ws.filterMap (Work.brought? r)

/-- The store after some work. -/
def afterWork (s : Store) (ws : List Work) : Store := s.run (ws.flatMap Work.steps)

namespace Metrics

variable {m : Metrics} {s : Store} {rs : List Recording} {ws : List Work}

theorem step_update_eq (s : Store) (c : CollectorId) (values : List String)
    (act : Reading → Reading) : s.step (.update c 0 values act) = s.update c values act := by
  unfold Store.step Store.update
  dsimp only
  cases s.tryUpdate c 0 values act <;> rfl

theorem run_record (m : Metrics) (s : Store) (x : Recording) :
    s.run (Work.steps (.record m x)) = m.take s x := by
  rw [take_eq_foldl_change, Work.steps, Store.run, List.foldl_map]
  simp only [step_update_eq]
  rfl

theorem Holds.step (h : m.Holds s rs) {x : Step} (spares : (Work.other x).Spares m) :
    m.Holds (s.step x) rs := by
  refine ⟨h.distinct, fun p => ?_⟩
  have here : (m.place p).index < s.collectors.length :=
    Store.index_lt_of_collector (h.collector p)
  rw [Store.collector_step here]
  · exact h.collector p
  · rintro part values act rfl
    exact spares (m.place_mem p)

theorem Holds.work (h : m.Holds s rs) {w : Work} (spares : w.Spares m) :
    m.Holds (s.run w.steps) (rs ++ (w.recording? m).toList) := by
  cases w with
  | other x =>
    rw [Work.recording?, Option.toList_none, List.append_nil]
    exact h.step spares
  | record n x =>
    rw [run_record]
    by_cases hn : n = m
    · subst hn
      simpa [Work.recording?] using h.take x
    · have apart : m.Apart n := spares.resolve_left hn
      simpa [Work.recording?, hn] using h.take_apart apart x

/-- After work, a set of metrics holds what was recorded in it. -/
theorem Holds.afterWork (h : m.Holds s rs) (spares : ∀ w ∈ ws, w.Spares m) :
    m.Holds (afterWork s ws) (rs ++ recorded m ws) := by
  induction ws generalizing s rs with
  | nil => rwa [recorded, List.filterMap_nil, List.append_nil]
  | cons w ws ih =>
    obtain ⟨hw, hws⟩ := List.forall_mem_cons.1 spares
    have later := ih (h.work hw) hws
    have recordings : (w.recording? m).toList ++ recorded m ws = recorded m (w :: ws) := by
      unfold recorded
      rw [List.filterMap_cons]
      cases w.recording? m <;> rfl
    rw [List.append_assoc, recordings] at later
    rw [Activity.afterWork, List.flatMap_cons, Store.run_append]
    exact later

/-- Such work leaves all collectors but the metrics as they are. -/
theorem collector_afterWork (h : ∀ w ∈ ws, w.Arranges m) {c : CollectorId}
    (hc : c ∉ m.collectors) (s : Store) :
    (Activity.afterWork s ws).collector c = s.collector c := by
  induction ws generalizing s with
  | nil => rfl
  | cons w ws ih =>
    obtain ⟨hw, hws⟩ := List.forall_mem_cons.1 h
    rw [Activity.afterWork, List.flatMap_cons, Store.run_append]
    refine (ih hws _).trans ?_
    cases w with
    | record n x =>
      cases hw
      rw [run_record, take_eq_foldl_change]
      exact collector_foldl_change_of_notMem hc x.changes s
    | other x =>
      cases x with
      | register r d =>
        rw [Store.collector, Store.collector]
        exact congrArg (fun ks => ks.getD c.index ⟨[]⟩) (Store.collectors_register s r d)
      | collector k => cases hw
      | registry => cases hw
      | update d part values act => cases hw

end Metrics

end WorkerTelemetry.Activity
