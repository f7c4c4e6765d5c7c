import WorkerTelemetry.Activity.Error
import WorkerTelemetry.Activity.Info
import WorkerTelemetry.Proofs.Json.Layouts

/-!
The records that the engine and the operators of a worker exchange with it: errors and information
of activities, which are read as a whole or not at all, and configurations, where a field that is
left out has its standard value. Main statement: `records_read_back`, for all layouts of all three.
-/

namespace WorkerTelemetry

/-! ### What reading asks for -/

namespace Json

theorem natBelow_eq_some_iff {limit n : Nat} {v : Json} :
    natBelow limit v = some n ↔ n < limit ∧ v = .ofNat n := by
  constructor
  · intro read
    unfold natBelow at read
    split at read
    · next m =>
      split at read
      · next bounds =>
        obtain rfl := Option.some.inj read
        refine ⟨bounds.2, ?_⟩
        rw [ofNat, Int.ofNat_eq_natCast, Int.toNat_of_nonneg bounds.1]
      · cases read
    · cases read
  · rintro ⟨bound, rfl⟩
    simp [natBelow, ofNat, bound]

end Json

namespace Activity

theorem Error.ofJson_eq_some_iff {v : Json} {e : Error} :
    ofJson v = some e ↔ v.IsRecord .strict 3 ∧
      (v.slot? 0 "kind").bind ErrorKind.ofJson = some e.kind ∧
      (v.slot? 1 "message").bind Json.text? = some e.message ∧
      (v.slot? 2 "non_retryable").bind Json.bool? = some e.nonRetryable := by
  by_cases shape : v.IsRecord .strict 3
  · rw [ofJson, Json.slots_of_isRecord fieldNames shape]
    obtain ⟨kind, message, nonRetryable⟩ := e
    simp only [fieldNames, List.mapIdx_cons, List.mapIdx_nil, Json.required, shape, true_and,
      Option.bind_eq_bind, Option.bind_some, Option.bind_eq_some_iff, Option.pure_def,
      Option.some.injEq, mk.injEq, Nat.zero_add, Nat.reduceAdd]
    constructor
    · rintro ⟨_, hkind, _, hmessage, _, hfinal, rfl, rfl, rfl⟩
      exact ⟨hkind, hmessage, hfinal⟩
    · rintro ⟨hkind, hmessage, hfinal⟩
      exact ⟨_, hkind, _, hmessage, _, hfinal, rfl, rfl, rfl⟩
  · rw [ofJson, Json.slots_of_not_isRecord fieldNames shape]
    simp [shape]

theorem Info.ofJson_eq_some_iff {v : Json} {i : Info} :
    ofJson v = some i ↔ v.IsRecord .strict 4 ∧
      (v.slot? 0 "activity_type").bind Json.text? = some i.kind ∧
      (v.slot? 1 "activity_id").bind Json.text? = some i.activityId ∧
      (v.slot? 2 "workflow_id").bind Json.text? = some i.workflowId ∧
      (v.slot? 3 "attempt").bind (Json.natBelow attemptLimit) = some i.attempt.toNat := by
  by_cases shape : v.IsRecord .strict 4
  · rw [ofJson, Json.slots_of_isRecord fieldNames shape]
    obtain ⟨kind, activityId, workflowId, attempt⟩ := i
    simp only [fieldNames, List.mapIdx_cons, List.mapIdx_nil, Json.required, shape, true_and,
      Option.bind_eq_bind, Option.bind_some, Option.bind_eq_some_iff, Option.pure_def,
      Option.some.injEq, mk.injEq, Nat.zero_add, Nat.reduceAdd]
    constructor
    · rintro ⟨_, hkind, _, hactivity, _, hworkflow, n, ⟨a, slot, hattempt⟩, rfl, rfl, rfl, rfl⟩
      refine ⟨hkind, hactivity, hworkflow, a, slot, ?_⟩
      have fits : n < 2 ^ 32 := (Json.natBelow_eq_some_iff.1 hattempt).1
      rw [hattempt, UInt32.toNat_ofNat_of_lt' fits]
    · rintro ⟨hkind, hactivity, hworkflow, hattempt⟩
      exact ⟨_, hkind, _, hactivity, _, hworkflow, _, hattempt, rfl, rfl, rfl, by simp⟩
  · rw [ofJson, Json.slots_of_not_isRecord fieldNames shape]
    simp [shape]

/-- The fields of an error with their stored values. -/
def Error.fields (e : Error) : List (String × Json) :=
  [("kind", e.kind.toJson), ("message", .text e.message), ("non_retryable", .bool e.nonRetryable)]

/-- The fields of information with their stored values. -/
def Info.fields (i : Info) : List (String × Json) :=
  [("activity_type", .text i.kind), ("activity_id", .text i.activityId),
    ("workflow_id", .text i.workflowId), ("attempt", .ofNat i.attempt.toNat)]

end Activity

/-- The fields of the settings with their stored values. -/
def Observability.fields (o : Observability) : List (String × Json) :=
  [("log_level", o.logLevel.toJson), ("metrics_address", .text o.metricsAddress),
    ("metrics_path", .text o.metricsPath)]

/-- Settings of which some fields are given and all others have their standard values. -/
def Observability.keeping (given : List String) (o : Observability) : Observability :=
  let standard : Observability := {}
  { logLevel := if "log_level" ∈ given then o.logLevel else standard.logLevel
    metricsAddress :=
      if "metrics_address" ∈ given then o.metricsAddress else standard.metricsAddress
    metricsPath := if "metrics_path" ∈ given then o.metricsPath else standard.metricsPath }

/-! ### Records that are read as a whole -/

namespace Json

/-- Records all of whose fields have to be there: they are read from their own text and in every
layout that gives all fields, and never if a field is missing or a list goes on behind the last. -/
structure ReadWhole {α : Type} (names : List String) (fields : α → List (String × Json))
    (toJson : α → Json) (ofJson : Json → Option α) : Prop where
  written : ∀ a, (parse (toJson a).render).bind ofJson = some a
  layout : ∀ a given v, Lays (fields a) given v → names ⊆ given → ofJson v = some a
  omission : ∀ v k name, names[k]? = some name → v.slot? k name = none → ofJson v = none
  surplus : ∀ vs, names.length < vs.length → ofJson (.list vs) = none

theorem not_isRecord_of_surplus {vs : List Json} {count : Nat} (long : count < vs.length) :
    ¬ (Json.list vs).IsRecord .strict count := by
  rintro (loose | short)
  · cases loose
  · omega

/-- An object that gives all fields by their names is read back from its text. -/
theorem parse_render_ofMembers {fields : List (String × Json)} (exact : ∀ f ∈ fields, f.2.Exact) :
    parse (ofMembers fields).render = some (ofMembers fields) :=
  parse_render_of_exact (exact_ofMembers exact)

end Json

open Json (Lays)

namespace Activity

theorem Error.layout {e : Error} {given : List String} {v : Json} (lays : Lays e.fields given v)
    (all : fieldNames ⊆ given) : ofJson v = some e := by
  have distinct : (e.fields.map (·.1)).Nodup := (by decide : fieldNames.Nodup)
  refine ofJson_eq_some_iff.2 ⟨lays.isRecord .strict, ?_, ?_, ?_⟩
  · rw [lays.slot? distinct rfl, if_pos (all (by decide)), Option.bind_some,
      ErrorKind.ofJson_toJson]
  · rw [lays.slot? distinct rfl, if_pos (all (by decide))]
    rfl
  · rw [lays.slot? distinct rfl, if_pos (all (by decide))]
    rfl

theorem Error.readWhole :
    Json.ReadWhole Error.fieldNames Error.fields Error.toJson Error.ofJson := by
  constructor
  · intro e
    have exact : ∀ f ∈ e.fields, f.2.Exact := by
      simp [fields, Json.Exact, ErrorKind.toJson]
    rw [show e.toJson = .ofMembers e.fields from rfl, Json.parse_render_ofMembers exact]
    exact Error.layout (Lays.whole e.fields) (List.Subset.refl _)
  · intro e given v lays all
    exact Error.layout lays all
  · intro v k name hk missing
    refine Option.eq_none_iff_forall_ne_some.2 fun e read => ?_
    obtain ⟨-, kind, message, final⟩ := ofJson_eq_some_iff.1 read
    match k, hk with
    | 0, rfl => rw [missing] at kind; cases kind
    | 1, rfl => rw [missing] at message; cases message
    | 2, rfl => rw [missing] at final; cases final
  · intro vs long
    refine Option.eq_none_iff_forall_ne_some.2 fun e read => ?_
    exact Json.not_isRecord_of_surplus long (ofJson_eq_some_iff.1 read).1

theorem Info.layout {i : Info} {given : List String} {v : Json} (lays : Lays i.fields given v)
    (all : fieldNames ⊆ given) : ofJson v = some i := by
  have distinct : (i.fields.map (·.1)).Nodup := (by decide : fieldNames.Nodup)
  refine ofJson_eq_some_iff.2 ⟨lays.isRecord .strict, ?_, ?_, ?_, ?_⟩
  · rw [lays.slot? distinct rfl, if_pos (all (by decide))]
    rfl
  · rw [lays.slot? distinct rfl, if_pos (all (by decide))]
    rfl
  · rw [lays.slot? distinct rfl, if_pos (all (by decide))]
    rfl
  · rw [lays.slot? distinct rfl, if_pos (all (by decide)), Option.bind_some]
    exact Json.natBelow_eq_some_iff.2 ⟨i.attempt.toNat_lt, rfl⟩

theorem Info.readWhole : Json.ReadWhole Info.fieldNames Info.fields Info.toJson Info.ofJson := by
  constructor
  · intro i
    have exact : ∀ f ∈ i.fields, f.2.Exact := by
      have small : i.attempt.toNat < 2 ^ 32 := i.attempt.toNat_lt
      simp [fields, Json.Exact, Json.ofNat, Json.Number.negativeLimit, Json.Number.wordLimit]
      omega
    rw [show i.toJson = .ofMembers i.fields from rfl, Json.parse_render_ofMembers exact]
    exact Info.layout (Lays.whole i.fields) (List.Subset.refl _)
  · intro i given v lays all
    exact Info.layout lays all
  · intro v k name hk missing
    refine Option.eq_none_iff_forall_ne_some.2 fun i read => ?_
    obtain ⟨-, kind, activityId, workflowId, attempt⟩ := ofJson_eq_some_iff.1 read
    match k, hk with
    | 0, rfl => rw [missing] at kind; cases kind
    | 1, rfl => rw [missing] at activityId; cases activityId
    | 2, rfl => rw [missing] at workflowId; cases workflowId
    | 3, rfl => rw [missing] at attempt; cases attempt
  · intro vs long
    refine Option.eq_none_iff_forall_ne_some.2 fun i read => ?_
    exact Json.not_isRecord_of_surplus long (ofJson_eq_some_iff.1 read).1

/-- The attempt is a number of 32 bits. -/
theorem Info.ofJson_of_attempt {v a : Json} (given : v.slot? 3 "attempt" = some a)
    (no_number : ∀ n < attemptLimit, a ≠ .ofNat n) : ofJson v = none := by
  refine Option.eq_none_iff_forall_ne_some.2 fun i read => ?_
  obtain ⟨-, -, -, -, attempt⟩ := ofJson_eq_some_iff.1 read
  rw [given] at attempt
  obtain ⟨bound, same⟩ := Json.natBelow_eq_some_iff.1 attempt
  exact no_number _ bound same

end Activity

/-! ### Configurations -/

section

variable {d : Json.Dialect} {given outer : List String} {v part : Json}

/-- A field with a standard value, of which a layout gives the value or nothing. -/
theorem Json.getD_of_given {α : Type} {decode : Json → Option α} {a standard : α} {x : Json}
    (decoded : decode x = some a) (p : Prop) [Decidable p] :
    ((if p then some x else none).map decode).getD (some standard) =
      some (if p then a else standard) := by
  split
  · exact decoded
  · rfl

theorem Observability.ofJson_of_lays {o : Observability} (lays : Lays o.fields given v) :
    ofJson d v = some (o.keeping given) := by
  have distinct : (o.fields.map (·.1)).Nodup := (by decide : fieldNames.Nodup)
  refine ofJson_eq_some_iff.2 ⟨lays.isRecord d, ?_, ?_, ?_⟩
  · rw [lays.slot? distinct rfl]
    exact Json.getD_of_given (Severity.ofJson_toJson d o.logLevel) ("log_level" ∈ given)
  · have read : Json.text? (.text o.metricsAddress) = some o.metricsAddress := rfl
    rw [lays.slot? distinct rfl]
    exact Json.getD_of_given read ("metrics_address" ∈ given)
  · have read : Json.text? (.text o.metricsPath) = some o.metricsPath := rfl
    rw [lays.slot? distinct rfl]
    exact Json.getD_of_given read ("metrics_path" ∈ given)

theorem Config.ofJson_of_lays {o : Observability} (inner : Lays o.fields given part)
    (lays : Lays [("observability", part)] outer v) :
    ofJson d v = some ⟨if "observability" ∈ outer then o.keeping given else {}⟩ := by
  refine ofJson_eq_some_iff.2 ⟨lays.isRecord d, ?_⟩
  rw [lays.slot? (by decide : ["observability"].Nodup) rfl]
  exact Json.getD_of_given (Observability.ofJson_of_lays inner) ("observability" ∈ outer)

theorem Observability.ofJson_of_surplus {vs : List Json} (long : fieldNames.length < vs.length) :
    ofJson .strict (.list vs) = none := by
  refine Option.eq_none_iff_forall_ne_some.2 fun o read => ?_
  exact Json.not_isRecord_of_surplus long (ofJson_eq_some_iff.1 read).1

theorem Config.ofJson_of_surplus {vs : List Json} (long : fieldNames.length < vs.length) :
    ofJson .strict (.list vs) = none := by
  refine Option.eq_none_iff_forall_ne_some.2 fun c read => ?_
  exact Json.not_isRecord_of_surplus long (ofJson_eq_some_iff.1 read).1

/-- A configuration is unreadable if its part is. -/
theorem Config.ofJson_of_part (given : v.slot? 0 "observability" = some part)
    (unreadable : Observability.ofJson d part = none) : ofJson d v = none := by
  refine Option.eq_none_iff_forall_ne_some.2 fun c read => ?_
  have found := (ofJson_eq_some_iff.1 read).2
  rw [given, Option.map_some, Option.getD_some, unreadable] at found
  cases found

/-- A configuration is read back from its text. -/
theorem Config.ofJson_parse_render (c : Config) :
    (Json.parse c.toJson.render).bind (ofJson d) = some c := by
  have part_exact : ∀ f ∈ c.observability.fields, f.2.Exact := by
    simp [Observability.fields, Json.Exact, Severity.toJson]
  have exact : ∀ f ∈ [("observability", c.observability.toJson)], f.2.Exact := by
    rintro f hf
    obtain rfl := List.mem_singleton.1 hf
    exact Json.exact_ofMembers part_exact
  have inner : Lays c.observability.fields Observability.fieldNames c.observability.toJson :=
    .whole c.observability.fields
  have outer : Lays [("observability", c.observability.toJson)] fieldNames c.toJson :=
    .whole _
  rw [show c.toJson = .ofMembers _ from rfl, Json.parse_render_ofMembers exact]
  exact Config.ofJson_of_lays inner outer

end

/-- Errors and information of activities are read as a whole or not at all. Of the settings, and of
a configuration with them, each field that is given by name or by place is read, and all others have
their standard values; the two levels may be laid out each in its own way. An attempt that is no
number of 32 bits and a list with more values than fields are not read. -/
theorem records_read_back :
    Json.ReadWhole Activity.Error.fieldNames Activity.Error.fields Activity.Error.toJson
        Activity.Error.ofJson ∧
      Json.ReadWhole Activity.Info.fieldNames Activity.Info.fields Activity.Info.toJson
        Activity.Info.ofJson ∧
      (∀ v a : Json, v.slot? 3 "attempt" = some a →
        (∀ n < Activity.Info.attemptLimit, a ≠ .ofNat n) → Activity.Info.ofJson v = none) ∧
      (∀ (o : Observability) given v, Lays o.fields given v →
        Observability.ofJson .strict v = some (o.keeping given)) ∧
      (∀ vs : List Json, 3 < vs.length → Observability.ofJson .strict (.list vs) = none) ∧
      (∀ c : Config, (Json.parse c.toJson.render).bind (Config.ofJson .strict) = some c) ∧
      (∀ (o : Observability) given part outer v, Lays o.fields given part →
        Lays [("observability", part)] outer v → Config.ofJson .strict v =
          some ⟨if "observability" ∈ outer then o.keeping given else {}⟩) ∧
      (∀ vs : List Json, 1 < vs.length → Config.ofJson .strict (.list vs) = none) ∧
      (∀ (v : Json) vs, v.slot? 0 "observability" = some (.list vs) → 3 < vs.length →
        Config.ofJson .strict v = none) := by
  refine ⟨Activity.Error.readWhole, Activity.Info.readWhole, ?attempt, ?settings,
    ?settings_surplus, ?text, ?layout, ?surplus, ?part_surplus⟩
  case attempt =>
    intro v a given no_number
    exact Activity.Info.ofJson_of_attempt given no_number
  case settings =>
    intro o given v lays
    exact Observability.ofJson_of_lays lays
  case settings_surplus =>
    intro vs long
    exact Observability.ofJson_of_surplus long
  case text =>
    intro c
    exact Config.ofJson_parse_render c
  case layout =>
    intro o given part outer v inner lays
    exact Config.ofJson_of_lays inner lays
  case surplus =>
    intro vs long
    exact Config.ofJson_of_surplus long
  case part_surplus =>
    intro v vs given long
    exact Config.ofJson_of_part given (Observability.ofJson_of_surplus long)

/-- Two fields by their places, in an object that says something more. -/
example : Config.ofJson .strict (.ofMembers [("owner", .null),
    ("observability", .list [.text "warn", .text "[::]:80"])]) =
      some ⟨{ logLevel := .warn, metricsAddress := "[::]:80" }⟩ := by decide +kernel

end WorkerTelemetry
