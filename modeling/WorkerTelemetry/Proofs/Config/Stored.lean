import WorkerTelemetry.Config.Resolve

/-!
What a stored configuration says of each field. A record gives its fields by name or by place; one
that it leaves out has its standard value, and one with a value of a wrong form makes the whole
unreadable. Main statement: `ofJson_iff_stores`.
-/

namespace WorkerTelemetry

namespace Json

variable {d : Dialect} {v : Json}

/-- The value that a record gives a field: its member of that name, or its item at that place. -/
def slot? (place : Nat) (name : String) : Json → Option Json
  | .object ms => member? name (.object ms)
  | .list vs => vs[place]?
  | _ => none

/-- A value that is a record of so many fields, or of any fields by name. -/
def IsRecord (d : Dialect) (count : Nat) : Json → Prop
  | .object _ => True
  | .list vs => d.surplus = true ∨ vs.length ≤ count
  | _ => False

theorem positional_eq_mapIdx (names : List String) (vs : List Json) :
    positional names vs = names.mapIdx fun k _ => vs[k]? := by
  induction names generalizing vs with
  | nil => rfl
  | cons name names ih => cases vs <;> simp [positional, ih]

theorem slots_of_isRecord (names : List String) (shape : v.IsRecord d names.length) :
    slots d names v = some (names.mapIdx fun k name => v.slot? k name) := by
  cases v with
  | object ms =>
    refine congrArg some ?_
    apply List.ext_getElem <;> simp [slot?]
  | list vs => exact (if_pos shape).trans (congrArg some (positional_eq_mapIdx names vs))
  | _ => exact shape.elim

theorem slots_of_not_isRecord (names : List String) (shapeless : ¬ v.IsRecord d names.length) :
    slots d names v = none := by
  cases v with
  | object ms => exact absurd trivial shapeless
  | list vs => exact if_neg shapeless
  | _ => rfl

theorem optional_eq_getD {α : Type} (standard : α) (decode : Json → Option α) (slot : Option Json) :
    optional standard decode slot = (slot.map decode).getD (some standard) := by
  cases slot <;> rfl

end Json

theorem Observability.ofJson_eq_some_iff {d : Json.Dialect} {v : Json} {o : Observability} :
    ofJson d v = some o ↔ v.IsRecord d 3 ∧
      ((v.slot? 0 "log_level").map (Severity.ofJson d)).getD (some .info) = some o.logLevel ∧
      ((v.slot? 1 "metrics_address").map Json.text?).getD (some "0.0.0.0:9090") =
        some o.metricsAddress ∧
      ((v.slot? 2 "metrics_path").map Json.text?).getD (some "/metrics") = some o.metricsPath := by
  by_cases shape : v.IsRecord d 3
  · rw [ofJson, Json.slots_of_isRecord fieldNames shape]
    obtain ⟨level, address, path⟩ := o
    simp only [fieldNames, List.mapIdx_cons, List.mapIdx_nil, Json.optional_eq_getD, shape,
      true_and, Option.bind_eq_bind, Option.bind_some, Option.bind_eq_some_iff, Option.pure_def,
      Option.some.injEq, mk.injEq, Nat.zero_add, Nat.reduceAdd]
    constructor
    · rintro ⟨_, hlevel, _, haddress, _, hpath, rfl, rfl, rfl⟩
      exact ⟨hlevel, haddress, hpath⟩
    · rintro ⟨hlevel, haddress, hpath⟩
      exact ⟨_, hlevel, _, haddress, _, hpath, rfl, rfl, rfl⟩
  · rw [ofJson, Json.slots_of_not_isRecord fieldNames shape]
    simp [shape]

theorem Config.ofJson_eq_some_iff {d : Json.Dialect} {v : Json} {c : Config} :
    ofJson d v = some c ↔ v.IsRecord d 1 ∧
      ((v.slot? 0 "observability").map (Observability.ofJson d)).getD (some {}) =
        some c.observability := by
  by_cases shape : v.IsRecord d 1
  · rw [ofJson, Json.slots_of_isRecord fieldNames shape]
    obtain ⟨part⟩ := c
    simp [shape, fieldNames, Json.optional_eq_getD, Option.bind_eq_some_iff]
  · rw [ofJson, Json.slots_of_not_isRecord fieldNames shape]
    simp [shape]

namespace Config

/-- What a layer gives for a field: nothing, a value, or something that is no value of the field. -/
abbrev Given (α : Type) := Option (Option α)

namespace Given

variable {α : Type} {given : Given α} {below value : α}

/-- A layer gives nothing, or a value. -/
def Sound (given : Given α) : Prop := given ≠ some none

theorem Sound.exists_value (sound : given.Sound) (below : α) :
    ∃ a, given.getD (some below) = some a := by
  match given with
  | none => exact ⟨below, rfl⟩
  | some none => exact absurd rfl sound
  | some (some a) => exact ⟨a, rfl⟩

theorem sound_of_eq (found : given.getD (some below) = some value) : given.Sound := by
  rintro rfl
  cases found

/-- A layer on top of itself changes nothing. -/
theorem getD_again (found : given.getD (some below) = some value) :
    given.getD (some value) = some value := by
  cases given with
  | none => rfl
  | some a => exact found

end Given

variable {doc : Option Json} {v : Json} {c c' : Config}

/-- The part of a document that says what the worker shows of itself. -/
def part? (doc : Option Json) : Option Json := doc.bind (Json.slot? 0 "observability")

def fileLevel (doc : Option Json) : Given Severity :=
  ((part? doc).bind (Json.slot? 0 "log_level")).map (Severity.ofJson .lenient)

def fileAddress (doc : Option Json) : Given String :=
  ((part? doc).bind (Json.slot? 1 "metrics_address")).map Json.text?

def filePath (doc : Option Json) : Given String :=
  ((part? doc).bind (Json.slot? 2 "metrics_path")).map Json.text?

/-- All that a document gives has the form of its field; no document gives nothing. -/
structure Readable (doc : Option Json) : Prop where
  document : ∀ v, doc = some v → v.IsRecord .lenient 1
  part : ∀ v, part? doc = some v → v.IsRecord .lenient 3
  level : (fileLevel doc).Sound
  address : (fileAddress doc).Sound
  path : (filePath doc).Sound

/-- The fields of a configuration have these values. -/
structure Holds (s : Option Severity) (a p : Option String) (c : Config) : Prop where
  level : s = some c.observability.logLevel
  address : a = some c.observability.metricsAddress
  path : p = some c.observability.metricsPath

theorem Holds.unique {s : Option Severity} {a p : Option String} (holds : Holds s a p c)
    (holds' : Holds s a p c') : c = c' := by
  obtain ⟨⟨level, address, path⟩⟩ := c
  obtain ⟨⟨level', address', path'⟩⟩ := c'
  obtain rfl := Option.some.inj (holds.level.symm.trans holds'.level)
  obtain rfl := Option.some.inj (holds.address.symm.trans holds'.address)
  obtain rfl := Option.some.inj (holds.path.symm.trans holds'.path)
  rfl

/-- Each field has the value that a document gives, or else its standard value. -/
abbrev Stores (doc : Option Json) : Config → Prop :=
  Holds ((fileLevel doc).getD (some .info)) ((fileAddress doc).getD (some "0.0.0.0:9090"))
    ((filePath doc).getD (some "/metrics"))

theorem readable_none : Readable none := by
  constructor <;> simp [part?, fileLevel, fileAddress, filePath, Given.Sound]

theorem stores_none : Stores none {} := ⟨rfl, rfl, rfl⟩

theorem Readable.exists_stores (readable : Readable doc) : ∃ c, Stores doc c := by
  obtain ⟨level, hlevel⟩ := readable.level.exists_value .info
  obtain ⟨address, haddress⟩ := readable.address.exists_value "0.0.0.0:9090"
  obtain ⟨path, hpath⟩ := readable.path.exists_value "/metrics"
  exact ⟨⟨⟨level, address, path⟩⟩, hlevel, haddress, hpath⟩

/-- Reading a document succeeds exactly if it is readable, with the values that it stores. -/
theorem ofJson_iff_stores :
    ofJson .lenient v = some c ↔ Readable (some v) ∧ Stores (some v) c := by
  rw [ofJson_eq_some_iff]
  cases found : v.slot? 0 "observability" with
  | none =>
    have no_part : part? (some v) = none := found
    have standard : Stores (some v) {} := by
      constructor <;> simp [fileLevel, fileAddress, filePath, no_part]
    constructor
    · rintro ⟨shape, same⟩
      obtain rfl : c = {} := congrArg Config.mk (Option.some.inj same).symm
      refine ⟨⟨?_, ?_, ?_, ?_, ?_⟩, standard⟩ <;>
        simp [no_part, fileLevel, fileAddress, filePath, Given.Sound, shape]
    · rintro ⟨readable, stores⟩
      obtain rfl := standard.unique stores
      exact ⟨readable.document v rfl, rfl⟩
  | some part =>
    have has_part : part? (some v) = some part := found
    rw [Option.map_some, Option.getD_some, Observability.ofJson_eq_some_iff]
    constructor
    · rintro ⟨shape, part_shape, level, address, path⟩
      have stores : Stores (some v) c := by
        constructor <;> simpa only [fileLevel, fileAddress, filePath, has_part]
      refine ⟨⟨?_, ?_, ?_, ?_, ?_⟩, stores⟩
      · simpa using shape
      · simpa [has_part] using part_shape
      · exact Given.sound_of_eq stores.level
      · exact Given.sound_of_eq stores.address
      · exact Given.sound_of_eq stores.path
    · rintro ⟨readable, ⟨level, address, path⟩⟩
      simp only [fileLevel, fileAddress, filePath, has_part, Option.bind_some] at level address path
      exact ⟨readable.document v rfl, readable.part part has_part, level, address, path⟩

end Config

end WorkerTelemetry
