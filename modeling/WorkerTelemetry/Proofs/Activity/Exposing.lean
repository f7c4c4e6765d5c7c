import WorkerTelemetry.Proofs.Activity.Listing
import WorkerTelemetry.Proofs.Activity.Work

/-!
What a scrape shows of the metrics of activities. Main statement: every ending that begins a series
has one line in each of two families, with the number that the query answers, the names are read
back from the lines, and no other line looks like these. An ending that shares its fingerprint with
an earlier one has no line.
-/

namespace WorkerTelemetry.Activity

open WorkerTelemetry.Metric

namespace Ending

variable {e : Ending} {es : List Ending}

/-- The labels as they are written. -/
def selector (e : Ending) : String :=
  "\x7bactivity_name=\"" ++ escapeLabel e.1 ++ "\",result=\"" ++ e.2.label ++ "\"\x7d"

theorem head_labels (name : String) (e : Ending) (value : String) :
    (Sample.mk name e.labels value).head = name ++ e.selector := by
  have plain : escapeLabel e.2.label = e.2.label := by
    cases e.2 <;> decide +kernel
  have second : Sample.labelText (outcomeLabel, e.2.label) =
      "result=\"" ++ e.2.label ++ "\"" := by
    rw [Sample.labelText, plain]
    rfl
  have opened : "\x7b" ++ "activity_name=\"" = "\x7bactivity_name=\"" := by decide +kernel
  have between : "\"" ++ "," ++ "result=\"" = "\",result=\"" := by decide +kernel
  have closed : "\"" ++ "\x7d" = "\"\x7d" := by decide +kernel
  calc (Sample.mk name e.labels value).head
      = name ++ "\x7b" ++ (Sample.labelText (kindLabel, e.1) ++ "," ++
          Sample.labelText (outcomeLabel, e.2.label)) ++ "\x7d" := if_neg (by simp [labels])
    _ = name ++ "\x7b" ++ ("activity_name=\"" ++ escapeLabel e.1 ++ "\"" ++ "," ++
          ("result=\"" ++ e.2.label ++ "\"")) ++ "\x7d" := by rw [second]; rfl
    _ = name ++ ("\x7b" ++ "activity_name=\"" ++ escapeLabel e.1 ++ ("\"" ++ "," ++ "result=\"") ++
          e.2.label ++ ("\"" ++ "\x7d")) := by simp only [String.append_assoc]
    _ = name ++ e.selector := by rw [opened, between, closed]; rfl

end Ending

/-! ### The series of a part with labels -/

/-- Among series with distinct keys, those with some values are the first one. -/
theorem filter_values_eq_find? {ss : List Series}
    (distinct : ss.Pairwise fun s t => Series.key s.values ≠ Series.key t.values)
    (v : List String) :
    ss.filter (fun s => decide (s.values = v)) =
      (ss.find? fun s => decide (s.values = v)).toList := by
  induction ss with
  | nil => rfl
  | cons s ss ih =>
    obtain ⟨hs, hss⟩ := List.pairwise_cons.1 distinct
    rw [List.filter_cons, List.find?_cons]
    by_cases hv : s.values = v
    · have none : ss.filter (fun s => decide (s.values = v)) = [] := by
        rw [List.filter_eq_nil_iff]
        intro t ht htv
        exact hs t ht (by rw [hv, of_decide_eq_true htv])
      rw [none, decide_eq_true hv]
      rfl
    · rw [ih hss, decide_eq_false hv]
      rfl

namespace Part

variable {p : Part} {rs : List Recording}

section Labelled

variable (labelled : p.metric.descriptor.labels = [kindLabel, outcomeLabel])

include labelled

/-- An ending that leads has a series, which tells how often endings with its fingerprint were
recorded. -/
theorem measure_found (few : rs.length < Decimal.exactLimit) (e : Ending) :
    (p.found rs e).map (fun s => p.measure s.reading) =
      if e.Leads (rs.filterMap Recording.ending?) then
        some (e.tally (rs.filterMap Recording.ending?))
      else none := by
  have compose : (p.found rs e).map (fun s => p.measure s.reading) =
      ((p.found rs e).map Series.reading).map p.measure := (Option.map_map ..).symm
  rw [compose, reading_found labelled]
  by_cases leads : e.Leads (rs.filterMap Recording.ending?)
  · have length : (Change.among (Recording.changesOf p rs) e.key).length =
        e.tally (rs.filterMap Recording.ending?) := by
      rw [Ending.tally_of_leads leads, ← List.length_map (f := Change.values), map_among labelled,
        List.length_map]
    have fewer : (Change.among (Recording.changesOf p rs) e.key).length < Decimal.exactLimit := by
      have shared : (Ending.sharing (rs.filterMap Recording.ending?) e).length ≤ rs.length :=
        Nat.le_trans (List.length_filter_le ..) (List.length_filterMap_le ..)
      rw [length, Ending.tally_of_leads leads]
      exact Nat.lt_of_le_of_lt shared few
    have measured : p.measure (Change.reading p.start _) = _ :=
      measure_reading List.filter_sublist fewer
    rw [if_pos leads, if_pos leads, Option.map_some]
    exact congrArg some (measured.trans length)
  · rw [if_neg leads, if_neg leads, Option.map_none]

/-- In a scrape, an ending has the series that is found by its values. -/
theorem filter_series (e : Ending) :
    (p.scraped rs).filter (fun s => s.labels == e.labels) =
      ((p.found rs e).map p.shown).toList := by
  have same : ∀ s ∈ (p.after rs).series,
      ((p.shown s).labels == e.labels) = decide (s.values = e.values) := by
    intro s hs
    obtain ⟨f, -, values, labels⟩ := labels_shown labelled hs
    rw [labels, values, Bool.eq_iff_iff, beq_iff_eq, decide_eq_true_iff]
    constructor
    · intro h
      rw [Ending.labels_injective h]
    · intro h
      rw [Ending.values_injective h]
  have unsorted : (family (p.after rs)).series.filter
      (fun s => s.labels == e.labels) = ((p.found rs e).map p.shown).toList := by
    rw [p.series_family, List.filter_map, Part.found]
    have test : (p.after rs).series.filter
        ((fun s => s.labels == e.labels) ∘ p.shown) =
          (p.after rs).series.filter
            fun s => decide (s.values = e.values) := List.filter_congr same
    rw [test, filter_values_eq_find? (grown labelled).distinct, Option.toList_map]
  have perm := (List.mergeSort_perm (family (p.after rs)).series
    FamilySeries.atMost).filter fun s => s.labels == e.labels
  rw [unsorted] at perm
  -- a rearrangement of at most one series is the same
  cases hf : (p.found rs e).map p.shown with
  | none =>
    rw [hf] at perm
    exact perm.eq_nil
  | some s =>
    rw [hf] at perm
    exact List.perm_singleton.1 perm

/-- The sample of an ending, among those that tell the numbers of a part. -/
theorem filter_countSamples (few : rs.length < Decimal.exactLimit) (e : Ending) :
    ((p.scraped rs).map p.sample).filter (fun s => s.labels == e.labels) =
      if e.Leads (rs.filterMap Recording.ending?) then
        [countSample p.countName e.labels (e.tally (rs.filterMap Recording.ending?))]
      else [] := by
  have here : (p.scraped rs).filter _ = _ := filter_series labelled e
  have samples : ((p.found rs e).map p.shown).toList.map p.sample =
      ((p.found rs e).map fun s => p.measure s.reading).toList.map
        (countSample p.countName e.labels) := by
    cases hf : p.found rs e with
    | none => rfl
    | some s =>
      have labels := labels_found labelled hf
      exact congrArg (fun ls => [countSample p.countName ls (p.measure s.reading)]) labels
  calc ((p.scraped rs).map p.sample).filter (fun s => s.labels == e.labels)
      = ((p.scraped rs).filter fun s => s.labels == e.labels).map p.sample := List.filter_map
    _ = ((p.found rs e).map fun s => p.measure s.reading).toList.map
          (countSample p.countName e.labels) := by rw [here, samples]
    _ = _ := by
      rw [measure_found labelled few e]
      split <;> rfl

end Labelled

/-- It tells how often the part was changed. -/
theorem scraped_unlabelled (unlabelled : p.metric.descriptor.labels = [])
    (few : (Recording.changesOf p rs).length < Decimal.exactLimit) :
    (p.scraped rs).map p.sample =
      [countSample p.countName [] (Recording.changesOf p rs).length] := by
  have labels : labelPairs p.metric.descriptor.labels [] = [] := by
    rw [labelPairs, List.zip_nil_right, List.mergeSort_nil]
  have measured : p.measure (Change.reading p.start _) = _ :=
    measure_reading (List.Sublist.refl _) few
  rw [scraped, p.series_family, series_unlabelled unlabelled, List.map_singleton,
    List.mergeSort_singleton, List.map_singleton, sample, shown, measured, labels]

end Part

/-! ### The lines of a scrape -/

namespace Metrics

namespace Listed

variable {m : Metrics} {t : Store} {r : RegistryId} {rs : List Recording} {p : Part} {text : String}

theorem filter_samplesOf (h : m.Listed t r rs) (encoded : t.encode r = .ok text) (p : Part) :
    (Family.samplesOf text).filter (fun s => s.name == p.countName) =
      (p.scraped rs).map p.sample := by
  rw [Family.eq_textOfLines_of_exposition encoded, Family.samplesOf_exposition h.named]
  exact h.countSamples_snapshot p

/-- The lines with the name and the labels of a sample of a part. -/
theorem linesOf_eq (h : m.Listed t r rs) (encoded : t.encode r = .ok text) (p : Part)
    (labels : List (String × String)) (names : ∀ l ∈ labels, isLabelName l.1 = true) :
    Family.linesOf (Sample.mk p.countName labels "").head text =
      (((p.scraped rs).map p.sample).filter fun s => s.labels == labels).map Sample.text := by
  have named : (Sample.mk p.countName labels "").Named := by
    refine ⟨?_, fun l hl => isNameChar_of_isLabelName (names l hl)⟩
    have word : p.countName.toList.all isNameChar = true := by
      cases p <;> decide +kernel
    exact List.all_eq_true.1 word
  rw [Family.eq_textOfLines_of_exposition encoded, Family.linesOf_exposition h.named named,
    ← h.countSamples_snapshot p, List.filter_filter]
  refine congrArg (List.map Sample.text) (List.filter_congr fun s _ => ?_)
  exact Bool.and_comm ..

theorem lines_ending (h : m.Listed t r rs) (encoded : t.encode r = .ok text)
    (labelled : p.metric.descriptor.labels = [kindLabel, outcomeLabel])
    (few : rs.length < Decimal.exactLimit) (e : Ending) :
    Family.linesOf (p.countName ++ e.selector) text =
      if e.Leads (rs.filterMap Recording.ending?) then
        [p.countName ++ e.selector ++ " " ++
          toString (e.tally (rs.filterMap Recording.ending?))]
      else [] := by
  have names : ∀ l ∈ e.labels, isLabelName l.1 = true := by
    simp only [Ending.labels, List.forall_mem_cons, List.not_mem_nil, false_imp_iff, implies_true,
      and_true]
    constructor <;> decide +kernel
  have lines := h.linesOf_eq encoded p e.labels names
  rw [Ending.head_labels, Part.filter_countSamples labelled few e] at lines
  rw [lines]
  split
  · next leads =>
    have fewer : e.tally (rs.filterMap Recording.ending?) < Decimal.exactLimit := by
      rw [Ending.tally_of_leads leads]
      refine Nat.lt_of_le_of_lt (List.length_filter_le ..) ?_
      exact Nat.lt_of_le_of_lt (List.length_filterMap_le ..) few
    rw [List.map_singleton, Sample.text, countSample, Ending.head_labels,
      countText_eq_toString fewer]
  · rfl

theorem lines_unlabelled (h : m.Listed t r rs) (encoded : t.encode r = .ok text)
    (unlabelled : p.metric.descriptor.labels = [])
    (few : (Recording.changesOf p rs).length < Decimal.exactLimit) :
    Family.linesOf p.countName text =
      [p.countName ++ " " ++ toString (Recording.changesOf p rs).length] := by
  have lines := h.linesOf_eq encoded p [] (by simp)
  rw [Part.scraped_unlabelled unlabelled few] at lines
  have head : (Sample.mk p.countName [] "").head = p.countName := rfl
  rw [head] at lines
  rw [lines]
  simp [countSample, Sample.text, Sample.head, countText_eq_toString few]

/-- The labels of the samples of a part are those of the endings that lead. -/
theorem labels_iff (h : m.Listed t r rs) (encoded : t.encode r = .ok text)
    (labelled : p.metric.descriptor.labels = [kindLabel, outcomeLabel])
    (few : rs.length < Decimal.exactLimit) (labels : List (String × String)) :
    (∃ value, ⟨p.countName, labels, value⟩ ∈ Family.samplesOf text) ↔
      ∃ e : Ending, e.Leads (rs.filterMap Recording.ending?) ∧ labels = e.labels := by
  have samples := h.filter_samplesOf encoded p
  constructor
  · rintro ⟨value, hmem⟩
    have mem : (⟨p.countName, labels, value⟩ : Sample) ∈ (p.scraped rs).map p.sample := by
      rw [← samples]
      exact List.mem_filter.2 ⟨hmem, beq_self_eq_true p.countName⟩
    obtain ⟨s, hs, heq⟩ := List.mem_map.1 mem
    have series : s ∈ (family (p.after rs)).series := List.mem_mergeSort.1 hs
    rw [p.series_family] at series
    obtain ⟨x, hx, rfl⟩ := List.mem_map.1 series
    obtain ⟨e, leads, -, shown⟩ := Part.labels_shown labelled hx
    have same : (p.shown x).labels = labels := congrArg Sample.labels heq
    exact ⟨e, leads, same.symm.trans shown⟩
  · rintro ⟨e, leads, rfl⟩
    have one := Part.filter_countSamples labelled few e
    rw [if_pos leads] at one
    have filtered : countSample p.countName e.labels (e.tally (rs.filterMap Recording.ending?)) ∈
        ((p.scraped rs).map p.sample).filter fun s => s.labels == e.labels := by
      rw [one]
      exact List.mem_singleton.2 rfl
    have mem := List.mem_of_mem_filter filtered
    rw [← samples] at mem
    exact ⟨_, List.mem_of_mem_filter mem⟩

end Listed

/-- What a text shows of the metrics, next to what the queries answer. -/
structure Exposed (m : Metrics) (s : Store) (es : List Ending) (text : String) : Prop where
  total : ∀ e : Ending, Family.linesOf ("activity_total" ++ e.selector) text =
    if e.Leads es then
      ["activity_total" ++ e.selector ++ " " ++ toString (m.count s e.1 e.2)]
    else []
  duration : ∀ e : Ending,
    Family.linesOf ("activity_duration_seconds_count" ++ e.selector) text =
      if e.Leads es then
        ["activity_duration_seconds_count" ++ e.selector ++ " " ++
          toString (m.durationSamples s e.1 e.2)]
      else []
  /-- An ending that shares its fingerprint with no other has its lines once it is recorded. -/
  recorded : ∀ e : Ending, (∀ f ∈ es, f.key = e.key → f = e) → (e.Leads es ↔ e ∈ es)
  totalLabels : ∀ labels, (∃ value, ⟨"activity_total", labels, value⟩ ∈ Family.samplesOf text) ↔
    ∃ e : Ending, e.Leads es ∧ labels = e.labels
  durationLabels : ∀ labels,
    (∃ value, ⟨"activity_duration_seconds_count", labels, value⟩ ∈ Family.samplesOf text) ↔
      ∃ e : Ending, e.Leads es ∧ labels = e.labels
  pullRequests : Family.linesOf "prs_created_total" text =
    ["prs_created_total " ++ toString (m.pullRequestsCreated s)]
  sandboxes : Family.linesOf "sandbox_provision_duration_seconds_count" text =
    ["sandbox_provision_duration_seconds_count " ++ toString (m.provisionSamples s)]

theorem Listed.exposed {m : Metrics} {t : Store} {r : RegistryId} {rs : List Recording}
    {text : String} (h : m.Listed t r rs) (encoded : t.encode r = .ok text)
    (few : rs.length < Decimal.exactLimit) :
    m.Exposed t (rs.filterMap Recording.ending?) text := by
  have endings : (rs.filterMap Recording.ending?).length < Decimal.exactLimit :=
    Nat.lt_of_le_of_lt (List.length_filterMap_le ..) few
  have pullRequests : (Recording.changesOf .pullRequests rs).length =
      m.pullRequestsCreated t := by
    rw [Recording.length_changesOf_pullRequests, h.holds.pullRequestsCreated_eq]
    exact Nat.lt_of_le_of_lt List.countP_le_length few
  have sandboxes : (Recording.changesOf .provision rs).length = m.provisionSamples t := by
    rw [Recording.length_changesOf_provision, h.holds.provisionSamples_eq]
  refine ⟨?_, ?_, fun e alone => Ending.leads_iff_mem alone, ?_, ?_, ?_, ?_⟩
  · intro e
    rw [h.holds.count_eq e endings]
    exact h.lines_ending (p := .total) encoded rfl few e
  · intro e
    rw [h.holds.durationSamples_eq e]
    exact h.lines_ending (p := .duration) encoded rfl few e
  · exact h.labels_iff (p := .total) encoded rfl few
  · exact h.labels_iff (p := .duration) encoded rfl few
  · have fewer : (Recording.changesOf .pullRequests rs).length < Decimal.exactLimit := by
      rw [Recording.length_changesOf_pullRequests]
      exact Nat.lt_of_le_of_lt List.countP_le_length few
    have lines := h.lines_unlabelled (p := .pullRequests) encoded rfl fewer
    rw [pullRequests] at lines
    exact lines
  · have fewer : (Recording.changesOf .provision rs).length < Decimal.exactLimit := by
      rw [Recording.length_changesOf_provision]
      exact Nat.lt_of_le_of_lt List.countP_le_length few
    have lines := h.lines_unlabelled (p := .provision) encoded rfl fewer
    rw [sandboxes] at lines
    exact lines

variable {m : Metrics} {r : RegistryId} {before : List Step} {ws : List Work} {text : String}

theorem listed_afterWork (fresh : m.Fresh (.run {} before)) (spares : ∀ w ∈ ws, w.Spares m)
    (accepted : m.collectors ⊆ ((afterWork (.run {} before) ws).registry r).collectors)
    (others : ∀ c ∈ ((afterWork (.run {} before) ws).registry r).collectors, c ∉ m.collectors →
      Foreign ((afterWork (.run {} before) ws).collector c)) :
    m.Listed (afterWork (.run {} before) ws) r (recorded m ws) := by
  have whole : afterWork (.run {} before) ws =
      Store.run {} (before ++ ws.flatMap Work.steps) := Store.run_append.symm
  refine ⟨?_, ?_, accepted, others⟩
  · have holds := Holds.afterWork fresh spares
    rwa [List.nil_append] at holds
  · refine ⟨Store.accepted r {} (before ++ ws.flatMap Work.steps), ?_, ?_⟩
    · have keeps := Store.keeps_run (s := {}) (r := r) Registry.Keeps.empty
        (before ++ ws.flatMap Work.steps)
      rwa [← whole] at keeps
    · intro o ho
      have current := (Store.offer_of_mem_accepted ho).1
      rwa [← whole] at current

/-- Let a registry have accepted a set of metrics, and no collectors beside it but of other names.
Then its text shows, for every ending, the lines that belong to it, with the numbers that the
queries answer. -/
theorem exposed_afterWork (m : Metrics) (r : RegistryId) (before : List Step) (ws : List Work)
    (text : String) (fresh : m.Fresh (.run {} before)) (spares : ∀ w ∈ ws, w.Spares m)
    (few : (recorded m ws).length < Decimal.exactLimit)
    (accepted : m.collectors ⊆ ((afterWork (.run {} before) ws).registry r).collectors)
    (others : ∀ c ∈ ((afterWork (.run {} before) ws).registry r).collectors, c ∉ m.collectors →
      Foreign ((afterWork (.run {} before) ws).collector c))
    (encoded : (afterWork (.run {} before) ws).encode r = .ok text) :
    m.Exposed (afterWork (.run {} before) ws) ((recorded m ws).filterMap Recording.ending?) text :=
  (listed_afterWork fresh spares accepted others).exposed encoded few

/-- A counter of other work. -/
def jobs : Metric :=
  ⟨⟨"jobs_total", "work", ["queue"]⟩, "jobs_total", .counter, [⟨["a"], .counter 7⟩]⟩

/-- The steps that make a set of metrics, a registry, and a collector of other work. -/
def preparation : List Step :=
  [.collector ⟨[durationMetric]⟩, .collector ⟨[totalMetric]⟩, .collector ⟨[pullRequestsMetric]⟩,
    .collector ⟨[provisionMetric]⟩, .collector ⟨[jobs]⟩, .registry]

/-- The metrics that were made. -/
def prepared : Metrics := (create {}).2

theorem fresh_preparation : prepared.Fresh (.run {} preparation) := by
  have made : prepared.Fresh (create {}).1 := fresh_create {}
  have beside : prepared.Holds ((create {}).1.step (.collector ⟨[jobs]⟩)) [] := made.step trivial
  exact beside.step (x := .registry) trivial

/-- Work that records activities with odd names, before and after the registry accepts the last of
the collectors. -/
def oddWork : List Work :=
  [.other (.register ⟨0⟩ prepared.duration), .other (.register ⟨0⟩ ⟨4⟩),
    .record prepared
      (.activity "a \"quoted\\\" name\n, \x7bresult=\"failure\"\x7d" .success default),
    .other (.register ⟨0⟩ prepared.total), .other (.register ⟨0⟩ prepared.pullRequests),
    .record prepared .pullRequest, .other (.register ⟨0⟩ prepared.provision),
    .record prepared (.activity "" .failure default)]

theorem arranges_oddWork : ∀ w ∈ oddWork, w.Arranges prepared := by
  simp [oddWork, Work.Arranges]

theorem foreign_jobs : Foreign ⟨[jobs]⟩ := by
  refine ⟨?_, ?_, ?_, ?_⟩
  · intro x hx
    rw [List.mem_singleton.1 hx]
    exact .inr (by decide +kernel)
  · intro x hx l hl
    rw [List.mem_singleton.1 hx] at hl
    rw [List.mem_singleton.1 hl]
    decide +kernel
  · intro x hx
    rw [List.mem_singleton.1 hx]
    decide +kernel
  · intro x hx p _
    rw [List.mem_singleton.1 hx]
    exact List.mem_singleton.2 rfl

/-- A registry of the metrics and of the other work lists them after any work. -/
theorem others_jobs {ws : List Work} (h : ∀ w ∈ ws, w.Arranges prepared)
  (held : ((afterWork (.run {} preparation) ws).registry ⟨0⟩).collectors ⊆
      ⟨4⟩ :: prepared.collectors) :
    ∀ c ∈ ((afterWork (.run {} preparation) ws).registry ⟨0⟩).collectors,
      c ∉ prepared.collectors → Foreign ((afterWork (.run {} preparation) ws).collector c) := by
  intro c hc other
  rcases List.mem_cons.1 (held hc) with rfl | own
  · rw [collector_afterWork h other]
    exact foreign_jobs
  · exact absurd own other

theorem exposed_afterWork_oddWork :
    prepared.Fresh (.run {} preparation) ∧ (∀ w ∈ oddWork, w.Spares prepared) ∧
      (recorded prepared oddWork).length < Decimal.exactLimit ∧
      prepared.collectors ⊆ ((afterWork (.run {} preparation) oddWork).registry ⟨0⟩).collectors ∧
      (∀ c ∈ ((afterWork (.run {} preparation) oddWork).registry ⟨0⟩).collectors,
        c ∉ prepared.collectors → Foreign ((afterWork (.run {} preparation) oddWork).collector c)) ∧
      ∃ text, (afterWork (.run {} preparation) oddWork).encode ⟨0⟩ = .ok text ∧
        prepared.Exposed (afterWork (.run {} preparation) oddWork)
          [("a \"quoted\\\" name\n, \x7bresult=\"failure\"\x7d", .success),
            ("", .failure)] text := by
  have spares : ∀ w ∈ oddWork, w.Spares prepared := fun w hw => (arranges_oddWork w hw).spares
  have few : (recorded prepared oddWork).length < Decimal.exactLimit := by decide +kernel
  have held : ((afterWork (.run {} preparation) oddWork).registry ⟨0⟩).collectors =
      [⟨0⟩, ⟨4⟩, ⟨1⟩, ⟨2⟩, ⟨3⟩] := by decide +kernel
  have accepted : prepared.collectors ⊆
      ((afterWork (.run {} preparation) oddWork).registry ⟨0⟩).collectors := by
    rw [held]
    decide
  have others := others_jobs arranges_oddWork (by rw [held]; decide)
  have encoded : (afterWork (.run {} preparation) oddWork).encode ⟨0⟩ = .ok _ :=
    Family.exposition_of_named (by decide +kernel)
  exact ⟨fresh_preparation, spares, few, accepted, others, _, encoded,
    exposed_afterWork prepared ⟨0⟩ preparation oddWork _ fresh_preparation spares few accepted
      others encoded⟩

/-- Work that records two kinds of one fingerprint. -/
def twinWork : List Work :=
  [.other (.register ⟨0⟩ prepared.duration), .other (.register ⟨0⟩ prepared.total),
    .other (.register ⟨0⟩ prepared.pullRequests), .other (.register ⟨0⟩ prepared.provision),
    .record prepared (.activity "m78ZVq3Pf2ia" .success default),
    .record prepared (.activity "mV9VBriCQwMe" .success default)]

/-- The kind that came second was recorded, and has no line. -/
theorem twin_kinds_share_a_line :
    (recorded prepared twinWork).filterMap Recording.ending? =
        [("m78ZVq3Pf2ia", .success), ("mV9VBriCQwMe", .success)] ∧
      prepared.collectors ⊆ ((afterWork (.run {} preparation) twinWork).registry ⟨0⟩).collectors ∧
      ∃ text, (afterWork (.run {} preparation) twinWork).encode ⟨0⟩ = .ok text ∧
        Family.linesOf ("activity_total" ++ Ending.selector ("mV9VBriCQwMe", .success)) text =
          [] := by
  have arranges : ∀ w ∈ twinWork, w.Arranges prepared := by simp [twinWork, Work.Arranges]
  have spares : ∀ w ∈ twinWork, w.Spares prepared := fun w hw => (arranges w hw).spares
  have held : ((afterWork (.run {} preparation) twinWork).registry ⟨0⟩).collectors =
      [⟨0⟩, ⟨1⟩, ⟨2⟩, ⟨3⟩] := by decide +kernel
  have accepted : prepared.collectors ⊆
      ((afterWork (.run {} preparation) twinWork).registry ⟨0⟩).collectors := by
    rw [held]
    decide
  have others := others_jobs arranges (by rw [held]; decide)
  have encoded : (afterWork (.run {} preparation) twinWork).encode ⟨0⟩ = .ok _ :=
    Family.exposition_of_named (by decide +kernel)
  have exposed := (listed_afterWork fresh_preparation spares accepted others).exposed encoded
    (by decide +kernel)
  refine ⟨rfl, accepted, _, encoded, ?_⟩
  rw [exposed.total, if_neg]
  decide +kernel

/-! ### Other collectors -/

/-- A text with the line of an ending inside. -/
def forged : String :=
  "spares\nactivity_total\x7bactivity_name=\"Build\",result=\"success\"\x7d 1\ntotal"

/-- A counter of this name. -/
def oddlyNamed : Metric := ⟨⟨"spares_total", "work", []⟩, forged, .counter, [⟨[], .counter 0⟩]⟩

/-- A counter with a label of this name. -/
def oddlyLabelled : Metric :=
  ⟨⟨"spares_total", "work", [forged]⟩, "spares_total", .counter, [⟨["a"], .counter 0⟩]⟩

/-- A histogram that is shown under a name of the metrics and does not describe it. -/
def undescribed : Metric :=
  ⟨⟨"spares_total", "work", [kindLabel]⟩, "activity_duration_seconds", .histogram [],
    [⟨["Build"], .histogram (.ofBounds [])⟩]⟩

def intruders : List Metric := [oddlyNamed, oddlyLabelled, undescribed]

/-- A registry accepts another collector and the metrics, and nothing is recorded. -/
def besideWork (x : Metric) : List Work :=
  [.other (.collector ⟨[x]⟩), .other (.register ⟨0⟩ ⟨5⟩),
    .other (.register ⟨0⟩ prepared.duration), .other (.register ⟨0⟩ prepared.total),
    .other (.register ⟨0⟩ prepared.pullRequests), .other (.register ⟨0⟩ prepared.provision)]

/-- A line inside of a line of a text is a line of the text. -/
theorem mem_lines_textOfLines {ls : List Line} {k : Line} (hk : k ∈ ls) {a l b : List Char}
    (inside : k.text.toList = a ++ '\n' :: (l ++ '\n' :: b)) (feedless : '\n' ∉ l) :
    String.ofList (Text.dropReturn l) ∈ Text.lines (textOfLines ls) := by
  obtain ⟨before, after, rfl⟩ := List.append_of_mem hk
  refine Text.mem_lines (a := (textOfLines before).toList ++ a)
    (b := b ++ '\n' :: (textOfLines after).toList) ?_ feedless
  simp [textOfLines, String.toList_join, inside]

/-- The text beside another collector. -/
def textBeside (x : Metric) : String :=
  textOfLines (((afterWork (.run {} preparation) (besideWork x)).snapshot ⟨0⟩).flatMap Family.lines)

theorem not_exposed_of_forged {x : Metric} {k : Line} {a b : List Char}
    (hk : k ∈ ((afterWork (.run {} preparation) (besideWork x)).snapshot ⟨0⟩).flatMap Family.lines)
    (inside : k.text.toList = a ++ '\n' ::
      ("activity_total\x7bactivity_name=\"Build\",result=\"success\"\x7d 1".toList ++ '\n' :: b)) :
    ¬ prepared.Exposed (afterWork (.run {} preparation) (besideWork x)) [] (textBeside x) := by
  intro exposed
  have none := exposed.total ("Build", .success)
  rw [if_neg fun leads => List.not_mem_nil (Ending.Leads.mem leads), Family.linesOf,
    List.filter_eq_nil_iff] at none
  exact none _ (mem_lines_textOfLines hk inside (by decide +kernel)) (by decide +kernel)

/-- That other collectors have names of no samples is not enough: if they have names and labels of
any characters, or show what they do not describe, a text shows endings that were not recorded. -/
theorem others_mislead : ∀ x ∈ intruders,
    let s := afterWork (.run {} preparation) (besideWork x)
    prepared.collectors ⊆ (s.registry ⟨0⟩).collectors ∧ x.exposedName ∉ sampleNames ∧
      recorded prepared (besideWork x) = [] ∧ s.encode ⟨0⟩ = .ok (textBeside x) ∧
      ¬ prepared.Exposed s [] (textBeside x) := by
  have accepted : ∀ x ∈ intruders, prepared.collectors ⊆
      ((afterWork (.run {} preparation) (besideWork x)).registry ⟨0⟩).collectors := by
    decide +kernel
  have apart : ∀ x ∈ intruders, x.exposedName ∉ sampleNames := by
    decide +kernel
  have named : ∀ x ∈ intruders, (((afterWork (.run {} preparation) (besideWork x)).snapshot
      ⟨0⟩).any fun f => f.name == "") = false := by
    decide +kernel
  intro x hx s
  refine ⟨accepted x hx, apart x hx, rfl, Family.exposition_of_named (named x hx), ?_⟩
  simp only [intruders, List.mem_cons, List.not_mem_nil, or_false] at hx
  rcases hx with rfl | rfl | rfl
  · have shown : Line.type forged "counter" ∈
        ((afterWork (.run {} preparation) (besideWork oddlyNamed)).snapshot ⟨0⟩).flatMap
          Family.lines := by decide +kernel
    exact not_exposed_of_forged shown (a := "# TYPE spares".toList) (b := "total counter".toList)
      (by decide +kernel)
  · have shown : Line.sample ⟨"spares_total", [(forged, "a")], "0"⟩ ∈
        ((afterWork (.run {} preparation) (besideWork oddlyLabelled)).snapshot ⟨0⟩).flatMap
          Family.lines := by decide +kernel
    exact not_exposed_of_forged shown (a := "spares_total\x7bspares".toList)
      (b := "total=\"a\"\x7d 0".toList) (by decide +kernel)
  · intro exposed
    have names : ((s.registry ⟨0⟩).collectors.all fun c => (s.collector c).metrics.all fun m =>
        m.descriptor.labels.all isLabelName && m.exposedName.toList.all isNameChar) = true := by
      decide +kernel
    have families : ∀ f ∈ s.snapshot ⟨0⟩, f.Named := by
      refine Store.named_snapshot fun c hc m hm => ?_
      have here := List.all_eq_true.1 (List.all_eq_true.1 names c hc) m hm
      rw [Bool.and_eq_true] at here
      exact ⟨List.all_eq_true.1 here.1, List.all_eq_true.1 here.2⟩
    have shown : ⟨"activity_duration_seconds_count", [(kindLabel, "Build")], "0"⟩ ∈
        Family.samplesOf (textBeside undescribed) := by
      rw [textBeside, Family.samplesOf_exposition families]
      decide +kernel
    obtain ⟨e, leads, -⟩ := (exposed.durationLabels _).1 ⟨"0", shown⟩
    exact List.not_mem_nil leads.mem

end Metrics

end WorkerTelemetry.Activity
