import WorkerTelemetry.Proofs.Metric.Keeping
import WorkerTelemetry.Scrape.Run

/-!
What the scrape tool picks out of an exposition. It looks at the beginnings of lines only: a comment
has its mark there, and a sample its name. Main statement: if the names that a registry shows are
made of the characters of names, it picks of its exposition the lines of the samples whose names
begin with the given text, each as it was written, and nothing else, whatever stands in help texts
and label values. Other names can hide a sample.
-/

namespace WorkerTelemetry.Scrape

open WorkerTelemetry.Metric

/-! ### Beginnings of lines -/

/-- A comment is read as no sample, so the line of a sample is no comment. -/
theorem isComment_text {s : Sample} (named : s.Named) : isComment s.text = false := by
  rw [← Bool.not_eq_true]
  intro marked
  rw [isComment, beq_iff_eq, List.head?_eq_some_iff] at marked
  obtain ⟨cs, chars⟩ := marked
  have read := Sample.read_text named
  rw [chars] at read
  cases read

/-- The lines of an exposition that are comments are those that are no samples. -/
theorem isComment_found {l : Line} (plain : l.Plain) : isComment l.found = l.sample?.isNone := by
  have comment (cs : List Char) (text : l.text.toList = '#' :: ' ' :: cs) :
      isComment l.found = true := by
    obtain ⟨ds, chars⟩ := Line.exists_found_eq_cons text
    rw [isComment, chars]
    rfl
  cases l with
  | help name t =>
    refine comment ("HELP ".toList ++ name.toList ++ ' ' :: (escapeHelp t).toList) ?_
    simp [Line.text]
  | type name t =>
    refine comment ("TYPE ".toList ++ name.toList ++ ' ' :: t.toList) ?_
    simp [Line.text]
  | sample s =>
    obtain ⟨named, found⟩ := plain.sample s rfl
    rw [found]
    exact isComment_text named

/-- The line of a sample begins with its name, and its name ends where a text of name characters has
to end. -/
theorem prefix_text_iff {s : Sample} (named : s.Named) {start : List Char}
    (word : ∀ c ∈ start, isNameChar c = true) :
    start <+: s.text.toList ↔ start <+: s.name.toList := by
  obtain ⟨rest, text, stops⟩ : ∃ rest, s.text.toList = s.name.toList ++ rest ∧
      ∀ c, rest.head? = some c → isNameChar c = false := by
    rw [Sample.toList_text, Sample.toList_head, List.append_assoc]
    refine ⟨_, rfl, ?_⟩
    intro c hc
    split at hc <;> (cases hc; decide)
  constructor
  · rintro ⟨more, h⟩
    -- the name is the longest beginning of name characters, and this text is such a beginning
    have span := (Sample.span_name rest named.name stops).1
    rw [← text, ← h, List.takeWhile_append_of_pos word] at span
    exact ⟨more.takeWhile isNameChar, span⟩
  · intro h
    rw [text]
    exact h.trans (List.prefix_append s.name.toList rest)

/-! ### What is picked -/

/-- The samples of a registry whose names begin with a text. -/
def picked (start : String) (s : Store) (r : RegistryId) : List Sample :=
  ((s.snapshot r).flatMap Family.samples).filter fun x => start.toList.isPrefixOf x.name.toList

variable {start : String}

theorem samplesStarting_textOfLines (word : ∀ c ∈ start.toList, isNameChar c = true)
    {ls : List Line} (plain : ∀ l ∈ ls, l.Plain) :
    samplesStarting start (textOfLines ls) =
      ((ls.filterMap Line.sample?).filter fun x =>
        start.toList.isPrefixOf x.name.toList).map Sample.text := by
  rw [samplesStarting, Family.lines_textOfLines plain]
  refine Family.filter_found plain ?_ ?_
  · intro l hl none
    rw [isComment_found hl, none]
    rfl
  · intro x named
    rw [isComment_text named, Bool.eq_iff_iff]
    simp [List.isPrefixOf_iff_prefix, prefix_text_iff named word]

/-- After every run in which a registry has accepted only collectors whose names are made of the
characters of names, the tool picks out of what the registry is scraped as the lines of the samples
whose names begin with a text of such characters: all of them, in their order, each as it was
written and with nothing of a comment or of another line. So each is read back as its sample. -/
theorem samplesStarting_encode {xs : List Step} {r : RegistryId}
    (wellNamed : ∀ c ∈ ((Store.run {} xs).registry r).collectors,
      ∀ m ∈ ((Store.run {} xs).collector c).metrics, m.WellNamed)
    {text : String} (encoded : (Store.run {} xs).encode r = .ok text)
    (word : ∀ c ∈ start.toList, isNameChar c = true) :
    let samples := picked start (Store.run {} xs) r
    samplesStarting start text = samples.map Sample.text ∧
      (samplesStarting start text).map (fun l => Sample.read l.toList) = samples.map some ∧
      (Command.grep start).output text = String.join (samples.map fun x => x.text ++ "\n") := by
  intro samples
  have families := Store.named_snapshot wellNamed
  have plain := Family.plain_lines families
  have lines : samplesStarting start text = samples.map Sample.text := by
    rw [Family.eq_textOfLines_of_exposition encoded, samplesStarting_textOfLines word plain,
      Family.filterMap_sample?_flatMap]
    rfl
  refine ⟨lines, ?_, ?_⟩
  · rw [lines, List.map_map]
    refine List.map_congr_left fun x hx => ?_
    obtain ⟨f, hf, member⟩ := List.mem_flatMap.1 (List.mem_filter.1 hx).1
    exact Sample.read_text ((families f hf).sample member).1
  · rw [Command.output, lines, List.map_map]
    rfl

/-- A counter and a gauge with help texts and a label value that look like comments and samples. -/
def trickySteps : List Step :=
  [.collector ⟨[⟨⟨"answers_total", "first\nanswers_total 7\r\n# TYPE x", ["kind"]⟩, "answers_total",
      .counter, []⟩]⟩,
    .collector ⟨[⟨⟨"latency", "answers_total 8", []⟩, "latency", .gauge, [⟨[], .gauge 0.0⟩]⟩]⟩,
    .registry, .register ⟨0⟩ ⟨0⟩, .register ⟨0⟩ ⟨1⟩,
    .update ⟨0⟩ 0 ["a\nanswers_total 9\r\n#\""] (.increase 2), .update ⟨1⟩ 0 [] (.observe 0.5)]

/-- One line begins like the counter. -/
theorem samplesStarting_encode_trickySteps : ∃ text,
    (Store.run {} trickySteps).encode ⟨0⟩ = .ok text ∧
      samplesStarting "answers_" text =
        ["answers_total\x7bkind=\"a\\nanswers_total 9\r\\n#\\\"\"\x7d 2"] := by
  have named : (((Store.run {} trickySteps).snapshot ⟨0⟩).any fun f => f.name == "") = false := by
    decide +kernel
  have encoded : (Store.run {} trickySteps).encode ⟨0⟩ = .ok _ := Family.exposition_of_named named
  have wellNamed : ∀ x ∈ trickySteps, x.WellNamed := by
    have inOrder {m : Metric} (described : m.descriptor.fault = none)
        (exposed : m.exposedName.toList.all isNameChar = true) : m.WellNamed :=
      .of_fault described (List.all_eq_true.1 exposed)
    simp only [trickySteps, List.forall_mem_cons, List.not_mem_nil, Step.WellNamed, false_imp_iff,
      implies_true, and_true]
    constructor
    · exact inOrder (by decide +kernel) (by decide +kernel)
    · exact inOrder (by decide +kernel) (by decide +kernel)
  have everywhere : (Store.run {} trickySteps).Everywhere WellNamed :=
    (Store.Everywhere.start WellNamed).run fun x hx => (wellNamed x hx).keeps
  have word : ∀ c ∈ "answers_".toList, isNameChar c = true :=
    List.all_eq_true.1 (by decide +kernel)
  obtain ⟨lines, -, -⟩ :=
    samplesStarting_encode (fun c _ => everywhere.collector c) encoded word
  refine ⟨_, encoded, ?_⟩
  rw [lines]
  decide +kernel

/-- A registry accepts a counter of answers that is shown under a name, with one label. -/
def shownAs (name label : String) : List Step :=
  [.collector ⟨[⟨⟨"answers_total", "answers", [label]⟩, name, .counter, [⟨["a"], .counter 7⟩]⟩]⟩,
    .registry, .register ⟨0⟩ ⟨0⟩]

/-- Names may be of other characters, and are written then, but a sample whose name begins with the
mark of comments is not picked, and a line feed in the name of a label makes a line that is picked
and is no sample. -/
theorem odd_names_mislead :
    let marked := Store.run {} (shownAs "#answers_total" "kind")
    let broken := Store.run {} (shownAs "answers_total" "kind\njobs_total 9\nkind")
    ((marked.registry ⟨0⟩).collectors = [⟨0⟩] ∧ ∃ text, marked.encode ⟨0⟩ = .ok text ∧
        (picked "" marked ⟨0⟩).map Sample.text = ["#answers_total\x7bkind=\"a\"\x7d 7"] ∧
        samplesStarting "" text = []) ∧
      (broken.registry ⟨0⟩).collectors = [⟨0⟩] ∧ ∃ text, broken.encode ⟨0⟩ = .ok text ∧
        picked "jobs" broken ⟨0⟩ = [] ∧ samplesStarting "jobs" text = ["jobs_total 9"] := by
  intro marked broken
  have first : marked.encode ⟨0⟩ = .ok _ := Family.exposition_of_named (by decide +kernel)
  have second : broken.encode ⟨0⟩ = .ok _ := Family.exposition_of_named (by decide +kernel)
  exact ⟨⟨by decide +kernel, _, first, by decide +kernel, by decide +kernel⟩,
    by decide +kernel, _, second, by decide +kernel, by decide +kernel⟩

end WorkerTelemetry.Scrape
