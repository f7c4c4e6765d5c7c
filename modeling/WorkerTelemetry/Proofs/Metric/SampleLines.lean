import Mathlib.Data.List.Basic
import WorkerTelemetry.Metric.Exposition
import WorkerTelemetry.Proofs.Json.Grammar
import WorkerTelemetry.Text.Lines

/-!
Lines of an exposition. A line of a sample is read back as its name, its labels with their values
unescaped, and the text of its value. Main statements: this, and that the lines of an exposition are
those that its families have; so no help text and no label value can make a line of its own, and a
line begins with the name and the labels of one sample only.
-/

namespace WorkerTelemetry.Metric

/-! ### Characters -/

/-- A character of a name. -/
def isNameChar (c : Char) : Bool := isWordStart c || c == ':' || c.isDigit

/-- A text without control characters. -/
def Printable (cs : List Char) : Prop := ∀ c ∈ cs, 0x20 ≤ c.toNat

theorem le_of_isAlpha {c : Char} (h : c.isAlpha = true) : 0x20 ≤ c.toNat := by
  rcases Bool.or_eq_true_iff.1 h with upper | lower
  · have both : 'A'.val ≤ c.val ∧ c.val ≤ 'Z'.val := of_decide_eq_true upper
    have least : 65 ≤ c.toNat := UInt32.le_iff_toNat_le.1 both.1
    omega
  · have bound : 'a'.val ≤ c.val := of_decide_eq_true (Bool.and_eq_true_iff.1 lower).1
    have least : 97 ≤ c.toNat := UInt32.le_iff_toNat_le.1 bound
    omega

theorem le_of_isNameChar {c : Char} (h : isNameChar c = true) : 0x20 ≤ c.toNat := by
  simp only [isNameChar, isWordStart, Bool.or_eq_true, beq_iff_eq] at h
  rcases h with ((h | rfl) | rfl) | h
  · exact le_of_isAlpha h
  · decide
  · decide
  · exact Document.le_of_isDigit h

theorem all_of_isWord {start : Char → Bool} {s : String} (h : isWord start s = true) :
    ∀ c ∈ s.toList, (start c || c.isDigit) = true := by
  unfold isWord at h
  cases hs : s.toList with
  | nil => simp
  | cons d ds =>
    rw [hs] at h
    simp only [Bool.and_eq_true, List.all_eq_true] at h
    intro c hc
    rcases List.mem_cons.1 hc with rfl | hc
    · rw [h.1]
      rfl
    · exact h.2 c hc

theorem isNameChar_of_isMetricName {s : String} (h : isMetricName s = true) :
    ∀ c ∈ s.toList, isNameChar c = true := all_of_isWord h

theorem isNameChar_of_isLabelName {s : String} (h : isLabelName s = true) :
    ∀ c ∈ s.toList, isNameChar c = true := by
  intro c hc
  have word := all_of_isWord h c hc
  simp only [Bool.or_eq_true] at word
  rcases word with start | digit
  · simp [isNameChar, start]
  · simp [isNameChar, digit]

theorem printable_finiteNumeral (style : Decimal.Style) (negative : Bool) (mantissa : Nat)
    (exponent : Int) :
    Printable (Decimal.finiteNumeral style negative mantissa exponent).toText.toList := by
  intro c hc
  rw [Decimal.Numeral.toText, String.toList_ofList] at hc
  exact Document.le_of_mem_numeral
    (Decimal.finiteNumeral_wellFormed style negative mantissa exponent) hc

theorem printable_plainText (x : Float) : Printable (Decimal.plainText x).toList := by
  unfold Decimal.plainText
  split
  · unfold Printable; simp
  · unfold Printable; simp
  · unfold Printable; simp
  · exact printable_finiteNumeral _ _ _ _

/-- A count that a double holds is written in decimal. -/
theorem countText_eq_toString {n : Nat} (few : n < Decimal.exactLimit) :
    Decimal.countText n = toString n := by
  rw [Decimal.countText, if_pos few, Decimal.Numeral.toText]
  exact congrArg String.ofList (by simp [Decimal.Numeral.ofNat, Decimal.Numeral.chars,
    Decimal.Numeral.fractionChars, Decimal.Numeral.powerChars, Decimal.digitChars])

theorem printable_countText (n : Nat) : Printable (Decimal.countText n).toList := by
  by_cases few : n < Decimal.exactLimit
  · rw [countText_eq_toString few]
    intro c hc
    have digits : c ∈ Decimal.digitChars n := by
      rwa [show toString n = String.ofList (Decimal.digitChars n) from rfl, String.toList_ofList]
        at hc
    exact Document.le_of_isDigit (Decimal.digitChars_digits c digits)
  · rw [Decimal.countText, if_neg few]
    exact printable_finiteNumeral _ _ _ _

theorem printable_kindName (k : Kind) : Printable k.name.toList := by
  have printed {s : String} (h : s.toList.all (fun c => decide (0x20 ≤ c.toNat)) = true) :
      Printable s.toList := fun c hc => of_decide_eq_true (List.all_eq_true.1 h c hc)
  cases k with
  | counter => exact printed (s := "counter") (by decide +kernel)
  | gauge => exact printed (s := "gauge") (by decide +kernel)
  | histogram bounds => exact printed (s := "histogram") (by decide +kernel)

/-! ### Reading a sample -/

namespace Sample

/-- The character behind a backslash. -/
def unescape (c : Char) : Option Char :=
  if c = 'n' then some '\n' else if c = '\\' ∨ c = '"' then some c else none

/-- Reads a label value from behind its opening quote, up to the quote that closes it. -/
def readQuoted : List Char → Option (List Char × List Char)
  | [] => none
  | ['\\'] => none
  | '\\' :: c :: cs => do
    let x ← unescape c
    let (value, rest) ← readQuoted cs
    return (x :: value, rest)
  | c :: cs =>
    if c = '"' then some ([], cs) else (readQuoted cs).map fun r => (c :: r.1, r.2)

/-- Reads labels from behind the opening brace, up to the brace that closes them; there are at most
so many. -/
def readLabels : Nat → List Char → Option (List (String × String) × List Char)
  | 0, _ => none
  | n + 1, cs =>
    let name := String.ofList (cs.takeWhile isNameChar)
    match cs.dropWhile isNameChar with
    | '=' :: '"' :: rest =>
      match readQuoted rest with
      | some (value, ',' :: rest) =>
        (readLabels n rest).map fun r => ((name, String.ofList value) :: r.1, r.2)
      | some (value, '}' :: rest) => some ([(name, String.ofList value)], rest)
      | _ => none
    | _ => none

/-- Reads the line of a sample. -/
def read (cs : List Char) : Option Sample :=
  let name := String.ofList (cs.takeWhile isNameChar)
  match cs.dropWhile isNameChar with
  | ' ' :: value => some ⟨name, [], String.ofList value⟩
  | '{' :: rest =>
    match readLabels rest.length rest with
    | some (labels, ' ' :: value) => some ⟨name, labels, String.ofList value⟩
    | _ => none
  | _ => none

theorem readQuoted_escaped (value rest : List Char) :
    readQuoted (value.flatMap escapeLabelChar ++ '"' :: rest) = some (value, rest) := by
  induction value with
  | nil => rfl
  | cons c cs ih =>
    rw [List.flatMap_cons, List.append_assoc]
    by_cases quote : c = '"'
    · subst quote
      simp [escapeLabelChar, readQuoted, unescape, ih]
    by_cases backslash : c = '\\'
    · subst backslash
      simp [escapeLabelChar, escapeHelpChar, readQuoted, unescape, ih]
    by_cases feed : c = '\n'
    · subst feed
      simp [escapeLabelChar, escapeHelpChar, readQuoted, unescape, ih]
    · have plain : escapeLabelChar c = [c] := by
        simp [escapeLabelChar, escapeHelpChar, quote, backslash, feed]
      rw [plain, List.singleton_append, readQuoted, if_neg quote, ih]
      · rfl
      · simp [backslash]
      · simp [backslash]

/-! ### What is written is read back -/

theorem toList_labelText (l : String × String) :
    (labelText l).toList =
      l.1.toList ++ '=' :: '"' :: (l.2.toList.flatMap escapeLabelChar ++ ['"']) := by
  simp [labelText, escapeLabel]

/-- Labels as they are written behind the opening brace. -/
def labelsChars : List (String × String) → List Char
  | [] => ['}']
  | [l] => (labelText l).toList ++ ['}']
  | l :: k :: ls => (labelText l).toList ++ ',' :: labelsChars (k :: ls)

theorem intercalate_labels (l : String × String) (ls : List (String × String)) :
    (",".intercalate ((l :: ls).map labelText)).toList ++ ['}'] = labelsChars (l :: ls) := by
  rw [String.toList_intercalate]
  induction ls generalizing l with
  | nil => simp [labelsChars, List.intercalate]
  | cons k ls ih =>
    rw [labelsChars, ← ih k]
    simp [List.intercalate]

theorem toList_head (s : Sample) :
    s.head.toList = s.name.toList ++ if s.labels = [] then [] else '{' :: labelsChars s.labels := by
  unfold head
  cases hl : s.labels with
  | nil => simp
  | cons l ls =>
    have inner := intercalate_labels l ls
    simp only [List.isEmpty_cons, Bool.false_eq_true, if_false, reduceCtorEq, String.toList_append]
    rw [← inner]
    simp

theorem length_le_labelsChars (ls : List (String × String)) :
    ls.length ≤ (labelsChars ls).length := by
  induction ls with
  | nil => exact Nat.zero_le _
  | cons l ls ih =>
    cases ls with
    | nil => simp [labelsChars]
    | cons k ls =>
      rw [labelsChars, List.length_append]
      simp only [List.length_cons] at ih ⊢
      omega

/-- The characters of a name end at the first character that is none. -/
theorem span_name {name : List Char} (rest : List Char) (hname : ∀ c ∈ name, isNameChar c = true)
    (hrest : ∀ c, rest.head? = some c → isNameChar c = false) :
    (name ++ rest).takeWhile isNameChar = name ∧ (name ++ rest).dropWhile isNameChar = rest := by
  have stop : rest.takeWhile isNameChar = [] ∧ rest.dropWhile isNameChar = rest := by
    cases rest with
    | nil => exact ⟨rfl, rfl⟩
    | cons c cs => simp [hrest c rfl]
  rw [List.takeWhile_append_of_pos hname, List.dropWhile_append_of_pos hname, stop.1, stop.2]
  exact ⟨List.append_nil name, rfl⟩

theorem readLabels_labelsChars {ls : List (String × String)} (ne : ls ≠ [])
    (names : ∀ l ∈ ls, ∀ c ∈ l.1.toList, isNameChar c = true) {n : Nat} (hn : ls.length ≤ n)
    (rest : List Char) : readLabels n (labelsChars ls ++ rest) = some (ls, rest) := by
  induction ls generalizing n with
  | nil => exact absurd rfl ne
  | cons l ls ih =>
    obtain ⟨hl, hls⟩ := List.forall_mem_cons.1 names
    obtain ⟨name, value⟩ := l
    obtain ⟨n, rfl⟩ : ∃ k, n = k + 1 := ⟨n - 1, by simp at hn; omega⟩
    -- the name ends at the equals sign, and the value at its closing quote
    have span (more : List Char) := span_name ('=' :: '"' :: more) hl
      (by intro c hc; cases hc; decide)
    have quoted (more : List Char) := readQuoted_escaped value.toList more
    cases ls with
    | nil =>
      rw [labelsChars, toList_labelText]
      simp only [List.append_assoc, List.cons_append, List.nil_append, readLabels,
        (span _).1, (span _).2, quoted, String.ofList_toList]
    | cons k ls =>
      have later := ih (List.cons_ne_nil k ls) hls (n := n) (by simp at hn ⊢; omega)
      rw [labelsChars, toList_labelText]
      simp only [List.append_assoc, List.cons_append, List.nil_append, readLabels,
        (span _).1, (span _).2, quoted, later, String.ofList_toList, Option.map_some]

/-- The names of a sample are made of the characters of names. -/
structure Named (s : Sample) : Prop where
  name : ∀ c ∈ s.name.toList, isNameChar c = true
  labels : ∀ l ∈ s.labels, ∀ c ∈ l.1.toList, isNameChar c = true

theorem toList_text (s : Sample) : s.text.toList = s.head.toList ++ ' ' :: s.value.toList := by
  simp [text]

/-- The line of a sample is read back. -/
theorem read_text {s : Sample} (h : s.Named) : read s.text.toList = some s := by
  obtain ⟨name, labels, value⟩ := s
  rw [toList_text, toList_head, List.append_assoc]
  cases labels with
  | nil =>
    have span := span_name (' ' :: value.toList) h.name
      (by intro c hc; cases hc; decide)
    simp [read, span]
  | cons l ls =>
    have span := span_name ('{' :: (labelsChars (l :: ls) ++ ' ' :: value.toList)) h.name
      (by intro c hc; cases hc; decide)
    have fuel : (l :: ls).length ≤ (labelsChars (l :: ls) ++ ' ' :: value.toList).length := by
      have le := length_le_labelsChars (l :: ls)
      rw [List.length_append]
      omega
    have labels := readLabels_labelsChars (List.cons_ne_nil l ls) h.labels fuel
      (' ' :: value.toList)
    simp only [reduceCtorEq, if_false, List.cons_append, read, span.1, span.2, labels,
      String.ofList_toList]

/-- A line that begins with the name and the labels of a sample is read as a sample with these. -/
theorem read_of_prefix {w : Sample} (h : w.Named) {cs : List Char}
    (hcs : (w.head ++ " ").toList <+: cs) :
    ∃ value, read cs = some ⟨w.name, w.labels, value⟩ := by
  obtain ⟨rest, rfl⟩ := hcs
  have named : (⟨w.name, w.labels, String.ofList rest⟩ : Sample).Named := ⟨h.name, h.labels⟩
  have text : (w.head ++ " ").toList ++ rest =
      (⟨w.name, w.labels, String.ofList rest⟩ : Sample).text.toList := by
    have value : rest = (String.ofList rest).toList := String.toList_ofList.symm
    rw [toList_text, String.toList_append, List.append_assoc]
    exact congrArg (fun cs => w.head.toList ++ ' ' :: cs) value
  exact ⟨String.ofList rest, by rw [text, read_text named]⟩

/-- The line of a sample begins with its own name and labels only. -/
theorem prefix_text_iff {w s : Sample} (hw : w.Named) (hs : s.Named) :
    (w.head ++ " ").toList <+: s.text.toList ↔ s.name = w.name ∧ s.labels = w.labels := by
  constructor
  · intro h
    obtain ⟨value, hvalue⟩ := read_of_prefix hw h
    rw [read_text hs] at hvalue
    obtain rfl := Option.some.inj hvalue
    exact ⟨rfl, rfl⟩
  · rintro ⟨name, labels⟩
    have head : s.head = w.head := by rw [Sample.head, name, labels, Sample.head]
    refine ⟨s.value.toList, ?_⟩
    rw [toList_text, head, String.toList_append, List.append_assoc]
    rfl

end Sample

/-! ### The lines of families -/

/-- The sample that a line shows. -/
def Line.sample? : Line → Option Sample
  | .sample s => some s
  | _ => none

/-- A line as it is found in a text. -/
def Line.found (l : Line) : String := String.ofList (Text.dropReturn l.text.toList)

/-- A line is found as it was written: as a comment on one line, or as a sample. -/
structure Line.Plain (l : Line) : Prop where
  feedless : '\n' ∉ l.text.toList
  read : Sample.read l.found.toList = l.sample?
  sample : ∀ s, l = .sample s → s.Named ∧ l.found = s.text

/-- A line that does not end in a control character is found as it is. -/
theorem found_eq_self {l : Line} {cs end' : List Char} {c : Char}
    (text : l.text.toList = cs ++ c :: end') (h : Printable (c :: end')) : l.found = l.text := by
  have kept : Text.dropReturn l.text.toList = l.text.toList := by
    refine if_neg fun last => ?_
    rw [text, List.getLast?_append_of_ne_nil cs (List.cons_ne_nil c end')] at last
    exact absurd (h '\r' (List.mem_of_getLast? last)) (by decide)
  rw [Line.found, kept, String.ofList_toList]

/-- A comment is found with its mark in front. -/
theorem Line.exists_found_eq_cons {l : Line} {cs : List Char}
    (text : l.text.toList = '#' :: ' ' :: cs) : ∃ ds, l.found.toList = '#' :: ds := by
  rw [found, String.toList_ofList, text, Text.dropReturn]
  split
  · exact ⟨(' ' :: cs).dropLast, rfl⟩
  · exact ⟨' ' :: cs, rfl⟩

theorem Line.plain_comment {l : Line} (cs : List Char) (none : l.sample? = none)
    (text : l.text.toList = '#' :: ' ' :: cs) (feedless : '\n' ∉ cs) : l.Plain := by
  refine ⟨?_, ?_, ?_⟩
  · rw [text]
    simp [feedless]
  · obtain ⟨ds, hds⟩ := exists_found_eq_cons text
    rw [hds, none]
    rfl
  · rintro s rfl
    cases none

theorem feed_notMem_of_printable {cs : List Char} (h : Printable cs) : '\n' ∉ cs := by
  intro hmem
  exact absurd (h '\n' hmem) (by decide)

theorem feed_notMem_of_names {cs : List Char} (h : ∀ c ∈ cs, isNameChar c = true) :
    '\n' ∉ cs := feed_notMem_of_printable fun c hc => le_of_isNameChar (h c hc)

theorem feed_notMem_escapeLabel (s : String) : '\n' ∉ s.toList.flatMap escapeLabelChar := by
  intro h
  obtain ⟨c, -, hc⟩ := List.mem_flatMap.1 h
  unfold escapeLabelChar escapeHelpChar at hc
  split at hc
  · simp at hc
  split at hc
  · simp at hc
  split at hc
  · simp at hc
  · next feed => exact feed (List.mem_singleton.1 hc).symm

theorem feed_notMem_escapeHelp (s : String) : '\n' ∉ (escapeHelp s).toList := by
  intro h
  rw [escapeHelp, String.toList_ofList] at h
  obtain ⟨c, -, hc⟩ := List.mem_flatMap.1 h
  unfold escapeHelpChar at hc
  split at hc
  · simp at hc
  split at hc
  · simp at hc
  · next feed => exact feed (List.mem_singleton.1 hc).symm

theorem feed_notMem_labelsChars {ls : List (String × String)}
    (names : ∀ l ∈ ls, ∀ c ∈ l.1.toList, isNameChar c = true) :
    '\n' ∉ Sample.labelsChars ls := by
  have label {l : String × String} (hl : ∀ c ∈ l.1.toList, isNameChar c = true) :
      '\n' ∉ (Sample.labelText l).toList := by
    have name := feed_notMem_of_names hl
    have value := feed_notMem_escapeLabel l.2
    rw [Sample.toList_labelText]
    simp only [List.mem_append, List.mem_cons, List.not_mem_nil, not_or]
    exact ⟨name, by decide, by decide, value, by decide, not_false⟩
  induction ls with
  | nil => simp [Sample.labelsChars]
  | cons l ls ih =>
    obtain ⟨hl, hls⟩ := List.forall_mem_cons.1 names
    cases ls with
    | nil => simp [Sample.labelsChars, label hl]
    | cons k ls => simp [Sample.labelsChars, label hl, ih hls]

theorem Line.plain_sample {s : Sample} (named : s.Named) (value : Printable s.value.toList) :
    (Line.sample s).Plain := by
  have text : (Line.sample s).text.toList = s.head.toList ++ ' ' :: s.value.toList := s.toList_text
  have printable : Printable (' ' :: s.value.toList) := by
    intro c hc
    rcases List.mem_cons.1 hc with rfl | hc
    · decide
    · exact value c hc
  have found : (Line.sample s).found = s.text := found_eq_self text printable
  refine ⟨?_, ?_, ?_⟩
  · rw [text, Sample.toList_head]
    have head : '\n' ∉ s.name.toList := feed_notMem_of_names named.name
    have labels := feed_notMem_labelsChars named.labels
    have rest := feed_notMem_of_printable printable
    by_cases none : s.labels = []
    · simp [none, head, feed_notMem_of_printable value]
    · simp [none, head, labels, feed_notMem_of_printable value]
  · rw [found]
    exact Sample.read_text named
  · rintro t heq
    cases heq
    exact ⟨named, found⟩

namespace Family

/-- The names in a family are made of the characters of names. -/
structure Named (f : Family) : Prop where
  name : ∀ c ∈ f.name.toList, isNameChar c = true
  type : Printable f.type.toList
  labels : ∀ s ∈ f.series, ∀ l ∈ s.labels, ∀ c ∈ l.1.toList, isNameChar c = true

/-- The names that the samples of a family may have. -/
def sampleNames (name : String) : List String :=
  [name, name ++ "_bucket", name ++ "_sum", name ++ "_count"]

theorem isNameChar_of_mem_sampleNames {name n : String}
    (h : ∀ c ∈ name.toList, isNameChar c = true) (hn : n ∈ sampleNames name) :
    ∀ c ∈ n.toList, isNameChar c = true := by
  have suffix (s : String) (hs : s.toList.all isNameChar = true) :
      ∀ c ∈ (name ++ s).toList, isNameChar c = true := by
    intro c hc
    rw [String.toList_append] at hc
    exact (List.mem_append.1 hc).elim (h c) (List.all_eq_true.1 hs c)
  simp only [sampleNames, List.mem_cons, List.not_mem_nil, or_false] at hn
  rcases hn with rfl | rfl | rfl | rfl
  · exact h
  · exact suffix "_bucket" (by decide +kernel)
  · exact suffix "_sum" (by decide +kernel)
  · exact suffix "_count" (by decide +kernel)

theorem mem_bucketSamples {name : String} {labels : List (String × String)} {h : Histogram}
    {s : Sample} (hs : s ∈ bucketSamples name labels h) :
    ∃ bound n, s = countSample (name ++ "_bucket") (labels ++ [(bucketLabel, bound)]) n := by
  unfold bucketSamples at hs
  rcases List.mem_append.1 hs with hs | hs
  · obtain ⟨b, -, rfl⟩ := List.mem_map.1 hs
    exact ⟨_, _, rfl⟩
  · split at hs
    · cases hs
    · exact ⟨_, _, List.mem_singleton.1 hs⟩

/-- What the samples of a series look like. -/
theorem samples_spec {name : String} {t : FamilySeries}
    (labels : ∀ l ∈ t.labels, ∀ c ∈ l.1.toList, isNameChar c = true) {s : Sample}
    (hs : s ∈ t.samples name) :
    s.name ∈ sampleNames name ∧ (∀ l ∈ s.labels, ∀ c ∈ l.1.toList, isNameChar c = true) ∧
      Printable s.value.toList := by
  unfold FamilySeries.samples at hs
  cases ht : t.reading with
  | counter n =>
    rw [ht] at hs
    obtain rfl := List.mem_singleton.1 hs
    exact ⟨by simp [sampleNames, countSample], labels, printable_countText _⟩
  | gauge x =>
    rw [ht] at hs
    obtain rfl := List.mem_singleton.1 hs
    exact ⟨by simp [sampleNames], labels, printable_plainText _⟩
  | histogram h =>
    rw [ht] at hs
    rcases List.mem_append.1 hs with hs | hs
    · obtain ⟨bound, n, rfl⟩ := mem_bucketSamples hs
      refine ⟨by simp [sampleNames, countSample], ?_, printable_countText _⟩
      intro l hl
      rcases List.mem_append.1 hl with hl | hl
      · exact labels l hl
      · rw [List.mem_singleton.1 hl]
        have word : bucketLabel.toList.all isNameChar = true := by decide +kernel
        exact List.all_eq_true.1 word
    · rcases List.mem_cons.1 hs with rfl | hs
      · exact ⟨by simp [sampleNames], labels, printable_plainText _⟩
      · obtain rfl := List.mem_singleton.1 hs
        exact ⟨by simp [sampleNames, countSample], labels, printable_countText _⟩

theorem name_mem_sampleNames {f : Family} (h : f.Named) {s : Sample} (hs : s ∈ f.samples) :
    s.name ∈ sampleNames f.name := by
  obtain ⟨t, ht, hs⟩ := List.mem_flatMap.1 hs
  exact (samples_spec (h.labels t ht) hs).1

theorem Named.sample {f : Family} (h : f.Named) {s : Sample} (hs : s ∈ f.samples) :
    s.Named ∧ Printable s.value.toList := by
  obtain ⟨t, ht, hst⟩ := List.mem_flatMap.1 hs
  obtain ⟨sampleName, labels, value⟩ := samples_spec (h.labels t ht) hst
  exact ⟨⟨isNameChar_of_mem_sampleNames h.name sampleName, labels⟩, value⟩

/-- The lines of a family are found as they were written. -/
theorem Named.lines {f : Family} (h : f.Named) : ∀ l ∈ f.lines, l.Plain := by
  have name : '\n' ∉ f.name.toList := feed_notMem_of_names h.name
  intro l hl
  unfold Family.lines at hl
  rcases List.mem_append.1 hl with hl | hl
  · split at hl
    · cases hl
    · rw [List.mem_singleton.1 hl]
      refine Line.plain_comment
        ("HELP ".toList ++ f.name.toList ++ ' ' :: (escapeHelp f.help).toList) rfl ?_ ?_
      · simp [Line.text]
      · simp [name, feed_notMem_escapeHelp]
  rcases List.mem_cons.1 hl with rfl | hl
  · refine Line.plain_comment ("TYPE ".toList ++ f.name.toList ++ ' ' :: f.type.toList) rfl ?_ ?_
    · simp [Line.text]
    · simp [name, feed_notMem_of_printable h.type]
  · obtain ⟨s, hs, rfl⟩ := List.mem_map.1 hl
    obtain ⟨named, value⟩ := h.sample hs
    exact Line.plain_sample named value

theorem filterMap_sample?_lines (f : Family) : f.lines.filterMap Line.sample? = f.samples := by
  unfold Family.lines
  rw [List.filterMap_append, List.filterMap_cons, List.filterMap_map]
  have comments : (if f.help = "" then [] else [Line.help f.name f.help]).filterMap Line.sample? =
      [] := by
    split <;> rfl
  rw [comments]
  exact List.filterMap_some

variable {fs : List Family}

theorem lines_textOfLines {ls : List Line} (plain : ∀ l ∈ ls, l.Plain) :
    Text.lines (textOfLines ls) = ls.map Line.found := by
  have join : textOfLines ls = String.join ((ls.map Line.text).map (· ++ "\n")) := by
    rw [List.map_map]
    rfl
  rw [join, Text.lines_join, List.map_map]
  · rfl
  · intro t ht
    obtain ⟨l, hl, rfl⟩ := List.mem_map.1 ht
    exact (plain l hl).feedless

theorem plain_lines (named : ∀ f ∈ fs, f.Named) : ∀ l ∈ fs.flatMap Family.lines, l.Plain := by
  intro l hl
  obtain ⟨f, hf, hl⟩ := List.mem_flatMap.1 hl
  exact (named f hf).lines l hl

theorem filterMap_sample?_flatMap (fs : List Family) :
    (fs.flatMap Family.lines).filterMap Line.sample? = fs.flatMap Family.samples := by
  rw [List.filterMap_flatMap]
  simp only [filterMap_sample?_lines]

/-- The samples that are read from the lines of a text. -/
def samplesOf (text : String) : List Sample :=
  (Text.lines text).filterMap fun l => Sample.read l.toList

/-- Of families that all have names there is a text. -/
theorem exposition_of_named (named : (fs.any fun f => f.name == "") = false) :
    exposition fs = .ok (textOfLines (fs.flatMap Family.lines)) :=
  if_neg (by rw [named]; exact Bool.false_ne_true)

theorem eq_textOfLines_of_exposition {text : String} (h : exposition fs = .ok text) :
    text = textOfLines (fs.flatMap Family.lines) := by
  unfold exposition at h
  split at h
  · cases h
  · exact (Except.ok.inj h).symm

/-- The samples of families are read from the lines of their exposition. -/
theorem samplesOf_exposition (named : ∀ f ∈ fs, f.Named) :
    samplesOf (textOfLines (fs.flatMap Family.lines)) = fs.flatMap Family.samples := by
  have plain := plain_lines named
  have read : ∀ l ∈ fs.flatMap Family.lines, Sample.read l.found.toList = l.sample? :=
    fun l hl => (plain l hl).read
  rw [samplesOf, lines_textOfLines plain, List.filterMap_map, ← filterMap_sample?_flatMap]
  exact List.filterMap_congr read

/-- The lines of an exposition that begin with the name and the labels of a sample. -/
def linesOf (head text : String) : List String :=
  (Text.lines text).filter fun l => (head ++ " ").toList.isPrefixOf l.toList

/-- A comment does not begin like a sample. -/
theorem not_isPrefixOf_comment {w : Sample} (hw : w.Named) {l : Line} (plain : l.Plain)
    (comment : l.sample? = none) : (w.head ++ " ").toList.isPrefixOf l.found.toList = false := by
  rw [← Bool.not_eq_true, List.isPrefixOf_iff_prefix]
  intro h
  obtain ⟨value, hvalue⟩ := Sample.read_of_prefix hw h
  rw [plain.read, comment] at hvalue
  cases hvalue

/-- Lines that are picked out of a text by a test that no comment passes are the samples that pass
it. -/
theorem filter_found {keeps : String → Bool} {wanted : Sample → Bool} {ls : List Line}
    (plain : ∀ l ∈ ls, l.Plain)
    (comment : ∀ l : Line, l.Plain → l.sample? = none → keeps l.found = false)
    (sample : ∀ s : Sample, s.Named → keeps s.text = wanted s) :
    (ls.map Line.found).filter keeps =
      ((ls.filterMap Line.sample?).filter wanted).map Sample.text := by
  induction ls with
  | nil => rfl
  | cons l ls ih =>
    obtain ⟨hl, hls⟩ := List.forall_mem_cons.1 plain
    rw [List.map_cons, List.filter_cons, List.filterMap_cons, ih hls]
    cases hs : l.sample? with
    | none =>
      rw [comment l hl hs]
      rfl
    | some s =>
      obtain rfl : l = .sample s := by
        cases l with
        | sample t => exact congrArg Line.sample (Option.some.inj hs)
        | _ => cases hs
      obtain ⟨named, found⟩ := hl.sample s rfl
      rw [found, sample s named, List.filter_cons]
      split
      · rw [List.map_cons]
      · rfl

/-- The lines that begin with the name and the labels of a sample are those of the samples with
this name and these labels. -/
theorem linesOf_exposition (named : ∀ f ∈ fs, f.Named) {w : Sample} (hw : w.Named) :
    linesOf w.head (textOfLines (fs.flatMap Family.lines)) =
      ((fs.flatMap Family.samples).filter fun s =>
        s.name == w.name && s.labels == w.labels).map Sample.text := by
  have plain := plain_lines named
  rw [linesOf, lines_textOfLines plain, ← filterMap_sample?_flatMap]
  refine filter_found plain (fun l hl none => not_isPrefixOf_comment hw hl none) fun s hs => ?_
  rw [Bool.eq_iff_iff, List.isPrefixOf_iff_prefix, Sample.prefix_text_iff hw hs]
  simp

end Family

end WorkerTelemetry.Metric
