import WorkerTelemetry.Metric.Family

/-!
The text that metrics are scraped as. Every family has a line with its help text, a line with its
type, and a line for each sample; a histogram has one sample for every bucket, for its sum and for
its number of observations. Help texts and label values are escaped so that they stay on their
line, and label values inside their quotes.
-/

namespace WorkerTelemetry.Metric

structure Sample where
  name : String
  labels : List (String × String)
  value : String
  deriving DecidableEq, Repr

inductive Line
  | help (name text : String)
  | type (name type : String)
  | sample (s : Sample)
  deriving DecidableEq, Repr

def escapeHelpChar (c : Char) : List Char :=
  if c = '\\' then ['\\', '\\'] else if c = '\n' then ['\\', 'n'] else [c]

def escapeLabelChar (c : Char) : List Char :=
  if c = '"' then ['\\', '"'] else escapeHelpChar c

/-- A help text on one line. -/
def escapeHelp (s : String) : String := String.ofList (s.toList.flatMap escapeHelpChar)

/-- A label value between quotes. -/
def escapeLabel (s : String) : String := String.ofList (s.toList.flatMap escapeLabelChar)

namespace Sample

def labelText (l : String × String) : String := l.1 ++ "=\"" ++ escapeLabel l.2 ++ "\""

/-- The name and the labels of a sample; without labels there are no braces. -/
def head (s : Sample) : String :=
  if s.labels.isEmpty then s.name
  else s.name ++ "\x7b" ++ ",".intercalate (s.labels.map labelText) ++ "\x7d"

def text (s : Sample) : String := s.head ++ " " ++ s.value

end Sample

def Line.text : Line → String
  | .help name t => "# HELP " ++ name ++ " " ++ escapeHelp t
  | .type name t => "# TYPE " ++ name ++ " " ++ t
  | .sample s => s.text

def countSample (name : String) (labels : List (String × String)) (n : Nat) : Sample :=
  ⟨name, labels, Decimal.countText n⟩

/-- The samples of the buckets; the one without a bound is left out if it is there already. -/
def bucketSamples (name : String) (labels : List (String × String)) (h : Histogram) :
    List Sample :=
  let bucket (bound : String) (n : Nat) :=
    countSample (name ++ "_bucket") (labels ++ [(bucketLabel, bound)]) n
  h.cumulative.map (fun b => bucket (Decimal.plainText b.1) b.2) ++
    if h.buckets.any fun b => Histogram.isTop b.bound then [] else [bucket "+Inf" h.samples]

def FamilySeries.samples (name : String) (s : FamilySeries) : List Sample :=
  match s.reading with
  | .counter n => [countSample name s.labels n.toNat]
  | .gauge x => [⟨name, s.labels, Decimal.plainText x⟩]
  | .histogram h =>
    bucketSamples name s.labels h ++
      [⟨name ++ "_sum", s.labels, Decimal.plainText h.sum⟩,
        countSample (name ++ "_count") s.labels h.samples]

namespace Family

def samples (f : Family) : List Sample := f.series.flatMap fun s => s.samples f.name

/-- The lines of a family; there is none for an empty help text. -/
def lines (f : Family) : List Line :=
  (if f.help = "" then [] else [.help f.name f.help]) ++ .type f.name f.type ::
    f.samples.map .sample

end Family

/-- Lines as one text, each ended by a line feed. -/
def textOfLines (ls : List Line) : String := String.join (ls.map fun l => l.text ++ "\n")

/-- The exposition of families; a family without a name has none. -/
def exposition (fs : List Family) : Except Error String :=
  if fs.any fun f => f.name == "" then .error .unnamed
  else .ok (textOfLines (fs.flatMap Family.lines))

def contentType : String := "text/plain; version=0.0.4"

end WorkerTelemetry.Metric
