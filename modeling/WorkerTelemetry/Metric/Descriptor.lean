import WorkerTelemetry.Metric.Fingerprint
import WorkerTelemetry.Text.NameMap
import WorkerTelemetry.Text.Quoted

/-!
What metrics are described as: a name, a help text and the names of their labels. Names are ASCII
words, and a label name occurs once. A descriptor has two fingerprints: one of its name, and one of
its shape, which is what two metrics of one name have to share.
-/

namespace WorkerTelemetry.Metric

/-- A character that may begin a label name. -/
def isWordStart (c : Char) : Bool := c.isAlpha || c == '_'

/-- A nonempty word whose first character satisfies a test and whose others may be digits too. -/
def isWord (start : Char → Bool) (s : String) : Bool :=
  match s.toList with
  | [] => false
  | c :: cs => start c && cs.all fun d => start d || d.isDigit

def isMetricName (s : String) : Bool := isWord (fun c => isWordStart c || c == ':') s

def isLabelName (s : String) : Bool := isWord isWordStart s

/-- The description of a metric. -/
structure Descriptor where
  name : String
  help : String
  /-- The label names in the order in which values are given. -/
  labels : List String := []
  deriving DecidableEq, Repr, Inhabited

namespace Descriptor

/-- What is wrong with a description. -/
inductive Fault
  | emptyHelp
  | name (text : String)
  | label (text : String)
  | repeatedLabel (text : String)
  deriving DecidableEq, Repr

def Fault.message : Fault → String
  | .emptyHelp => "empty help string"
  | .name t => "'" ++ t ++ "' is not a valid metric name"
  | .label t => "'" ++ t ++ "' is not a valid label name"
  | .repeatedLabel t => "duplicate variable label name " ++ t

/-- The first fault among label names; `seen` are the names in front of them. -/
def labelFault (seen : List String) : List String → Option Fault
  | [] => none
  | l :: ls =>
    if isLabelName l = false then some (.label l)
    else if l ∈ seen then some (.repeatedLabel l)
    else labelFault (l :: seen) ls

def fault (d : Descriptor) : Option Fault :=
  if d.help = "" then some .emptyHelp
  else if isMetricName d.name = false then some (.name d.name)
  else labelFault [] d.labels

def nameFingerprint (d : Descriptor) : UInt64 := fingerprint (separated [d.name])

/-- The fingerprint of the shape: the help text and the label names, whatever their order. -/
def shapeFingerprint (d : Descriptor) : UInt64 :=
  fingerprint (separated (d.help :: (NameSet.ofList d.labels).toList.map ("$" ++ ·)))

def listing (d : Descriptor) : String :=
  "Desc \x7b fq_name: " ++ Text.quote d.name ++ ", help: " ++ Text.quote d.help ++
    ", const_label_pairs: [], variable_labels: " ++ Text.quoteList d.labels ++
    ", id: " ++ toString d.nameFingerprint ++ ", dim_hash: " ++ toString d.shapeFingerprint ++
    " \x7d"

example : isMetricName "a:b_9" = true ∧ isMetricName "9a" = false ∧ isLabelName "a:b" = false := by
  decide
example : shapeFingerprint ⟨"m", "h", ["b", "a"]⟩ = shapeFingerprint ⟨"n", "h", ["a", "b"]⟩ := by
  decide +kernel

end Descriptor

end WorkerTelemetry.Metric
