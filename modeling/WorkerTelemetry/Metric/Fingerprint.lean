import WorkerTelemetry.Text.Bytes

/-!
Fingerprints of texts. A fingerprint has 64 bits, so different texts may share one, and whatever is
told apart by its fingerprint is then taken for the same. Main statement: a fingerprint is taken
byte by byte, so texts fed one after the other count as one text.
-/

namespace WorkerTelemetry.Metric

/-- Mixes one byte in. -/
def mixByte (h : UInt64) (b : UInt8) : UInt64 := (h ^^^ b.toUInt64) * 0x100000001b3

def fingerprint (bytes : List UInt8) : UInt64 := bytes.foldl mixByte 0xcbf29ce484222325

def joined (texts : List String) : List UInt8 := texts.flatMap fun t => Text.utf8 t.toList

/-- The bytes of texts, each followed by a byte that occurs in no text. -/
def separated (texts : List String) : List UInt8 :=
  texts.flatMap fun t => Text.utf8 t.toList ++ [0xff]

theorem fingerprint_append (a b : List UInt8) :
    fingerprint (a ++ b) = b.foldl mixByte (fingerprint a) := List.foldl_append

theorem joined_eq_utf8 (texts : List String) :
    joined texts = Text.utf8 (texts.flatMap String.toList) := by
  simp [joined, Text.utf8, List.flatMap_assoc]

example : fingerprint (joined ["a"]) = 0xaf63dc4c8601ec8c := by decide +kernel
example : fingerprint (joined ["ab", "c"]) = fingerprint (joined ["a", "bc"]) := by decide +kernel
example : fingerprint (joined ["m78ZVq3Pf2ia"]) = fingerprint (joined ["mV9VBriCQwMe"]) := by
  decide +kernel

end WorkerTelemetry.Metric
