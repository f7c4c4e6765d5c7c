/-!
Texts as bytes. A text is written to files and streams as UTF-8; a byte below `0x80` stands for a
character by itself and for nothing else, so lines of bytes are lines of text. Main statements:
this, and that a text is read back from its bytes.
-/

namespace WorkerTelemetry.Text

def utf8 (cs : List Char) : List UInt8 := cs.flatMap String.utf8EncodeChar

def ofUtf8? (bytes : List UInt8) : Option String := String.fromUTF8? ⟨bytes.toArray⟩

/-- The characters behind so many bytes; nothing if that is inside of a character or too far. -/
def dropBytes : Nat → List Char → Option (List Char)
  | n, [] => if n = 0 then some [] else none
  | n, c :: cs =>
    if n = 0 then some (c :: cs)
    else if c.utf8Size ≤ n then dropBytes (n - c.utf8Size) cs
    else none

/-- The characters of so many bytes at the front. -/
def takeBytes (n : Nat) (cs : List Char) : Option (List Char) :=
  (dropBytes n cs).map fun rest => cs.take (cs.length - rest.length)

/-- The characters between two positions, counted in bytes. -/
def sliceBytes (start stop : Nat) (cs : List Char) : Option (List Char) :=
  (takeBytes stop cs).bind (dropBytes start)

@[simp] theorem utf8_nil : utf8 [] = [] := rfl

@[simp] theorem utf8_append (xs ys : List Char) : utf8 (xs ++ ys) = utf8 xs ++ utf8 ys :=
  List.flatMap_append

/-- A byte below `0x80` is a character by itself. -/
theorem toNat_of_mem_utf8EncodeChar {c : Char} {b : UInt8} (h : b ∈ String.utf8EncodeChar c)
    (hb : b.toNat < 0x80) : b.toNat = c.toNat := by
  unfold String.utf8EncodeChar at h
  dsimp only at h
  split at h
  · rw [List.mem_singleton.1 h, UInt8.toNat_ofNat']
    exact Nat.mod_eq_of_lt (by omega)
  -- every byte of a longer form is at least `0x80`
  repeat' split at h
  all_goals
    simp only [List.mem_cons, List.not_mem_nil, or_false] at h
  · rcases h with rfl | rfl <;> (simp at hb; omega)
  · rcases h with rfl | rfl | rfl <;> (simp at hb; omega)
  · rcases h with rfl | rfl | rfl | rfl <;> (simp at hb; omega)

theorem mem_utf8 {cs : List Char} {b : UInt8} (h : b ∈ utf8 cs) (hb : b.toNat < 0x80) :
    ∃ c ∈ cs, c.toNat = b.toNat := by
  obtain ⟨c, hc, hbc⟩ := List.mem_flatMap.1 h
  exact ⟨c, hc, (toNat_of_mem_utf8EncodeChar hbc hb).symm⟩

/-- Bytes of a text are read back as this text. -/
theorem ofUtf8?_utf8 (cs : List Char) : ofUtf8? (utf8 cs) = some (String.ofList cs) := by
  have same : (⟨(utf8 cs).toArray⟩ : ByteArray) = (String.ofList cs).toByteArray := by
    rw [String.toByteArray_ofList, List.utf8Encode]
    apply ByteArray.ext
    simp [utf8]
  unfold ofUtf8? String.fromUTF8?
  rw [same, dif_pos (String.isValidUTF8 _)]
  rfl

example : sliceBytes 1 3 ['a', 'é', 'b'] = some ['é'] := by decide +kernel
example : sliceBytes 0 2 ['a', 'é', 'b'] = none := by decide +kernel

end WorkerTelemetry.Text
