import WorkerTelemetry.Text.Hidden

/-!
Texts between double quotes, as they stand in messages and listings. Quotes and backslashes carry
a backslash, the usual control characters have their letter, and every other hidden character is
written by its code point, so a quoted text is visible and stays on one line.
-/

namespace WorkerTelemetry.Text

/-- Lower-case hexadecimal digits, without leading zeros. -/
def hexDigits (n : Nat) : List Char := Nat.toDigits 16 n

def quoteChar (c : Char) : List Char :=
  if c = '"' then ['\\', '"']
  else if c = '\\' then ['\\', '\\']
  else if c = '\n' then ['\\', 'n']
  else if c = '\r' then ['\\', 'r']
  else if c = '\t' then ['\\', 't']
  else if c = '\x00' then ['\\', '0']
  else if isHidden c then ['\\', 'u', '\x7b'] ++ hexDigits c.toNat ++ ['\x7d']
  else [c]

def quoteChars (cs : List Char) : List Char := '"' :: cs.flatMap quoteChar ++ ['"']

/-- A text between double quotes. -/
def quote (s : String) : String := String.ofList (quoteChars s.toList)

/-- Items between square brackets, separated by a comma and a space. -/
def bracketed (items : List String) : String := "[" ++ ", ".intercalate items ++ "]"

def quoteList (items : List String) : String := bracketed (items.map quote)

example : quote "a\"b\\\n\x1b" = "\"a\\\"b\\\\\\n\\u\x7b1b\x7d\"" := by decide +kernel

end WorkerTelemetry.Text
