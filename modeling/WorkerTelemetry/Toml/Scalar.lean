import WorkerTelemetry.Decimal.Layout
import WorkerTelemetry.Toml.Item

/-!
TOML numbers, dates and times. Underscores stand between digits only; decimal numbers have no
needless zeros in front; whole numbers fit into 64 bits with a sign; dates exist in the calendar.
-/

namespace WorkerTelemetry.Toml

/-- A reader: what it found at the front of a text, and the rest. -/
abbrev Reader (α : Type) := List Char → Option (α × List Char)

def readChar (c : Char) : List Char → Option (List Char)
  | d :: cs => if d = c then some cs else none
  | [] => none

/-- Reads digits behind a first one; an underscore has to be followed by a digit. -/
def readMoreDigits (isDigit : Char → Bool) : List Char → List Char → Option (List Char × List Char)
  | '_' :: d :: cs, acc => if isDigit d then readMoreDigits isDigit cs (d :: acc) else none
  | ['_'], _ => none
  | c :: cs, acc =>
    if isDigit c then readMoreDigits isDigit cs (c :: acc) else some (acc.reverse, c :: cs)
  | [], acc => some (acc.reverse, [])

/-- Reads digits of a base, underscores between them left out. -/
def readDigits (isDigit : Char → Bool) : Reader (List Char)
  | c :: cs => if isDigit c then readMoreDigits isDigit cs [c] else none
  | [] => none

/-- Reads a sign if there is one; true stands for minus. -/
def readSign : List Char → Bool × List Char
  | '-' :: cs => (true, cs)
  | '+' :: cs => (false, cs)
  | cs => (false, cs)

/-- Reads the digits of a decimal whole number: a zero stands alone. -/
def readDecimal : Reader (List Char)
  | '0' :: cs => some (['0'], cs)
  | cs => readDigits Char.isDigit cs

def isDigitOf (base : Nat) (c : Char) : Bool :=
  if base ≤ 10 then c.isDigit && decide (c.toNat < 48 + base)
  else c.isDigit || ('a' ≤ c && c ≤ 'f') || ('A' ≤ c && c ≤ 'F')

def digitOf (c : Char) : Nat :=
  if c.isDigit then c.toNat - 48 else if 'a' ≤ c then c.toNat - 87 else c.toNat - 55

/-- The value of digits, the first being the highest. -/
def valueOf (base : Nat) (ds : List Char) : Nat := ds.foldl (fun n c => n * base + digitOf c) 0

/-- A whole number that fits into 64 bits with a sign. -/
def wholeNumber (negative : Bool) (n : Nat) : Option Item :=
  if negative then (if n ≤ 0x8000000000000000 then some (.int (-Int.ofNat n)) else none)
  else if n < 0x8000000000000000 then some (.int (Int.ofNat n))
  else none

/-- Reads the digits behind the mark of a base. -/
def readBased (base : Nat) (cs : List Char) : Option (Item × List Char) := do
  let (ds, cs) ← readDigits (isDigitOf base) cs
  return (← wholeNumber false (valueOf base ds), cs)

def readInteger : Reader Item
  | '0' :: 'x' :: cs => readBased 16 cs
  | '0' :: 'o' :: cs => readBased 8 cs
  | '0' :: 'b' :: cs => readBased 2 cs
  | cs => do
    let (negative, cs) := readSign cs
    let (ds, cs) ← readDecimal cs
    return (← wholeNumber negative (valueOf 10 ds), cs)

def readExponent : Reader Int
  | c :: cs =>
    if c = 'e' ∨ c = 'E' then do
      let (negative, cs) := readSign cs
      let (ds, cs) ← readDigits Char.isDigit cs
      let n := Int.ofNat (valueOf 10 ds)
      return (if negative then -n else n, cs)
    else none
  | [] => none

/-- The number `digits · 10 ^ exponent` as a double. Numbers far outside the range are decided by
their magnitude alone. -/
def realOf (digits : Nat) (exponent : Int) : Float :=
  let top := Int.ofNat (Decimal.digitCount digits) + exponent
  if digits = 0 ∨ top < -400 then 0.0
  else if 400 < top then 1.0 / 0.0
  else Float.ofScientific digits (decide (exponent < 0)) exponent.natAbs

/-- A number with a fraction or an exponent; one too large is refused if it is positive. -/
def realNumber (negative : Bool) (digits : Nat) (exponent : Int) : Option Item :=
  let x := realOf digits exponent
  if negative then some (.float (-x)) else if Decimal.isFinite x then some (.float x) else none

/-- Reads a number with a fraction or an exponent. -/
def readReal : Reader Item := fun cs => do
  let (negative, cs) := readSign cs
  let (whole, cs) ← readDecimal cs
  match cs with
  | '.' :: rest =>
    let (fraction, rest) ← readDigits Char.isDigit rest
    let digits := valueOf 10 (whole ++ fraction)
    let shift := Int.ofNat fraction.length
    match rest with
    | c :: _ =>
      if c = 'e' ∨ c = 'E' then do
        let (e, rest) ← readExponent rest
        return (← realNumber negative digits (e - shift), rest)
      else return (← realNumber negative digits (-shift), rest)
    | [] => return (← realNumber negative digits (-shift), rest)
  | _ =>
    let (e, rest) ← readExponent cs
    return (← realNumber negative (valueOf 10 whole) e, rest)

/-- Reads infinity or the undefined number, with a sign if there is one. -/
def readSpecial : Reader Item := fun cs =>
  let (negative, cs) := readSign cs
  match cs with
  | 'i' :: 'n' :: 'f' :: cs => some (.float (if negative then -(1.0 / 0.0) else 1.0 / 0.0), cs)
  | 'n' :: 'a' :: 'n' :: cs => some (.float (0.0 / 0.0), cs)
  | _ => none

/-- Reads exactly so many decimal digits as a number. -/
def readFixed (count : Nat) : Reader Nat := fun cs =>
  let ds := cs.take count
  if ds.length = count ∧ ds.all Char.isDigit = true then some (valueOf 10 ds, cs.drop count)
  else none

/-- Reads a number of two digits within bounds. -/
def readTwo (low high : Nat) : Reader Nat := fun cs =>
  (readFixed 2 cs).filter fun (n, _) => decide (low ≤ n) && decide (n ≤ high)

def daysIn (year month : Nat) : Nat :=
  let leap := year % 4 == 0 && (year % 100 != 0 || year % 400 == 0)
  if month = 2 then (if leap then 29 else 28)
  else if month = 4 ∨ month = 6 ∨ month = 9 ∨ month = 11 then 30
  else 31

def readDate (cs : List Char) : Option (List Char) := do
  let (year, cs) ← readFixed 4 cs
  let (month, cs) ← readTwo 1 12 (← readChar '-' cs)
  let (day, cs) ← readTwo 1 31 (← readChar '-' cs)
  if day ≤ daysIn year month then some cs else none

/-- Reads a time of day; the last minute may have a leap second. -/
def readTime (cs : List Char) : Option (List Char) := do
  let (_, cs) ← readTwo 0 23 cs
  let (_, cs) ← readTwo 0 59 (← readChar ':' cs)
  let (_, cs) ← readTwo 0 60 (← readChar ':' cs)
  match cs with
  | '.' :: d :: rest => if d.isDigit then some (rest.dropWhile Char.isDigit) else none
  | ['.'] => none
  | _ => some cs

/-- Reads the offset from universal time if there is one. -/
def readOffset : List Char → Option (List Char)
  | 'Z' :: cs => some cs
  | 'z' :: cs => some cs
  | c :: cs =>
    if c = '+' ∨ c = '-' then do
      let (_, cs) ← readTwo 0 23 cs
      let (_, cs) ← readTwo 0 59 (← readChar ':' cs)
      return cs
    else some (c :: cs)
  | [] => some []

def readTimeBehind (cs : List Char) : Option (List Char) :=
  match cs with
  | c :: rest =>
    if c = 'T' ∨ c = 't' ∨ c = ' ' then
      match readTime rest with
      | some rest => readOffset rest
      | none => some cs
    else some cs
  | [] => some []

def readMoment : Reader Item := fun cs =>
  match readDate cs with
  | some cs => (readTimeBehind cs).map fun cs => (.moment, cs)
  | none => (readTime cs).map fun cs => (.moment, cs)

/-- Reads whatever begins with a digit or a sign. -/
def readNumeric : Reader Item := fun cs =>
  (readMoment cs).orElse fun _ => (readReal cs).orElse fun _ =>
    (readSpecial cs).orElse fun _ => readInteger cs

end WorkerTelemetry.Toml
