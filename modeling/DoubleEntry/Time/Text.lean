import DoubleEntry.Time.Timestamp
import DoubleEntry.Text.Cut
import DoubleEntry.Text.Numeral

/-!
# Timestamps in text

Writing gives `YYYY-MM-DDTHH:MM:SS[.fff]Z` with the fewest of 0, 3, 6 or 9 fraction digits that lose
nothing; a year outside 0000 to 9999 has a sign. Reading is more generous: short numbers, a sign before
the year, white space before each number and separator, any offset below a day.
-/

namespace DoubleEntry.Time

open DoubleEntry.Text

/-! ## Writing -/

/-- The last `width` decimal digits of a number, with zeros in front. -/
def padded : Nat → Nat → List Char
  | 0, _ => []
  | width + 1, n => padded width (n / 10) ++ [Nat.digitChar (n % 10)]

/-- A year: four digits, or a sign and at least four digits. -/
def yearText (year : Int) : List Char :=
  if 0 ≤ year ∧ year ≤ 9999 then padded 4 year.toNat
  else
    let n := year.natAbs
    (if year < 0 then '-' else '+') :: (if n < 10000 then padded 4 n else Nat.toDigits 10 n)

/-- The fraction of a second, in as few groups of three digits as lose nothing. -/
def fractionText (nano : Nat) : List Char :=
  if nano = 0 then []
  else if nano % 1000000 = 0 then '.' :: padded 3 (nano / 1000000)
  else if nano % 1000 = 0 then '.' :: padded 6 (nano / 1000)
  else '.' :: padded 9 nano

def Timestamp.chars (t : Timestamp) : List Char :=
  yearText t.date.year ++ '-' :: padded 2 t.date.month ++ '-' :: padded 2 t.date.day ++
    'T' :: padded 2 t.hour ++ ':' :: padded 2 t.minute ++ ':' :: padded 2 t.second ++
    fractionText t.nano ++ ['Z']

def Timestamp.text (t : Timestamp) : String := String.ofList t.chars

/-! ## Reading -/

/-- Up to `width` digits at the start of a text, and the rest. -/
def takeDigits : Nat → List Char → List Char × List Char
  | 0, cs => ([], cs)
  | _ + 1, [] => ([], [])
  | width + 1, c :: rest =>
    if c.isDigit then
      let (digits, left) := takeDigits width rest
      (c :: digits, left)
    else ([], c :: rest)

/-- A number of at least one and at most `width` digits. -/
def readNumber (width : Nat) (cs : List Char) : Option (Nat × List Char) :=
  let (digits, rest) := takeDigits width cs
  (natural? digits).map fun n => (n, rest)

/-- A number of one or two digits, after white space. -/
def readField (cs : List Char) : Option (Nat × List Char) := readNumber 2 (trimLeft cs)

/-- A year after white space: one to four digits, or a sign and any number of digits. -/
def readYear (cs : List Char) : Option (Int × List Char) :=
  match trimLeft cs with
  | '-' :: rest => (readNumber rest.length rest).map fun r => (-(r.1 : Int), r.2)
  | '+' :: rest => (readNumber rest.length rest).map fun r => ((r.1 : Int), r.2)
  | rest => (readNumber 4 rest).map fun r => ((r.1 : Int), r.2)

/-- Passes over one character, which may stand after white space. -/
def readMark (mark : Char) (cs : List Char) : Option (List Char) :=
  match trimLeft cs with
  | c :: rest => if c = mark then some rest else none
  | [] => none

/-- The nanoseconds that the first nine digits of a fraction stand for. -/
def fractionValue (digits : List Char) : Option Nat :=
  natural? (digits ++ List.replicate (9 - digits.length) '0')

/-- An optional fraction of a second; digits after the ninth are dropped. -/
def readFraction : List Char → Option (Nat × List Char)
  | '.' :: rest =>
    let (digits, left) := takeDigits 9 rest
    if digits = [] then none
    else (fractionValue digits).map fun n => (n, left.dropWhile Char.isDigit)
  | cs => some (0, cs)

def readTwoDigits : List Char → Option (Nat × List Char)
  | a :: b :: rest => (natural? [a, b]).map fun n => (n, rest)
  | _ => none

/-- The hours and minutes of an offset after its sign, in minutes, below a day. -/
def readOffsetSize (cs : List Char) : Option (Nat × List Char) := do
  let (hours, rest) ← readTwoDigits cs
  let (minutes, rest) ← readTwoDigits (rest.dropWhile fun c => c = ':' || isSpace c)
  if minutes < 60 ∧ hours < 24 then some (hours * 60 + minutes, rest) else none

/-- The letters that stand for universal time, whatever their case. -/
def isLetter (upper : Char) (c : Char) : Bool := c.toUpper = upper

/-- An offset from universal time, in minutes. -/
def readOffset (cs : List Char) : Option (Int × List Char) :=
  match cs with
  | 'Z' :: rest | 'z' :: rest => some (0, rest)
  | '+' :: rest => (readOffsetSize rest).map fun r => ((r.1 : Int), r.2)
  | '-' :: rest | '−' :: rest => (readOffsetSize rest).map fun r => (-(r.1 : Int), r.2)
  | u :: t :: c :: rest =>
    if isLetter 'U' u && isLetter 'T' t && isLetter 'C' c then some (0, rest) else none
  | _ => none

/-- The day at the start of a text. -/
def readDate (cs : List Char) : Option (Date × List Char) := do
  let (year, rest) ← readYear cs
  let (month, rest) ← readField (← readMark '-' rest)
  let (day, rest) ← readField (← readMark '-' rest)
  let date ← Date.of? year month day
  some (date, rest)

/-- The sign between day and time: one of `T`, `t` and a space. -/
def readDivider : List Char → Option (List Char)
  | 'T' :: rest | 't' :: rest | ' ' :: rest => some rest
  | _ => none

/-- Reads a timestamp and converts it to universal time. -/
def Timestamp.ofChars? (cs : List Char) : Option Timestamp := do
  let (date, rest) ← readDate cs
  let (hour, rest) ← readField (← readDivider rest)
  let (minute, rest) ← readField (← readMark ':' rest)
  let (second, rest) ← readField (← readMark ':' rest)
  let (nano, rest) ← readFraction rest
  let (offset, rest) ← readOffset (trimLeft rest)
  let there ← Timestamp.of? date hour minute second nano
  if trimLeft rest = [] then there.addMinutes? (-offset) else none

def Timestamp.ofText? (s : String) : Option Timestamp := Timestamp.ofChars? s.toList

end DoubleEntry.Time
