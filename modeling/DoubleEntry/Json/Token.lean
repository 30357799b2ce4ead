import DoubleEntry.Json.Basic
import DoubleEntry.Text.Numeral

/-!
# Strings and numbers in JSON text

A string is first read as units, since half of a surrogate pair may be spelled; its characters come from
joining the halves. A number is a whole number only without fraction and exponent, and minus zero is
none.
-/

namespace DoubleEntry.Json

open DoubleEntry.Text

def isGap (c : Char) : Bool := c = ' ' || c = '\n' || c = '\t' || c = '\r'

/-- A text without the white space it starts with. -/
def skipGap (cs : List Char) : List Char := cs.dropWhile isGap

/-! ## Strings -/

def hexFour? (a b c d : Char) : Option Nat := do
  some ((((← hexDigit? a) * 16 + (← hexDigit? b)) * 16 + (← hexDigit? c)) * 16 + (← hexDigit? d))

/-- One unit of a string: a character, or half of a surrogate pair. -/
inductive StringUnit where
  | char (c : Char)
  | half (value : Nat)
  deriving DecidableEq, Repr

def shortEscape? (c : Char) : Option Char :=
  if c = '"' then some '"'
  else if c = '\\' then some '\\'
  else if c = '/' then some '/'
  else if c = 'b' then some '\x08'
  else if c = 'f' then some '\x0c'
  else if c = 'n' then some '\n'
  else if c = 'r' then some '\r'
  else if c = 't' then some '\t'
  else none

def unitOf (n : Nat) : StringUnit :=
  if 0xD800 ≤ n ∧ n ≤ 0xDFFF then .half n else .char (Char.ofNat n)

/-- The units of a string up to its closing quote, and the rest of the text. -/
def readUnits : List Char → Option (List StringUnit × List Char)
  | [] => none
  | '"' :: rest => some ([], rest)
  | '\\' :: 'u' :: a :: b :: c :: d :: rest => do
    let n ← hexFour? a b c d
    let (units, left) ← readUnits rest
    some (unitOf n :: units, left)
  | '\\' :: e :: rest => do
    let c ← shortEscape? e
    let (units, left) ← readUnits rest
    some (.char c :: units, left)
  | c :: rest =>
    if c = '\\' ∨ c.toNat < 0x20 then none
    else do
      let (units, left) ← readUnits rest
      some (.char c :: units, left)

/-- The characters of units in which every half has its other half. -/
def joinUnits : List StringUnit → Option (List Char)
  | [] => some []
  | .char c :: rest => (joinUnits rest).map (c :: ·)
  | .half high :: .half low :: rest =>
    if high ≤ 0xDBFF ∧ 0xDC00 ≤ low then
      (joinUnits rest).map (Char.ofNat (0x10000 + (high - 0xD800) * 0x400 + (low - 0xDC00)) :: ·)
    else none
  | .half _ :: _ => none

/-! ## Numbers -/

/-- The digits a text starts with, and the rest. -/
def splitDigits (cs : List Char) : List Char × List Char :=
  (cs.takeWhile Char.isDigit, cs.dropWhile Char.isDigit)

/-- A whole part: a zero alone, or digits that do not start with zero. -/
def readWhole (cs : List Char) : Option (List Char × List Char) :=
  match splitDigits cs with
  | ([], _) => none
  | (['0'], rest) => some (['0'], rest)
  | ('0' :: _, _) => none
  | (digits, rest) => some (digits, rest)

/-- An optional fraction: a point and at least one digit. -/
def readFractionPart : List Char → Option (List Char × List Char)
  | '.' :: rest =>
    match splitDigits rest with
    | ([], _) => none
    | (digits, left) => some (digits, left)
  | cs => some ([], cs)

/-- The digits of an exponent after its sign. -/
def readPower (sign : Int) (cs : List Char) : Option (Option Int × List Char) :=
  match splitDigits cs with
  | ([], _) => none
  | (digits, left) => (natural? digits).map fun n => (some (sign * n), left)

def readExponent : List Char → Option (Option Int × List Char)
  | 'e' :: '-' :: rest | 'E' :: '-' :: rest => readPower (-1) rest
  | 'e' :: '+' :: rest | 'E' :: '+' :: rest | 'e' :: rest | 'E' :: rest => readPower 1 rest
  | cs => some (none, cs)

/-- The number of digits before and after the point, and the power of ten that it is scaled by. -/
def scaledDigits (whole fraction : List Char) : Nat × Int :=
  let before := leading 0 whole
  let kept := leading before.1 fraction
  (kept.1, before.2 + kept.2 - fraction.length)

/-- A number after its sign, and the rest of the text. -/
def readMagnitude (negative : Bool) (cs : List Char) : Option (JsonNumber × List Char) := do
  let (whole, rest) ← readWhole cs
  let (fraction, rest) ← readFractionPart rest
  let (power, rest) ← readExponent rest
  let n ← natural? whole
  let isWholeNumber := fraction = [] ∧ power = none ∧ ¬(negative ∧ n = 0)
  if isWholeNumber then
    some (.whole (if negative then -(n : Int) else n), rest)
  else
    let text := cs.take (cs.length - rest.length)
    let (digits, scale) := scaledDigits whole fraction
    some (.scaled digits (power.getD 0 + scale)
      (String.ofList (if negative then '-' :: text else text)), rest)

end DoubleEntry.Json
