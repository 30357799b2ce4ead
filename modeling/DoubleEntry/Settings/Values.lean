import DoubleEntry.Json.Basic
import DoubleEntry.Ledger.FundsPolicy
import DoubleEntry.Text.Case
import DoubleEntry.Text.Numeral
import DoubleEntry.Text.Shortest

/-!
# Values of settings

A setting may be written in more ways than one, since the environment holds texts only: a number may be
a text, and a text may be a number or a truth value. A number that fits in 64 bits is kept exactly; any
other is kept in double precision.
-/

namespace DoubleEntry.Settings

/-- A text in which only one of the given words may stand, whatever the case. -/
def isWord (words : List String) (s : String) : Bool :=
  words.contains (Text.asciiLower s)

/-- A whole number of 64 bits, with or without a sign. -/
def isExact (n : Int) : Bool := -9223372036854775808 ≤ n && n ≤ Text.greatestWord

/--
A number in double precision as a whole one of 64 bits: rounded to the nearest, halves up, and taken to
the nearer end where it lies outside.
-/
def rounded (n : JsonNumber) : Option Nat :=
  n.double?.map fun x => if n.isNegative then 0 else min x.value.nearestUp Text.greatestWord

/-- The whole number that a number stands for; none stands for a whole number below zero. -/
def whole? : JsonNumber → Option Nat
  | .whole n => if isExact n then if 0 ≤ n then some n.toNat else none else rounded (.whole n)
  | n => rounded n

/-- A whole number from 0 up to `top`; texts and truth values may stand for one. -/
def natural? (top : Nat) : Json → Option Nat
  | .num n => (whole? n).filter (· ≤ top)
  | .bool b => some (if b then 1 else 0)
  | .str s =>
    if isWord ["true", "on", "yes"] s then some 1
    else if isWord ["false", "off", "no"] s then some 0
    else Text.unsigned? top s
  | _ => none

def numberText : JsonNumber → Option String
  | .whole n =>
    if isExact n then some (Text.decimal n)
    else (JsonNumber.whole n).double?.map fun x => x.text (n < 0)
  | n => n.double?.map fun x => x.text n.isNegative

/-- A text; numbers and truth values stand for theirs. -/
def string? : Json → Option String
  | .str s => some s
  | .num n => numberText n
  | .bool b => some (if b then "true" else "false")
  | _ => none

/-- A funds policy: its name, or a table whose one member has that name. -/
def policy? : Json → Option FundsPolicy
  | .str s => FundsPolicy.ofName? s
  | .obj [(name, _)] => FundsPolicy.ofName? name
  | _ => none

end DoubleEntry.Settings
