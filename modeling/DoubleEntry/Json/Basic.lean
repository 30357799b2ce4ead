import DoubleEntry.Text.Double
import DoubleEntry.Text.Numeral

/-!
# JSON values

A value as a text holds it. The members of an object keep their order, and a whole number is told apart
from one that is written with a fraction or an exponent. Further kinds of value record what a
reader met in a faulty text: a string with half a surrogate pair, and the place where the text stops
being JSON. A member whose name is such a string is told by its value. None of these occurs in a value
that was built and not read.
-/

namespace DoubleEntry

/-- A number as it is written. -/
inductive JsonNumber where
  /-- A whole number, without fraction and exponent. -/
  | whole (value : Int)
  /--
  Any other number: its leading digits without the point, as far as 64 bits hold them, the power of
  ten they are scaled by, and its text.
  -/
  | scaled (digits : Nat) (power : Int) (text : String)
  deriving DecidableEq, Repr

/-- A JSON value. -/
inductive Json where
  | null
  | bool (value : Bool)
  | num (value : JsonNumber)
  | str (value : String)
  | arr (items : List Json)
  | obj (members : List (String × Json))
  /-- A string that holds half a surrogate pair. -/
  | halfPair
  /-- The value of a member whose name holds half a surrogate pair. -/
  | misnamed (value : Json)
  /-- The place where the text stops being JSON. -/
  | cut
  deriving Repr

namespace Json

def int (n : Int) : Json := .num (.whole n)

def optional (s : Option String) : Json := (s.map Json.str).getD .null

mutual

/-- The text of the value is JSON to its end. -/
def isWhole : Json → Bool
  | .cut => false
  | .misnamed v => v.isWhole
  | .arr items => allWhole items
  | .obj members => membersWhole members
  | _ => true

/-- The texts of all items are JSON to their end. -/
def allWhole : List Json → Bool
  | [] => true
  | v :: rest => v.isWhole && allWhole rest

/-- The texts of all members are JSON to their end. -/
def membersWhole : List (String × Json) → Bool
  | [] => true
  | (_, v) :: rest => v.isWhole && membersWhole rest

end

/-- The value of the first member of a name. -/
def member? (name : String) : Json → Option Json
  | .obj members => members.lookup name
  | _ => none

end Json

namespace JsonNumber

/-- The number is written with a minus sign. -/
def isNegative : JsonNumber → Bool
  | whole n => n < 0
  | scaled _ _ text => text.startsWith "-"

/-- The size of the number in double precision, unless it is too large for that. -/
def double? : JsonNumber → Option Text.Double
  | whole n =>
    let kept := Text.leading 0 (Nat.toDigits 10 n.natAbs)
    Text.Double.ofDecimal? kept.1 kept.2
  | scaled digits power _ => Text.Double.ofDecimal? digits power

/-- The number is too large for double precision. -/
def overflows (n : JsonNumber) : Bool := n.double?.isNone

end JsonNumber

end DoubleEntry
