import DoubleEntry.Json.Basic
import DoubleEntry.Text.Numeral

/-!
# Paths to settings

A key may be a path: a name, followed by names after points and by positions in brackets, as in
`server.port` or `hosts[0]`. A key that is no path is one plain name, whatever it holds. Setting the
value at a path makes the tables and arrays that are missing on the way.
-/

namespace DoubleEntry.Settings

/-- One step of a path. -/
inductive PathStep where
  /-- To the member of a table. -/
  | member (name : String)
  /-- To the item of an array; a negative position counts from the end. -/
  | item (position : Int)
  deriving DecidableEq, Repr

/-- A path from the outermost table. -/
abbrev Path := List PathStep

namespace Path

/-! ## Paths in text -/

def isNameChar (c : Char) : Bool := c.isAlphanum || c = '_' || c = '-'

/-- A text without the blanks that it starts with. -/
def skipBlanks (cs : List Char) : List Char := cs.dropWhile fun c => c = ' ' || c = '\t'

/-- A name, and the rest of the text. -/
def readName (cs : List Char) : Option (String × List Char) :=
  match cs.takeWhile isNameChar with
  | [] => none
  | name => some (String.ofList name, cs.dropWhile isNameChar)

/-- A position of 63 bits with its closing bracket, and the rest of the text. -/
def readPosition (cs : List Char) : Option (Int × List Char) :=
  let start := skipBlanks cs
  let (sign, digits) := match start with
    | '-' :: rest => ((-1 : Int), rest)
    | rest => (1, rest)
  match Text.natural? (digits.takeWhile Char.isDigit) with
  | some n =>
    match skipBlanks (digits.dropWhile Char.isDigit) with
    | ']' :: rest =>
      let position := sign * n
      if -9223372036854775808 ≤ position ∧ position ≤ 9223372036854775807 then
        some (position, rest)
      else none
    | _ => none
  | none => none

/-- The steps after the first name; each takes a character at least, so the length bounds them. -/
def readSteps : Nat → List Char → Option Path
  | _, [] => some []
  | fuel + 1, '.' :: rest =>
    (readName rest).bind fun r => (readSteps fuel r.2).map (.member r.1 :: ·)
  | fuel + 1, '[' :: rest =>
    (readPosition rest).bind fun r => (readSteps fuel r.2).map (.item r.1 :: ·)
  | _, _ => none

/-- The path that a key spells, if it spells one. -/
def ofText? (key : String) : Option Path :=
  (readName key.toList).bind fun r => (readSteps r.2.length r.2).map (.member r.1 :: ·)

def ofKey (key : String) : Path := (ofText? key).getD [.member key]

end Path

/-! ## Members and items -/

/-- Sets one member of an object, keeping its place if it is there. -/
def setMember (name : String) (v : Json) : List (String × Json) → List (String × Json)
  | [] => [(name, v)]
  | (n, w) :: rest => if n = name then (n, v) :: rest else (n, w) :: setMember name v rest

/-- The members of a table; anything else has none. -/
def membersOf : Json → List (String × Json)
  | .obj ms => ms
  | _ => []

/-- The items of an array; anything else has none. -/
def itemsOf : Json → List Json
  | .arr items => items
  | _ => []

/-- The items with as many nulls before or after them that the position is there, and its index. -/
def reach (position : Int) (items : List Json) : List Json × Nat :=
  if 0 ≤ position then
    (items ++ List.replicate (position.toNat + 1 - items.length) .null, position.toNat)
  else
    (List.replicate (position.natAbs - items.length) .null ++ items,
      items.length - position.natAbs)

/-! ## Laying values over others -/

mutual

/-- Lays a value over another: tables are merged member by member, anything else is replaced. -/
def overlay (base : Json) : Json → Json
  | .obj ms => .obj (overlayAll (membersOf base) ms)
  | v => v

/-- Lays members over others, one after the other. -/
def overlayAll (base : List (String × Json)) : List (String × Json) → List (String × Json)
  | [] => base
  | (name, v) :: rest =>
    overlayAll (setMember name (overlay ((base.lookup name).getD .null) v) base) rest

end

/-- Lays a value over the one at a path; what stands in the way is replaced. -/
def setAt (v : Json) : Path → Json → Json
  | [], base => overlay base v
  | .member name :: rest, base =>
    let ms := membersOf base
    .obj (setMember name (setAt v rest ((ms.lookup name).getD .null)) ms)
  | .item position :: rest, base =>
    let (items, index) := reach position (itemsOf base)
    .arr (items.set index (setAt v rest (items[index]?.getD .null)))

end DoubleEntry.Settings
