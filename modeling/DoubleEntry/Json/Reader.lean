import DoubleEntry.Json.Token

/-!
# Reading JSON

The reader never fails. Where a text stops being JSON it leaves the mark `cut` and reads no further, so
that whoever looks at the value from its start decides which fault comes first: the cut, or something
before it that has the wrong shape.

Each step either consumes a character or ends, so the length of the text bounds the reading.
-/

namespace DoubleEntry.Json

/-- A value and the rest of the text; there is no rest after a cut. -/
abbrev Reading (α : Type) := α × Option (List Char)

def readWord (word : List Char) (value : Json) (cs : List Char) : Reading Json :=
  if word.isPrefixOf cs then (value, some (cs.drop word.length)) else (.cut, none)

def readString (cs : List Char) : Reading Json :=
  match readUnits cs with
  | none => (.cut, none)
  | some (units, rest) =>
    match joinUnits units with
    | some chars => (.str (String.ofList chars), some rest)
    | none => (.halfPair, some rest)

def readNumber (negative : Bool) (cs : List Char) : Reading Json :=
  match readMagnitude negative cs with
  | some (n, rest) => (.num n, some rest)
  | none => (.cut, none)

/-- The name of a member and the colon after it. -/
def readName (cs : List Char) : Reading Json :=
  match skipGap cs with
  | '"' :: rest =>
    match readString rest with
    | (name, none) => (name, none)
    | (name, some left) =>
      match skipGap left with
      | ':' :: after => (name, some after)
      | _ => (name, none)
  | _ => (.cut, none)

/-- A member under the name that was read. -/
def member (name v : Json) : String × Json :=
  match name with
  | .str s => (s, v)
  | _ => ("", .misnamed v)

mutual

/-- A value at the start of a text, white space before it allowed. -/
def readValue : Nat → List Char → Reading Json
  | 0, _ => (.cut, none)
  | fuel + 1, cs =>
    match skipGap cs with
    | [] => (.cut, none)
    | '"' :: rest => readString rest
    | '-' :: rest => readNumber true rest
    | '[' :: rest =>
      match skipGap rest with
      | ']' :: left => (.arr [], some left)
      | left =>
        let (items, after) := readItems fuel left
        (.arr items, after)
    | '\x7b' :: rest =>
      match skipGap rest with
      | '\x7d' :: left => (.obj [], some left)
      | left =>
        let (members, after) := readMembers fuel left
        (.obj members, after)
    | c :: rest =>
      if c = 'n' then readWord ['n', 'u', 'l', 'l'] .null (c :: rest)
      else if c = 't' then readWord ['t', 'r', 'u', 'e'] (.bool true) (c :: rest)
      else if c = 'f' then readWord ['f', 'a', 'l', 's', 'e'] (.bool false) (c :: rest)
      else if c.isDigit then readNumber false (c :: rest)
      else (.cut, none)

/-- The items of an array up to its closing bracket. -/
def readItems : Nat → List Char → Reading (List Json)
  | 0, _ => ([.cut], none)
  | fuel + 1, cs =>
    match readValue fuel cs with
    | (v, none) => ([v], none)
    | (v, some rest) =>
      match skipGap rest with
      | ']' :: left => ([v], some left)
      | ',' :: left =>
        let (items, after) := readItems fuel left
        (v :: items, after)
      | _ => ([v, .cut], none)

/-- The members of an object up to its closing brace. -/
def readMembers : Nat → List Char → Reading (List (String × Json))
  | 0, _ => ([("", .cut)], none)
  | fuel + 1, cs =>
    match readName cs with
    | (name, none) => ([member name .cut], none)
    | (name, some left) =>
      match readValue fuel left with
      | (v, none) => ([member name v], none)
      | (v, some after) =>
        match skipGap after with
        | '\x7d' :: rest => ([member name v], some rest)
        | ',' :: more =>
          let (members, rest) := readMembers fuel more
          (member name v :: members, rest)
        | _ => ([member name v, ("", .cut)], none)

end

/-- A text read as one value, and whether nothing but white space follows it. -/
def ofText (s : String) : Json × Bool :=
  let cs := s.toList
  match readValue (2 * cs.length + 2) cs with
  | (v, none) => (v, false)
  | (v, some rest) => (v, skipGap rest = [])

end DoubleEntry.Json
