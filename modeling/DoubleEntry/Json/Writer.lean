import DoubleEntry.Json.Basic
import DoubleEntry.Text.Numeral

/-!
# Writing JSON

Values are written without white space and in ASCII: every other character is escaped, as a surrogate
pair where it needs two units.
-/

namespace DoubleEntry.Json

open DoubleEntry.Text

def unitEscape (n : Nat) : List Char :=
  '\\' :: 'u' :: [Nat.digitChar (n / 4096 % 16), Nat.digitChar (n / 256 % 16),
    Nat.digitChar (n / 16 % 16), Nat.digitChar (n % 16)]

def charText (c : Char) : List Char :=
  let n := c.toNat
  if c = '"' then ['\\', '"']
  else if c = '\\' then ['\\', '\\']
  else if 0x20 ≤ n ∧ n < 0x7F then [c]
  else if n < 0x10000 then unitEscape n
  else unitEscape (0xD800 + (n - 0x10000) / 0x400) ++ unitEscape (0xDC00 + (n - 0x10000) % 0x400)

def stringText (s : String) : List Char := '"' :: s.toList.flatMap charText ++ ['"']

def numberText : JsonNumber → List Char
  | .whole n => (decimal n).toList
  | .scaled _ _ text => text.toList

mutual

def chars : Json → List Char
  | .null => "null".toList
  | .bool true => "true".toList
  | .bool false => "false".toList
  | .num n => numberText n
  | .str s => stringText s
  | .arr items => '[' :: itemChars items ++ [']']
  | .obj members => '\x7b' :: memberChars members ++ ['\x7d']
  | .halfPair => "null".toList
  | .misnamed v => chars v
  | .cut => "null".toList

/-- The characters of items, with commas between them. -/
def itemChars : List Json → List Char
  | [] => []
  | [v] => chars v
  | v :: w :: rest => chars v ++ ',' :: itemChars (w :: rest)

/-- The characters of members, with commas between them. -/
def memberChars : List (String × Json) → List Char
  | [] => []
  | [(name, v)] => stringText name ++ ':' :: chars v
  | (name, v) :: w :: rest => stringText name ++ ':' :: chars v ++ ',' :: memberChars (w :: rest)

end

def text (v : Json) : String := String.ofList (chars v)

end DoubleEntry.Json
