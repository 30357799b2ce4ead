/-!
# Cutting texts

Texts are cut at a separator, which is in none of the pieces, and white space is cut off at either end.
White space is a property of characters, not of bytes: no-break and ideographic spaces count, zero-width
ones do not. A reference or a name is blank when nothing else is in it.
-/

namespace DoubleEntry.Text

/-! ## White space -/

/-- A white-space character, by the Unicode property of that name. -/
def isSpace (c : Char) : Bool :=
  let n := c.toNat
  (0x09 ≤ n && n ≤ 0x0D) || n == 0x20 || n == 0x85 || n == 0xA0 || n == 0x1680 ||
    (0x2000 ≤ n && n ≤ 0x200A) || n == 0x2028 || n == 0x2029 || n == 0x202F || n == 0x205F ||
    n == 0x3000

/-- A text of white space only; the empty text is one. -/
def isBlank (s : String) : Bool := s.toList.all isSpace

/-- A text without the white space it starts with. -/
def trimLeft (cs : List Char) : List Char := cs.dropWhile isSpace

/-- A text without the white space at either end. -/
def trim (s : String) : String :=
  String.ofList (trimLeft (trimLeft s.toList).reverse).reverse

/-! ## Separators -/

/-- A text cut at every occurrence of a separator; there is always at least one piece. -/
def splitAll (separator : Char) : List Char → List (List Char)
  | [] => [[]]
  | c :: rest =>
    if c = separator then [] :: splitAll separator rest
    else
      match splitAll separator rest with
      | piece :: more => (c :: piece) :: more
      | [] => [[c]]

/-- A text cut at the first occurrence of a separator; the second part is empty if there is none. -/
def splitFirst (separator : Char) (cs : List Char) : List Char × List Char :=
  (cs.takeWhile (· != separator), (cs.dropWhile (· != separator)).drop 1)

end DoubleEntry.Text
