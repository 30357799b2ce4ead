import DoubleEntry.Text.Numeral
import DoubleEntry.Text.Cut
import DoubleEntry.Text.Utf8

/-!
# Percent-encoded text

Paths and query strings carry bytes as a percent sign and two hexadecimal digits. A percent sign without
them stands for itself. In a query a plus sign is a space, in a path it is not.
-/

namespace DoubleEntry.Text

/-- The bytes that percent-encoded text stands for. -/
def percentBytes : List Char → List Nat
  | '%' :: h :: l :: rest =>
    match hexDigit? h, hexDigit? l with
    | some high, some low => (high * 16 + low) :: percentBytes rest
    | _, _ => utf8Bytes '%' ++ percentBytes (h :: l :: rest)
  | c :: rest => utf8Bytes c ++ percentBytes rest
  | [] => []

/-- The text of a path segment; none if its bytes are not well-formed. -/
def pathText? (segment : List Char) : Option String := utf8Strict? (percentBytes segment)

/-- The text of a name or value in a query. -/
def queryText (cs : List Char) : String :=
  utf8Lossy (percentBytes (cs.map fun c => if c = '+' then ' ' else c))

/-- The names and values of a query, in order. -/
def queryPairs (query : List Char) : List (String × String) :=
  ((splitAll '&' query).filter (· != [])).map fun piece =>
    let parts := splitFirst '=' piece
    (queryText parts.1, queryText parts.2)

end DoubleEntry.Text
