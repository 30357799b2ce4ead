import DoubleEntry.Text.Case

/-!
# Media types

A request body is read as JSON only if its media type says so: `application/json`, or any application
type with the suffix `+json`. Case does not count and parameters may follow, but the whole text must be
well-formed.
-/

namespace DoubleEntry.Http

/-- A media type without its parameters, in lower case. -/
structure MediaType where
  kind : List Char
  /-- What stands before the last plus sign, or everything if there is none. -/
  subtype : List Char
  /-- What stands after the last plus sign. -/
  suffix : Option (List Char)
  deriving DecidableEq, Repr

namespace MediaType

/-- A character of a type, a subtype, a parameter's name or its bare value. -/
def isTokenChar (c : Char) : Bool :=
  c.isAlphanum || "!#$%&'*+-.^_".toList.contains c || c.toNat == 0x60 || c = '|' || c = '~'

/-- A character that may stand in a quoted parameter value. -/
def isQuotable (c : Char) : Bool := 0x20 ≤ c.toNat && c.toNat < 0x7F

/-- Splits a text after its longest part of token characters. -/
def splitToken (cs : List Char) : List Char × List Char :=
  (cs.takeWhile isTokenChar, cs.dropWhile isTokenChar)

/-- What follows a quoted value after its opening quote; a value has at least one character. -/
def afterQuoted : List Char → Option (List Char)
  | c :: rest =>
    if isQuotable c then
      match rest.dropWhile fun x => isQuotable x && x != '"' with
      | '"' :: after => some after
      | _ => none
    else none
  | [] => none

/--
The parameters after a semicolon are well-formed: each has a name and a value, with semicolons between
them and spaces allowed in front of a name and after a quoted value. There may be none, and the last may
end in a semicolon. Each takes a character at least, so the length bounds them.
-/
def parametersFit : Nat → List Char → Bool
  | 0, _ => false
  | fuel + 1, cs =>
    match cs.dropWhile (· = ' ') with
    | [] => true
    | parameter =>
      match splitToken parameter with
      | (_ :: _, '=' :: '"' :: value) =>
        match (afterQuoted value).map fun after => after.dropWhile (· = ' ') with
        | some [] => true
        | some (';' :: rest) => parametersFit fuel rest
        | _ => false
      | (_ :: _, '=' :: value) =>
        match splitToken value with
        | (_, []) => true
        | (_ :: _, ';' :: rest) => parametersFit fuel rest
        | _ => false
      | _ => false

/-- Splits a subtype at its last plus sign; one that starts it does not count. -/
def splitSuffix (subtype : List Char) : List Char × Option (List Char) :=
  let suffix := (subtype.reverse.takeWhile (· != '+')).reverse
  if suffix.length + 1 < subtype.length then
    (subtype.take (subtype.length - suffix.length - 1), some suffix)
  else (subtype, none)

/-- The media type that a text spells, if all of it is well-formed. -/
def ofText? (text : String) : Option MediaType :=
  match splitToken (Text.asciiLower text).toList with
  | (kind, '/' :: rest) =>
    match splitToken rest with
    | (subtype, after) =>
      let fits : Bool := match after with
        | [] => true
        | ';' :: parameters => parametersFit (parameters.length + 1) parameters
        | _ => false
      if kind ≠ [] ∧ (subtype ≠ [] ∨ after = []) ∧ fits then
        some ⟨kind, (splitSuffix subtype).1, (splitSuffix subtype).2⟩
      else none
  | _ => none

def isJson (m : MediaType) : Bool :=
  m.kind == "application".toList && (m.subtype == "json".toList || m.suffix == some "json".toList)

end MediaType

end DoubleEntry.Http
