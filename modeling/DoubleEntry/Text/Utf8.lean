/-!
# UTF-8

Bytes are read piece by piece: a well-formed sequence gives its character, and as many bytes as could
still have become one, but did not, give one ill-formed piece.
-/

namespace DoubleEntry.Text

/-- Where a reader of bytes stands. -/
inductive Utf8State where
  /-- Between characters. -/
  | start
  /-- `need` bytes are missing; the next lies between `low` and `high`; `value` has been read. -/
  | inside (need low high value : Nat)
  deriving DecidableEq, Repr

/-- What the first byte of a piece gives, and where the reader stands after it. -/
def Utf8State.lead (b : Nat) : List (Option Char) × Utf8State :=
  if b ≤ 0x7F then ([some (Char.ofNat b)], .start)
  else if 0xC2 ≤ b ∧ b ≤ 0xDF then ([], .inside 1 0x80 0xBF (b - 0xC0))
  else if b = 0xE0 then ([], .inside 2 0xA0 0xBF 0)
  else if b = 0xED then ([], .inside 2 0x80 0x9F 0xD)
  else if 0xE1 ≤ b ∧ b ≤ 0xEF then ([], .inside 2 0x80 0xBF (b - 0xE0))
  else if b = 0xF0 then ([], .inside 3 0x90 0xBF 0)
  else if 0xF1 ≤ b ∧ b ≤ 0xF3 then ([], .inside 3 0x80 0xBF (b - 0xF0))
  else if b = 0xF4 then ([], .inside 3 0x80 0x8F 4)
  else ([none], .start)

/-- The pieces of a byte sequence: characters, and `none` for each ill-formed piece. -/
def utf8Pieces : Utf8State → List Nat → List (Option Char)
  | .start, [] => []
  | .inside .., [] => [none]
  | .start, b :: rest => (Utf8State.lead b).1 ++ utf8Pieces (Utf8State.lead b).2 rest
  | .inside need low high value, b :: rest =>
    if low ≤ b ∧ b ≤ high then
      if need ≤ 1 then some (Char.ofNat (value * 64 + (b - 0x80))) :: utf8Pieces .start rest
      else utf8Pieces (.inside (need - 1) 0x80 0xBF (value * 64 + (b - 0x80))) rest
    else none :: (Utf8State.lead b).1 ++ utf8Pieces (Utf8State.lead b).2 rest

def utf8Bytes (c : Char) : List Nat := (String.utf8EncodeChar c).map UInt8.toNat

def utf8Strict? (bytes : List Nat) : Option String :=
  ((utf8Pieces .start bytes).mapM id).map String.ofList

/-- The text of bytes, with a replacement character for each ill-formed piece. -/
def utf8Lossy (bytes : List Nat) : String :=
  String.ofList ((utf8Pieces .start bytes).map fun c => c.getD '\uFFFD')

end DoubleEntry.Text
