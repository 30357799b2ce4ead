import DoubleEntry.Text.Cut

/-!
# Identifiers

Accounts, transactions and customers are named by texts that the caller may choose freely. A blank
text names nothing. Where the library has to name something itself it takes the next of an ascending
sequence of 32 lower-case hexadecimal digits.
-/

namespace DoubleEntry

structure AccountId where
  text : String
  deriving DecidableEq, Repr

structure TransactionId where
  text : String
  deriving DecidableEq, Repr

structure CustomerId where
  text : String
  deriving DecidableEq, Repr

def AccountId.isBlank (id : AccountId) : Bool := Text.isBlank id.text

def TransactionId.isBlank (id : TransactionId) : Bool := Text.isBlank id.text

def CustomerId.isBlank (id : CustomerId) : Bool := Text.isBlank id.text

namespace Identifier

/-- The last `width` hexadecimal digits of a number. -/
def hexTail : Nat → Nat → List Char
  | 0, _ => []
  | width + 1, n => hexTail width (n / 16) ++ [Nat.digitChar (n % 16)]

/-- The identifier that is generated as number `n`. -/
def generated (n : Nat) : String :=
  String.ofList ("019ca9b4f4007000".toList ++ '8' :: hexTail 15 n)

/-- A text of 32 lower-case hexadecimal digits. -/
def isGeneratedForm (s : String) : Bool :=
  s.length == 32 && s.toList.all fun c => c.isDigit || ('a' ≤ c && c ≤ 'f')

end Identifier

end DoubleEntry
