/-!
# Whole numbers in text

Reading is strict: ASCII digits, at least one, with at most one sign in front. Writing is the plain
decimal form.
-/

namespace DoubleEntry.Text

def digit? (c : Char) : Option Nat :=
  if '0' ≤ c ∧ c ≤ '9' then some (c.toNat - '0'.toNat) else none

/-- The value of one hexadecimal digit, in either case. -/
def hexDigit? (c : Char) : Option Nat :=
  if '0' ≤ c ∧ c ≤ '9' then some (c.toNat - '0'.toNat)
  else if 'a' ≤ c ∧ c ≤ 'f' then some (c.toNat - 'a'.toNat + 10)
  else if 'A' ≤ c ∧ c ≤ 'F' then some (c.toNat - 'A'.toNat + 10)
  else none

/-- The value of a run of digits read after `acc`; `none` at the first character that is no digit. -/
def digitsFrom? (acc : Nat) : List Char → Option Nat
  | [] => some acc
  | c :: rest => (digit? c).bind fun d => digitsFrom? (acc * 10 + d) rest

/-- The greatest number of 64 bits. -/
def greatestWord : Nat := 18446744073709551615

/-- The number of digits read after `acc`, as far as 64 bits hold it, and how many digits are left. -/
def leading (acc : Nat) : List Char → Nat × Nat
  | [] => (acc, 0)
  | c :: rest =>
    let next := acc * 10 + (c.toNat - '0'.toNat)
    if next ≤ greatestWord then leading next rest else (acc, rest.length + 1)

/-- A text that holds digits only, and at least one. -/
def natural? : List Char → Option Nat
  | [] => none
  | c :: rest => digitsFrom? 0 (c :: rest)

/-- A run of digits with an optional sign. -/
def integer? : List Char → Option Int
  | '+' :: rest => (natural? rest).map Int.ofNat
  | '-' :: rest => (natural? rest).map fun n => -(n : Int)
  | cs => (natural? cs).map Int.ofNat

/-- A number from 0 up to `top`, with an optional plus sign. -/
def unsigned? (top : Nat) (s : String) : Option Nat :=
  let digits := match s.toList with
    | '+' :: rest => rest
    | cs => cs
  (natural? digits).filter (· ≤ top)

/-- A number between `low` and `high`, with an optional sign. -/
def bounded? (low high : Int) (s : String) : Option Int :=
  (integer? s.toList).filter fun n => low ≤ n ∧ n ≤ high

def decimal (n : Int) : String :=
  match n with
  | .ofNat m => String.ofList (Nat.toDigits 10 m)
  | .negSucc m => String.ofList ('-' :: Nat.toDigits 10 (m + 1))

end DoubleEntry.Text
