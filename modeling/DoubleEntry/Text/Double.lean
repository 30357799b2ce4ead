/-!
# Double-precision numbers

A double-precision number is a significand of 53 bits and a power of two. Every operation takes the
nearest such number to the exact result, and exact results are fractions of natural numbers. Signs are
kept elsewhere.

A decimal number is read in two steps that each round: its digits become a number, and that number is
multiplied or divided by a power of ten, itself rounded. So the outcome can be a neighbour of the
nearest number.
-/

namespace DoubleEntry.Text

/-- A fraction of natural numbers. -/
structure Fraction where
  num : Nat
  den : Nat
  deriving DecidableEq, Repr

namespace Fraction

/-- The value `digits · base ^ power`. -/
def scale (base digits : Nat) (power : Int) : Fraction :=
  if 0 ≤ power then ⟨digits * Nat.pow base power.toNat, 1⟩
  else ⟨digits, Nat.pow base power.natAbs⟩

def le (a b : Fraction) : Bool := decide (a.num * b.den ≤ b.num * a.den)

def product (a b : Fraction) : Fraction := ⟨a.num * b.num, a.den * b.den⟩

def quotient (a b : Fraction) : Fraction := ⟨a.num * b.den, a.den * b.num⟩

def floor (a : Fraction) : Nat := a.num / a.den

/-- The nearest whole number; of two equally near the even one. -/
def nearest (a : Fraction) : Nat :=
  let rest := a.num % a.den
  if 2 * rest < a.den then a.floor
  else if a.den < 2 * rest then a.floor + 1
  else a.floor + a.floor % 2

/-- The nearest whole number; of two equally near the greater one. -/
def nearestUp (a : Fraction) : Nat := (2 * a.num + a.den) / (2 * a.den)

/-- How many digits stand before the point; for a fraction below a tenth, minus the zeros after it. -/
def magnitude (a : Fraction) : Int :=
  if a.den ≤ a.num then (Nat.toDigits 10 a.floor).length
  else -(zeros 400 (a.num * 10) : Int)
where
  /-- How often a numerator must be multiplied by ten to reach the denominator. -/
  zeros : Nat → Nat → Nat
    | 0, _ => 0
    | fuel + 1, n => if a.den ≤ n then 0 else zeros fuel (n * 10) + 1

end Fraction

/-- A double-precision number without its sign: `significand · 2 ^ exponent`. -/
structure Double where
  significand : Nat
  exponent : Int
  deriving DecidableEq, Repr

namespace Double

/-- The least significand of a number that is not subnormal. -/
def normal : Nat := 4503599627370496

/-- The exponent of the smallest numbers. -/
def leastExponent : Int := -1074

/-- The exponent of the largest numbers. -/
def greatestExponent : Int := 971

/-- The greatest power of ten there is. -/
def greatestTen : Nat := 308

def value (x : Double) : Fraction := .scale 2 x.significand x.exponent

/-- The nearest double-precision number to a fraction, if exponents had no upper end. -/
def ofFraction (a : Fraction) : Double :=
  let guess : Int := (Nat.log2 a.num : Int) - Nat.log2 a.den
  let power := if (Fraction.scale 2 1 guess).le a then guess else guess - 1
  let exponent := max (power - 52) leastExponent
  let m := (a.quotient (.scale 2 1 exponent)).nearest
  if m = 2 * normal then ⟨normal, exponent + 1⟩ else ⟨m, exponent⟩

/-- The number is beyond the largest there is. -/
def isTooLarge (x : Double) : Bool := greatestExponent < x.exponent

/-- The nearest number to a whole one. -/
def ofNat (n : Nat) : Double := ofFraction ⟨n, 1⟩

/-- The nearest number to a power of ten. -/
def tenTo (power : Nat) : Double := ofNat (Nat.pow 10 power)

def times (x y : Double) : Double := ofFraction (x.value.product y.value)

def dividedBy (x y : Double) : Double := ofFraction (x.value.quotient y.value)

/--
A number times a power of ten, unless it is too large. A power below the least there is takes several
divisions; three of them leave nothing of any number of digits that fits in 64 bits.
-/
def shifted? : Nat → Double → Int → Option Double
  | steps, x, power =>
    if x.significand = 0 then some x
    else if greatestTen < power then none
    else if 0 ≤ power then
      let y := x.times (tenTo power.toNat)
      if y.isTooLarge then none else some y
    else if -greatestTen ≤ power then some (x.dividedBy (tenTo power.natAbs))
    else match steps with
      | 0 => some ⟨0, leastExponent⟩
      | steps + 1 => shifted? steps (x.dividedBy (tenTo greatestTen)) (power + greatestTen)

/-- The number that `digits · 10 ^ power` is read as, unless it is too large. -/
def ofDecimal? (digits : Nat) (power : Int) : Option Double := shifted? 3 (ofNat digits) power

end Double

end DoubleEntry.Text
