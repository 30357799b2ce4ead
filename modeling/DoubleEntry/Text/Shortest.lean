import DoubleEntry.Text.Double

/-!
# The fewest digits of a number

A double-precision number is written with the fewest decimal digits to which it is the nearest one; of
several such texts the nearest is taken. All comparisons are made between exact fractions.
-/

namespace DoubleEntry.Text

namespace Double

/-- This is the nearest number to the fraction. -/
def isNearestTo (x : Double) (a : Fraction) : Bool :=
  let below := if x.significand = normal ∧ leastExponent < x.exponent then 1 else 2
  let low := Fraction.scale 2 (4 * x.significand - below) (x.exponent - 2)
  let high := Fraction.scale 2 (4 * x.significand + 2) (x.exponent - 2)
  if x.significand % 2 = 0 then low.le a && a.le high else !a.le low && !high.le a

/-- The digits and the power of ten, with at least `count` digits, to which this is nearest. -/
def digitsFrom (x : Double) (magnitude : Int) : Nat → Nat → Nat × Int
  | 0, count => ((x.value.quotient (.scale 10 1 (magnitude - count))).nearest, magnitude - count)
  | fuel + 1, count =>
    let power := magnitude - count
    let steps := x.value.quotient (.scale 10 1 power)
    let near := steps.nearest
    let other := if near = steps.floor then near + 1 else steps.floor
    if x.isNearestTo (.scale 10 near power) then (near, power)
    else if x.isNearestTo (.scale 10 other power) then (other, power)
    else digitsFrom x magnitude fuel (count + 1)

/-- The fewest digits to which this is nearest, and the power of ten they are scaled by. -/
def shortest (x : Double) : Nat × Int :=
  if x.significand = 0 then (0, 0) else x.digitsFrom x.value.magnitude 17 1

end Double

/-- A scaled number without exponent and without idle zeros. -/
def positional (digits : Nat) (power : Int) : List Char :=
  if digits = 0 then ['0']
  else if 0 ≤ power then Nat.toDigits 10 digits ++ List.replicate power.toNat '0'
  else
    let ds := Nat.toDigits 10 digits
    let places := power.natAbs
    let padded := List.replicate (places + 1 - ds.length) '0' ++ ds
    let whole := padded.take (padded.length - places)
    let fraction := ((padded.drop (padded.length - places)).reverse.dropWhile (· = '0')).reverse
    whole ++ if fraction = [] then [] else '.' :: fraction

/-- A number in the fewest digits, without exponent. -/
def Double.text (x : Double) (isNegative : Bool) : String :=
  let sign := if isNegative then ['-'] else []
  String.ofList (sign ++ positional x.shortest.1 x.shortest.2)

end DoubleEntry.Text
