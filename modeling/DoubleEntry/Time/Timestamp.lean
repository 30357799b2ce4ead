import DoubleEntry.Time.Date

/-!
# Timestamps

A moment in universal time: a day, a time of day that may be the leap second `:60` of its minute, and
nanoseconds. The books count whole microseconds from the start of the year 2000 and know no leap second.
-/

namespace DoubleEntry.Time

/-- A moment in universal time. -/
structure Timestamp where
  date : Date
  hour : Nat
  minute : Nat
  /-- Seconds of the minute; 60 is a leap second. -/
  second : Nat
  nano : Nat
  hour_lt : hour < 24
  minute_lt : minute < 60
  second_le : second ≤ 60
  nano_lt : nano < 1000000000
  deriving DecidableEq, Repr

namespace Timestamp

/-- The moment with these numbers on a day, if there is one. -/
def of? (date : Date) (hour minute second nano : Nat) : Option Timestamp :=
  if h : hour < 24 ∧ minute < 60 ∧ second ≤ 60 ∧ nano < 1000000000 then
    some ⟨date, hour, minute, second, nano, h.1, h.2.1, h.2.2.1, h.2.2.2⟩
  else none

/-- The moment without what is finer than a microsecond. -/
def wholeMicros (t : Timestamp) : Timestamp :=
  { t with
    nano := t.nano - t.nano % 1000
    nano_lt := Nat.lt_of_le_of_lt (Nat.sub_le _ _) t.nano_lt }

/-- The moment some minutes later, less than a day either way. -/
def addMinutes? (t : Timestamp) (minutes : Int) : Option Timestamp :=
  let sum : Int := t.hour * 60 + t.minute + minutes
  if sum < 0 then
    t.date.previous?.bind fun d => of? d ((sum + 1440) / 60).toNat ((sum + 1440) % 60).toNat t.second t.nano
  else if sum < 1440 then of? t.date (sum / 60).toNat (sum % 60).toNat t.second t.nano
  else t.date.next?.bind fun d => of? d ((sum - 1440) / 60).toNat ((sum - 1440) % 60).toNat t.second t.nano

/-- The moment without a leap second: `:60` is the start of the next minute. -/
def withoutLeap (t : Timestamp) : Timestamp :=
  if t.second = 60 then
    let start : Timestamp := { t with second := 0, second_le := Nat.zero_le _ }
    (start.addMinutes? 1).getD { t with second := 59, second_le := by decide }
  else t

/-- The moment a second later, for one that is not a leap second; the last moment there is stays. -/
def nextSecond (t : Timestamp) : Timestamp :=
  if h : t.second < 59 then { t with second := t.second + 1, second_le := by omega }
  else
    let start : Timestamp := { t with second := 0, second_le := Nat.zero_le _ }
    (start.addMinutes? 1).getD t

/-- The moment of whole microseconds that is not earlier, for one that is not a leap second. -/
def wholeMicrosUp (t : Timestamp) : Timestamp :=
  if t.nano % 1000 = 0 then t
  else if h : t.nano + 1000 - t.nano % 1000 < 1000000000 then
    { t with nano := t.nano + 1000 - t.nano % 1000, nano_lt := h }
  else { t.nextSecond with nano := 0, nano_lt := by decide }

/-- The year from whose start the books count. -/
def countedFrom : Int := 2000

/--
The moment as the books keep it: without leap second, and what is finer than a microsecond cut off from
the time between the moment and the start of the count.
-/
def asKept (t : Timestamp) : Timestamp :=
  let plain := t.withoutLeap
  -- toward the start of the count means up for what lies before it
  if plain.date.year < countedFrom then plain.wholeMicrosUp else plain.wholeMicros

/-- The numbers that decide which of two moments is earlier. -/
def key (t : Timestamp) : List Int :=
  [t.date.year, t.date.month, t.date.day, t.hour, t.minute, t.second, t.nano]

/-- The first moment is earlier than the second. -/
def before (a b : Timestamp) : Bool := decide (a.key < b.key)

def latest (a b : Timestamp) : Timestamp := if a.before b then b else a

end Timestamp

end DoubleEntry.Time
