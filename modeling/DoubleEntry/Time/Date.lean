/-!
# Dates

Days of the Gregorian calendar, extended in both directions, within the years that timestamps cover.
A date is valid by construction; stepping past the first or the last day has no answer.
-/

namespace DoubleEntry.Time

/-- Every fourth year is a leap year, but of the centuries only every fourth. -/
def isLeapYear (year : Int) : Bool := year % 4 == 0 && (year % 100 != 0 || year % 400 == 0)

/-- The number of days of a month; none for a number that names no month. -/
def daysInMonth (year : Int) (month : Nat) : Nat :=
  match month with
  | 1 | 3 | 5 | 7 | 8 | 10 | 12 => 31
  | 4 | 6 | 9 | 11 => 30
  | 2 => if isLeapYear year then 29 else 28
  | _ => 0

structure Date where
  /-- The year; the year before 1 is 0. -/
  year : Int
  /-- The month, from 1. -/
  month : Nat
  /-- The day of the month, from 1. -/
  day : Nat
  /-- The year is one that timestamps cover. -/
  year_range : -262143 ≤ year ∧ year ≤ 262142
  /-- The month exists and has that day. -/
  day_range : 1 ≤ day ∧ day ≤ daysInMonth year month
  deriving DecidableEq, Repr

namespace Date

/-- The day with these numbers, if there is one. -/
def of? (year : Int) (month day : Nat) : Option Date :=
  if h : -262143 ≤ year ∧ year ≤ 262142 then
    if h' : 1 ≤ day ∧ day ≤ daysInMonth year month then some ⟨year, month, day, h, h'⟩ else none
  else none

def next? (d : Date) : Option Date :=
  if d.day < daysInMonth d.year d.month then of? d.year d.month (d.day + 1)
  else if d.month < 12 then of? d.year (d.month + 1) 1
  else of? (d.year + 1) 1 1

def previous? (d : Date) : Option Date :=
  if 1 < d.day then of? d.year d.month (d.day - 1)
  else if 1 < d.month then of? d.year (d.month - 1) (daysInMonth d.year (d.month - 1))
  else of? (d.year - 1) 12 31

@[simp] theorem of?_self (d : Date) : of? d.year d.month d.day = some d := by
  simp only [of?, dif_pos d.year_range, dif_pos d.day_range]

end Date

end DoubleEntry.Time
