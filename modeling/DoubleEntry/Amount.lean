/-!
# Amounts

Money is counted in minor units by signed 64-bit whole numbers. A single amount, and a balance that
the store hands out, always fits; sums over several lines are taken in the integers and are exact.
-/

namespace DoubleEntry

/-- A signed number of minor units that fits in 64 bits. -/
structure Amount where
  /-- The number of minor units. -/
  value : Int
  lower : -9223372036854775808 ≤ value
  upper : value ≤ 9223372036854775807
  deriving DecidableEq, Repr

namespace Amount

/-- The amount of this value, if it fits. -/
def ofInt? (n : Int) : Option Amount :=
  if h : -9223372036854775808 ≤ n ∧ n ≤ 9223372036854775807 then some ⟨n, h.1, h.2⟩ else none

def zero : Amount := ⟨0, by decide, by decide⟩

/-- The amount taken back. The least amount has none: its opposite does not fit. -/
def neg? (a : Amount) : Option Amount := ofInt? (-a.value)

theorem ext_value {a b : Amount} (h : a.value = b.value) : a = b := by
  cases a; cases b; cases h; rfl

@[simp] theorem ofInt?_value (a : Amount) : ofInt? a.value = some a := by
  simp [ofInt?, a.lower, a.upper]

theorem ofInt?_eq_some {n : Int} {a : Amount} : ofInt? n = some a ↔ a.value = n := by
  constructor
  · intro h
    unfold ofInt? at h
    split at h
    · cases h; rfl
    · cases h
  · rintro rfl
    exact ofInt?_value a

end Amount

/-- The exact sum of amounts, however many there are. -/
def total : List Amount → Int
  | [] => 0
  | a :: rest => a.value + total rest

@[simp] theorem total_cons (a : Amount) (rest : List Amount) :
    total (a :: rest) = a.value + total rest := rfl

end DoubleEntry
