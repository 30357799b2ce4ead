/-!
# Purposes

Every line of a transaction says why the money moves. Six purposes exist; two of them may also be
written short. Spelling is exact, and whatever is kept or sent carries the canonical form.
-/

namespace DoubleEntry

inductive Purpose where
  | achCredit
  | achDebit
  | fee
  | interest
  | transfer
  | wire
  deriving DecidableEq, Repr

namespace Purpose

def all : List Purpose := [achCredit, achDebit, fee, interest, transfer, wire]

def canonical : Purpose → String
  | achCredit => "achcredit"
  | achDebit => "achdebit"
  | fee => "fee"
  | interest => "interest"
  | transfer => "transfer"
  | wire => "wire"

/-- The purpose that a text names, in its canonical or its short form. -/
def ofText? (s : String) : Option Purpose :=
  if s = "achcredit" ∨ s = "credit" then some achCredit
  else if s = "achdebit" ∨ s = "debit" then some achDebit
  else if s = "fee" then some fee
  else if s = "interest" then some interest
  else if s = "transfer" then some transfer
  else if s = "wire" then some wire
  else none

@[simp] theorem ofText?_canonical (p : Purpose) : ofText? p.canonical = some p := by
  cases p <;> decide

end Purpose

end DoubleEntry
