import DoubleEntry.Amount
import DoubleEntry.Identifier
import DoubleEntry.Text.Case
import DoubleEntry.Text.Quoted
import DoubleEntry.Time.Timestamp

/-!
# Accounts

An account belongs to a customer and is found by its number under a routing number. Its balance is
read together with it and never kept.
-/

namespace DoubleEntry

open Time

/-- Where an account is in its life. -/
inductive AccountStatus where
  | opened
  | closed
  deriving DecidableEq, Repr

namespace AccountStatus

def standard : AccountStatus := opened

/-- The form that is kept and sent. -/
def canonical : AccountStatus → String
  | opened => "open"
  | closed => "closed"

/-- The status that a text names, whatever the case of its letters. -/
def ofText? (s : String) : Option AccountStatus :=
  if Text.asciiLower s = "open" then some opened
  else if Text.asciiLower s = "closed" then some closed
  else none

/-- The message for a text that names no status. -/
def unknownMessage (s : String) : String := "unknown account status " ++ Text.quoted (Text.asciiLower s)

@[simp] theorem ofText?_canonical (s : AccountStatus) : ofText? s.canonical = some s := by
  cases s <;> decide

end AccountStatus

structure Account where
  id : AccountId
  customer : CustomerId
  name : String
  number : String
  routing : String
  status : AccountStatus
  kind : String
  balance : Amount
  createdAt : Timestamp
  closedAt : Option Timestamp
  lastModified : Timestamp
  deriving DecidableEq, Repr

end DoubleEntry
