import DoubleEntry.Amount
import DoubleEntry.Identifier
import DoubleEntry.Time.Timestamp

/-!
# Balances

A balance is never kept: it is the exact sum of the entries on an account that are not deleted.
-/

namespace DoubleEntry

open Time

/-- What a balance needs to know of a line in the books. -/
structure Entry where
  account : AccountId
  amount : Amount
  deletedAt : Option Timestamp
  deriving DecidableEq, Repr

/-- The exact sum of an account's entries that are not deleted. -/
def balanceOf (account : AccountId) (entries : List Entry) : Int :=
  total ((entries.filter fun e => e.account = account ∧ e.deletedAt = none).map Entry.amount)

/-- The balance of an account as it is before a transaction. -/
structure AccountBalance where
  account : AccountId
  balance : Amount
  deriving DecidableEq, Repr

/-- The balance once a net change is made. -/
def AccountBalance.after (b : AccountBalance) (net : Int) : Int := b.balance.value + net

end DoubleEntry
