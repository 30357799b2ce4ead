import DoubleEntry.Amount

/-!
# Funds policies

A policy says which balances a posting must not take below zero. By default only a balance above zero
is protected, so an account that is already overdrawn may go further down; the strict policy protects
every account.
-/

namespace DoubleEntry

/-- Which accounts must stay funded. -/
inductive FundsPolicy where
  | positiveBalancesOnly
  | nonNegative
  deriving DecidableEq, Repr

namespace FundsPolicy

/-- The policy in force where none is chosen. -/
def standard : FundsPolicy := positiveBalancesOnly

/-- An account with this balance is protected. -/
def appliesTo : FundsPolicy → Amount → Bool
  | positiveBalancesOnly, balance => 0 < balance.value
  | nonNegative, _ => true

/-- The name of a policy in settings and messages. -/
def name : FundsPolicy → String
  | positiveBalancesOnly => "positive_balances_only"
  | nonNegative => "non_negative"

def ofName? (s : String) : Option FundsPolicy :=
  if s = "positive_balances_only" then some positiveBalancesOnly
  else if s = "non_negative" then some nonNegative
  else none

end FundsPolicy

end DoubleEntry
