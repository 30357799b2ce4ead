import DoubleEntry.Error.LedgerError
import DoubleEntry.Ledger.Balance
import DoubleEntry.Ledger.FundsPolicy
import DoubleEntry.Ledger.Transaction

/-!
# The funds check

Before a transaction is written, every protected account among those involved must end at zero or
above, unless the transaction adds to it or leaves it alone. An account is judged on its net over all
its lines.
-/

namespace DoubleEntry

/-- Judges one account. -/
def AccountBalance.check (policy : FundsPolicy) (t : Transaction) (b : AccountBalance) :
    Except LedgerError Unit :=
  if policy.appliesTo b.balance then
    match t.nets.lookup b.account with
    | none => .error (.noMatchingLine b.account)
    | some net =>
      -- money that comes in is welcome, even where it does not suffice
      if net < 0 ∧ b.after net < 0 then
        .error (.insufficientFunds b.account b.balance (-net))
      else .ok ()
  else .ok ()

/-- Judges accounts in order, up to the first that fails. -/
def checkEach (policy : FundsPolicy) (t : Transaction) : List AccountBalance → Except LedgerError Unit
  | [] => .ok ()
  | b :: rest =>
    match b.check policy t with
    | .error e => .error e
    | .ok _ => checkEach policy t rest

/-- Judges a transaction on the balances of the accounts involved, of which there must be two. -/
def checkFunds (policy : FundsPolicy) (balances : List AccountBalance) (t : Transaction) :
    Except LedgerError Unit :=
  if balances.length < 2 ∨ t.lines = [] then
    .error (.invalidCheckInput balances.length t.lines.length)
  else checkEach policy t balances

end DoubleEntry
