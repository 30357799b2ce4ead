import DoubleEntry.Posting
import DoubleEntry.Reading

/-!
# Taking a transaction back

A transaction is taken back by marking it and all its lines deleted, so its effect on every balance is
undone. That is a movement of money like any other: the accounts involved are locked and the funds
check is made on the reversed transaction before anything is marked.
-/

namespace DoubleEntry.Desk

open Time

/-- The reversed transaction, or the error that names the line whose amount has no opposite. -/
def reversalOf (t : Transaction) : Except LedgerError Transaction :=
  match t.reversed with
  | .ok r => .ok r
  | .error l =>
    .error (.persistence .softDelete (some t.id) (some l.account) "amount cannot be negated"
      .notAttempted)

/-- The loading of the transaction to be taken back, inside the transaction of the store. -/
def loadForReversal (id : TransactionId) : Work Stop Posted := do
  let found ← (load [id]).mapError Stop.error
  match found with
  | posted :: _ => pure posted
  | [] => Work.fail (.error (.transactionNotFound id))

/-- The rows of a transaction, marked one table after the other. -/
def markRows (scope : Scope) (now : Timestamp) : Work Stop Unit := do
  let marked ← scope.guarded .softDelete none (deleteHeader scope.transaction now)
  -- somebody else may have taken it back in the meantime
  if marked = 0 then Work.fail (.error (.transactionNotFound scope.transaction))
  let _ ← scope.guarded .softDelete none (deleteLines scope.transaction now)
  pure ()

/-- Everything between opening the transaction of the store and closing it. -/
def writeReversal (policy : FundsPolicy) (scope : Scope) (now : Timestamp) : Work Stop Unit := do
  let posted ← loadForReversal scope.transaction
  let reversal ← (Work.ofExcept (reversalOf posted.transaction)).mapError Stop.error
  clear policy scope reversal
  markRows scope now

/-- Takes a transaction back. -/
def delete (policy : FundsPolicy) (now : Timestamp) (id : TransactionId) : Work LedgerError Unit :=
  settle ⟨id, none⟩ (writeReversal policy ⟨id, none⟩ now)

end DoubleEntry.Desk
