import DoubleEntry.Error.LedgerError
import DoubleEntry.Store.Query

/-!
# All or nothing

Posting and taking back change several rows, and either all of the changes are kept or none. The work
runs inside a transaction of the store: on success it is committed, on failure rolled back, and when
the deadline passes without an answer it is abandoned. In every case but success the store is the one
from before, and the error says what became of the transaction. A transaction that could not be
configured, committed or rolled back, or that was abandoned, is given up: it is ended with a rollback of
which nobody hears, when the store is next used.
-/

namespace DoubleEntry

structure Deadline where
  nanoseconds : Nat
  deriving DecidableEq, Repr

namespace Deadline

def ofMillis (millis : Nat) : Deadline := ⟨millis * 1000000⟩

def millis (d : Deadline) : Nat := d.nanoseconds / 1000000

/-- The limit that the store is given for each statement, in milliseconds. -/
def statementLimit (d : Deadline) : Nat := d.millis

end Deadline

/-- What an operation on one transaction needs to word its failures. -/
structure Scope where
  transaction : TransactionId
  deadline : Option Deadline
  deriving DecidableEq, Repr

namespace Scope

/-- The error of a posting that did not finish in time. -/
def late (scope : Scope) : LedgerError :=
  .deadlineExceeded scope.transaction ((scope.deadline.map Deadline.millis).getD 0)

/-- The error for a failure of the store in a step. -/
def failure (scope : Scope) (step : Step) (account : Option AccountId) (e : StoreError) :
    LedgerError :=
  if e.state? = some Refusal.serializationFailure ∨ e.state? = some Refusal.deadlockDetected then
    .concurrentModification scope.transaction
  else if e.state? = some Refusal.queryCanceled then scope.late
  else .persistence step (some scope.transaction) account e.text .notAttempted

end Scope

/-- Why work inside a transaction stopped. -/
inductive Stop where
  /-- With an error; the transaction is still to be rolled back. -/
  | error (e : LedgerError)
  /-- The store did not answer before the deadline. -/
  | unanswered
  deriving DecidableEq, Repr

namespace Scope

/-- The stop that a failure of the store in a step leads to. -/
def stop (scope : Scope) (step : Step) (account : Option AccountId) (e : StoreError) : Stop :=
  if e = .unanswered then .unanswered else .error (scope.failure step account e)

def guarded {α : Type} (scope : Scope) (step : Step) (account : Option AccountId)
    (w : Work StoreError α) : Work Stop α :=
  w.mapError (scope.stop step account)

end Scope

namespace Desk

variable {α : Type}

/-- Opens a transaction of the store. -/
def openTransaction : Work StoreError Unit := do
  control .begin
  orGiveUp (control .setTransaction)

/-- Limits how long each statement of the transaction may take, if the store takes the number. -/
def limitStatements (millis : Nat) : Work StoreError Unit := fun d =>
  send .setTimeout
    (fun store => if d.plan.takes .setTimeout millis then .ok ((), store) else .error (.invalidLimit millis))
    (fun _ => none) d

/-- Opens a read-only transaction of the store. -/
def openSnapshot : Work StoreError Unit := do
  control .begin
  orGiveUp do
    control .setTransaction
    control .setTransaction

/-- The error of a commit that failed: the store has undone the transaction. -/
def commitError (scope : Scope) (e : StoreError) : LedgerError :=
  if e = .unanswered then scope.late else (scope.failure .commit none e).withRollback .aborted

/-- The error after a rollback, which says how the rollback went. -/
def rolledBack (scope : Scope) (e : LedgerError) : Except StoreError Unit → LedgerError
  | .ok _ => e.withRollback .rolledBack
  | .error r => if r = .unanswered then scope.late else e.withRollback (.failed r.text)

/-- Does work wholly or not at all. -/
def settle (scope : Scope) (work : Work Stop α) : Work LedgerError α := fun d =>
  match openTransaction d with
  | (.error e, d') =>
    -- nothing was opened, so there is nothing to roll back
    (.error (if e = .unanswered then scope.late else scope.failure .begin none e),
      d'.restore d.store)
  | (.ok _, opened) =>
    match work opened with
    | (.ok a, done) =>
      match orGiveUp (control .commit) done with
      | (.ok _, kept) => (.ok a, kept)
      -- a commit that failed has undone the work
      | (.error e, d') => (.error (commitError scope e), d'.restore d.store)
    -- the deadline has passed, and with it the time for a rollback
    | (.error .unanswered, d') => (.error scope.late, (d'.restore d.store).giveUp)
    | (.error (.error e), stopped) =>
      match orGiveUp (control .rollback) stopped with
      | (r, d') => (.error (rolledBack scope e r), d'.restore d.store)

end Desk

end DoubleEntry
