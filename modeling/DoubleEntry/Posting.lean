import DoubleEntry.Ledger.Funds
import DoubleEntry.Ledger.Proposal
import DoubleEntry.Store.Settlement

/-!
# Posting

A proposal that passes its checks is written in one transaction of the store: the accounts involved are
locked in ascending order, their balances read and the funds checked, then the header and every line are
written. An account that is missing or deleted ends the work; of several the least is named. A caller who
sets a deadline gets an answer by then, and nothing is kept of a posting that is late.
-/

namespace DoubleEntry

open Time

/-- What the world outside supplies to one operation. -/
structure Moment where
  /-- The time by the clock. -/
  now : Timestamp
  /-- A generated identifier that is new. -/
  fresh : String
  /-- The account numbers drawn, in order. -/
  draw : Nat → Nat

namespace Desk

/-- Locks the accounts of a transaction and reads their balances. -/
def lockBalances (scope : Scope) (t : Transaction) : Work Stop (List AccountBalance) := do
  let locked ← scope.guarded .lockAccounts none (lockAccounts t.accounts)
  -- both lists ascend, so the first that is missing is the least
  match t.accounts.find? fun a => !locked.contains a with
  | some missing => Work.fail (.error (.accountNotFound missing))
  | none => scope.guarded .readBalance none (readBalances locked)

/-- The rule that an inserted row comes back. -/
def inserted (w : Work StoreError Bool) : Work StoreError Unit := do
  if ← w then pure () else Work.fail .notInserted

/-- The error for a header that could not be written. -/
def headerStop (scope : Scope) (e : StoreError) : Stop :=
  -- the only key of a header is its identifier
  if e.state? = some Refusal.uniqueViolation then .error (.duplicateTransaction scope.transaction)
  else scope.stop .insertHeader none e

def insertLines (scope : Scope) (createdAt : Timestamp) : Nat → List Line → Work Stop Unit
  | _, [] => pure ()
  | number, l :: rest =>
    -- the number of a line has 32 bits in the table
    if number < 2147483648 then do
      scope.guarded .insertLine (some l.account)
        (inserted (insertLine
          ⟨scope.transaction, number, l.account, l.purpose.canonical, l.amount, createdAt.asKept, none⟩))
      insertLines scope createdAt (number + 1) rest
    else
      Work.fail (.error (.persistence .insertLine (some scope.transaction) (some l.account)
        "out of range integral type conversion attempted" .notAttempted))

/-- The limit on statements, if the caller set a deadline. -/
def configure (scope : Scope) : Work Stop Unit :=
  match scope.deadline with
  | some deadline => scope.guarded .configure none (limitStatements deadline.statementLimit)
  | none => pure ()

/-- What a posting or a reversal does before it writes. -/
def clear (policy : FundsPolicy) (scope : Scope) (t : Transaction) : Work Stop Unit := do
  let balances ← lockBalances scope t
  (Work.ofExcept (checkFunds policy balances t)).mapError Stop.error

/-- The rows of a transaction, written one after the other. -/
def enterRows (scope : Scope) (t : Transaction) (createdAt : Timestamp) : Work Stop Unit := do
  (inserted (insertHeader ⟨t.id, t.timestamp.asKept, createdAt.asKept, none⟩)).mapError
    (headerStop scope)
  insertLines scope createdAt 0 t.lines

/-- Everything between opening the transaction of the store and closing it. -/
def writePosting (policy : FundsPolicy) (scope : Scope) (t : Transaction) (createdAt : Timestamp) :
    Work Stop Unit := do
  configure scope
  clear policy scope t
  enterRows scope t createdAt

def persist (policy : FundsPolicy) (deadline : Option Deadline) (now : Timestamp) (t : Transaction) :
    Work LedgerError Posted := do
  let kept : Transaction := { t with timestamp := t.timestamp.wholeMicros }
  let createdAt := now.wholeMicros
  settle ⟨t.id, deadline⟩ (writePosting policy ⟨t.id, deadline⟩ kept createdAt)
  pure ⟨kept, createdAt⟩

/--
Posts a proposal. A deadline of no time at all has passed before the store can answer.
-/
def post (policy : FundsPolicy) (deadline : Option Deadline) (m : Moment) (p : Proposal) :
    Work LedgerError Posted := fun d =>
  match p.check m.now ⟨m.fresh⟩ with
  | .error e => (.error e, d)
  | .ok t =>
    -- without a store the first statement fails before the deadline is looked at
    if deadline = some ⟨0⟩ ∧ d.online then (.error (Scope.late ⟨t.id, deadline⟩), d)
    else persist policy deadline m.now t d

end Desk

end DoubleEntry
