import DoubleEntry.Ledger.Funds
import DoubleEntry.Store.Settlement

/-!
# Reading transactions back

A transaction is read as its header and its lines, neither deleted. The text of each line's purpose is
read again, and one that names no purpose makes the reading fail. Header and lines come from one
snapshot of the store.
-/

namespace DoubleEntry

open Time

/-- A row as a line of its transaction; fails on a text that names no purpose. -/
def LineRow.line (r : LineRow) : Except LedgerError Line :=
  match Purpose.ofText? r.purpose with
  | some purpose => .ok ⟨r.account, purpose, r.amount⟩
  | none =>
    .error (.persistence .read (some r.transaction) (some r.account)
      (LineError.invalidPurpose r.purpose).message .notAttempted)

/-- Rows as lines, each with its transaction; the first that cannot be read decides. -/
def LineRow.linesOf : List LineRow → Except LedgerError (List (TransactionId × Line))
  | [] => .ok []
  | r :: rest =>
    match r.line with
    | .error e => .error e
    | .ok line => (linesOf rest).map ((r.transaction, line) :: ·)

/-- The header of a transaction; of several the last counts. -/
def headerOf? (headers : List HeaderRow) (id : TransactionId) : Option HeaderRow :=
  headers.reverse.find? fun h => h.id = id

/--
The transactions of the identifiers in order, as far as they have a header. The lines of a transaction are
taken along where it stands first, so they would be missing where it stood again.
-/
def assemble (headers : List HeaderRow) (lines : List (TransactionId × Line)) :
    List TransactionId → List Posted
  | [] => []
  | id :: rest =>
    match headerOf? headers id with
    | none => assemble headers lines rest
    | some h =>
      ⟨⟨h.id, h.timestamp, (lines.filter fun l => l.1 = id).map Prod.snd⟩, h.createdAt⟩ ::
        assemble headers (lines.filter fun l => l.1 ≠ id) rest

namespace Desk

/-- The wording of a failed read. -/
def readError (transaction : Option TransactionId) (account : Option AccountId) (e : StoreError) :
    LedgerError :=
  .persistence .read transaction account e.text .notAttempted

/-- The transactions of these identifiers that are not deleted, in the order of the identifiers. -/
def load (ids : List TransactionId) : Work LedgerError (List Posted) :=
  if ids = [] then pure []
  else do
    let headers ← (readHeaders ids).mapError (readError none none)
    let rows ← (readLines ids).mapError (readError none none)
    let lines ← Work.ofExcept (LineRow.linesOf rows)
    pure (assemble headers lines ids)

/--
The answer of a reading inside a snapshot. The snapshot is closed whether or not the reading
succeeded, and a failure to close it is what is reported.
-/
def closing {α : Type} (wording : StoreError → LedgerError) (reading : Work LedgerError α) :
    Work LedgerError α := do
  let answer ← reading.attempt
  -- the reading is over either way, and the snapshot has to be closed
  (orGiveUp (control .commit)).mapError wording
  Work.ofExcept answer

def get (id : TransactionId) : Work LedgerError Posted := do
  openSnapshot.mapError (readError (some id) none)
  let found ← closing (readError (some id) none) (load [id])
  match found with
  | posted :: _ => pure posted
  | [] => Work.fail (.transactionNotFound id)

/-- The transactions with a line on an account, newest first. -/
def history (account : AccountId) : Work LedgerError (List Posted) := do
  openSnapshot.mapError (readError none (some account))
  let ids ← (orGiveUp (accountHistory account)).mapError (readError none (some account))
  closing (readError none (some account)) (load ids)

/-- The balance of an account; an account that is not there has none of its own and counts as zero. -/
def balance (account : AccountId) : Work LedgerError Amount :=
  (readBalance account).mapError fun e =>
    .persistence .readBalance none (some account) e.text .notAttempted

end Desk

end DoubleEntry
