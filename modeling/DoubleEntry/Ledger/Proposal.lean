import DoubleEntry.Error.LedgerError
import DoubleEntry.Ledger.Transaction
import DoubleEntry.Text.Cut

/-!
# Proposals

What a caller hands in: raw texts and amounts, perhaps without an identifier or a business time.
Checking a proposal either names its first fault or gives the transaction it stands for. The store is
never asked.
-/

namespace DoubleEntry

open Time

/-- A line as handed in. -/
structure ProposedLine where
  account : String
  purpose : String
  amount : Amount
  deriving DecidableEq, Repr

/-- A transaction as handed in. -/
structure Proposal where
  /-- The caller's identifier; a blank one counts as none. -/
  id : Option TransactionId
  /-- Business time; the time of checking if there is none. -/
  timestamp : Option Timestamp
  lines : List ProposedLine
  deriving DecidableEq, Repr

namespace ProposedLine

/-- Checks the account reference, then the purpose, then the amount. -/
def check (l : ProposedLine) : Except LineError Line :=
  if Text.isBlank l.account then .error .missingAccountReference
  else
    match Purpose.ofText? l.purpose with
    | none => .error (.invalidPurpose l.purpose)
    | some purpose =>
      if l.amount.value = 0 then .error .zeroAmount
      else .ok ⟨⟨l.account⟩, purpose, l.amount⟩

/-- Checks lines in order; the first fault comes with its index and the account as written. -/
def checkAll (index : Nat) : List ProposedLine → Except (Nat × String × LineError) (List Line)
  | [] => .ok []
  | l :: rest =>
    match l.check with
    | .error reason => .error (index, l.account, reason)
    | .ok line => (checkAll (index + 1) rest).map (line :: ·)

end ProposedLine

namespace Proposal

def empty : Proposal := ⟨none, none, []⟩

/-- A proposal of these lines, without identifier and business time. -/
def ofLines (lines : List ProposedLine) : Proposal := ⟨none, none, lines⟩

def withId (p : Proposal) (id : TransactionId) : Proposal := { p with id := some id }

/-- The identifier the transaction goes by: the caller's, unless it is missing or blank. -/
def identity (p : Proposal) (fresh : TransactionId) : TransactionId :=
  match p.id with
  | some id => if id.isBlank then fresh else id
  | none => fresh

/--
The transaction that a proposal stands for, or its first fault: no lines at all, then the first line
that is wrong, then a sum other than zero.
-/
def check (p : Proposal) (now : Timestamp) (fresh : TransactionId) :
    Except LedgerError Transaction :=
  -- every fault names the transaction, so its identifier is settled first
  let id := p.identity fresh
  if p.lines = [] then .error (.emptyTransaction id)
  else
    match ProposedLine.checkAll 0 p.lines with
    | .error (index, account, reason) => .error (.invalidLine id index account reason)
    | .ok lines =>
      let t : Transaction := ⟨id, p.timestamp.getD now, lines⟩
      if t.total = 0 then .ok t else .error (.unbalancedTransaction id lines.length t.total)

end Proposal

end DoubleEntry
