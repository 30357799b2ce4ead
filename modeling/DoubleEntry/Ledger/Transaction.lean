import DoubleEntry.Amount
import DoubleEntry.Identifier
import DoubleEntry.Order
import DoubleEntry.Ledger.Purpose
import DoubleEntry.Time.Timestamp

/-!
# Transactions

A transaction is a list of signed lines, each on one account. Several lines may be on the same account;
what counts for a balance is their net. The views below (the accounts involved, the net of each, the
total) depend on the lines alone, and on no order of them.
-/

namespace DoubleEntry

open Time

structure Line where
  account : AccountId
  purpose : Purpose
  amount : Amount
  deriving DecidableEq, Repr

/-- A transaction whose lines have been checked one by one. -/
structure Transaction where
  id : TransactionId
  /-- Business time. -/
  timestamp : Timestamp
  lines : List Line
  deriving DecidableEq, Repr

/-- A transaction as the books hold it. -/
structure Posted where
  transaction : Transaction
  createdAt : Timestamp
  deriving DecidableEq, Repr

namespace Line

/-- The exact net of the lines on one account. -/
def net (lines : List Line) (account : AccountId) : Int :=
  total ((lines.filter fun l => l.account = account).map Line.amount)

/--
Adds an amount to the net of an account, in a list by ascending account. An account that has no net yet
gets one at its place.
-/
def addNet (account : AccountId) (amount : Int) : List (AccountId × Int) → List (AccountId × Int)
  | [] => [(account, amount)]
  | (a, net) :: rest =>
    if account = a then (a, net + amount) :: rest
    else if account.text < a.text then (account, amount) :: (a, net) :: rest
    else (a, net) :: addNet account amount rest

/-- The net of every account that has a line, by ascending account. -/
def nets (lines : List Line) : List (AccountId × Int) :=
  lines.foldl (fun nets l => addNet l.account l.amount.value nets) []

/-- The accounts of some lines, ascending and each once. -/
def accounts (lines : List Line) : List AccountId :=
  (Order.distinctTexts (lines.map fun l => l.account.text)).map AccountId.mk

/-- The line with its amount taken back, if that fits. -/
def reversed? (l : Line) : Option Line := l.amount.neg?.map fun a => { l with amount := a }

end Line

namespace Transaction

def total (t : Transaction) : Int := DoubleEntry.total (t.lines.map Line.amount)

/-- The accounts involved, ascending and each once. -/
def accounts (t : Transaction) : List AccountId := Line.accounts t.lines

def net (t : Transaction) (account : AccountId) : Int := Line.net t.lines account

/-- A line of the transaction is on this account. -/
def touches (t : Transaction) (account : AccountId) : Bool :=
  t.lines.any fun l => l.account = account

/-- The net of every account involved, by ascending account. -/
def nets (t : Transaction) : List (AccountId × Int) := Line.nets t.lines

/-- Takes every line back; the first line that cannot be is the answer otherwise. -/
def reversedLines : List Line → Except Line (List Line)
  | [] => .ok []
  | l :: rest =>
    match l.reversed? with
    | none => .error l
    | some r => (reversedLines rest).map (r :: ·)

/-- The transaction that takes this one back. -/
def reversed (t : Transaction) : Except Line Transaction :=
  (reversedLines t.lines).map fun lines => { t with lines }

end Transaction

end DoubleEntry
