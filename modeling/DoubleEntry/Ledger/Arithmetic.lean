import DoubleEntry.Ledger.Funds
import DoubleEntry.Ledger.Proposal

/-!
# Sums in words

Sums of amounts are computed in words of 128 bits, twice as wide as an amount. The computations of the
ledger are written here a second time as they are made in words: every addition and every negation may
leave the range, and then either fails or wraps around.
-/

namespace DoubleEntry

open Time

namespace Word

/-- The least number that a word holds. -/
def least : Int := -170141183460469231731687303715884105728

/-- The greatest number that a word holds. -/
def greatest : Int := 170141183460469231731687303715884105727

end Word

/-- What happens to a result that does not fit in a word. -/
inductive Arithmetic where
  /-- The computation stops. -/
  | checked
  /-- The result is taken modulo the size of a word. -/
  | wrapping
  deriving DecidableEq, Repr

namespace Arithmetic

/-- The word that an operation gives, from its exact result. -/
def keep : Arithmetic → Int → Option Int
  | checked, n => if Word.least ≤ n ∧ n ≤ Word.greatest then some n else none
  | wrapping, n => some (BitVec.ofInt 128 n).toInt

def add (m : Arithmetic) (a b : Int) : Option Int := m.keep (a + b)

def neg (m : Arithmetic) (a : Int) : Option Int := m.keep (-a)

/-- Adds up amounts one after the other. -/
def sum (m : Arithmetic) (amounts : List Amount) : Option Int :=
  amounts.foldlM (fun s a => m.add s a.value) 0

/-- The sum of an account's entries that are not deleted. -/
def balance (m : Arithmetic) (account : AccountId) (entries : List Entry) : Option Int :=
  m.sum ((entries.filter fun e => e.account = account ∧ e.deletedAt = none).map Entry.amount)

/-- Adds an amount to the net of an account, which is zero before its first line. -/
def addNet (m : Arithmetic) (account : AccountId) (amount : Int) :
    List (AccountId × Int) → Option (List (AccountId × Int))
  | [] => (m.add 0 amount).map fun n => [(account, n)]
  | (a, net) :: rest =>
    if account = a then (m.add net amount).map fun n => (a, n) :: rest
    else if account.text < a.text then
      (m.add 0 amount).map fun n => (account, n) :: (a, net) :: rest
    else (addNet m account amount rest).map ((a, net) :: ·)

/-- The net of every account that has a line, by ascending account. -/
def nets (m : Arithmetic) (lines : List Line) : Option (List (AccountId × Int)) :=
  lines.foldlM (fun nets l => m.addNet l.account l.amount.value nets) []

/-- Judges one account on its net. -/
def checkOne (m : Arithmetic) (policy : FundsPolicy) (nets : List (AccountId × Int))
    (b : AccountBalance) : Option (Except LedgerError Unit) :=
  if policy.appliesTo b.balance then
    match nets.lookup b.account with
    | none => some (.error (.noMatchingLine b.account))
    | some net =>
      -- the balance afterwards is computed for a debit only
      if net < 0 then do
        let after ← m.add b.balance.value net
        if after < 0 then
          let debit ← m.neg net
          return .error (.insufficientFunds b.account b.balance debit)
        else return .ok ()
      else some (.ok ())
  else some (.ok ())

/-- Judges accounts in order, up to the first that fails. -/
def checkEach (m : Arithmetic) (policy : FundsPolicy) (nets : List (AccountId × Int)) :
    List AccountBalance → Option (Except LedgerError Unit)
  | [] => some (.ok ())
  | b :: rest => do
    match ← m.checkOne policy nets b with
    | .error e => return .error e
    | .ok _ => checkEach m policy nets rest

/-- Judges a transaction on the balances of the accounts involved. -/
def checkFunds (m : Arithmetic) (policy : FundsPolicy) (balances : List AccountBalance)
    (t : Transaction) : Option (Except LedgerError Unit) :=
  if balances.length < 2 ∨ t.lines = [] then
    some (.error (.invalidCheckInput balances.length t.lines.length))
  else do
    let nets ← m.nets t.lines
    m.checkEach policy nets balances

/-- The transaction that a proposal stands for, or its first fault. -/
def checkProposal (m : Arithmetic) (p : Proposal) (now : Timestamp) (fresh : TransactionId) :
    Option (Except LedgerError Transaction) :=
  let id := p.identity fresh
  if p.lines = [] then some (.error (.emptyTransaction id))
  else
    match ProposedLine.checkAll 0 p.lines with
    | .error (index, account, reason) => some (.error (.invalidLine id index account reason))
    | .ok lines => do
      let t : Transaction := ⟨id, p.timestamp.getD now, lines⟩
      let sum ← m.sum (t.lines.map Line.amount)
      if sum = 0 then return .ok t
      else return .error (.unbalancedTransaction id lines.length sum)

end Arithmetic

end DoubleEntry
