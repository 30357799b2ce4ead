import DoubleEntry.Amount
import DoubleEntry.Identifier
import DoubleEntry.Error.Problem
import DoubleEntry.Text.Numeral
import DoubleEntry.Text.Quoted

/-!
# Faults of the ledger

Every way in which posting, taking back or reading a transaction can fail, by cause. One table each
gives the message, the code, the HTTP status and the problem that a client is told. A line of a proposal
can be wrong in three ways, and the fault of a line names one. A failure of the store names the step it
happened in and says what became of the database transaction.
-/

namespace DoubleEntry

open DoubleEntry.Text

/-- What is wrong with a proposed line. -/
inductive LineError where
  | invalidPurpose (text : String)
  | missingAccountReference
  | zeroAmount
  deriving DecidableEq, Repr

namespace LineError

def code : LineError → String
  | invalidPurpose _ => "INVALID_PURPOSE"
  | missingAccountReference => "MISSING_ACCOUNT_REFERENCE"
  | zeroAmount => "ZERO_AMOUNT"

def message : LineError → String
  | invalidPurpose text => "unknown purpose " ++ quoted text
  | missingAccountReference => "missing account reference"
  | zeroAmount => "amount cannot be zero"

end LineError

/-- The step of an operation in which the store failed. -/
inductive Step where
  | begin
  | configure
  | lockAccounts
  | readBalance
  | insertHeader
  | insertLine
  | commit
  | read
  | softDelete
  deriving DecidableEq, Repr

def Step.words : Step → String
  | begin => "begin"
  | configure => "configure"
  | lockAccounts => "lock accounts"
  | readBalance => "read balance"
  | insertHeader => "insert header"
  | insertLine => "insert line"
  | commit => "commit"
  | read => "read"
  | softDelete => "soft delete"

/-- What became of the database transaction after a failure. -/
inductive Rollback where
  | notAttempted
  | rolledBack
  | aborted
  | failed (cause : String)
  deriving DecidableEq, Repr

/-- The words for the fate of a database transaction. -/
def Rollback.words : Rollback → String
  | notAttempted => "not attempted"
  | rolledBack => "rolled back"
  | aborted => "aborted by database"
  | failed cause => "failed: " ++ cause

/-- Why an operation of the ledger failed. -/
inductive LedgerError where
  | invalidLine (transaction : TransactionId) (index : Nat) (account : String) (reason : LineError)
  | emptyTransaction (transaction : TransactionId)
  | unbalancedTransaction (transaction : TransactionId) (lines : Nat) (sum : Int)
  | invalidCheckInput (accounts lines : Nat)
  | insufficientFunds (account : AccountId) (balance : Amount) (debit : Int)
  | noMatchingLine (account : AccountId)
  | accountNotFound (account : AccountId)
  | transactionNotFound (transaction : TransactionId)
  | duplicateTransaction (transaction : TransactionId)
  | concurrentModification (transaction : TransactionId)
  | deadlineExceeded (transaction : TransactionId) (millis : Nat)
  | persistence (step : Step) (transaction : Option TransactionId) (account : Option AccountId)
      (cause : String) (rollback : Rollback)
  deriving DecidableEq, Repr

namespace LedgerError

/-- Says what became of the database transaction, where the failure is one of the store. -/
def withRollback (outcome : Rollback) : LedgerError → LedgerError
  | persistence step transaction account cause _ =>
    persistence step transaction account cause outcome
  | e => e

def code : LedgerError → String
  | invalidLine _ _ _ reason => reason.code
  | emptyTransaction _ => "EMPTY_TRANSACTION"
  | unbalancedTransaction .. => "UNBALANCED_TRANSACTION"
  | invalidCheckInput .. => "INVALID_CHECK_INPUT"
  | insufficientFunds .. => "INSUFFICIENT_FUNDS"
  | noMatchingLine _ => "NO_MATCHING_LINE"
  | accountNotFound _ => "ACCOUNT_NOT_FOUND"
  | transactionNotFound _ => "TRANSACTION_NOT_FOUND"
  | duplicateTransaction _ => "DUPLICATE_TRANSACTION"
  | concurrentModification _ => "CONCURRENT_MODIFICATION"
  | deadlineExceeded .. => "DEADLINE_EXCEEDED"
  | persistence .. => "PERSISTENCE_ERROR"

def status : LedgerError → Nat
  | invalidLine .. | emptyTransaction _ | unbalancedTransaction .. | invalidCheckInput .. => 400
  | accountNotFound _ | transactionNotFound _ => 404
  | duplicateTransaction _ | concurrentModification _ => 409
  | insufficientFunds .. => 422
  | deadlineExceeded .. => 504
  | noMatchingLine _ | persistence .. => 500

/-- The same call may succeed when it is made again. -/
def isRetryable : LedgerError → Bool
  | concurrentModification _ | deadlineExceeded .. => true
  | _ => false

/-- A part of a message that is there only if it has something to name. -/
def named (words : String) (name : Option String) : String :=
  match name with
  | some text => words ++ text
  | none => ""

def message : LedgerError → String
  | invalidLine transaction index account reason =>
    "Transaction " ++ transaction.text ++ " line " ++ decimal index ++ " (account " ++
      quoted account ++ ") is invalid: " ++ reason.message
  | emptyTransaction transaction => "Transaction " ++ transaction.text ++ " has no lines"
  | unbalancedTransaction transaction lines sum =>
    "Transaction " ++ transaction.text ++ " has " ++ decimal lines ++ " lines that sum to " ++
      decimal sum
  | invalidCheckInput accounts lines =>
    "Invalid funds check input: " ++ decimal accounts ++ " accounts, " ++ decimal lines ++ " lines"
  | insufficientFunds account balance debit =>
    "Account " ++ account.text ++ " has insufficient funds: balance " ++ decimal balance.value ++
      ", debit " ++ decimal debit
  | noMatchingLine account => "No transaction lines found for account " ++ account.text
  | accountNotFound account => "Account not found: " ++ account.text
  | transactionNotFound transaction => "Transaction not found: " ++ transaction.text
  | duplicateTransaction transaction => "Transaction " ++ transaction.text ++ " already exists"
  | concurrentModification transaction =>
    "Concurrent modification while posting " ++ transaction.text ++ ", please retry"
  | deadlineExceeded transaction millis =>
    "Posting " ++ transaction.text ++ " did not finish within " ++ decimal millis ++ "ms"
  | persistence step transaction account cause rollback =>
    "Persistence failure during " ++ step.words ++
      named " of transaction " (transaction.map TransactionId.text) ++
      named " account " (account.map AccountId.text) ++ ": " ++ cause ++
      " (rollback: " ++ rollback.words ++ ")"

def problem (e : LedgerError) : Problem :=
  match e with
  | invalidLine .. | emptyTransaction _ | unbalancedTransaction .. | invalidCheckInput .. =>
    .validation e.code e.message
  | accountNotFound _ | transactionNotFound _ => .notFound e.code e.message
  | duplicateTransaction _ | concurrentModification _ => .conflict e.code e.message
  | insufficientFunds .. => .businessRule e.code e.message
  | deadlineExceeded .. => .timeout e.message
  | persistence .. => .database e.message
  | noMatchingLine _ => .internal e.message

end LedgerError

end DoubleEntry
