import DoubleEntry.Error.AccountError
import DoubleEntry.Posting

/-!
# Opening and finding accounts

An account is opened for a customer under a routing number, with a number drawn at random until it is
free. Accounts are found by identifier, by number or by customer; whichever way, they come with their
balances from one snapshot of the store.
-/

namespace DoubleEntry

open Time

/-- What is asked for when an account is opened. -/
structure AccountRequest where
  customer : CustomerId
  name : String
  kind : String
  routing : String
  deriving DecidableEq, Repr

/-- The first field of a request that is blank. -/
def AccountRequest.missing? (r : AccountRequest) : Option String :=
  if r.customer.isBlank then some "customer ID"
  else if Text.isBlank r.name then some "name"
  else if Text.isBlank r.kind then some "type"
  else if Text.isBlank r.routing then some "routing number"
  else none

/-- An account row with its balance; fails on a text that names no status. -/
def AccountRow.account (r : AccountRow) (balance : Amount) : Except AccountError Account :=
  match AccountStatus.ofText? r.status with
  | some status =>
    .ok ⟨r.id, r.customer, r.name, r.number, r.routing, status, r.kind, balance, r.createdAt,
      r.closedAt, r.lastModified⟩
  | none => .error (.store (.unreadable (AccountStatus.unknownMessage r.status)))

theorem AccountRow.account_of_status {r : AccountRow} {status : AccountStatus}
    (h : AccountStatus.ofText? r.status = some status) (balance : Amount) :
    r.account balance = .ok ⟨r.id, r.customer, r.name, r.number, r.routing, status, r.kind, balance,
      r.createdAt, r.closedAt, r.lastModified⟩ := by
  unfold account
  rw [h]

/-- Account rows with their balances, in order; the first that cannot be read decides. -/
def AccountRow.accountsOf (balances : List AccountBalance) :
    List AccountRow → Except AccountError (List Account)
  | [] => .ok []
  | r :: rest =>
    let balance := ((balances.find? fun b => b.account = r.id).map AccountBalance.balance).getD .zero
    match r.account balance with
    | .error e => .error e
    | .ok a => (accountsOf balances rest).map (a :: ·)

/-- The older account first; of two equally old, the lesser identifier. -/
def Account.older (a b : Account) : Bool :=
  a.createdAt.before b.createdAt ||
    (!b.createdAt.before a.createdAt && decide (a.id.text < b.id.text))

namespace Desk

/-- How many account numbers are drawn before giving up. -/
def numberAttempts : Nat := 5

/-- The first of the numbers drawn that is free under the routing number. -/
def freeNumber (routing : String) : List String → String → Work AccountError String
  | [], last => Work.fail (.duplicateNumber last routing)
  | number :: rest, _ => do
    if ← (findNumber number routing).mapError AccountError.store then
      freeNumber routing rest number
    else pure number

/-- The numbers that are drawn for one account. -/
def drawnNumbers (m : Moment) : List String :=
  (List.range numberAttempts).map fun n => Text.decimal (m.draw n)

/-- The error for an account that could not be written. -/
def accountInsertError (number routing : String) (e : StoreError) : AccountError :=
  if e.state? = some Refusal.uniqueViolation then .duplicateNumber number routing else .store e

/-- Opens an account. -/
def createAccount (m : Moment) (r : AccountRequest) : Work AccountError Account :=
  match r.missing? with
  | some field => Work.fail (.missingField field)
  | none => do
    let number ← freeNumber r.routing (drawnNumbers m) ""
    let row : AccountRow :=
      ⟨⟨m.fresh⟩, r.customer, r.name, number, r.routing, AccountStatus.standard.canonical, r.kind,
        m.now.asKept, none, m.now.asKept, none⟩
    -- somebody else may have taken the number in the meantime
    (inserted (insertAccount row)).mapError (accountInsertError number r.routing)
    Work.ofExcept (row.account .zero)

/-- The rows and balances of accounts, read to the end of a snapshot. -/
def readAccountsWithBalances (ids : List AccountId) :
    Work StoreError (List AccountRow × List AccountBalance) := do
  let rows ← readAccounts ids
  let balances ← readBalances (rows.map AccountRow.id)
  control .commit
  pure (rows, balances)

/-- The accounts of these identifiers that are not deleted, ascending, with their balances. -/
def accounts (ids : List AccountId) : Work AccountError (List Account) :=
  if ids = [] then pure []
  else do
    openSnapshot.mapError AccountError.store
    let (rows, balances) ← (orGiveUp (readAccountsWithBalances ids)).mapError AccountError.store
    Work.ofExcept (AccountRow.accountsOf balances rows)

/-- The account with this number, routing number and type, whatever the case of the type. -/
def search (number routing kind : String) : Work AccountError (Option Account) := do
  match ← (searchAccount number routing kind).mapError AccountError.store with
  | none => pure none
  | some id => pure (← accounts [id]).head?

/-- The accounts of a customer, the oldest first. -/
def accountsOf (customer : CustomerId) : Work AccountError (List Account) := do
  let ids ← (customerAccounts customer).mapError AccountError.store
  pure (Order.sort Account.older (← accounts ids))

end Desk

end DoubleEntry
