import DoubleEntry.Store.Work

/-!
# What the statements on the books do

One function for each statement that reads or changes rows. Reads skip deleted rows; keys are unique
against deleted rows too.
-/

namespace DoubleEntry

open Time

/-! ## Balances -/

/-- The balance of an account as the store can report it. -/
def Book.readBalance (b : Book) (account : AccountId) : Except Refusal Amount :=
  match Amount.ofInt? (b.balance account) with
  | some amount => .ok amount
  | none => .error .outOfRange

/-- The balances of several accounts, in the order asked; all must fit. -/
def Book.readBalances (b : Book) : List AccountId → Except Refusal (List AccountBalance)
  | [] => .ok []
  | a :: rest =>
    match b.readBalance a with
    | .error e => .error e
    | .ok amount => (b.readBalances rest).map (⟨a, amount⟩ :: ·)

namespace Desk

def readBalance (account : AccountId) : Work StoreError Amount :=
  ask .readBalance "transaction_lines" (fun b => b.readBalance account) .zero

/-- The balances of several accounts; nothing is sent for none. -/
def readBalances (accounts : List AccountId) : Work StoreError (List AccountBalance) :=
  if accounts = [] then pure []
  else
    ask .readBalances "transaction_lines" (fun b => b.readBalances accounts)
      (accounts.map fun a => ⟨a, .zero⟩)

/-! ## Accounts -/

/-- Locks the wanted accounts that are not deleted, in ascending order. -/
def lockAccounts (wanted : List AccountId) : Work StoreError (List AccountId) :=
  ask .lockAccounts "accounts" (fun b => .ok ((b.liveAccounts wanted).map AccountRow.id)) []

/-- The wanted accounts that are not deleted, in ascending order. -/
def readAccounts (wanted : List AccountId) : Work StoreError (List AccountRow) :=
  ask .readAccounts "accounts" (fun b => .ok (b.liveAccounts wanted)) []

/-- The number is taken under the routing number, be it by a deleted account. -/
def findNumber (number routing : String) : Work StoreError Bool :=
  send .findNumber
    (fun store =>
      match store.book with
      | none => .error (.missingTable "accounts")
      | some b => .ok (b.hasNumber number routing, store))
    fun found => some found

/-- Adds an account; its identifier must be new and its number free under its routing number. -/
def insertAccount (row : AccountRow) : Work StoreError Bool :=
  change .insertAccount "accounts"
    (fun b =>
      -- deleted rows keep their keys
      if b.hasAccount row.id then .error (.duplicateKey "accounts_pkey")
      else if b.hasNumber row.number row.routing then
        .error (.duplicateKey "uq_accounts_number_routing")
      else .ok (true, { b with accounts := b.accounts ++ [row] }))
    false

/-- An account that is not deleted, by number, routing number and type. -/
def searchAccount (number routing kind : String) : Work StoreError (Option AccountId) :=
  ask .searchAccount "accounts"
    (fun b =>
      .ok ((b.accounts.find? fun a =>
        decide (a.number = number ∧ a.routing = routing ∧ Text.lower a.kind = Text.lower kind) &&
          a.isLive).map AccountRow.id))
    none

/-- The accounts of a customer that are not deleted, the oldest first. -/
def customerAccounts (customer : CustomerId) : Work StoreError (List AccountId) :=
  ask .customerAccounts "accounts"
    (fun b =>
      .ok ((Order.sort (fun r s => r.createdAt.before s.createdAt)
        (b.accounts.filter fun a => decide (a.customer = customer) && a.isLive)).map AccountRow.id))
    []

/-! ## Transactions -/

/-- Adds a header; its identifier must be new. -/
def insertHeader (row : HeaderRow) : Work StoreError Bool :=
  change .insertHeader "transactions"
    (fun b =>
      if b.hasHeader row.id then .error (.duplicateKey "transactions_pkey")
      else .ok (true, { b with headers := b.headers ++ [row] }))
    false

/-- Adds a line; its number must be new in its transaction. -/
def insertLine (row : LineRow) : Work StoreError Bool :=
  change .insertLine "transaction_lines"
    (fun b =>
      if b.hasLine row.transaction row.number then .error (.duplicateKey "transaction_lines_pkey")
      else .ok (true, { b with lines := b.lines ++ [row] }))
    false

/-- The headers of the wanted transactions that are not deleted. -/
def readHeaders (wanted : List TransactionId) : Work StoreError (List HeaderRow) :=
  ask .readHeaders "transactions"
    (fun b => .ok (b.headers.filter fun h => wanted.contains h.id && h.isLive)) []

/-- The lines of the wanted transactions that are not deleted, by transaction and number. -/
def readLines (wanted : List TransactionId) : Work StoreError (List LineRow) :=
  ask .readLines "transaction_lines"
    (fun b =>
      .ok (Order.sort (fun r s =>
          decide (r.transaction.text < s.transaction.text) ||
            (decide (r.transaction = s.transaction) && decide (r.number < s.number)))
        (b.lines.filter fun l => wanted.contains l.transaction && l.isLive)))
    []

/-- Marks a header deleted, if it is not yet; says how many rows that were. -/
def deleteHeader (id : TransactionId) (moment : Timestamp) : Work StoreError Nat :=
  change .deleteHeader "transactions"
    (fun b =>
      .ok ((b.headers.filter fun h => decide (h.id = id) && h.isLive).length,
        { b with headers := b.headers.map fun h =>
            if h.id = id ∧ h.isLive then { h with deletedAt := some moment.asKept } else h }))
    0

/-- Marks the lines of a transaction deleted, where they are not yet; says how many rows that were. -/
def deleteLines (id : TransactionId) (moment : Timestamp) : Work StoreError Nat :=
  change .deleteLines "transaction_lines"
    (fun b =>
      .ok ((b.lines.filter fun l => decide (l.transaction = id) && l.isLive).length,
        { b with lines := b.lines.map fun l =>
            if l.transaction = id ∧ l.isLive then { l with deletedAt := some moment.asKept } else l }))
    0

/-- The transactions with a line on the account that is not deleted, newest first. -/
def accountHistory (account : AccountId) : Work StoreError (List TransactionId) :=
  ask .accountHistory "transaction_lines" (fun b => .ok (b.historyOf account)) []

end Desk

end DoubleEntry
