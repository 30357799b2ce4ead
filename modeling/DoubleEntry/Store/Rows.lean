import DoubleEntry.Ledger.Account
import DoubleEntry.Ledger.Balance
import DoubleEntry.Ledger.Transaction

/-!
# The rows of the books

Three tables: accounts, headers (one for each transaction) and lines. Rows are kept as they were
written, in the order they came; status and purpose are texts here and are read as such only when they
leave the books. A row is deleted by a deletion time, never by removal.
-/

namespace DoubleEntry

open Time

/-- An account as it is kept. -/
structure AccountRow where
  id : AccountId
  customer : CustomerId
  name : String
  number : String
  routing : String
  status : String
  kind : String
  createdAt : Timestamp
  closedAt : Option Timestamp
  lastModified : Timestamp
  deletedAt : Option Timestamp
  deriving DecidableEq, Repr

/-- A transaction as it is kept, without its lines. -/
structure HeaderRow where
  id : TransactionId
  timestamp : Timestamp
  createdAt : Timestamp
  deletedAt : Option Timestamp
  deriving DecidableEq, Repr

structure LineRow where
  transaction : TransactionId
  /-- The place of the line among those of its transaction. -/
  number : Int
  account : AccountId
  purpose : String
  amount : Amount
  createdAt : Timestamp
  deletedAt : Option Timestamp
  deriving DecidableEq, Repr

def AccountRow.isLive (r : AccountRow) : Bool := r.deletedAt.isNone

def HeaderRow.isLive (r : HeaderRow) : Bool := r.deletedAt.isNone

def LineRow.isLive (r : LineRow) : Bool := r.deletedAt.isNone

/-- What a balance needs to know of a line. -/
def LineRow.entry (r : LineRow) : Entry := ⟨r.account, r.amount, r.deletedAt⟩

/-- The rows of all three tables. -/
structure Book where
  accounts : List AccountRow
  headers : List HeaderRow
  lines : List LineRow
  deriving DecidableEq, Repr

namespace Book

def empty : Book := ⟨[], [], []⟩

def balance (b : Book) (account : AccountId) : Int := balanceOf account (b.lines.map LineRow.entry)

/-- A transaction of this identifier exists, deleted or not. -/
def hasHeader (b : Book) (id : TransactionId) : Bool := b.headers.any fun h => h.id = id

/-- A transaction has a line of this number, deleted or not. -/
def hasLine (b : Book) (id : TransactionId) (number : Int) : Bool :=
  b.lines.any fun l => l.transaction = id ∧ l.number = number

/-- An account of this identifier exists, deleted or not. -/
def hasAccount (b : Book) (id : AccountId) : Bool := b.accounts.any fun a => a.id = id

/-- An account of this number exists under the routing number, deleted or not. -/
def hasNumber (b : Book) (number routing : String) : Bool :=
  b.accounts.any fun a => a.number = number ∧ a.routing = routing

/-- The identifiers, among those wanted, of accounts that are not deleted; ascending. -/
def liveAccounts (b : Book) (wanted : List AccountId) : List AccountRow :=
  Order.sort (fun r s => decide (r.id.text < s.id.text))
    (b.accounts.filter fun r => wanted.contains r.id && r.isLive)

/-- The header of a transaction that is not deleted; of several the last counts. -/
def liveHeader? (b : Book) (id : TransactionId) : Option HeaderRow :=
  b.headers.reverse.find? fun h => h.id = id ∧ h.isLive

/-- The lines of a transaction that are not deleted, by number. -/
def liveLines (b : Book) (id : TransactionId) : List LineRow :=
  Order.sort (fun r s => decide (r.number < s.number))
    (b.lines.filter fun l => decide (l.transaction = id) && l.isLive)

/-- The latest creation time among an account's lines in one transaction that are not deleted. -/
def latestOn (b : Book) (account : AccountId) (id : TransactionId) : Option Timestamp :=
  ((b.lines.filter fun l => decide (l.account = account ∧ l.transaction = id) && l.isLive).map
    LineRow.createdAt).foldl
    (fun latest t => some (match latest with
      | none => t
      | some s => Timestamp.latest s t)) none

/-- Newest first; of two equally new, the greater identifier first. -/
def newer (x y : TransactionId × Option Timestamp) : Bool :=
  match x.2, y.2 with
  | some s, some t =>
    if t.before s then true else if s.before t then false else decide (y.1.text < x.1.text)
  | _, _ => decide (y.1.text < x.1.text)

/-- The transactions with a line on the account that is not deleted, newest first. -/
def historyOf (b : Book) (account : AccountId) : List TransactionId :=
  let ids := Order.distinctTexts
    ((b.lines.filter fun l => decide (l.account = account) && l.isLive).map fun l =>
      l.transaction.text)
  (Order.sort newer (ids.map fun s => (⟨s⟩, b.latestOn account ⟨s⟩))).map Prod.fst

end Book

end DoubleEntry
