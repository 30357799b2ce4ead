import DoubleEntry.Ledger.Account
import DoubleEntry.Ledger.Balance
import DoubleEntry.Ledger.FundsPolicy
import DoubleEntry.Wire.Shape

/-!
# Accounts on the wire

Accounts with their balances, balances alone, the request to open an account, and the name of a funds
policy.
-/

namespace DoubleEntry.Wire

open Time

/-- The status of an account, spelled exactly. -/
def status : Json → Except Fault AccountStatus :=
  choice fun s => if s = "open" then some .opened else if s = "closed" then some .closed else none

def policy : Json → Except Fault FundsPolicy := choice FundsPolicy.ofName?

/-! ## Accounts -/

/-- The fields of an account as far as they have been read. -/
structure AccountDraft where
  id : Option String
  customer : Option String
  name : Option String
  number : Option String
  routing : Option String
  status : Option AccountStatus
  kind : Option String
  balance : Option Amount
  createdAt : Option Timestamp
  closedAt : Option (Option Timestamp)
  lastModified : Option Timestamp

/-- An account of which nothing has been read. -/
def AccountDraft.start : AccountDraft :=
  ⟨none, none, none, none, none, none, none, none, none, none, none⟩

/-- The names of the fields of an account, in their declared order. -/
def accountNames : List String :=
  ["id", "customerId", "name", "accountNumber", "routingNumber", "status", "type", "balance",
    "createdAt", "closedAt", "lastModified"]

def accountField (d : AccountDraft) (name : String) (v : Json) : Except Fault AccountDraft :=
  match name with
  | "id" => (once d.id string v).map fun x => { d with id := x }
  | "customerId" => (once d.customer string v).map fun x => { d with customer := x }
  | "name" => (once d.name string v).map fun x => { d with name := x }
  | "accountNumber" => (once d.number string v).map fun x => { d with number := x }
  | "routingNumber" => (once d.routing string v).map fun x => { d with routing := x }
  | "status" => (once d.status status v).map fun x => { d with status := x }
  | "type" => (once d.kind string v).map fun x => { d with kind := x }
  | "balance" => (once d.balance amount v).map fun x => { d with balance := x }
  | "createdAt" => (once d.createdAt timestamp v).map fun x => { d with createdAt := x }
  | "closedAt" => (once d.closedAt (nullable timestamp) v).map fun x => { d with closedAt := x }
  | "lastModified" => (once d.lastModified timestamp v).map fun x => { d with lastModified := x }
  | _ => skip d v

/-- An account; only the closing time may be left out. -/
def account (v : Json) : Except Fault Account := do
  let d ← record accountNames accountField .start v
  .ok ⟨⟨← required d.id⟩, ⟨← required d.customer⟩, ← required d.name, ← required d.number,
    ← required d.routing, ← required d.status, ← required d.kind, ← required d.balance,
    ← required d.createdAt, d.closedAt.getD none, ← required d.lastModified⟩

def accountJson (a : Account) : Json :=
  .obj [("id", .str a.id.text), ("customerId", .str a.customer.text), ("name", .str a.name),
    ("accountNumber", .str a.number), ("routingNumber", .str a.routing),
    ("status", .str a.status.canonical), ("type", .str a.kind), ("balance", .int a.balance.value),
    ("createdAt", timestampJson a.createdAt), ("closedAt", timestampOrNull a.closedAt),
    ("lastModified", timestampJson a.lastModified)]

/-! ## Balances -/

/-- The fields of a balance as far as they have been read. -/
structure BalanceDraft where
  account : Option String
  balance : Option Amount

def balanceField (d : BalanceDraft) (name : String) (v : Json) : Except Fault BalanceDraft :=
  match name with
  | "accountId" => (once d.account string v).map fun x => { d with account := x }
  | "balance" => (once d.balance amount v).map fun x => { d with balance := x }
  | _ => skip d v

/-- The balance of an account; both fields are required. -/
def accountBalance (v : Json) : Except Fault AccountBalance := do
  let d ← record ["accountId", "balance"] balanceField ⟨none, none⟩ v
  .ok ⟨⟨← required d.account⟩, ← required d.balance⟩

/-- The balance of an account as it is written. -/
def accountBalanceJson (b : AccountBalance) : Json :=
  .obj [("accountId", .str b.account.text), ("balance", .int b.balance.value)]

/-! ## Requests -/

/-- The body of a request to open an account. -/
structure AccountBody where
  name : String
  kind : String
  routing : Option String
  deriving DecidableEq, Repr

/-- The fields of such a body as far as they have been read. -/
structure AccountBodyDraft where
  name : Option String
  kind : Option String
  routing : Option (Option String)

def accountBodyField (d : AccountBodyDraft) (name : String) (v : Json) :
    Except Fault AccountBodyDraft :=
  match name with
  | "name" => (once d.name string v).map fun x => { d with name := x }
  | "type" => (once d.kind string v).map fun x => { d with kind := x }
  | "routingNumber" => (once d.routing (nullable string) v).map fun x => { d with routing := x }
  | _ => skip d v

/-- A request to open an account; the routing number may be left out of an object, or be null. -/
def accountBody (v : Json) : Except Fault AccountBody := do
  let d ← record ["name", "type", "routingNumber"] accountBodyField ⟨none, none, none⟩ v
  let complete := match v with
    | .arr _ => d.routing.isSome
    | _ => true
  if complete then .ok ⟨← required d.name, ← required d.kind, d.routing.getD none⟩
  else .error .shape

end DoubleEntry.Wire
