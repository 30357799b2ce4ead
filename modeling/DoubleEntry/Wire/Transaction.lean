import DoubleEntry.Ledger.Transaction
import DoubleEntry.Wire.Shape

/-!
# Transactions on the wire

A transaction and a posted transaction have every field. A posted one is always an object: the fields of
the transaction and its creation time side by side. Its fields are gathered before they are read, which
allows one more spelling of a purpose.
-/

namespace DoubleEntry.Wire

open Time

/-- A purpose, by its canonical or its short form. -/
def purpose : Json → Except Fault Purpose := choice Purpose.ofText?

/-- A purpose among gathered fields: as an object, its one member may also be an empty object. -/
def gatheredPurpose : Json → Except Fault Purpose
  | .obj [(name, .obj [])] => purpose (.obj [(name, .null)])
  | v => purpose v

/-- The fields of a line as far as they have been read. -/
structure LineDraft where
  account : Option String
  purpose : Option Purpose
  amount : Option Amount

def lineField (readPurpose : Json → Except Fault Purpose) (d : LineDraft) (name : String) (v : Json) :
    Except Fault LineDraft :=
  match name with
  | "accountId" => (once d.account string v).map fun x => { d with account := x }
  | "purpose" => (once d.purpose readPurpose v).map fun x => { d with purpose := x }
  | "amount" => (once d.amount amount v).map fun x => { d with amount := x }
  | _ => skip d v

/-- A line; every field is required. -/
def line (readPurpose : Json → Except Fault Purpose) (v : Json) : Except Fault Line := do
  let d ← record ["accountId", "purpose", "amount"] (lineField readPurpose) ⟨none, none, none⟩ v
  .ok ⟨⟨← required d.account⟩, ← required d.purpose, ← required d.amount⟩

/-- The fields of a transaction, and of a posted one, as far as they have been read. -/
structure TransactionDraft where
  id : Option String
  timestamp : Option Timestamp
  lines : Option (List Line)
  createdAt : Option Timestamp

/-- A transaction of which nothing has been read. -/
def TransactionDraft.start : TransactionDraft := ⟨none, none, none, none⟩

def transactionField (readPurpose : Json → Except Fault Purpose) (d : TransactionDraft)
    (name : String) (v : Json) : Except Fault TransactionDraft :=
  match name with
  | "id" => (once d.id string v).map fun x => { d with id := x }
  | "timestamp" => (once d.timestamp timestamp v).map fun x => { d with timestamp := x }
  | "lines" => (once d.lines (array (line readPurpose)) v).map fun x => { d with lines := x }
  | _ => skip d v

/-- Reads one field of a posted transaction. -/
def postedField (d : TransactionDraft) (name : String) (v : Json) : Except Fault TransactionDraft :=
  match name with
  | "createdAt" => (once d.createdAt timestamp v).map fun x => { d with createdAt := x }
  | _ => transactionField gatheredPurpose d name v

/-- The transaction of a draft; every field is required. -/
def TransactionDraft.transaction (d : TransactionDraft) : Except Fault Transaction := do
  .ok ⟨⟨← required d.id⟩, ← required d.timestamp, ← required d.lines⟩

def transaction (v : Json) : Except Fault Transaction := do
  (← record ["id", "timestamp", "lines"] (transactionField purpose) .start v).transaction

/-- A posted transaction: the fields of the transaction and its creation time in one object. -/
def posted : Json → Except Fault Posted
  | .obj ms => do
    let d ← members postedField .start ms
    .ok ⟨← d.transaction, ← required d.createdAt⟩
  | v => .error (mismatch v)

def lineJson (l : Line) : Json :=
  .obj [("accountId", .str l.account.text), ("purpose", .str l.purpose.canonical),
    ("amount", .int l.amount.value)]

/-- The fields of a transaction as they are written. -/
def transactionFields (t : Transaction) : List (String × Json) :=
  [("id", .str t.id.text), ("timestamp", timestampJson t.timestamp),
    ("lines", .arr (t.lines.map lineJson))]

def transactionJson (t : Transaction) : Json := .obj (transactionFields t)

/-- A posted transaction as it is written. -/
def postedJson (p : Posted) : Json :=
  .obj (transactionFields p.transaction ++ [("createdAt", timestampJson p.createdAt)])

end DoubleEntry.Wire
