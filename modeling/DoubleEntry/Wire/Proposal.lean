import DoubleEntry.Ledger.Proposal
import DoubleEntry.Wire.Shape

/-!
# Proposals on the wire

Reading a proposal fills in what may be left out; writing one always gives every field, and null for
what is absent.
-/

namespace DoubleEntry.Wire

open Time

/-- The fields of a proposed line as far as they have been read. -/
structure ProposedLineDraft where
  account : Option String
  purpose : Option String
  amount : Option Amount

/-- Reads one field of a proposed line. -/
def proposedLineField (d : ProposedLineDraft) (name : String) (v : Json) :
    Except Fault ProposedLineDraft :=
  match name with
  | "accountId" => (once d.account string v).map fun x => { d with account := x }
  | "purpose" => (once d.purpose string v).map fun x => { d with purpose := x }
  | "amount" => (once d.amount amount v).map fun x => { d with amount := x }
  | _ => skip d v

/-- A proposed line; account and purpose may be left out and are empty then. -/
def proposedLine (v : Json) : Except Fault ProposedLine := do
  let d ← record ["accountId", "purpose", "amount"] proposedLineField ⟨none, none, none⟩ v
  .ok ⟨d.account.getD "", d.purpose.getD "", ← required d.amount⟩

/-- The fields of a proposal as far as they have been read. -/
structure ProposalDraft where
  id : Option (Option String)
  timestamp : Option (Option Timestamp)
  lines : Option (List ProposedLine)

def proposalField (d : ProposalDraft) (name : String) (v : Json) : Except Fault ProposalDraft :=
  match name with
  | "id" => (once d.id (nullable string) v).map fun x => { d with id := x }
  | "timestamp" => (once d.timestamp (nullable timestamp) v).map fun x => { d with timestamp := x }
  | "lines" => (once d.lines (array proposedLine) v).map fun x => { d with lines := x }
  | _ => skip d v

/-- A proposal; every field may be left out. -/
def proposal (v : Json) : Except Fault Proposal := do
  let d ← record ["id", "timestamp", "lines"] proposalField ⟨none, none, none⟩ v
  .ok ⟨(d.id.getD none).map TransactionId.mk, d.timestamp.getD none, d.lines.getD []⟩

/-- A proposed line as it is written. -/
def proposedLineJson (l : ProposedLine) : Json :=
  .obj [("accountId", .str l.account), ("purpose", .str l.purpose), ("amount", .int l.amount.value)]

/-- A proposal as it is written; what is absent is null. -/
def proposalJson (p : Proposal) : Json :=
  .obj [("id", .optional (p.id.map TransactionId.text)), ("timestamp", timestampOrNull p.timestamp),
    ("lines", .arr (p.lines.map proposedLineJson))]

end DoubleEntry.Wire
