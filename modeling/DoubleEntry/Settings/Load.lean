import DoubleEntry.Settings.Basic
import DoubleEntry.Settings.Layers
import DoubleEntry.Settings.Values

/-!
# Loading the settings

What no layer sets has a value of its own, except the address of the store, which must be set. Unknown
keys are passed over; one known key that cannot be read makes the loading fail. A section may also be an
array of its settings in order.
-/

namespace DoubleEntry.Settings

/-- A member of a table, or the value in force where it is not set. -/
def orElse {α : Type} (table : List (String × Json)) (name : String) (read : Json → Option α)
    (standard : α) : Option α :=
  match table.lookup name with
  | some v => read v
  | none => some standard

/-- The members of a section: of its table, or of an array by order; none where it is not set. -/
def namedMembers? (table : List (String × Json)) (name : String) (order : List String) :
    Option (List (String × Json)) :=
  match table.lookup name with
  | some (.obj ms) => some ms
  | some (.arr items) => some (order.zip items)
  | some _ => none
  | none => some []

/-- The settings of a merged table, unless one of them cannot be read. -/
def ofTable? (table : List (String × Json)) : Option Settings := do
  let server ← namedMembers? table "server" ["host", "port"]
  let host ← orElse server "host" string? "0.0.0.0"
  let socket ← orElse server "port" (natural? 65535) 8085
  let store ← namedMembers? table "database" ["url", "max_connections", "min_connections"]
  let url ← (store.lookup "url").bind string?
  let maxConnections ← orElse store "max_connections" (natural? 4294967295) 10
  let minConnections ← orElse store "min_connections" (natural? 4294967295) 1
  let ledger ←
    namedMembers? table "ledger" ["funds_policy", "posting_timeout_ms", "default_routing_number"]
  let standard := LedgerSettings.standard
  let policy ← orElse ledger "funds_policy" policy? standard.policy
  let timeoutMillis ←
    orElse ledger "posting_timeout_ms" (natural? Text.greatestWord) standard.timeoutMillis
  let routing ← orElse ledger "default_routing_number" string? standard.routing
  some ⟨⟨host, socket⟩, ⟨url, maxConnections, minConnections⟩, ⟨policy, timeoutMillis, routing⟩⟩

/-- Loads the settings from files and environment. -/
def load? (env : List (String × String)) (files : List (String × Json)) : Option Settings :=
  (merged? env files).bind fun table => ofTable? (membersOf table)

end DoubleEntry.Settings
