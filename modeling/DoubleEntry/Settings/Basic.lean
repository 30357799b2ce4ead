import DoubleEntry.Ledger.FundsPolicy
import DoubleEntry.Store.Settlement

/-!
# Settings

Where the program listens, how it reaches its store, and the terms on which it makes postings.
-/

namespace DoubleEntry

structure ServerSettings where
  host : String
  /-- The number of the socket. -/
  socket : Nat
  deriving DecidableEq, Repr

structure StoreSettings where
  url : String
  maxConnections : Nat
  minConnections : Nat
  deriving DecidableEq, Repr

/-- The terms on which postings are made. -/
structure LedgerSettings where
  policy : FundsPolicy
  /-- How long a posting may take, in milliseconds; zero sets no limit. -/
  timeoutMillis : Nat
  /-- The routing number of accounts opened without one. -/
  routing : String
  deriving DecidableEq, Repr

structure Settings where
  server : ServerSettings
  store : StoreSettings
  ledger : LedgerSettings
  deriving DecidableEq, Repr

namespace LedgerSettings

/-- The deadline of a posting, if one is set. -/
def deadline (s : LedgerSettings) : Option Deadline :=
  if 0 < s.timeoutMillis then some (.ofMillis s.timeoutMillis) else none

/-- The routing number in force where none is set. -/
def standardRouting : String := "121042882"

/-- The terms in force where none are set. -/
def standard : LedgerSettings := ⟨.standard, 5000, standardRouting⟩

end LedgerSettings

end DoubleEntry
