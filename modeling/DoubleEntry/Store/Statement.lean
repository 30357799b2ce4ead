import DoubleEntry.Text.Numeral

/-!
# Statements

Every piece of work on the store is a sequence of named statements. The name decides how a failure of
the statement is worded, and is what a disturbance refers to.
-/

namespace DoubleEntry

/-- A statement that the store is sent. -/
inductive Statement where
  | begin
  | setTransaction
  | setTimeout
  | lockAccounts
  | readBalances
  | insertHeader
  | insertLine
  | commit
  | rollback
  | readHeaders
  | readLines
  | deleteHeader
  | deleteLines
  | accountHistory
  | readAccounts
  | readBalance
  | customerAccounts
  | searchAccount
  | findNumber
  | insertAccount
  | install
  | readMigrations
  | createTables
  | recordMigration
  | dropTables
  | forgetMigration
  deriving DecidableEq, Repr

namespace Statement

def names : List (String × Statement) :=
  [("begin", begin), ("set_transaction", setTransaction), ("set_timeout", setTimeout),
    ("lock_accounts", lockAccounts), ("read_balances", readBalances),
    ("insert_header", insertHeader), ("insert_line", insertLine), ("commit", commit),
    ("rollback", rollback), ("read_headers", readHeaders), ("read_lines", readLines),
    ("delete_header", deleteHeader), ("delete_lines", deleteLines),
    ("account_history", accountHistory), ("read_accounts", readAccounts),
    ("read_balance", readBalance), ("customer_accounts", customerAccounts),
    ("search_account", searchAccount), ("find_number", findNumber),
    ("insert_account", insertAccount), ("install", install), ("read_migrations", readMigrations),
    ("create_tables", createTables), ("record_migration", recordMigration),
    ("drop_tables", dropTables), ("forget_migration", forgetMigration)]

def ofName? (name : String) : Option Statement := names.lookup name

/-- A statement that is executed for its effect alone; the others are queries. -/
def isCommand : Statement → Bool
  | setTransaction | setTimeout | deleteHeader | deleteLines | install | createTables
  | recordMigration | dropTables | forgetMigration => true
  | _ => false

end Statement

/-- What the store answers when it refuses a statement: a state code and a message. -/
structure Refusal where
  state : String
  message : String
  deriving DecidableEq, Repr

namespace Refusal

/-- A row with the same key exists. -/
def uniqueViolation : String := "23505"

/-- Two transactions could not both be carried out. -/
def serializationFailure : String := "40001"

/-- Two transactions waited for each other. -/
def deadlockDetected : String := "40P01"

/-- The statement took too long. -/
def queryCanceled : String := "57014"

/-- A setting was given a value that it cannot have. -/
def invalidValue : String := "22023"

def missingTable (name : String) : Refusal :=
  ⟨"42P01", "relation \"" ++ name ++ "\" does not exist"⟩

def tableExists (name : String) : Refusal :=
  ⟨"42P07", "relation \"" ++ name ++ "\" already exists"⟩

/-- A sum does not fit in 64 bits. -/
def outOfRange : Refusal := ⟨"22003", "bigint out of range"⟩

def duplicateKey (constraint : String) : Refusal :=
  ⟨uniqueViolation, "duplicate key value violates unique constraint \"" ++ constraint ++ "\""⟩

/-- A limit on statements that the store does not take. -/
def invalidLimit (millis : Nat) : Refusal :=
  ⟨invalidValue, "invalid value for parameter \"statement_timeout\": \"" ++ Text.decimal millis ++ "\""⟩

end Refusal

/-- Why a statement did not do its work. -/
inductive StoreError where
  | refused (statement : Statement) (refusal : Refusal)
  /-- A statement failed without a state code. -/
  | broken (message : String)
  /-- There is no store to send to. -/
  | disconnected
  /-- An inserted row did not come back. -/
  | notInserted
  /-- An insertion added no row. -/
  | noneInserted
  /-- A text in a row names nothing known. -/
  | unreadable (message : String)
  /-- A failure in the words of the caller. -/
  | custom (message : String)
  /-- The store did not answer before the deadline. -/
  | unanswered
  deriving DecidableEq, Repr

namespace StoreError

def text : StoreError → String
  | refused statement refusal =>
    (if statement.isCommand then "Execution Error" else "Query Error") ++
      ": error returned from database: " ++ refusal.message
  | broken message => message
  | disconnected => "Connection Error: Disconnected"
  | notInserted => "RecordNotFound Error: Failed to find inserted item"
  | noneInserted => "None of the records are inserted"
  | unreadable message => "Type Error: " ++ message
  | custom message => "Custom Error: " ++ message
  | unanswered => "Connection Error: no answer"

/-- The state code, if the store gave one. -/
def state? : StoreError → Option String
  | refused _ refusal => some refusal.state
  | _ => none

end StoreError

end DoubleEntry
