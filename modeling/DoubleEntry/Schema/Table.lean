/-!
# The tables

What each of the three tables of the books is made of: its columns in order, the columns that tell its
rows apart, and the columns by which its rows belong to rows of other tables. Keys are always given by
the caller; the store generates none.
-/

namespace DoubleEntry.Schema

inductive ColumnType where
  | text
  | integer
  | bigint
  | timestamptz
  deriving DecidableEq, Repr

def ColumnType.name : ColumnType → String
  | text => "text"
  | integer => "integer"
  | bigint => "bigint"
  | timestamptz => "timestamptz"

structure Column where
  name : String
  type : ColumnType
  /-- A row may leave the column empty. -/
  nullable : Bool
  deriving DecidableEq, Repr

/-- How many rows of the other table a row may have. -/
inductive Multiplicity where
  /-- The row belongs to one row of the other table. -/
  | one
  /-- Rows of the other table belong to the row. -/
  | many
  deriving DecidableEq, Repr

/-- A way from the rows of one table to those of another: two columns that hold the same value. -/
structure Relation where
  multiplicity : Multiplicity
  column : String
  otherTable : String
  otherColumn : String
  deriving DecidableEq, Repr

structure Table where
  name : String
  columns : List Column
  /-- The columns that tell the rows apart. -/
  key : List String
  relations : List Relation
  deriving DecidableEq, Repr

namespace Column

def filled (name : String) (type : ColumnType) : Column := ⟨name, type, false⟩

/-- A column that a row may leave empty. -/
def optional (name : String) (type : ColumnType) : Column := ⟨name, type, true⟩

end Column

namespace Table

def accounts : Table where
  name := "accounts"
  columns :=
    [.filled "account_id" .text, .filled "customer_id" .text, .filled "name" .text,
      .filled "account_number" .text, .filled "routing_number" .text, .filled "status" .text,
      .filled "type" .text, .filled "created_at" .timestamptz, .optional "closed_at" .timestamptz,
      .filled "last_modified" .timestamptz, .optional "deleted_at" .timestamptz]
  key := ["account_id"]
  relations := [⟨.many, "account_id", "transaction_lines", "account_id"⟩]

def transactions : Table where
  name := "transactions"
  columns :=
    [.filled "transaction_id" .text, .filled "timestamp" .timestamptz,
      .filled "created_at" .timestamptz, .optional "deleted_at" .timestamptz]
  key := ["transaction_id"]
  relations := [⟨.many, "transaction_id", "transaction_lines", "transaction_id"⟩]

def transactionLines : Table where
  name := "transaction_lines"
  columns :=
    [.filled "transaction_id" .text, .filled "line_number" .integer, .filled "account_id" .text,
      .filled "purpose" .text, .filled "amount" .bigint, .filled "created_at" .timestamptz,
      .optional "deleted_at" .timestamptz]
  key := ["transaction_id", "line_number"]
  relations :=
    [⟨.one, "transaction_id", "transactions", "transaction_id"⟩,
      ⟨.one, "account_id", "accounts", "account_id"⟩]

/-- The relations along which rows of other tables are looked up from a row: all of them. -/
def joins (t : Table) : List Relation := t.relations

/-- The tables of the books, in the order in which they are created. -/
def all : List Table := [accounts, transactions, transactionLines]

def ofName? (name : String) : Option Table := all.find? fun t => t.name = name

end Table

end DoubleEntry.Schema
