import DoubleEntry.Error.Problem
import DoubleEntry.Store.Statement

/-!
# Faults of account operations

Opening and finding accounts fails because a field is missing, because no free number was found, or
because the store failed.
-/

namespace DoubleEntry

inductive AccountError where
  | duplicateNumber (number routing : String)
  | missingField (field : String)
  | store (e : StoreError)
  deriving DecidableEq, Repr

namespace AccountError

def message : AccountError → String
  | duplicateNumber number routing =>
    "Account number " ++ number ++ " already exists for routing number " ++ routing
  | missingField field => field ++ " is required"
  | store e => "Database error: " ++ e.text

def problem (e : AccountError) : Problem :=
  match e with
  | duplicateNumber .. => .conflict "DUPLICATE_ACCOUNT_NUMBER" e.message
  | missingField _ => .validation "MISSING_FIELD" e.message
  | store s => .database s.text

end AccountError

end DoubleEntry
