/-!
# Problems

What a client is told when a request cannot be done: a class that decides the HTTP status, a code for
programs and a message for people. Messages of the store's and the program's own failures stay inside;
the client reads the same fixed sentence for all of them.
-/

namespace DoubleEntry

/-- Why a request was not done, as far as a client is concerned. -/
inductive Problem where
  | notFound (code message : String)
  | validation (code message : String)
  | businessRule (code message : String)
  | conflict (code message : String)
  | timeout (message : String)
  | database (message : String)
  | internal (message : String)
  deriving DecidableEq, Repr

namespace Problem

def status : Problem → Nat
  | notFound .. => 404
  | validation .. => 400
  | businessRule .. => 422
  | conflict .. => 409
  | timeout .. => 504
  | database .. => 500
  | internal .. => 500

def code : Problem → String
  | notFound code _ | validation code _ | businessRule code _ | conflict code _ => code
  | timeout _ => "DEADLINE_EXCEEDED"
  | database _ => "DATABASE_ERROR"
  | internal _ => "INTERNAL_ERROR"

/-- The message as the log has it. -/
def message : Problem → String
  | notFound _ message => "Not found: " ++ message
  | validation _ message => "Validation error: " ++ message
  | businessRule _ message => "Business rule violation: " ++ message
  | conflict _ message => "Conflict: " ++ message
  | timeout message => "Timeout: " ++ message
  | database message => "Database error: " ++ message
  | internal message => "Internal error: " ++ message

/-- The message as the client reads it. -/
def publicMessage : Problem → String
  | notFound _ message | validation _ message | businessRule _ message | conflict _ message
  | timeout message => message
  | database _ | internal _ => "An error occurred"

end Problem

end DoubleEntry
