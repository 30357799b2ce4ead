import DoubleEntry.Error.Problem
import DoubleEntry.Json.Basic

/-!
# Requests and responses

A request as it comes from the network, and the response that goes back. A response body is JSON, plain
text of the transport's own making, or nothing.
-/

namespace DoubleEntry.Http

structure Request where
  method : String
  /-- The path, still encoded, with its query. -/
  target : String
  contentType : Option String
  body : String
  deriving DecidableEq, Repr

inductive Body where
  | empty
  /-- Plain text that says why the request could not be read. -/
  | text
  | json (value : Json)
  deriving Repr

structure Response where
  status : Nat
  body : Body
  deriving Repr

namespace Response

/-- The response to a request that could not be read. -/
def unreadable (status : Nat) : Response := ⟨status, .text⟩

/-- The response that tells of a problem. -/
def ofProblem (p : Problem) : Response :=
  ⟨p.status, .json (.obj [("error", .str p.code), ("message", .str p.publicMessage)])⟩

def withoutBody (r : Response) : Response := { r with body := .empty }

end Response

end DoubleEntry.Http
