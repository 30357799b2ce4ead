import DoubleEntry.Text.Percent

/-!
# Routes

A path names a resource by its segments between slashes. Fixed segments must match as they are written;
an identifier is decoded, and it may be empty where another segment follows. A target may also be the
whole address of a resource, scheme and server first.
-/

namespace DoubleEntry.Http

/-- A resource of the service; identifiers are still encoded. -/
inductive Resource where
  | health
  | customerAccounts (customer : List Char)
  | accountSearch
  | accountTransactions (account : List Char)
  | transaction (id : List Char)
  deriving DecidableEq, Repr

def isSchemeChar (c : Char) : Bool := c.isAlphanum || c = '+' || c = '-' || c = '.'

/-- A target from its path on: a scheme and the server's name may stand before it. -/
def fromPath (target : List Char) : List Char :=
  match target.takeWhile isSchemeChar, target.dropWhile isSchemeChar with
  | _ :: _, ':' :: '/' :: '/' :: rest => rest.dropWhile fun c => c != '/' && c != '?' && c != '#'
  | _, _ => target

/-- The path and the query of a target; what follows a number sign is not part of either. -/
def splitTarget (target : String) : List Char × List Char :=
  Text.splitFirst '?' ((fromPath target.toList).takeWhile (· != '#'))

/-- The resource that a path names. -/
def resource? (path : List Char) : Option Resource :=
  match Text.splitAll '/' path with
  | [] :: a :: v :: rest =>
    if a = "api".toList ∧ v = "v1".toList then
      match rest with
      | [x] => if x = "health".toList then some .health else none
      | [x, y] =>
        if x = "accounts".toList ∧ y = "search".toList then some .accountSearch
        else if x = "transactions".toList ∧ y ≠ [] then some (.transaction y)
        else none
      | [x, y, z] =>
        if x = "customers".toList ∧ z = "accounts".toList then some (.customerAccounts y)
        else if x = "accounts".toList ∧ z = "transactions".toList then some (.accountTransactions y)
        else none
      | _ => none
    else none
  | _ => none

end DoubleEntry.Http
