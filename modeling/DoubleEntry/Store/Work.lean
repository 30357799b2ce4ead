import DoubleEntry.Store.Disturbance
import DoubleEntry.Store.Rows

/-!
# Work on the store

A desk is a connection: the store as it is seen from there, and the disturbances to come. Work is a
function of the desk that ends in an answer or a failure and leaves the desk behind. A piece of work
that must be done wholly or not at all is wrapped in a transaction of the store, which keeps the store
from before for the case of failure. A transaction that was given up while it was open is ended the next
time that the desk is used.
-/

namespace DoubleEntry

/-- What the store holds: the books, unless their tables are missing, and the versions installed. -/
structure Store where
  book : Option Book
  versions : Option (List String)
  deriving DecidableEq, Repr

/-- One connection to the store. -/
structure Desk where
  store : Store
  plan : Plan
  /-- There is a store at the other end. -/
  online : Bool
  /-- A transaction was given up and is still to be ended. -/
  unended : Bool
  deriving DecidableEq, Repr

/-- Work that ends in an `α`, or fails with an `ε`, and leaves a desk behind. -/
def Work (ε α : Type) : Type := Desk → Except ε α × Desk

namespace Work

variable {ε ε' α β : Type}

def pure (a : α) : Work ε α := fun d => (.ok a, d)

def fail (e : ε) : Work ε α := fun d => (.error e, d)

/-- Work that goes on from the answer of other work. -/
def bind (w : Work ε α) (f : α → Work ε β) : Work ε β := fun d =>
  match w d with
  | (.ok a, d') => f a d'
  | (.error e, d') => (.error e, d')

instance : Monad (Work ε) where
  pure := Work.pure
  bind := Work.bind

/-- The answer or failure of a decision that needs no store. -/
def ofExcept (r : Except ε α) : Work ε α := fun d => (r, d)

/-- Work whose failures are put in other words. -/
def mapError (f : ε → ε') (w : Work ε α) : Work ε' α := fun d =>
  match w d with
  | (.ok a, d') => (.ok a, d')
  | (.error e, d') => (.error (f e), d')

/-- Work with its failure as an answer. -/
def attempt (w : Work ε α) : Work ε' (Except ε α) := fun d =>
  match w d with
  | (r, d') => (.ok r, d')

theorem bind_apply (w : Work ε α) (f : α → Work ε β) (d : Desk) :
    (w >>= f) d = match w d with
      | (.ok a, d') => f a d'
      | (.error e, d') => (.error e, d') := rfl

@[simp] theorem ofExcept_apply (r : Except ε α) (d : Desk) : ofExcept r d = (r, d) := rfl

end Work

namespace Desk

variable {α : Type}

/--
Ends the transaction that was given up before, if there is one. Whether the store does as it is told is
not asked, only whether it answers.
-/
def endGivenUp : Work StoreError Unit := fun d =>
  if d.unended then
    let ended := { d with plan := (d.plan.meet .rollback).2, unended := false }
    if (d.plan.meet .rollback).1 = some .silence then (.error .unanswered, ended)
    else (.ok (), ended)
  else (.ok (), d)

/-- Carries a statement out and goes on with the plan. A refusal leaves the store as it is. -/
def carryOut (s : Statement) (run : Store → Except Refusal (α × Store)) (plan : Plan) :
    Work StoreError α := fun d =>
  match run d.store with
  | .ok (a, store) => (.ok a, { d with store, plan })
  | .error refusal => (.error (.refused s refusal), { d with plan })

/-- The answer of the store to a statement, by the disturbance that it meets. -/
def answerTo (s : Statement) (run : Store → Except Refusal (α × Store))
    (overruled : Bool → Option α) : Work StoreError α := fun d =>
  if d.online then
    let plan := (d.plan.meet s).2
    match (d.plan.meet s).1 with
    | none => carryOut s run plan d
    -- which numbers the store takes is looked at where one is sent
    | some (.limited _) => carryOut s run plan d
    | some (.failure refusal) => (.error (.refused s refusal), { d with plan })
    | some (.breakdown message) => (.error (.broken message), { d with plan })
    | some .silence => (.error .unanswered, { d with plan })
    | some .noRows =>
      match overruled false with
      | some a => (.ok a, { d with plan })
      | none => carryOut s run plan d
    | some .found =>
      match overruled true with
      | some a => (.ok a, { d with plan })
      | none => carryOut s run plan d
  else (.error .disconnected, d)

/--
Sends a statement. `run` is what it does to an undisturbed store; `overruled` is its report when a
disturbance makes it report no row (`false`) or a row (`true`), for the statements where that can be
told.
-/
def send (s : Statement) (run : Store → Except Refusal (α × Store))
    (overruled : Bool → Option α) : Work StoreError α := do
  endGivenUp
  answerTo s run overruled

/-- Sends a statement that neither reads nor changes rows. -/
def control (s : Statement) : Work StoreError Unit :=
  send s (fun store => .ok ((), store)) fun _ => none

/-- Gives up the open transaction. -/
def giveUp (d : Desk) : Desk := { d with unended := true }

/-- Work inside an open transaction of the store, which is given up if the work fails. -/
def orGiveUp (w : Work StoreError α) : Work StoreError α := fun d =>
  match w d with
  | (.ok a, d') => (.ok a, d')
  | (.error e, d') => (.error e, d'.giveUp)

/-- A look at the books, which need the named table. -/
def ask (s : Statement) (table : String) (answer : Book → Except Refusal α) (nothing : α) :
    Work StoreError α :=
  send s
    (fun store =>
      match store.book with
      | none => .error (.missingTable table)
      | some book => (answer book).map fun a => (a, store))
    fun found => if found then none else some nothing

/-- A change of the books, which need the named table. -/
def change (s : Statement) (table : String) (run : Book → Except Refusal (α × Book)) (nothing : α) :
    Work StoreError α :=
  send s
    (fun store =>
      match store.book with
      | none => .error (.missingTable table)
      | some book => (run book).map fun r => (r.1, { store with book := some r.2 }))
    fun found => if found then none else some nothing

/-- The desk with the store put back. -/
def restore (d : Desk) (store : Store) : Desk := { d with store }

end Desk

end DoubleEntry
