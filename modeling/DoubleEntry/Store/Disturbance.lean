import DoubleEntry.Store.Statement

/-!
# Disturbances

What goes wrong with the store is given beforehand, as a plan: which statement is disturbed, after how
many undisturbed ones, how many times, and how. An empty plan is a store that does all it is asked.

One kind is never used up. A store may take only numbers up to a greatest one in the statements of a name
that carry a number, and it does so from beginning to end.
-/

namespace DoubleEntry

inductive Effect where
  | failure (refusal : Refusal)
  /-- The statement fails, and no state code is given. -/
  | breakdown (message : String)
  /-- The store does not answer before the deadline. -/
  | silence
  /-- The statement does nothing and reports no row. -/
  | noRows
  /-- The statement reports that a row is there. -/
  | found
  /-- The statement takes no number above `most`, however often it was sent. -/
  | limited (most : Nat)
  deriving DecidableEq, Repr

/-- A statement with this effect takes the number. -/
def Effect.takes (n : Nat) : Effect → Bool
  | limited most => n ≤ most
  | _ => true

/-- A disturbance of the statements of one name. -/
structure Disturbance where
  statement : Statement
  /-- How many of the statements are still left alone. -/
  skip : Nat
  /-- How many are disturbed after that. -/
  times : Nat
  effect : Effect
  deriving DecidableEq, Repr

/-- The disturbances to come, the oldest first. -/
abbrev Plan := List Disturbance

namespace Plan

/--
What the next statement of a name meets, and the plan after it. Only the oldest disturbance with
anything left is looked at.
-/
def meet (s : Statement) : Plan → Option Effect × Plan
  | [] => (none, [])
  | d :: rest =>
    if d.statement = s ∧ 0 < d.times then
      if 0 < d.skip then (none, { d with skip := d.skip - 1 } :: rest)
      else (some d.effect, { d with times := d.times - 1 } :: rest)
    else ((meet s rest).1, d :: (meet s rest).2)

def withoutSilence (p : Plan) : Plan := p.filter fun d => d.effect != .silence

/-- Statements of a name take the number, whether or not they are disturbed otherwise. -/
def takes (p : Plan) (s : Statement) (n : Nat) : Bool :=
  p.all fun d => d.statement != s || d.effect.takes n

@[simp] theorem meet_nil (s : Statement) : meet s [] = (none, []) := rfl

end Plan

end DoubleEntry
