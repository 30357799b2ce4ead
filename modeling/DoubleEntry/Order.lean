/-!
# Sorted listings

Answers come in an order that callers rely on: identifiers ascending, histories newest first. Both
are built by insertion, which keeps the order of what compares equal and, for sets, drops repeats.
-/

namespace DoubleEntry.Order

variable {α : Type}

/-- Puts `a` before the first element that it does not come after. -/
def insert (before : α → α → Bool) (a : α) : List α → List α
  | [] => [a]
  | b :: rest => if before b a then b :: insert before a rest else a :: b :: rest

/-- Sorts by insertion from the right: elements of which neither comes before the other keep their order. -/
def sort (before : α → α → Bool) (l : List α) : List α := l.foldr (insert before) []

/-- Adds a text to an ascending list without repeats. -/
def addText (s : String) : List String → List String
  | [] => [s]
  | t :: rest => if s = t then t :: rest else if s < t then s :: t :: rest else t :: addText s rest

/-- The texts of a list, ascending and each once. -/
def distinctTexts (l : List String) : List String := l.foldr addText []

end DoubleEntry.Order
