/-!
# Splitting a sequence

`split` cuts a list at the elements that satisfy a test. The separators are dropped and empty
pieces are kept, so there is always one piece more than there are separators.
-/

namespace Tagboard.Text

/-- The pieces of a list between the elements that satisfy `isSeparator`. -/
def split {α : Type} (isSeparator : α → Bool) : List α → List (List α)
  | [] => [[]]
  | first :: rest =>
      if isSeparator first then [] :: split isSeparator rest
      else
        match split isSeparator rest with
        | [] => [[first]]
        | piece :: pieces => (first :: piece) :: pieces

@[simp] theorem split_nil {α : Type} (isSeparator : α → Bool) : split isSeparator [] = [[]] := rfl

/-- A list always has a first piece. -/
theorem split_ne_nil {α : Type} (isSeparator : α → Bool) (items : List α) :
    split isSeparator items ≠ [] := by
  cases items with
  | nil => simp
  | cons first rest =>
      simp only [split]
      split <;> (try split) <;> simp

/-- The list before the first element that satisfies the test and the list after it, if any does. -/
def cut? {α : Type} (isSeparator : α → Bool) : List α → Option (List α × List α)
  | [] => none
  | first :: rest =>
      if isSeparator first then some ([], rest)
      else (cut? isSeparator rest).map fun (before, after) => (first :: before, after)

/-- Joins lists with a separator between neighbours. -/
def join {α : Type} (separator : List α) : List (List α) → List α
  | [] => []
  | [piece] => piece
  | piece :: next :: pieces => piece ++ separator ++ join separator (next :: pieces)

end Tagboard.Text
