/-!
# Ordered sets

A finite set written as the ascending list of its members.
-/

namespace Tagboard

variable {α : Type} [LT α] [DecidableLT α]

/-- Puts an element into an ascending list, unless it is there already. -/
def insertOnce (x : α) : List α → List α
  | [] => [x]
  | y :: rest =>
      if x < y then x :: y :: rest
      else if y < x then y :: insertOnce x rest
      else y :: rest

/-- The members of a list in ascending order, each once. -/
def orderedSet (items : List α) : List α := items.foldr insertOnce []

@[simp] theorem orderedSet_nil : orderedSet ([] : List α) = [] := rfl

@[simp] theorem orderedSet_cons (x : α) (items : List α) :
    orderedSet (x :: items) = insertOnce x (orderedSet items) := rfl

example : orderedSet [3, 1, 2, 3] = [1, 2, 3] := by decide

end Tagboard
