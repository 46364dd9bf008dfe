import Tagboard.OrderedSet

/-!
# Members of ordered sets

The ordered set of a list is strictly ascending and has the members of the list. A list that is strictly
ascending is its own ordered set.
-/

namespace Tagboard

variable {α : Type} [LT α] [DecidableLT α] {items : List α} {x y : α}

/-- A strictly ascending list is an ordered set already. -/
theorem orderedSet_eq_self (ascending : items.Pairwise (· < ·)) : orderedSet items = items := by
  induction items with
  | nil => rfl
  | cons x rest ih =>
      obtain ⟨least, later⟩ := List.pairwise_cons.mp ascending
      rw [orderedSet_cons, ih later]
      cases rest with
      | nil => rfl
      | cons y rest => rw [insertOnce, if_pos (least y (List.mem_cons_self ..))]

section Trichotomous

variable [Std.Trichotomous fun x y : α => x < y]

theorem mem_insertOnce_iff : y ∈ insertOnce x items ↔ y = x ∨ y ∈ items := by
  induction items with
  | nil => simp [insertOnce]
  | cons z rest ih =>
      rw [insertOnce]
      by_cases before : x < z
      · simp [before]
      · by_cases after : z < x
        · rw [if_neg before, if_pos after, List.mem_cons, ih, List.mem_cons]
          exact or_left_comm
        · have same : x = z := Std.Trichotomous.trichotomous x z before after
          rw [if_neg before, if_neg after, same]
          simp

/-- An ordered set has the members of the list that it comes from. -/
theorem mem_orderedSet_iff : y ∈ orderedSet items ↔ y ∈ items := by
  induction items with
  | nil => rfl
  | cons x rest ih => rw [orderedSet_cons, mem_insertOnce_iff, ih, List.mem_cons]

variable [Trans (fun x y : α => x < y) (fun x y : α => x < y) fun x y : α => x < y]

/-- Putting an element into an ascending list keeps it ascending. -/
theorem pairwise_insertOnce (x : α) (ascending : items.Pairwise (· < ·)) :
    (insertOnce x items).Pairwise (· < ·) := by
  induction items with
  | nil => simp [insertOnce]
  | cons y rest ih =>
      obtain ⟨least, later⟩ := List.pairwise_cons.mp ascending
      rw [insertOnce]
      by_cases before : x < y
      · rw [if_pos before, List.pairwise_cons, List.forall_mem_cons]
        exact ⟨⟨before, fun z member => Trans.trans before (least z member)⟩, ascending⟩
      · by_cases after : y < x
        · rw [if_neg before, if_pos after, List.pairwise_cons]
          refine ⟨fun z member => ?_, ih later⟩
          rcases mem_insertOnce_iff.mp member with rfl | inside
          · exact after
          · exact least z inside
        · rwa [if_neg before, if_neg after]

/-- An ordered set is strictly ascending. -/
theorem pairwise_orderedSet (items : List α) : (orderedSet items).Pairwise (· < ·) := by
  induction items with
  | nil => exact .nil
  | cons x rest ih => exact pairwise_insertOnce x ih

end Trichotomous

end Tagboard
