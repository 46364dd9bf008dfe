import Tagboard.Pattern

/-!
# Where wildcards take effect

The positions of the wildcards of a pattern may be given out of order, and past the end of its text. A
wildcard takes effect no earlier than those before it, and no later than the end of the text. Positions
that are in order and inside the text are the offsets themselves.
-/

namespace Tagboard

namespace Pattern

/-- The offset at which a wildcard takes effect: the greatest position up to its own, inside the text. -/
def effectiveOffset (p : Pattern) (wildcard : Nat) : Nat :=
  min p.text.length ((p.positions.take (wildcard + 1)).foldl max 0)

/-- The offsets at which the wildcards take effect, in order. -/
def effectiveOffsets (p : Pattern) : List Nat :=
  (List.range p.positions.length).map p.effectiveOffset

/-- The offsets of the positions that are left once an offset has been reached. -/
def offsetsFrom (stop reached : Nat) : List Nat → List Nat
  | [] => []
  | position :: rest =>
      min stop (max reached position) :: offsetsFrom stop (min stop (max reached position)) rest

/-- The end of the text bounds the greatest position once and for all. -/
theorem min_foldl_max (stop reached : Nat) (positions : List Nat) :
    min stop (positions.foldl max (min stop reached)) = min stop (positions.foldl max reached) := by
  induction positions generalizing reached with
  | nil => simp
  | cons position rest ih =>
      have bounded : min stop (max (min stop reached) position) = min stop (max reached position) := by
        omega
      rw [List.foldl_cons, List.foldl_cons, ← ih (max (min stop reached) position), bounded, ih]

theorem offsetsFrom_eq_map (stop reached : Nat) (positions : List Nat) :
    offsetsFrom stop reached positions =
      (List.range positions.length).map fun i =>
        min stop ((positions.take (i + 1)).foldl max reached) := by
  induction positions generalizing reached with
  | nil => rfl
  | cons position rest ih =>
      rw [offsetsFrom, ih, List.length_cons, List.range_succ_eq_map, List.map_cons, List.map_map]
      refine congrArg (min stop (max reached position) :: ·) (List.map_congr_left fun i _ => ?_)
      exact min_foldl_max stop (max reached position) (rest.take (i + 1))

theorem effectiveOffsets_eq (p : Pattern) :
    p.effectiveOffsets = offsetsFrom p.text.length 0 p.positions :=
  (offsetsFrom_eq_map ..).symm

/-- While the next position is ahead, it does not matter that one more character has been passed. -/
theorem offsetsFrom_ahead {stop index : Nat} {positions : List Nat}
    (ahead : ∀ position ∈ positions.head?, index < position) :
    offsetsFrom stop (index + 1) positions = offsetsFrom stop index positions := by
  cases positions with
  | nil => rfl
  | cons position rest =>
      have later : index < position := ahead position rfl
      have same : max (index + 1) position = max index position := by omega
      rw [offsetsFrom, offsetsFrom, same]

/-- A position that has been reached, or any position at the end of the text, takes effect at once. -/
theorem offsetsFrom_of_due {index position : Nat} {text : List Char}
    (due : text = [] ∨ position ≤ index) (positions : List Nat) :
    offsetsFrom (index + text.length) index (position :: positions) =
      index :: offsetsFrom (index + text.length) index positions := by
  have here : min (index + text.length) (max index position) = index := by
    rcases due with rfl | reached
    · rw [List.length_nil]
      omega
    · omega
  rw [offsetsFrom, here]

/-- Positions that are in order and not past the end are the offsets at which they take effect. -/
theorem offsetsFrom_eq_self {stop reached : Nat} {positions : List Nat}
    (ascending : positions.Pairwise (· ≤ ·))
    (inside : ∀ position ∈ positions, reached ≤ position ∧ position ≤ stop) :
    offsetsFrom stop reached positions = positions := by
  induction positions generalizing reached with
  | nil => rfl
  | cons position rest ih =>
      rw [List.pairwise_cons] at ascending
      rw [List.forall_mem_cons] at inside
      have here : min stop (max reached position) = position := by omega
      rw [offsetsFrom, here]
      refine congrArg (position :: ·) (ih ascending.2 fun later member => ?_)
      exact ⟨ascending.1 later member, (inside.2 later member).2⟩

theorem effectiveOffsets_eq_positions {p : Pattern} (ascending : p.positions.Pairwise (· ≤ ·))
    (inside : ∀ position ∈ p.positions, position ≤ p.text.length) :
    p.effectiveOffsets = p.positions := by
  rw [effectiveOffsets_eq]
  exact offsetsFrom_eq_self ascending fun position member =>
    ⟨Nat.zero_le position, inside position member⟩

end Pattern

end Tagboard
