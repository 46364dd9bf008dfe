import Tagboard.Proofs.WellFormedTokens

/-!
# Reading an argument and typing it

The wildcards of an argument are taken out when it is read and put back when it is typed again. Reading
fails on too many wildcards and on nothing else. What was read is typed as it was; what was typed is read
as it was, but for positions out of order or past the end, which come back as the offsets at which they
took effect.
-/

namespace Tagboard

namespace Token

open Pattern

/-- An argument without too many wildcards is read, with its wildcards in order, and typed as it was. -/
theorem exists_readArgument {typed : List Char} (few : typed.count wildcard ≤ maxWildcards) :
    ∃ p, readArgument typed = .ok p ∧ wildcard ∉ p.text.toList ∧ p.positions.Pairwise (· ≤ ·) ∧
      (∀ position ∈ p.positions, position ≤ p.text.length) ∧ p.typed = String.ofList typed := by
  have read : readArgument typed = .ok (ofText typed) := by
    rw [readArgument_eq, if_neg (Nat.not_lt.mpr few)]
  exact ⟨ofText typed, read, wildcard_not_mem_text_ofText typed, pairwise_wildcardPositions 0 typed,
    fun _ => le_length_of_mem_positions_ofText, typed_ofText typed⟩

/-- What is typed for a pattern is read with each wildcard at the offset at which it took effect. -/
theorem readArgument_typed {p : Pattern} (plain : wildcard ∉ p.text.toList)
    (few : p.positions.length ≤ maxWildcards) :
    readArgument p.typed.toList = .ok ⟨p.text, p.effectiveOffsets⟩ := by
  rw [← count_wildcard_typed plain] at few
  rw [readArgument_eq, if_neg (Nat.not_lt.mpr few), ofText_typed_eq plain]

/--
A text with at most four wildcards is read as a pattern whose plain text has none and whose positions are
in order and inside it, and that pattern is typed as the text; with more, reading fails and reports their
number. A plain text with at most four positions is typed as a text that is read as it, with each position
replaced by the greatest up to it, or by the length of the text where that is past the end; positions in
order and inside the text stay.
-/
theorem reading_inverts_typing (raw : String) (p : Pattern) :
    (raw.toList.count '*' ≤ 4 →
      ∃ q, readArgument raw.toList = .ok q ∧ '*' ∉ q.text.toList ∧ q.positions.Pairwise (· ≤ ·) ∧
        (∀ position ∈ q.positions, position ≤ q.text.length) ∧ q.typed = raw) ∧
    (5 ≤ raw.toList.count '*' →
      readArgument raw.toList = .error (.tooManyWildcards raw (raw.toList.count '*'))) ∧
    ('*' ∉ p.text.toList → p.positions.length ≤ 4 →
      readArgument p.typed.toList = .ok ⟨p.text, (List.range p.positions.length).map fun i =>
        min p.text.length ((p.positions.take (i + 1)).foldl max 0)⟩ ∧
      (p.positions.Pairwise (· ≤ ·) → (∀ position ∈ p.positions, position ≤ p.text.length) →
        readArgument p.typed.toList = .ok p)) := by
  refine ⟨fun few => ?_, fun many => ?_, fun plain few => ⟨readArgument_typed plain few, ?_⟩⟩
  · obtain ⟨q, read, plain, ascending, inside, typed⟩ := exists_readArgument few
    rw [String.ofList_toList] at typed
    exact ⟨q, read, plain, ascending, inside, typed⟩
  · have exceeded : maxWildcards < raw.toList.count wildcard := many
    rw [readArgument_eq, if_pos exceeded, String.ofList_toList]
    rfl
  · intro ascending inside
    rw [readArgument_typed plain few, effectiveOffsets_eq_positions ascending inside]

/-- Adjacent wildcards and wildcards at both ends, too many of them, and positions out of order, twice at
one offset and past the end. -/
theorem reading_inverts_typing_unordered :
    let typed : Pattern := ⟨"éa", [0, 1, 1, 2]⟩
    let unordered : Pattern := ⟨"añc", [2, 1, 9]⟩
    typed.typed = "*é**a*" ∧ readArgument "*é**a*".toList = .ok typed ∧
      readArgument "**a***".toList = .error (.tooManyWildcards "**a***" 5) ∧
      unordered.typed = "añ**c*" ∧ readArgument unordered.typed.toList = .ok ⟨"añc", [2, 2, 3]⟩ := by
  intro typed unordered
  have shown : typed.typed = "*é**a*" := by decide +kernel
  have offsets : unordered.effectiveOffsets = [2, 2, 3] := by decide +kernel
  obtain ⟨-, tooMany, put⟩ := reading_inverts_typing "**a***" typed
  obtain ⟨-, -, putUnordered⟩ := reading_inverts_typing "**a***" unordered
  obtain ⟨-, same⟩ := put (by decide +kernel) (by decide)
  have kept : readArgument typed.typed.toList = .ok typed := same (by decide) (by decide +kernel)
  obtain ⟨moved, -⟩ := putUnordered (by decide +kernel) (by decide)
  have read : readArgument unordered.typed.toList = .ok ⟨"añc", unordered.effectiveOffsets⟩ := moved
  rw [shown] at kept
  rw [offsets] at read
  exact ⟨shown, kept, tooMany (by decide +kernel), by decide +kernel, read⟩

end Token

end Tagboard
