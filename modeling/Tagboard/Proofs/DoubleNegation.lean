import Tagboard.Proofs.Compilation
import Tagboard.Proofs.PreparedEvaluation

/-!
# Negating twice

The opposite of a negation is what it negates, so a predicate that is negated twice loses one sign and
gets one back. It is the same predicate again, unless it starts with two signs: of these both are lost.
What is left has the same clauses and holds of the same posts, so no store can tell the two apart. The
predicates of tokens and of queries start with one sign at most.
-/

namespace Tagboard

namespace Predicate

variable {p : Predicate}

/-- No predicate is its own double negation. -/
theorem ne_not_not (p : Predicate) : p ≠ not (not p) := by
  intro same
  have size := congrArg sizeOf same
  simp only [not.sizeOf_spec] at size
  omega

/-- A predicate that starts with one sign at most comes back from being negated twice. -/
theorem negate_negate_of_single (single : ∀ q, p ≠ not (not q)) : p.negate.negate = p := by
  cases p with
  | all conditions => rfl
  | clause c => rfl
  | not condition =>
      cases condition with
      | all conditions => rfl
      | clause c => rfl
      | not inner => exact absurd rfl (single inner)

/-- The opposite condition has the same clauses, in the same order. -/
theorem clauses_negate (p : Predicate) : p.negate.clauses = p.clauses := by
  cases p <;> rfl

/-- No token stands for a double negation. -/
theorem single_of_token {t : Token} (compiled : t.predicate = .ok p) : ∀ q, p ≠ not (not q) := by
  obtain ⟨c, -, rfl⟩ := Token.predicate_eq_ok_iff.mp compiled
  rintro q same
  split at same <;> cases same

/-- No query stands for a double negation. -/
theorem single_of_compile {tokens : List Token} {excluded : List TagId} {query : CompiledQuery}
    (compiled : compile tokens excluded = .ok query) : ∀ q, query.predicate ≠ not (not q) := by
  obtain ⟨conditions, -, rfl⟩ := compile_eq_ok_iff.mp compiled
  rintro q same
  cases same

end Predicate

/-- A board gives the same answer for a predicate that has been negated twice, whatever its signs. -/
theorem Board.filterPosts_negate_negate (b : Board) (posts : List AnnotatedPost) (p : Predicate) :
    b.filterPosts posts p.negate.negate = b.filterPosts posts p := by
  have counts : p.negate.negate.aggregates = p.aggregates := by
    rw [Predicate.aggregates, Predicate.clauses_negate, Predicate.clauses_negate, Predicate.aggregates]
  have found : b.holds p.negate.negate = b.holds p := by
    funext post
    rw [Board.holds, Board.holds, Predicate.holds_negate, Predicate.holds_negate, Bool.not_not]
  rw [filterPosts_eq_of_holds, filterPosts_eq_of_holds, counts, found]

namespace Predicate

/--
A predicate that is negated twice is the same again exactly if it is no double negation; of a double
negation what it negates twice is left, for which every board gives the same answer. So negating twice
changes nothing where the predicate is that of a token or of a query.
-/
theorem negating_twice_restores_iff (p : Predicate) :
    (p.negate.negate = p ↔ ∀ q, p ≠ not (not q)) ∧
      (∀ q, p = not (not q) → p.negate.negate = q) ∧
      (∀ (b : Board) (posts : List AnnotatedPost),
        b.filterPosts posts p.negate.negate = b.filterPosts posts p) ∧
      (∀ t : Token, t.predicate = .ok p → p.negate.negate = p) ∧
      ∀ (tokens : List Token) (excluded : List TagId) (query : CompiledQuery),
        compile tokens excluded = .ok query → query.predicate.negate.negate = query.predicate := by
  have restored : p.negate.negate = p ↔ ∀ q, p ≠ not (not q) := by
    refine ⟨fun same q double => ?_, negate_negate_of_single⟩
    rw [double] at same
    -- both signs are gone
    exact ne_not_not q same
  refine ⟨restored, fun q double => ?_, fun b posts => b.filterPosts_negate_negate posts p,
    fun t compiled => negate_negate_of_single (single_of_token compiled),
    fun tokens excluded query compiled => negate_negate_of_single (single_of_compile compiled)⟩
  rw [double]
  rfl

/-- The double negation of a clause is not the same again after it has been negated twice. -/
theorem negate_negate_ne_of_double :
    let p : Predicate := not (not (clause (.tagId 7)))
    p.negate.negate = clause (.tagId 7) ∧ p.negate.negate ≠ p := by
  intro p
  exact ⟨rfl, ne_not_not _⟩

end Predicate

end Tagboard
