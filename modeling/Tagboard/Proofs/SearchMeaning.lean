import Tagboard.Proofs.OrderedSets
import Tagboard.Proofs.TokenMeaning

/-!
# What a search finds

The posts that a search finds on an accepted board are exactly the posts of the board that have none
of the excluded tags and that every token asks for. They are found as they are, each once, in
strictly ascending order.
-/

namespace Tagboard

theorem Search.mem_excluded_exclude_iff {s : Search} {excluded : List TagId} {id : TagId} :
    id ∈ (s.exclude excluded).excluded ↔ id ∈ excluded :=
  mem_orderedSet_iff

variable {b : Board}

/-- The predicate of a read token holds exactly if the token matches, or does not where it is negated. -/
theorem Token.IsRead.holds_predicate_iff {t : Token} (read : t.IsRead) {predicate : Predicate}
    (compiled : t.predicate = .ok predicate) (consistent : b.Consistent) {kinds : List Aggregate}
    (annotated : ∀ kind, t.category.aggregate? = some kind → kind ∈ kinds) (p : Post) :
    b.settled.holds predicate (.annotate kinds p) = true ↔ (t.Matches b p ↔ t.negated = false) := by
  obtain ⟨c, hclause, rfl⟩ := Token.predicate_eq_ok_iff.mp compiled
  rw [← read.clauseHolds_iff_matches hclause consistent annotated]
  cases t.negated <;> simp [Board.holds]

namespace Board

/-- The exclusion of tags holds of the posts that have none of them. -/
theorem all_exclusion_iff {excluded : List TagId} (annotated : AnnotatedPost) :
    (exclusion excluded).all (fun condition => b.holds condition annotated) = true ↔
      ∀ id ∈ annotated.post.tags, id ∉ excluded := by
  unfold exclusion
  cases excluded with
  | nil => simp
  | cons first rest => simp [holds, Predicate.negate, clauseHolds, clauseHoldsBy]

/-- A compiled query asks for what its tokens ask for, and for none of the excluded tags. -/
theorem holds_compile_iff {tokens : List Token} (read : ∀ t ∈ tokens, t.IsRead)
    {excluded : List TagId} {query : CompiledQuery} (compiled : compile tokens excluded = .ok query)
    (consistent : b.Consistent) (p : Post) :
    b.settled.holds query.predicate (.annotate query.aggregates p) = true ↔
      (∀ id ∈ p.tags, id ∉ excluded) ∧ ∀ t ∈ tokens, (t.Matches b p ↔ t.negated = false) := by
  obtain ⟨conditions, success, rfl⟩ := compile_eq_ok_iff.mp compiled
  have annotated : ∀ t ∈ tokens, ∀ kind, t.category.aggregate? = some kind →
      kind ∈ requiredAggregates tokens := by
    intro t member kind reads
    exact Aggregate.mem_among_iff.mpr (List.mem_filterMap.mpr ⟨t, member, reads⟩)
  have asked : (∀ condition ∈ conditions,
        b.settled.holds condition (.annotate (requiredAggregates tokens) p) = true) ↔
      ∀ t ∈ tokens, (t.Matches b p ↔ t.negated = false) := by
    rw [forall_mem_results_iff success]
    refine forall₂_congr fun t member => ?_
    obtain ⟨predicate, hpredicate⟩ := exists_mapM_eq_ok_iff.mp ⟨conditions, success⟩ t member
    rw [← (read t member).holds_predicate_iff hpredicate consistent (annotated t member) p]
    simp [hpredicate]
  rw [← asked, ← AnnotatedPost.post_annotate (requiredAggregates tokens) p,
    ← all_exclusion_iff (b := b.settled), ← List.all_eq_true]
  simp [holds, List.all_append]

/-- The answer of an accepted board has the posts that the tokens ask for, without excluded tags. -/
theorem mem_answer_iff {tokens : List Token} (read : ∀ t ∈ tokens, t.IsRead)
    {excluded : List TagId} {query : CompiledQuery} (compiled : compile tokens excluded = .ok query)
    (consistent : b.Consistent) {p : Post} :
    p ∈ b.settled.answer query ↔
      p ∈ b.posts ∧ (∀ id ∈ p.tags, id ∉ excluded) ∧
        ∀ t ∈ tokens, (t.Matches b p ↔ t.negated = false) := by
  rw [mem_answer_iff_holds, mem_posts_settled, holds_compile_iff read compiled consistent]

/-- The answer of an accepted board is in strictly ascending order. -/
theorem pairwise_answer (consistent : b.Consistent) (query : CompiledQuery) :
    (b.settled.answer query).Pairwise fun p q => p.id < q.id := by
  apply pairwise_mergeSort_of_nodup
  exact (nodup_ids_settled consistent).sublist (List.Sublist.map _ List.filter_sublist)

end Board

end Tagboard
