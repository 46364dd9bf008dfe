import Tagboard.Proofs.BoardOrder
import Tagboard.Proofs.PatternTranslations
import Tagboard.Proofs.PreparedEvaluation
import Tagboard.Proofs.SettledBoard
import Tagboard.Proofs.TokenMeaning

/-!
# What a predicate says about a post

`Predicate.Meaning` is what a predicate says: a conjunction says what all of its conditions say, a
negation the opposite of its condition, and a clause something about one property of a post, where a
pattern is found in a value as an expression of its own. An accepted board finds the posts of a list of
which this is true, and refuses a list in which a post lacks a count that stands anywhere in the predicate.
-/

namespace Tagboard

/-- Whether a value is a whole text, or is one in which an engine finds a pattern. -/
def TextMatch.Matches (engine : ExpressionEngine) (m : TextMatch) (value : String) : Prop :=
  match m with
  | .exact text => value = text
  | .pattern p => engine.finds (p.expression engine.quote) value.toList = true

/-- What a clause says about a post with counts. -/
def Clause.Meaning (engine : ExpressionEngine) (b : Board) (p : AnnotatedPost) : Clause → Prop
  | tagName text =>
      ∃ id ∈ p.post.tags, ∃ tag ∈ b.tags, tag.id = id ∧ text.Matches engine tag.name
  | tagAlias text =>
      ∃ id ∈ p.post.tags, ∃ a ∈ b.aliases, a.tagId = id ∧ text.Matches engine a.name
  | tagId id => id ∈ p.post.tags
  | taggedWithAny ids => ∃ id ∈ p.post.tags, id ∈ ids
  | postId comparison => comparison.relation.Relates p.post.id.toNat comparison.value.toNat
  | aggregate kind comparison =>
      ∃ count, p.count? kind = some count ∧
        comparison.relation.Relates count.toNat comparison.value.toNat
  | commentBy text => ∃ comment ∈ p.post.comments, text.Matches engine comment.author
  | uploadedBy text => text.Matches engine p.post.uploader
  | ratingLevel comparison => comparison.relation.Relates p.post.rating.level comparison.value.toInt
  | height comparison =>
      ∃ m, p.post.media = some m ∧ m.kind.isImage = true ∧
        comparison.relation.Relates m.height.toInt comparison.value.toInt
  | width comparison =>
      ∃ m, p.post.media = some m ∧ m.kind.isImage = true ∧
        comparison.relation.Relates m.width.toInt comparison.value.toInt
  | source text => ∃ address, p.post.source = some address ∧ text.Matches engine address
  | mediaType type => ∃ m, p.post.media = some m ∧ m.kind = type

namespace Predicate

/-- What a predicate says, given what its clauses say. -/
def Meaning (meaning : Clause → Prop) : Predicate → Prop
  | all conditions => ∀ condition ∈ conditions, Meaning meaning condition
  | not condition => ¬ Meaning meaning condition
  | clause c => meaning c

/-- Whether a post lacks a count that stands somewhere in a predicate. -/
def LacksCount (predicate : Predicate) (p : AnnotatedPost) : Prop :=
  ∃ kind comparison, predicate.Contains (.aggregate kind comparison) ∧ p.count? kind = none

/-- A predicate holds exactly if what it says is true, as soon as this is so of clauses. -/
theorem holds_iff_meaning {test : Clause → Bool} {meaning : Clause → Prop}
    (decides : ∀ c, test c = true ↔ meaning c) (predicate : Predicate) :
    predicate.holds test = true ↔ predicate.Meaning meaning := by
  induction predicate with
  | all conditions ih =>
      rw [holds_all, List.all_eq_true, Meaning]
      exact forall₂_congr ih
  | not condition ih => rw [holds_not, Bool.not_eq_true', Meaning, ← ih, Bool.not_eq_true]
  | clause c => rw [holds_clause, decides, Meaning]

theorem mem_aggregates_iff {predicate : Predicate} {kind : Aggregate} :
    kind ∈ predicate.aggregates ↔ ∃ comparison, predicate.Contains (.aggregate kind comparison) := by
  rw [aggregates, Aggregate.mem_among_iff, List.mem_filterMap]
  constructor
  · rintro ⟨c, visited, reads⟩
    cases c with
    | aggregate other comparison =>
        cases reads
        exact ⟨comparison, mem_clauses_iff_contains.mp visited⟩
    | _ => cases reads
  · rintro ⟨comparison, inside⟩
    exact ⟨.aggregate kind comparison, mem_clauses_iff_contains.mpr inside, rfl⟩

end Predicate

section Engine

variable {engine : ExpressionEngine} {spans : List Char → List Char → Prop}

/-- A text or a pattern is accepted in a value exactly if it matches there. -/
theorem TextMatch.accepts_iff_matches (documented : engine.IsDocumented spans) (m : TextMatch)
    (value : String) : m.accepts value = true ↔ m.Matches engine value := by
  cases m with
  | exact text => rw [accepts, beq_iff_eq, Matches, eq_comm]
  | pattern p => exact (documented.finds_expression_iff p value).symm

namespace Board

/-- A clause holds of a post exactly if what it says is true. -/
theorem clauseHolds_iff_meaning (documented : engine.IsDocumented spans) {b : Board}
    (distinct : (b.tags.map (·.id)).Nodup) (p : AnnotatedPost) (c : Clause) :
    b.clauseHolds p c = true ↔ c.Meaning engine b p := by
  cases c with
  | tagName text =>
      simp [clauseHolds, clauseHoldsBy, Clause.Meaning, Option.any_eq_true, tag?_eq_some_iff distinct,
        TextMatch.accepts_iff_matches documented, and_assoc]
  | tagAlias text | commentBy text | uploadedBy text | source text =>
      simp [clauseHolds, clauseHoldsBy, Clause.Meaning, Option.any_eq_true,
        TextMatch.accepts_iff_matches documented]
  | tagId id => exact List.contains_iff_mem
  | taggedWithAny ids => simp [clauseHolds, clauseHoldsBy, Clause.Meaning]
  | postId comparison => exact comparison.relation.holds_iff_relates_toNat _ _
  | aggregate kind comparison =>
      simp [clauseHolds, clauseHoldsBy, Clause.Meaning, Option.any_eq_true, Comparison.holds,
        Relation.holds_iff_relates_toNat]
  | ratingLevel comparison =>
      rw [clauseHolds, clauseHoldsBy, Comparison.holds, Relation.holds_iff_relates_toInt,
        Rating.toInt_level, Clause.Meaning]
  | height comparison | width comparison =>
      simp [clauseHolds, clauseHoldsBy, Clause.Meaning, Option.any_eq_true, Comparison.holds,
        Media.imageWith, Relation.holds_iff_relates_toInt]
  | mediaType type => simp [clauseHolds, clauseHoldsBy, Clause.Meaning, Option.any_eq_true]

/-- No count of a predicate is missing exactly if no post lacks one. -/
theorem missingCount?_aggregates_eq_none_iff {predicate : Predicate} {posts : List AnnotatedPost} :
    missingCount? predicate.aggregates posts = none ↔ ∀ p ∈ posts, ¬ predicate.LacksCount p := by
  rw [missingCount?_eq_none_iff]
  refine forall₂_congr fun p _ => ?_
  simp only [Predicate.mem_aggregates_iff, Predicate.LacksCount, not_exists, not_and, ne_eq,
    forall_exists_index]

open Classical in
/--
An accepted board judges a list of posts by what a predicate says, however it is nested. It refuses the
list exactly if a post lacks a count that stands anywhere in the predicate. Otherwise it gives the posts of
which the predicate says something true, each as often as it is listed, in ascending order and with posts
of one number as they were listed. Every pattern of the predicate has been made ready, and matches as it
does by itself.
-/
theorem filterPosts_by_meaning (documented : engine.IsDocumented spans) {b accepted : Board}
    (accepts : b.accept = .ok accepted) (predicate : Predicate) (posts : List AnnotatedPost) :
    ((∃ error, accepted.store.filterPosts posts predicate = .error error) ↔
        ∃ p ∈ posts, predicate.LacksCount p) ∧
      ((∀ p ∈ posts, ¬ predicate.LacksCount p) →
        ∃ found, accepted.store.filterPosts posts predicate = .ok found ∧
          SortsByRank (fun p => p.id.toNat) found
            ((posts.filter fun p => predicate.Meaning (Clause.Meaning engine accepted p)).map (·.post))) ∧
      ∀ c p, predicate.Contains c → c.text? = some (.pattern p) →
        ∃ glob, (PreparedPatterns.ofPredicate predicate).glob? p = some glob ∧
          ∀ value : List Char,
            Glob.accepts glob value = true ↔ engine.finds (p.expression engine.quote) value = true := by
  obtain ⟨consistent, rfl⟩ := accept_eq_ok_iff.mp accepts
  have meant (p : AnnotatedPost) : b.settled.holds predicate p = true ↔
      predicate.Meaning (Clause.Meaning engine b.settled p) :=
    Predicate.holds_iff_meaning
      (clauseHolds_iff_meaning documented consistent.settled.tagIds p) predicate
  have answered : b.settled.store.filterPosts posts predicate =
      b.settled.filterPosts posts predicate := rfl
  rw [answered, filterPosts_eq_of_holds]
  refine ⟨?_, fun complete => ?_, fun c p inside compares => ?_⟩
  · have incomplete : missingCount? predicate.aggregates posts ≠ none ↔
        ∃ p ∈ posts, predicate.LacksCount p := by
      simp only [ne_eq, missingCount?_aggregates_eq_none_iff, not_forall, not_not, exists_prop]
    rw [← incomplete]
    cases missingCount? predicate.aggregates posts <;> simp
  · have nothing := missingCount?_aggregates_eq_none_iff.mpr complete
    have same : posts.filter (b.settled.holds predicate) =
        posts.filter fun p => predicate.Meaning (Clause.Meaning engine b.settled p) :=
      List.filter_congr fun p _ => by rw [Bool.eq_iff_iff, meant, decide_eq_true_eq]
    rw [nothing, ← same]
    exact ⟨_, rfl, sortsByRank_mergeSort Post.id_le_iff _⟩
  · have ready := PreparedPatterns.glob?_ofPredicate
      (Predicate.mem_patterns_of_contains inside compares)
    refine ⟨p.glob, ready, fun value => ?_⟩
    rw [← String.toList_ofList (l := value), documented.finds_expression_iff]
    rfl

/-- A pattern that stands twice under negations, posts of one number, and a post without counts. -/
theorem filterPosts_by_meaning_nested :
    let engine := ExpressionEngine.backslashes
    let late : Post := ⟨9, "", "ann", [], .safe, none, none, [], []⟩
    let first : Post := ⟨5, "", "cy", [3], .safe, none, none, [], []⟩
    let second : Post := ⟨5, "", "bob", [2, 3], .safe, none, none, [], []⟩
    let wrong : Post := ⟨4, "", "bob", [2], .safe, none, none, [], []⟩
    let b : Board := ⟨[], [⟨2, "cat", none, 0, .safe⟩, ⟨3, "dog", none, 0, .safe⟩], [⟨8, "cur", 3⟩]⟩
    let p : Pattern := ⟨"c", [1]⟩
    let predicate : Predicate := .all [.not (.all [.clause (.tagName (.pattern p)),
      .not (.clause (.tagAlias (.pattern p)))]), .not (.clause (.aggregate .tagCount ⟨.greater, 7⟩))]
    let posts := [late, first, wrong, second].map (.annotate Aggregate.all)
    b.accept = .ok b.settled ∧
      (∃ error, b.settled.store.filterPosts [⟨late, []⟩] predicate = .error error) ∧
        b.settled.store.filterPosts posts predicate = .ok [first, second, late] ∧
          [first, second, late].Pairwise (fun p q => p.id.toNat ≤ q.id.toNat) ∧
            ∃ glob, (PreparedPatterns.ofPredicate predicate).glob? p = some glob ∧
              (Glob.accepts glob "cur".toList = true ↔
                engine.finds (p.expression engine.quote) "cur".toList = true) := by
  intro engine late first second wrong b p predicate posts
  have accepts : b.accept = .ok b.settled := rfl
  have documented := ExpressionEngine.isDocumented_backslashes
  obtain ⟨refused, -, ready⟩ := filterPosts_by_meaning documented accepts predicate [⟨late, []⟩]
  obtain ⟨-, answered, -⟩ := filterPosts_by_meaning documented accepts predicate posts
  have counts : predicate.Contains (.aggregate .tagCount ⟨.greater, 7⟩) :=
    .all (List.mem_cons_of_mem _ (List.mem_singleton_self _)) (.not .clause)
  have names : predicate.Contains (.tagName (.pattern p)) :=
    .all (List.mem_cons_self ..) (.not (.all (List.mem_cons_self ..) .clause))
  have complete : ∀ q ∈ posts, ¬ predicate.LacksCount q := by
    rintro q member ⟨kind, -, -, missing⟩
    obtain ⟨post, -, rfl⟩ := List.mem_map.mp member
    rw [AnnotatedPost.count?_annotate (Aggregate.mem_all kind)] at missing
    cases missing
  obtain ⟨glob, known, same⟩ := ready _ p names rfl
  have computed : b.settled.store.filterPosts posts predicate = .ok [first, second, late] := by cbv
  obtain ⟨found, answer, sorts⟩ := answered complete
  rw [computed] at answer
  cases answer
  refine ⟨accepts, refused.mpr ⟨_, List.mem_singleton_self _, .tagCount, _, counts, rfl⟩, computed,
    sorts.ascending, glob, known, same _⟩

end Board

end Engine

end Tagboard
