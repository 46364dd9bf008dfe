import Tagboard.Proofs.AcceptedBoard
import Tagboard.Proofs.Compilation
import Tagboard.Proofs.PreparedEvaluation
import Tagboard.Search

/-!
# How a board answers a search

A search has its posts annotated with the counts that its categories read, and these are the counts
that its predicate asks for. A board therefore answers every search that compiles: it never finds a
count missing, and what it finds are its posts that satisfy the predicate, in ascending order.
-/

namespace Tagboard

namespace Aggregate

theorem mem_all (kind : Aggregate) : kind ∈ all := by cases kind <;> decide

@[simp] theorem mem_among_iff {kind : Aggregate} {kinds : List Aggregate} :
    kind ∈ among kinds ↔ kind ∈ kinds := by
  simp [among, mem_all kind]

end Aggregate

namespace Token

variable {t : Token} {e : SearchError}

theorem isValidation_of_requireEqual (failed : t.requireEqual = .error e) : e.isValidation = true := by
  unfold requireEqual at failed
  split at failed
  · cases failed
  · cases failed
    rfl

theorem isValidation_of_textMatch (failed : t.textMatch = .error e) : e.isValidation = true :=
  isValidation_of_requireEqual (map_eq_error_iff.mp failed)

theorem isValidation_of_valueOr {α : Type} {fault : ArgumentFault} {value? : Option α}
    (failed : t.valueOr fault value? = .error e) : e.isValidation = true := by
  unfold valueOr at failed
  split at failed
  · cases failed
  · cases failed
    rfl

/-- What is wrong with a token is a fault of the query, never of a store. -/
theorem isValidation_of_clause (failed : t.clause = .error e) : e.isValidation = true := by
  unfold clause at failed
  cases category : t.category with
  | tag => simp [category] at failed
  | tagAlias | commentBy | uploadedBy | source =>
      simp only [category, map_eq_error_iff] at failed
      exact isValidation_of_textMatch failed
  | postId | tagCount | commentCount | favoriteCount | ratingNumber | height | width =>
      simp only [category, unsignedComparison, signedComparison, map_eq_error_iff] at failed
      exact isValidation_of_valueOr failed
  | tagId =>
      simp only [category, bind_eq_error_iff] at failed
      rcases failed with unequal | ⟨_, -, unread | ⟨_, -, impossible⟩⟩
      · exact isValidation_of_requireEqual unequal
      · exact isValidation_of_valueOr unread
      · cases impossible
  | ratingLabel | mimetype =>
      simp only [category, bind_eq_error_iff] at failed
      rcases failed with unequal | ⟨_, -, unknown⟩
      · exact isValidation_of_requireEqual unequal
      · split at unknown <;> cases unknown
        rfl

end Token

/-- What keeps tokens from being compiled is a fault of the query, never of a store. -/
theorem isValidation_of_compile {tokens : List Token} {excluded : List TagId} {e : SearchError}
    (failed : compile tokens excluded = .error e) : e.isValidation = true := by
  obtain ⟨_, t, _, -, -, unpredicated⟩ := mapM_eq_error_iff.mp (compile_eq_error_iff.mp failed)
  exact Token.isValidation_of_clause (Token.predicate_eq_error_iff.mp unpredicated)

namespace AnnotatedPost

@[simp] theorem post_annotate (kinds : List Aggregate) (p : Post) : (annotate kinds p).post = p := rfl

/-- An annotated post knows the counts that it was annotated with. -/
theorem count?_annotate {kinds : List Aggregate} {kind : Aggregate} (annotated : kind ∈ kinds)
    (p : Post) : (annotate kinds p).count? kind = some (p.count kind) := by
  unfold count? annotate
  induction kinds with
  | nil => cases annotated
  | cons first rest ih =>
      rw [List.map_cons, List.lookup_cons]
      by_cases same : kind = first
      · simp [same]
      · have later : kind ∈ rest := (List.mem_cons.mp annotated).resolve_left same
        simpa [beq_false_of_ne same] using ih later

end AnnotatedPost

namespace Board

/-- The posts of a board that satisfy a compiled query, in ascending order. -/
def answer (b : Board) (query : CompiledQuery) : List Post :=
  (b.posts.filter fun p => b.holds query.predicate (.annotate query.aggregates p)).mergeSort
    fun p q => p.id ≤ q.id

theorem mem_answer_iff_holds {b : Board} {query : CompiledQuery} {p : Post} :
    p ∈ b.answer query ↔
      p ∈ b.posts ∧ b.holds query.predicate (.annotate query.aggregates p) = true := by
  rw [answer, (List.mergeSort_perm ..).mem_iff, List.mem_filter]

/-- No count is missing exactly if every post has every count. -/
theorem missingCount?_eq_none_iff {kinds : List Aggregate} {posts : List AnnotatedPost} :
    missingCount? kinds posts = none ↔ ∀ p ∈ posts, ∀ kind ∈ kinds, p.count? kind ≠ none := by
  rw [missingCount?, List.findSome?_eq_none_iff]
  refine forall₂_congr fun p _ => ?_
  rw [Option.map_eq_none_iff, List.find?_eq_none]
  simp

/-- Annotated posts lack none of the counts that they were annotated with. -/
theorem missingCount?_annotate {kinds read : List Aggregate} (covered : ∀ kind ∈ read, kind ∈ kinds)
    (posts : List Post) : missingCount? read (posts.map (.annotate kinds)) = none := by
  rw [missingCount?_eq_none_iff]
  intro annotated member kind hkind
  obtain ⟨p, -, rfl⟩ := List.mem_map.mp member
  simp [AnnotatedPost.count?_annotate (covered kind hkind)]

end Board

namespace Search

/-- A board answers exactly the searches that compile, and refuses the others as compiling does. -/
theorem posts_store_eq (s : Search) (b : Board) : s.posts b.store = s.compile.map b.answer := by
  rw [posts]
  cases compiled : s.compile with
  | error e => rfl
  | ok query =>
      have same : query.aggregates = query.predicate.aggregates := aggregates_of_compile compiled
      have covered : ∀ kind ∈ query.predicate.aggregates, kind ∈ query.aggregates :=
        fun kind hkind => same ▸ hkind
      have complete := Board.missingCount?_annotate covered b.posts
      have found : b.filterPosts (b.posts.map (.annotate query.aggregates)) query.predicate =
          .ok (b.answer query) := by
        rw [Board.filterPosts_eq_of_holds, complete, Board.answer, List.filter_map, List.map_map]
        simp [Function.comp_def]
      simp only [ok_bind, Board.store, asking, Except.mapError, found, Except.map]

/--
Whatever the tokens and the excluded tags, the counts that are annotated are those that the predicate
reads, so that a board answers every search that compiles and is never itself at fault.
-/
theorem annotated_counts_are_read (tokens : List Token) (excluded : List TagId) :
    (∀ query, Tagboard.compile tokens excluded = .ok query →
        query.aggregates = query.predicate.aggregates) ∧
      ∀ (b accepted : Board) (s : Search), b.accept = .ok accepted → s.tokens = tokens →
        s.excluded = excluded →
          (∀ e, s.posts accepted.store ≠ .error (.store e)) ∧
            ∀ query, Tagboard.compile tokens excluded = .ok query →
              s.posts accepted.store = .ok (accepted.answer query) := by
  refine ⟨fun query compiled => aggregates_of_compile compiled, ?_⟩
  rintro b accepted s - rfl rfl
  rw [posts_store_eq]
  constructor
  · intro e failed
    have blamed := isValidation_of_compile (map_eq_error_iff.mp failed)
    cases blamed
  · intro query compiled
    rw [compile, compiled]
    rfl

/-- An argument that no query can hold, with a plus sign, still compiles and has an answer. -/
theorem annotated_counts_are_read_plus_sign :
    let tokens : List Token := [⟨.tagCount, "tc", ⟨"+1", []⟩, some .less, true⟩]
    let b : Board :=
      ⟨[⟨5, "", "ann", [2], .safe, none, none, [], []⟩], [⟨2, "cat", none, 0, .safe⟩], []⟩
    let query : CompiledQuery := ⟨[.tagCount], .all [.not (.clause (.taggedWithAny [9])),
      .not (.clause (.aggregate .tagCount ⟨.less, 1⟩))]⟩
    b.accept = .ok b.settled ∧ Tagboard.compile tokens [9] = .ok query ∧
      query.aggregates = query.predicate.aggregates ∧
        posts { tokens, excluded := [9] } b.settled.store = .ok b.posts := by
  intro tokens b query
  have accepted : b.accept = .ok b.settled := rfl
  have compiled : Tagboard.compile tokens [9] = .ok query := by rfl
  have found : b.settled.answer query = b.posts := by
    have sorted : b.settled.posts = b.posts := List.mergeSort_singleton _
    rw [Board.answer, sorted]
    exact List.mergeSort_singleton _
  obtain ⟨same, answered⟩ := annotated_counts_are_read tokens [9]
  obtain ⟨-, answers⟩ := answered b b.settled { tokens, excluded := [9] } accepted rfl rfl
  exact ⟨accepted, compiled, same query compiled, found ▸ answers query compiled⟩

end Search

end Tagboard
