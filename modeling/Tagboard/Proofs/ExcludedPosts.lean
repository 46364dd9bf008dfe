import Mathlib.Data.List.Sort
import Tagboard.Api.Service
import Tagboard.Proofs.SearchMeaning

/-!
# Excluded posts leave no trace

What a predicate says of a post depends on the post, on the names of the tags and on the further
names, and on no other post. A compiled query moreover refuses every post with an excluded tag. Two
boards that differ only in such posts therefore answer every search alike, be it with posts or with an
error.
-/

namespace Tagboard

namespace Board

/-- Boards with the same tags, further names and posts, but for the posts with one of some tags. -/
structure AgreeOutside (excluded : List TagId) (b b' : Board) : Prop where
  tags : b.tags = b'.tags
  aliases : b.aliases = b'.aliases
  /-- A post with none of the tags is on both boards or on neither. -/
  posts : ∀ p : Post, (∀ id ∈ p.tags, id ∉ excluded) → (p ∈ b.posts ↔ p ∈ b'.posts)

namespace AgreeOutside

variable {excluded : List TagId} {b b' : Board}

/-- Boards agree if dropping the posts with one of the tags leaves the same posts. -/
theorem of_filter_eq (tags : b.tags = b'.tags) (aliases : b.aliases = b'.aliases)
    (posts : (b.posts.filter fun p => p.tags.all fun id => !excluded.contains id) =
      b'.posts.filter fun p => p.tags.all fun id => !excluded.contains id) :
    AgreeOutside excluded b b' where
  tags := tags
  aliases := aliases
  posts p avoids := by
    have kept (c : Board) :
        (p ∈ c.posts.filter fun p => p.tags.all fun id => !excluded.contains id) ↔ p ∈ c.posts := by
      simpa using fun _ => avoids
    rw [← kept b, posts, kept b']

/-- Boards that agree outside of some tags agree outside of more tags. -/
theorem mono (agree : AgreeOutside excluded b b') {more : List TagId}
    (included : ∀ id ∈ excluded, id ∈ more) : AgreeOutside more b b' where
  tags := agree.tags
  aliases := agree.aliases
  posts p avoids := agree.posts p fun id tagged => mt (included id) (avoids id tagged)

end AgreeOutside

variable {b b' : Board}

/-- Counting the tags anew changes nothing about the clauses that hold. -/
theorem clauseHolds_settled (b : Board) (p : AnnotatedPost) (c : Clause) :
    b.settled.clauseHolds p c = b.clauseHolds p c := by
  cases c with
  | tagName text => simp only [clauseHolds, clauseHoldsBy, tag?_settled, Option.any_map]
  | _ => rfl

theorem holds_settled (b : Board) (predicate : Predicate) (p : AnnotatedPost) :
    b.settled.holds predicate p = b.holds predicate p := by
  rw [holds, holds, funext (clauseHolds_settled b p)]

/-- What holds of a post depends on the tags and the further names of the board alone. -/
theorem holds_congr (tags : b.tags = b'.tags) (aliases : b.aliases = b'.aliases)
    (predicate : Predicate) (p : AnnotatedPost) : b.holds predicate p = b'.holds predicate p := by
  have clauses : b.clauseHolds p = b'.clauseHolds p := by
    funext c
    cases c <;> simp only [clauseHolds, clauseHoldsBy, tag?, tags, aliases]
  rw [holds, holds, clauses]

/-- A compiled query refuses every post with an excluded tag, whatever its tokens are. -/
theorem avoids_of_holds_compile {tokens : List Token} {excluded : List TagId} {query : CompiledQuery}
    (compiled : compile tokens excluded = .ok query) {annotated : AnnotatedPost}
    (satisfied : b.holds query.predicate annotated = true) :
    ∀ id ∈ annotated.post.tags, id ∉ excluded := by
  obtain ⟨conditions, -, rfl⟩ := compile_eq_ok_iff.mp compiled
  rw [holds, Predicate.holds_all, List.all_append, Bool.and_eq_true] at satisfied
  exact (all_exclusion_iff annotated).mp satisfied.1

/-- No post of an answer has an excluded tag. -/
theorem avoids_of_mem_answer {tokens : List Token} {excluded : List TagId} {query : CompiledQuery}
    (compiled : compile tokens excluded = .ok query) {p : Post} (found : p ∈ b.answer query) :
    ∀ id ∈ p.tags, id ∉ excluded :=
  avoids_of_holds_compile compiled (mem_answer_iff_holds.mp found).2

/-- Accepted boards that agree outside of the excluded tags have the same answers. -/
theorem AgreeOutside.answer_eq {excluded : List TagId} (agree : AgreeOutside excluded b b')
    (consistent : b.Consistent) (consistent' : b'.Consistent) {tokens : List Token}
    {query : CompiledQuery} (compiled : compile tokens excluded = .ok query) :
    b.settled.answer query = b'.settled.answer query := by
  -- both answers are strictly ascending, so that their members determine them
  have asymm : Std.Asymm fun p q : Post => p.id < q.id := ⟨fun _ _ => UInt64.lt_asymm⟩
  refine (pairwise_answer consistent query).eq_of_mem_iff (pairwise_answer consistent' query)
    fun p => ?_
  simp only [mem_answer_iff_holds, mem_posts_settled, holds_settled,
    holds_congr agree.tags agree.aliases]
  refine and_congr_left fun satisfied => agree.posts p ?_
  exact avoids_of_holds_compile compiled satisfied

end Board

namespace Search

variable {excluded : List TagId}

/-- A search has the same result on accepted boards that agree outside of its excluded tags. -/
theorem posts_eq_of_agreeOutside (s : Search) {b b' accepted accepted' : Board}
    (agree : b.AgreeOutside excluded b') (accepts : b.accept = .ok accepted)
    (accepts' : b'.accept = .ok accepted') :
    (s.exclude excluded).posts accepted.store = (s.exclude excluded).posts accepted'.store := by
  obtain ⟨consistent, rfl⟩ := Board.accept_eq_ok_iff.mp accepts
  obtain ⟨consistent', rfl⟩ := Board.accept_eq_ok_iff.mp accepts'
  have agree := agree.mono fun id => (mem_excluded_exclude_iff (s := s)).mpr
  rw [posts_store_eq, posts_store_eq]
  cases compiled : (s.exclude excluded).compile with
  | error e => simp only [Except.map]
  | ok query => simp only [Except.map, agree.answer_eq consistent consistent' compiled]

/-- A search on any board finds no post with an excluded tag. -/
theorem avoids_of_posts_eq_ok {s : Search} {b : Board} {found : List Post}
    (answered : (s.exclude excluded).posts b.store = .ok found) :
    ∀ p ∈ found, ∀ id ∈ p.tags, id ∉ excluded := by
  rw [posts_store_eq, map_eq_ok_iff] at answered
  obtain ⟨query, compiled, rfl⟩ := answered
  intro p member id tagged
  exact mt mem_excluded_exclude_iff.mpr (Board.avoids_of_mem_answer compiled member id tagged)

end Search

namespace Service

/--
Requests have the same result, posts or an error, on two accepted boards that differ only in posts with
a tag that is hidden by the settings or excluded by the request, and never find such a post.
-/
theorem excluded_posts_are_invisible (config : Config) {b b' accepted accepted' : Board}
    (accepts : b.accept = .ok accepted) (accepts' : b'.accept = .ok accepted') :
    (∀ query excluded, b.AgreeOutside (config.hiddenTags ++ excluded) b' →
        search ⟨accepted.store, config⟩ query excluded =
          search ⟨accepted'.store, config⟩ query excluded) ∧
      (∀ fields, b.AgreeOutside config.hiddenTags b' →
        searchForm ⟨accepted.store, config⟩ fields = searchForm ⟨accepted'.store, config⟩ fields) ∧
      (∀ query excluded found, search ⟨accepted.store, config⟩ query excluded = .ok found →
        ∀ p ∈ found, ∀ id ∈ p.tags, id ∉ config.hiddenTags ++ excluded) ∧
      ∀ fields found, searchForm ⟨accepted.store, config⟩ fields = .ok found →
        ∀ p ∈ found, ∀ id ∈ p.tags, id ∉ config.hiddenTags := by
  refine ⟨fun query excluded agree => ?_, fun fields agree => ?_,
    fun query excluded found answered => ?_, fun fields found answered => ?_⟩
  · unfold search
    exact congrArg _ (funext fun s => s.posts_eq_of_agreeOutside agree accepts accepts')
  · unfold searchForm
    exact congrArg _ (funext fun s => s.posts_eq_of_agreeOutside agree accepts accepts')
  · obtain ⟨s, -, answered⟩ := bind_eq_ok_iff.mp answered
    exact Search.avoids_of_posts_eq_ok answered
  · obtain ⟨s, -, answered⟩ := bind_eq_ok_iff.mp answered
    exact Search.avoids_of_posts_eq_ok answered

/-- A post with a hidden tag is removed and another one changed: requests find what they found. -/
theorem excluded_posts_are_invisible_hidden :
    let cat : Post := ⟨7, "", "ann", [1], .safe, none, none, [], []⟩
    let owl : Post := ⟨8, "", "ann", [1, 3], .safe, none, none, [], []⟩
    let tags : List Tag :=
      [⟨1, "cat", none, 0, .safe⟩, ⟨2, "gore", none, 0, .safe⟩, ⟨3, "owl", none, 0, .safe⟩]
    let b : Board := ⟨[⟨9, "", "eve", [2], .safe, none, none, [], []⟩, cat,
      ⟨5, "", "ann", [1, 2], .safe, none, none, [], []⟩, owl], tags, []⟩
    let b' : Board := ⟨[⟨5, "", "bob", [2], .explicit, none, none, [], []⟩, cat, owl], tags, []⟩
    let config : Config := { hiddenTags := [2] }
    b.accept = .ok b.settled ∧ b'.accept = .ok b'.settled ∧ b.AgreeOutside config.hiddenTags b' ∧
      search ⟨b.settled.store, config⟩ "-up=b* c*t" [3] = .ok [cat] ∧
        searchForm ⟨b.settled.store, config⟩ [("uploaded_by", "b*"), ("uploaded_by_negate", "on")] =
          .ok [cat, owl] := by
  intro cat owl tags b b' config
  have accepts : b.accept = .ok b.settled := rfl
  have accepts' : b'.accept = .ok b'.settled := rfl
  have agree : b.AgreeOutside config.hiddenTags b' := .of_filter_eq rfl rfl (by decide)
  obtain ⟨searched, submitted, -, -⟩ := excluded_posts_are_invisible config accepts accepts'
  have sorted : b'.settled.posts = b'.posts := List.mergeSort_of_pairwise (by decide)
  refine ⟨accepts, accepts', agree, ?_, ?_⟩
  · rw [searched _ _ (agree.mono fun id => List.mem_append_left [3])]
    let s : Search := { word := "c*t", tokens := [
      ⟨.uploadedBy, "up", ⟨"b", [1]⟩, some .equal, true⟩, ⟨.tag, "c*t", ⟨"ct", [1]⟩, none, false⟩] }
    have read : Search.ofQuery "-up=b* c*t" = .ok s := rfl
    let query : CompiledQuery := ⟨[], .all [.not (.clause (.taggedWithAny [2, 3])),
      .not (.clause (.uploadedBy (.pattern ⟨"b", [1]⟩))), .clause (.tagName (.pattern ⟨"ct", [1]⟩))]⟩
    have compiled : (s.exclude (config.hiddenTags ++ [3])).compile = .ok query := rfl
    have kept : (b'.posts.filter fun p =>
        b'.settled.holds query.predicate (.annotate query.aggregates p)) = [cat] := by decide +kernel
    rw [search, read, ok_bind, Search.posts_store_eq, compiled, Except.map, Board.answer, sorted, kept,
      List.mergeSort_singleton]
  · rw [submitted _ agree]
    let s : Search := { tokens := [⟨.uploadedBy, "uploaded_by", ⟨"b", [1]⟩, some .equal, true⟩] }
    have read : Search.ofForm (Form.ofPairs [("uploaded_by", "b*"), ("uploaded_by_negate", "on")]) =
        .ok s := rfl
    let query : CompiledQuery := ⟨[], .all [.not (.clause (.taggedWithAny [2])),
      .not (.clause (.uploadedBy (.pattern ⟨"b", [1]⟩)))]⟩
    have compiled : (s.exclude config.hiddenTags).compile = .ok query := rfl
    have kept : (b'.posts.filter fun p =>
        b'.settled.holds query.predicate (.annotate query.aggregates p)) = [cat, owl] := by
      decide +kernel
    rw [searchForm, read, ok_bind, Search.posts_store_eq, compiled, Except.map, Board.answer, sorted,
      kept, List.mergeSort_of_pairwise (by decide)]

end Service

end Tagboard
