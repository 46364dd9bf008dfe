import Mathlib
import Tagboard.Proofs.SearchMeaning
import Tagboard.Proofs.TypedText

/-!
# Queries combine like sets

What a query finds on an accepted board depends on the set of its words alone: a post is found exactly
if it is what each word asks for. Joining two queries therefore finds the posts that both find, words may
be repeated and put into another order, and a word and its opposite share the posts out between them.
-/

namespace Tagboard

open Text

namespace Text

/-- The words of two texts joined by a blank are the words of both. -/
theorem words_append (s s' : String) :
    words (s ++ " " ++ s').toList = words s.toList ++ words s'.toList := by
  have joined : (s ++ " " ++ s').toList = s.toList ++ ' ' :: s'.toList := by simp
  rw [joined, words_append_blank (by decide)]

end Text

namespace Token

/-- Whether a word of a query is a token that compiles. -/
def IsSearchable (word : List Char) : Prop :=
  ∃ t, ofWord word = .ok t ∧ ∃ condition, t.predicate = .ok condition

/-- Whether a post of a board is what a word of a query asks for. -/
def AsksFor (word : List Char) (b : Board) (p : Post) : Prop :=
  ∃ t, ofWord word = .ok t ∧ (t.Matches b p ↔ t.negated = false)

variable {word : List Char} {t : Token}

theorem asksFor_iff_of_ofWord (read : ofWord word = .ok t) {b : Board} {p : Post} :
    AsksFor word b p ↔ (t.Matches b p ↔ t.negated = false) := by
  simp [AsksFor, read]

theorem isSearchable_iff_of_ofWord (read : ofWord word = .ok t) :
    IsSearchable word ↔ ∃ condition, t.predicate = .ok condition := by
  simp [IsSearchable, read]

/-- A word without a hyphen in front is no negation. -/
theorem splitNegation_of_head? (noHyphen : word.head? ≠ some '-') :
    splitNegation word = (false, word) := by
  unfold splitNegation
  split
  · exact absurd rfl noHyphen
  · rfl

/-- The opposite of a word that is a token is the same token but for the sign. -/
theorem ofWord_hyphen_cons (noHyphen : word.head? ≠ some '-') (read : ofWord word = .ok t) :
    t.negated = false ∧ ofWord ('-' :: word) = .ok { t with negated := true } := by
  have opposite : splitNegation ('-' :: word) = (true, word) := rfl
  simp only [ofWord, splitNegation_of_head? noHyphen, opposite] at read ⊢
  cases parts : splitRelation? word with
  | none =>
      simp only [parts] at read ⊢
      obtain ⟨few, faultless, rfl⟩ := build_eq_ok_iff.mp read
      exact ⟨rfl, build_eq_ok_iff.mpr ⟨few, faultless, rfl⟩⟩
  | some found =>
      obtain ⟨name, relation, argument⟩ := found
      simp only [parts] at read ⊢
      obtain ⟨hname, hargument, single, category, named, allowed, built⟩ := ofFilter_eq_ok_iff.mp read
      obtain ⟨few, faultless, rfl⟩ := build_eq_ok_iff.mp built
      refine ⟨rfl, ofFilter_eq_ok_iff.mpr ⟨hname, hargument, single, category, named, allowed, ?_⟩⟩
      exact build_eq_ok_iff.mpr ⟨few, faultless, rfl⟩

/-- What a token matches, and whether it compiles, has nothing to do with its sign. -/
theorem exists_predicate_negated_iff (t : Token) (negated : Bool) :
    (∃ condition, { t with negated }.predicate = .ok condition) ↔
      ∃ condition, t.predicate = .ok condition := by
  have same : { t with negated }.clause = t.clause := rfl
  simp only [predicate_eq_ok_iff, same]
  constructor <;>
  · rintro ⟨_, c, compiled, -⟩
    exact ⟨_, c, compiled, rfl⟩

end Token

namespace Search

/-- The posts that a store finds for a query, without those that carry an excluded tag. -/
def results (store : Store) (excluded : List TagId) (query : String) :
    Except SearchError (List Post) := do
  let search ← ofQuery query
  (search.exclude excluded).posts store

variable {b : Board} {excluded : List TagId} {query : String} {found : List Post}

/-- A board has results exactly for the tokens of a query that compile: its answer to them. -/
theorem results_eq_ok_iff :
    results b.store excluded query = .ok found ↔
      ∃ tokens, Token.ofQuery query = .ok tokens ∧
        ∃ compiled, Tagboard.compile tokens (orderedSet excluded) = .ok compiled ∧
          b.answer compiled = found := by
  simp only [results, ofQuery, bind_eq_ok_iff, pure_eq_ok, Except.ok.injEq, posts_store_eq,
    map_eq_ok_iff]
  constructor
  · rintro ⟨_, ⟨tokens, read, rfl⟩, compiled, compiles, answered⟩
    exact ⟨tokens, read, compiled, compiles, answered⟩
  · rintro ⟨tokens, read, compiled, compiles, answered⟩
    exact ⟨_, ⟨tokens, read, rfl⟩, compiled, compiles, answered⟩

/-- A query has results exactly if each of its words is a token that compiles. -/
theorem exists_results_iff :
    (∃ found, results b.store excluded query = .ok found) ↔
      ∀ word ∈ words query.toList, Token.IsSearchable word := by
  simp only [results_eq_ok_iff]
  constructor
  · rintro ⟨_, tokens, read, compiled, compiles, -⟩ word member
    obtain ⟨t, htoken⟩ := exists_mapM_eq_ok_iff.mp ⟨tokens, read⟩ word member
    have each := exists_compile_iff.mp ⟨compiled, compiles⟩
    exact ⟨t, htoken, (forall_mem_results_iff read).mp each word member t htoken⟩
  · intro searchable
    obtain ⟨tokens, read⟩ := exists_mapM_eq_ok_iff.mpr fun word member => by
      obtain ⟨t, htoken, -⟩ := searchable word member
      exact ⟨t, htoken⟩
    have each : ∀ t ∈ tokens, ∃ condition, t.predicate = .ok condition := by
      refine (forall_mem_results_iff read).mpr fun word member t htoken => ?_
      exact (Token.isSearchable_iff_of_ofWord htoken).mp (searchable word member)
    obtain ⟨compiled, compiles⟩ := exists_compile_iff.mpr each
    exact ⟨_, tokens, read, compiled, compiles, rfl⟩

/-- The results of a query are the posts without excluded tags that each of its words asks for. -/
theorem mem_results_iff (consistent : b.Consistent)
    (searched : results b.settled.store excluded query = .ok found) {p : Post} :
    p ∈ found ↔
      p ∈ b.posts ∧ (∀ id ∈ p.tags, id ∉ excluded) ∧
        ∀ word ∈ words query.toList, Token.AsksFor word b p := by
  obtain ⟨tokens, read, compiled, compiles, rfl⟩ := results_eq_ok_iff.mp searched
  rw [Board.mem_answer_iff (Token.IsRead.of_ofQuery read) compiles consistent,
    forall_mem_results_iff read]
  simp only [mem_orderedSet_iff]
  refine and_congr_right fun _ => and_congr_right fun _ => forall₂_congr fun word member => ?_
  obtain ⟨t, htoken⟩ := exists_mapM_eq_ok_iff.mp ⟨tokens, read⟩ word member
  simp [Token.asksFor_iff_of_ofWord htoken, htoken]

/-- Results are in strictly ascending order. -/
theorem pairwise_results (consistent : b.Consistent)
    (searched : results b.settled.store excluded query = .ok found) :
    found.Pairwise fun p q => p.id < q.id := by
  obtain ⟨tokens, -, compiled, -, rfl⟩ := results_eq_ok_iff.mp searched
  exact Board.pairwise_answer consistent compiled

/-- Results are determined by their members. -/
theorem results_eq_of_mem_iff (consistent : b.Consistent) {excluded' : List TagId} {query' : String}
    {found' : List Post} (searched : results b.settled.store excluded query = .ok found)
    (searched' : results b.settled.store excluded' query' = .ok found')
    (same : ∀ p, p ∈ found ↔ p ∈ found') : found = found' := by
  have asymm : Std.Asymm fun p q : Post => p.id < q.id := ⟨fun _ _ => UInt64.lt_asymm⟩
  exact (pairwise_results consistent searched).eq_of_mem_iff (pairwise_results consistent searched')
    same

/-- A query with the same words, however often and in whatever order, has the same results. -/
theorem results_of_same_words (consistent : b.Consistent) {query' : String}
    (same : ∀ word, word ∈ words query.toList ↔ word ∈ words query'.toList)
    (searched : results b.settled.store excluded query = .ok found) :
    results b.settled.store excluded query' = .ok found := by
  obtain ⟨found', searched'⟩ : ∃ found', results b.settled.store excluded query' = .ok found' := by
    rw [exists_results_iff]
    exact fun word member => exists_results_iff.mp ⟨found, searched⟩ word ((same word).mpr member)
  have members : ∀ p, p ∈ found ↔ p ∈ found' := by
    intro p
    rw [mem_results_iff consistent searched, mem_results_iff consistent searched']
    simp only [same]
  rw [searched', results_eq_of_mem_iff consistent searched searched' members]

/-- Two queries joined by a blank have results exactly if both do, and find the posts that both find. -/
theorem exists_results_append_iff (query query' : String) :
    (∃ found, results b.store excluded (query ++ " " ++ query') = .ok found) ↔
      (∃ found, results b.store excluded query = .ok found) ∧
        ∃ found, results b.store excluded query' = .ok found := by
  simp only [exists_results_iff, words_append, List.forall_mem_append]

theorem mem_results_append_iff (consistent : b.Consistent) {query' : String}
    {found' both : List Post} (searched : results b.settled.store excluded query = .ok found)
    (searched' : results b.settled.store excluded query' = .ok found')
    (joined : results b.settled.store excluded (query ++ " " ++ query') = .ok both) {p : Post} :
    p ∈ both ↔ p ∈ found ∧ p ∈ found' := by
  rw [mem_results_iff consistent searched, mem_results_iff consistent searched',
    mem_results_iff consistent joined, words_append, List.forall_mem_append]
  tauto

/-- Results hold each post once. -/
theorem nodup_results (consistent : b.Consistent)
    (searched : results b.settled.store excluded query = .ok found) : found.Nodup := by
  refine (pairwise_results consistent searched).imp ?_
  rintro p _ less rfl
  exact UInt64.lt_irrefl p.id less

/-- A word and its opposite share out what the empty query finds. -/
theorem exists_results_opposite (consistent : b.Consistent) {word : String} (nonempty : word ≠ "")
    (noBlank : ∀ c ∈ word.toList, isBlank c = false) (noHyphen : word.toList.head? ≠ some '-')
    (searched : results b.settled.store excluded word = .ok found) :
    ∃ rest all, results b.settled.store excluded ("-" ++ word) = .ok rest ∧
      results b.settled.store excluded "" = .ok all ∧ (found ++ rest).Perm all ∧
        ∀ p ∈ found, p ∉ rest := by
  have single : words word.toList = [word.toList] :=
    words_eq_singleton (mt String.toList_eq_nil_iff.mp nonempty) noBlank
  have opposite : words ("-" ++ word).toList = ['-' :: word.toList] := by
    have spelled : ("-" ++ word).toList = '-' :: word.toList := String.toList_append
    rw [spelled]
    exact words_eq_singleton (by simp)
      (List.forall_mem_cons.mpr ⟨by decide, noBlank⟩)
  -- the word and its opposite are the same token but for the sign
  have searchable := exists_results_iff.mp ⟨found, searched⟩
  rw [single, List.forall_mem_singleton] at searchable
  obtain ⟨t, read, compiles⟩ := searchable
  obtain ⟨positive, negative⟩ := Token.ofWord_hyphen_cons noHyphen read
  obtain ⟨rest, searchedRest⟩ :
      ∃ rest, results b.settled.store excluded ("-" ++ word) = .ok rest := by
    rw [exists_results_iff, opposite, List.forall_mem_singleton,
      Token.isSearchable_iff_of_ofWord negative, Token.exists_predicate_negated_iff]
    exact compiles
  obtain ⟨all, searchedAll⟩ : ∃ all, results b.settled.store excluded "" = .ok all := by
    rw [exists_results_iff]
    simp
  have wanted (p : Post) : p ∈ found ↔ p ∈ all ∧ t.Matches b p := by
    rw [mem_results_iff consistent searched, mem_results_iff consistent searchedAll, single,
      List.forall_mem_singleton, Token.asksFor_iff_of_ofWord read]
    simp [positive, and_assoc]
  have unwanted (p : Post) : p ∈ rest ↔ p ∈ all ∧ ¬ t.Matches b p := by
    rw [mem_results_iff consistent searchedRest, mem_results_iff consistent searchedAll, opposite,
      List.forall_mem_singleton, Token.asksFor_iff_of_ofWord negative]
    have same : Token.Matches { t with negated := true } b p ↔ t.Matches b p := .rfl
    simp [same, and_assoc]
  have disjoint : ∀ p ∈ found, p ∉ rest :=
    fun p hfound hrest => ((unwanted p).mp hrest).2 ((wanted p).mp hfound).2
  refine ⟨rest, all, searchedRest, searchedAll, ?_, disjoint⟩
  rw [List.perm_ext_iff_of_nodup _ (nodup_results consistent searchedAll)]
  · intro p
    rw [List.mem_append, wanted, unwanted, ← and_or_left]
    exact and_iff_left (em _)
  · refine (nodup_results consistent searched).append (nodup_results consistent searchedRest) ?_
    exact fun p hfound hrest => disjoint p hfound hrest

/--
On an accepted board queries combine like sets of posts. Two queries joined by a blank have results
exactly if both do, and find the posts that both find. Only which words a query has counts, not their
order or number. And the results of a word and those of its opposite are a partition of all posts.
-/
theorem results_form_boolean_algebra {accepted : Board} (accepts : b.accept = .ok accepted)
    (excluded : List TagId) :
    let find := results accepted.store excluded
    (∀ query query' : String,
        ((∃ both, find (query ++ " " ++ query') = .ok both) ↔
          (∃ found, find query = .ok found) ∧ ∃ found', find query' = .ok found') ∧
        ∀ found found' both, find query = .ok found → find query' = .ok found' →
          find (query ++ " " ++ query') = .ok both →
            (both.Pairwise fun p q => p.id < q.id) ∧ ∀ p, p ∈ both ↔ p ∈ found ∧ p ∈ found') ∧
      (∀ query query' : String,
        (∀ word, word ∈ words query.toList ↔ word ∈ words query'.toList) →
          ∀ found, find query = .ok found ↔ find query' = .ok found) ∧
      ∀ word : String, word ≠ "" → (∀ c ∈ word.toList, isBlank c = false) →
        word.toList.head? ≠ some '-' → ∀ found, find word = .ok found →
          ∃ rest all, find ("-" ++ word) = .ok rest ∧ find "" = .ok all ∧
            (found ++ rest).Perm all ∧ ∀ p ∈ found, p ∉ rest := by
  intro find
  obtain ⟨consistent, rfl⟩ := Board.accept_eq_ok_iff.mp accepts
  refine ⟨fun query query' => ⟨exists_results_append_iff query query', ?_⟩, ?_, ?_⟩
  · intro found found' both searched searched' joined
    exact ⟨pairwise_results consistent joined,
      fun p => mem_results_append_iff consistent searched searched' joined⟩
  · intro query query' same found
    exact ⟨results_of_same_words consistent same,
      results_of_same_words consistent fun word => (same word).symm⟩
  · intro word nonempty noBlank noHyphen found searched
    exact exists_results_opposite consistent nonempty noBlank noHyphen searched

/-- Posts without a source fall to the opposite of a word about sources. -/
theorem results_form_boolean_algebra_sources :
    let linked : Post := ⟨4, "", "bob", [2], .safe, some "http://a.b", none, [], []⟩
    let bare : Post := ⟨6, "", "bob", [], .safe, none, none, [], []⟩
    let other : Post := ⟨5, "", "ann", [2], .safe, none, none, [], []⟩
    let b : Board := ⟨[bare, linked, other], [⟨2, "cat", none, 0, .safe⟩], []⟩
    let find := results b.settled.store [7]
    b.accept = .ok b.settled ∧ find "up=b*" = .ok [linked, bare] ∧
      find "-src=*" = .ok [other, bare] ∧ find ("up=b*" ++ " " ++ "-src=*") = .ok [bare] ∧
      (∀ p, p ∈ [bare] ↔ p ∈ [linked, bare] ∧ p ∈ [other, bare]) ∧
      find "-src=* up=b* -src=*" = .ok [bare] ∧ find "src=*" = .ok [linked] ∧
      ∃ rest all, find ("-" ++ "src=*") = .ok rest ∧ find "" = .ok all ∧
        ([linked] ++ rest).Perm all ∧ ∀ p ∈ [linked], p ∉ rest := by
  intro linked bare other b find
  have accepts : b.accept = .ok b.settled := rfl
  obtain ⟨joins, sets, opposites⟩ := results_form_boolean_algebra accepts [7]
  have uploaded : results b.settled.store [7] "up=b*" = .ok [linked, bare] := by cbv
  have unlinked : results b.settled.store [7] "-src=*" = .ok [other, bare] := by cbv
  have joined : results b.settled.store [7] ("up=b*" ++ " " ++ "-src=*") = .ok [bare] := by cbv
  have sourced : results b.settled.store [7] "src=*" = .ok [linked] := by cbv
  obtain ⟨-, members⟩ := (joins "up=b*" "-src=*").2 _ _ _ uploaded unlinked joined
  have repeated : find "-src=* up=b* -src=*" = .ok [bare] := by
    refine (sets _ _ (fun word => ?_) _).mp joined
    have once : words ("up=b*" ++ " " ++ "-src=*").toList = ["up=b*".toList, "-src=*".toList] := by
      decide +kernel
    have twice : words "-src=* up=b* -src=*".toList =
        ["-src=*".toList, "up=b*".toList, "-src=*".toList] := by decide +kernel
    have either (x y : List Char) : word ∈ [x, y] ↔ word ∈ [y, x, y] := by
      rw [List.mem_cons (b := y), or_iff_right_of_imp]
      rintro rfl
      exact List.mem_cons_of_mem _ (List.mem_cons_self ..)
    rw [once, twice]
    exact either _ _
  have noBlank : ∀ c ∈ "src=*".toList, isBlank c = false := by
    have checked : "src=*".toList.all (fun c => !isBlank c) = true := by decide +kernel
    simpa using checked
  exact ⟨accepts, uploaded, unlinked, joined, members, repeated, sourced,
    opposites "src=*" (by decide) noBlank (by decide) _ sourced⟩

end Search

end Tagboard
