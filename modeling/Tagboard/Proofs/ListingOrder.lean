import Tagboard.Proofs.PreparedEvaluation
import Tagboard.Proofs.SettledBoard

/-!
# The order in which a board lists its records does not matter

Two boards with the same posts, tags and further names, each listed in some order of its own, are both
accepted or both refused. Accepted they are one and the same store as far as questions can tell: numbers
find the same tags, clauses hold of the same posts, and each answer is sorted by ranks that tell its
items apart.
-/

namespace Tagboard

namespace Board

/-- Boards with the same posts, tags and further names, in whatever order they are listed. -/
structure Rearranges (b b' : Board) : Prop where
  posts : b.posts.Perm b'.posts
  tags : b.tags.Perm b'.tags
  aliases : b.aliases.Perm b'.aliases

namespace Rearranges

variable {b b' : Board}

theorem symm (same : b.Rearranges b') : b'.Rearranges b where
  posts := same.posts.symm
  tags := same.tags.symm
  aliases := same.aliases.symm

theorem mem_tagIds_iff (same : b.Rearranges b') {id : TagId} :
    id ∈ b.tags.map (·.id) ↔ id ∈ b'.tags.map (·.id) :=
  (same.tags.map (·.id)).mem_iff

/-- No condition of consistency asks for an order. -/
theorem consistent (same : b.Rearranges b') (consistent : b.Consistent) : b'.Consistent where
  tagIds := (same.tags.map (·.id)).nodup_iff.mp consistent.tagIds
  aliases := by
    intro a member
    exact same.mem_tagIds_iff.mp (consistent.aliases a (same.aliases.mem_iff.mpr member))
  postIds := (same.posts.map (·.id)).nodup_iff.mp consistent.postIds
  postTags := by
    intro p member id tagged
    exact same.mem_tagIds_iff.mp (consistent.postTags p (same.posts.mem_iff.mpr member) id tagged)

/-- Both boards are accepted or both are refused. -/
theorem exists_accept_iff (same : b.Rearranges b') :
    (∃ accepted, b.accept = .ok accepted) ↔ ∃ accepted, b'.accept = .ok accepted := by
  rw [exists_accept_iff_consistent, exists_accept_iff_consistent]
  exact ⟨same.consistent, same.symm.consistent⟩

/-- Counting the tags and sorting the posts keeps the records the same. -/
theorem settled (same : b.Rearranges b') : b.settled.Rearranges b'.settled where
  posts := (perm_posts_settled b).trans (same.posts.trans (perm_posts_settled b').symm)
  tags := by
    have counts : b.timesCarried = b'.timesCarried :=
      funext fun id => timesCarried_eq_of_perm same.posts id
    simp only [Board.settled, counts]
    exact same.tags.map _
  aliases := same.aliases

/-- The accepted boards have their posts in the same order. -/
theorem posts_settled_eq (same : b.Rearranges b') (consistent : b.Consistent) :
    b.settled.posts = b'.settled.posts := by
  refine mergeSort_eq_of_perm Post.id_le_iff same.posts ?_
  intro p hp q hq number
  exact List.inj_on_of_nodup_map consistent.postIds hp hq (UInt64.toNat_inj.mp number)

/-- A number finds the same tag on both boards. -/
theorem tag?_eq (same : b.Rearranges b') (consistent : b.Consistent) (id : TagId) :
    b.tag? id = b'.tag? id := by
  ext t
  rw [tag?_eq_some_iff consistent.tagIds, tag?_eq_some_iff (same.consistent consistent).tagIds,
    same.tags.mem_iff]

/-- The same clauses hold of a post. -/
theorem clauseHolds_eq (same : b.Rearranges b') (consistent : b.Consistent) (p : AnnotatedPost)
    (c : Clause) : b.clauseHolds p c = b'.clauseHolds p c := by
  cases c with
  | tagName text => simp only [clauseHolds, clauseHoldsBy, same.tag?_eq consistent]
  | tagAlias text => simp only [clauseHolds, clauseHoldsBy, same.aliases.any_eq]
  | _ => rfl

theorem holds_eq (same : b.Rearranges b') (consistent : b.Consistent) (predicate : Predicate)
    (p : AnnotatedPost) : b.holds predicate p = b'.holds predicate p := by
  rw [holds, holds, funext (same.clauseHolds_eq consistent p)]

theorem filterPosts_eq (same : b.Rearranges b') (consistent : b.Consistent) :
    b.filterPosts = b'.filterPosts := by
  funext posts predicate
  rw [filterPosts_eq_of_holds, filterPosts_eq_of_holds, funext (same.holds_eq consistent predicate)]

/-- A text finds the same tags in the same order, as their numbers tell them apart. -/
theorem tagsByName_eq (same : b.Rearranges b') (consistent : b.Consistent) (text : String)
    (names : List String) (ids : List TagId) :
    b.tagsByName text names ids = b'.tagsByName text names ids := by
  refine mergeSort_eq_of_perm tagPrecedes_iff (same.tags.filter _) ?_
  intro s hs t ht rank
  exact List.inj_on_of_nodup_map consistent.tagIds (List.mem_of_mem_filter hs)
    (List.mem_of_mem_filter ht) (Tag.id_eq_of_rank_eq rank)

/-- A text finds the same further names in the same order, if their numbers tell them apart. -/
theorem namedAliases_eq (same : b.Rearranges b') (consistent : b.Consistent)
    (distinct : (b.aliases.map (·.id)).Nodup) (text : String) (names : List String)
    (ids : List TagId) : b.namedAliases text names ids = b'.namedAliases text names ids := by
  have pairing : b.withTag? = b'.withTag? := by
    funext a
    rw [withTag?, withTag?, same.tag?_eq consistent]
  unfold namedAliases
  rw [← pairing]
  refine mergeSort_eq_of_perm (fun x y => aliasPrecedes_iff x.1 y.1)
    ((same.aliases.filter _).filterMap _) ?_
  intro x hx y hy rank
  obtain ⟨a, ha, foundx⟩ := List.mem_filterMap.mp hx
  obtain ⟨a', ha', foundy⟩ := List.mem_filterMap.mp hy
  obtain ⟨rfl, -⟩ := withTag?_eq_some_iff.mp foundx
  obtain ⟨rfl, -⟩ := withTag?_eq_some_iff.mp foundy
  have one : x.1 = y.1 := List.inj_on_of_nodup_map distinct (List.mem_of_mem_filter ha)
    (List.mem_of_mem_filter ha') (Alias.id_eq_of_rank_eq rank)
  rw [one, foundy] at foundx
  exact (Option.some.inj foundx).symm

/-- The accepted boards are the same store. -/
theorem store_eq (same : b.Rearranges b') (consistent : b.Consistent)
    (distinct : (b.aliases.map (·.id)).Nodup) : b.settled.store = b'.settled.store := by
  have accepted : b.settled.Rearranges b'.settled := same.settled
  have sound : b.settled.Consistent := consistent.settled
  have sound' : b'.settled.Consistent := accepted.consistent sound
  have tags : b.settled.tagsByName = b'.settled.tagsByName := by
    funext text names ids
    exact accepted.tagsByName_eq sound text names ids
  have aliases : b.settled.aliasesByName = b'.settled.aliasesByName := by
    funext text names ids
    rw [aliasesByName_eq_ok sound.aliases, aliasesByName_eq_ok sound'.aliases,
      accepted.namedAliases_eq sound distinct]
  rw [store, store, same.posts_settled_eq consistent, accepted.filterPosts_eq sound, tags, aliases]

end Rearranges

/--
Boards that list the same records in different orders are accepted or refused together, and where the
numbers of the further names are distinct each search has the same posts and suggestions on both, in the
same order.
-/
theorem listing_order_is_immaterial {b b' : Board} (same : b.Rearranges b')
    (distinct : (b.aliases.map (·.id)).Nodup) :
    ((∃ accepted, b.accept = .ok accepted) ↔ ∃ accepted, b'.accept = .ok accepted) ∧
      ∀ accepted accepted', b.accept = .ok accepted → b'.accept = .ok accepted' →
        ∀ s : Search, s.posts accepted.store = s.posts accepted'.store ∧
          ∀ word excluded withFilters,
            s.suggestions accepted.store word excluded withFilters =
              s.suggestions accepted'.store word excluded withFilters := by
  refine ⟨same.exists_accept_iff, fun accepted accepted' accepts accepts' s => ?_⟩
  obtain ⟨consistent, rfl⟩ := accept_eq_ok_iff.mp accepts
  obtain ⟨-, rfl⟩ := accept_eq_ok_iff.mp accepts'
  rw [same.store_eq consistent distinct]
  exact ⟨rfl, fun _ _ _ => rfl⟩

/-- Two tags of one category and count, and two further names that read the same. -/
theorem listing_order_is_immaterial_ties :
    let early : Post := ⟨4, "", "ann", [2, 3], .safe, none, none, [], []⟩
    let late : Post := ⟨9, "", "bob", [3, 2], .safe, none, none, [], []⟩
    let cat : Tag := ⟨2, "cat", some "pet", 0, .safe⟩
    let cattle : Tag := ⟨3, "cattle", some "pet", 0, .safe⟩
    let b : Board := ⟨[late, early], [cattle, cat], [⟨8, "cats", 2⟩, ⟨5, "cats", 3⟩]⟩
    let b' : Board := ⟨[early, late], [cat, cattle], [⟨5, "cats", 3⟩, ⟨8, "cats", 2⟩]⟩
    let s : Search :=
      { tokens := [⟨.tag, "c*", ⟨"c", [1]⟩, none, false⟩], word := "CAT", limits := ⟨1, 2⟩ }
    b.Rearranges b' ∧ (b.aliases.map (·.id)).Nodup ∧ b.accept = .ok b.settled ∧
      b'.accept = .ok b'.settled ∧ s.posts b.settled.store = .ok [early, late] ∧
        s.suggestions b.settled.store none [] false = .ok
          [⟨.tag, "cat", some "pet", some 2, none, some 2⟩,
            ⟨.tagAlias, "cattle", some "pet", some 3, some "cats", some 2⟩,
            ⟨.tagAlias, "cat", some "pet", some 2, some "cats", some 2⟩] := by
  intro early late cat cattle b b' s
  have same : b.Rearranges b' := ⟨.swap .., .swap .., .swap ..⟩
  have distinct : (b.aliases.map (·.id)).Nodup := by decide
  have accepts : b.accept = .ok b.settled := rfl
  have accepts' : b'.accept = .ok b'.settled := rfl
  obtain ⟨-, alike⟩ := listing_order_is_immaterial same distinct
  obtain ⟨posts, suggestions⟩ := alike _ _ accepts accepts' s
  refine ⟨same, distinct, accepts, accepts', ?_, ?_⟩
  · rw [posts]
    cbv
  · rw [suggestions]
    cbv

end Board

end Tagboard
