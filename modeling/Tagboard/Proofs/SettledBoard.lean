import Mathlib
import Tagboard.Proofs.NameLookup

/-!
# Accepting a board brings it into normal form

An accepted board is the board that was given but for the order of its posts, which is now ascending,
and for the counts of its tags. It is consistent itself, so that accepting it again changes nothing and
looking up further names on it never fails.
-/

namespace Tagboard

namespace Board

variable {b : Board}

/-- The order of the posts has no part in how often a tag is carried. -/
theorem timesCarried_eq_of_perm {b' : Board} (posts : b.posts.Perm b'.posts) (id : TagId) :
    b.timesCarried id = b'.timesCarried id :=
  (posts.flatMap_right _).count_eq id

theorem perm_posts_settled (b : Board) : b.settled.posts.Perm b.posts :=
  List.mergeSort_perm b.posts _

theorem timesCarried_settled (b : Board) (id : TagId) :
    b.settled.timesCarried id = b.timesCarried id :=
  timesCarried_eq_of_perm (perm_posts_settled b) id

@[simp] theorem tagIds_settled (b : Board) :
    b.settled.tags.map (·.id) = b.tags.map (·.id) := by
  rw [settled, List.map_map]
  rfl

/-- The accepted board is as consistent as the board. -/
theorem Consistent.settled (consistent : b.Consistent) : b.settled.Consistent where
  tagIds := by
    rw [tagIds_settled]
    exact consistent.tagIds
  aliases := by
    intro a member
    rw [tagIds_settled]
    exact consistent.aliases a member
  postIds := nodup_ids_settled consistent
  postTags := by
    intro p member id tagged
    rw [tagIds_settled]
    exact consistent.postTags p (mem_posts_settled.mp member) id tagged

/-- A board that is in order and counted stays as it is. -/
theorem settled_settled (b : Board) : b.settled.settled = b.settled := by
  have posts : b.settled.settled.posts = b.settled.posts := by
    apply List.mergeSort_of_pairwise
    exact (pairwise_mergeSort_posts b.posts).imp decide_eq_true
  have tags : b.settled.settled.tags = b.settled.tags := by
    simp only [Board.settled, List.map_map]
    refine List.map_congr_left fun t _ => ?_
    simp only [Function.comp_apply]
    exact congrArg (fun n => { t with postCount := UInt64.ofNat n }) (timesCarried_settled b t.id)
  calc b.settled.settled
      = ⟨b.settled.settled.posts, b.settled.settled.tags, b.settled.settled.aliases⟩ := rfl
    _ = b.settled := by rw [posts, tags, aliases_settled]

/-- Counting changes nothing about a tag but its count. -/
theorem tags_settled_uncounted (b : Board) :
    (b.settled.tags.map fun t => { t with postCount := 0 }) =
      b.tags.map fun t => { t with postCount := 0 } := by
  rw [settled, List.map_map]
  rfl

/--
Exactly the consistent boards are accepted. The accepted board has the same posts in strictly ascending
order, the same tags but for their counts and the same further names. It is accepted as it is, and it
answers every question for further names.
-/
theorem accepting_normalises (b : Board) :
    ((∃ accepted, b.accept = .ok accepted) ↔ b.Consistent) ∧
      ∀ accepted, b.accept = .ok accepted →
        accepted.posts.Perm b.posts ∧ (accepted.posts.Pairwise fun p q => p.id < q.id) ∧
          (accepted.tags.map fun t => { t with postCount := 0 }) =
            (b.tags.map fun t => { t with postCount := 0 }) ∧
          accepted.aliases = b.aliases ∧ accepted.accept = .ok accepted ∧
          ∀ text names ids, ∃ found, accepted.store.aliasesByName text names ids = .ok found := by
  refine ⟨exists_accept_iff_consistent, fun accepted accepts => ?_⟩
  obtain ⟨consistent, rfl⟩ := accept_eq_ok_iff.mp accepts
  have again : b.settled.accept = .ok b.settled :=
    accept_eq_ok_iff.mpr ⟨consistent.settled, settled_settled b⟩
  refine ⟨perm_posts_settled b, pairwise_mergeSort_of_nodup consistent.postIds,
    tags_settled_uncounted b, aliases_settled b, again, fun text names ids => ?_⟩
  exact ⟨_, aliasesByName_eq_ok consistent.settled.aliases text names ids⟩

/-- Posts out of order, one with a tag twice, and counts that are not right. -/
theorem accepting_normalises_unordered :
    let late : Post := ⟨9, "", "ann", [2, 2], .safe, none, none, [], []⟩
    let early : Post := ⟨4, "", "bob", [], .safe, none, none, [], []⟩
    let b : Board := ⟨[late, early], [⟨2, "cat", none, 7, .safe⟩, ⟨1, "dog", some "pet", 7, .safe⟩],
      [⟨3, "kitty", 2⟩]⟩
    let accepted : Board := ⟨[early, late],
      [⟨2, "cat", none, 2, .safe⟩, ⟨1, "dog", some "pet", 0, .safe⟩], [⟨3, "kitty", 2⟩]⟩
    b.accept = .ok accepted ∧ b.Consistent ∧ accepted.posts.Perm b.posts ∧
      accepted.accept = .ok accepted ∧
        ∃ found, accepted.store.aliasesByName "KIT" ["kit"] [1] = .ok found := by
  intro late early b accepted
  have accepts : b.accept = .ok accepted := by cbv
  obtain ⟨accepted_iff, normal⟩ := accepting_normalises b
  obtain ⟨posts, -, -, -, again, answers⟩ := normal accepted accepts
  exact ⟨accepts, accepted_iff.mp ⟨accepted, accepts⟩, posts, again, answers _ _ _⟩

end Board

end Tagboard
