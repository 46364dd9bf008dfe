import Mathlib.Data.List.Nodup
import Tagboard.Proofs.BoardOrder

/-!
# Accepted boards

A board is accepted exactly if its numbers are unambiguous and refer to something. The accepted board
has the same posts, each once and in strictly ascending order, and its tags have kept their numbers
and names.
-/

namespace Tagboard

/-- A new element may be counted to the rest or to what was seen: both ask for the same. -/
theorem nodup_and_fresh_cons_iff {α : Type} {x : α} {rest seen : List α} (fresh : x ∉ seen) :
    (x :: rest).Nodup ∧ (∀ y ∈ x :: rest, y ∉ seen) ↔ rest.Nodup ∧ ∀ y ∈ rest, y ∉ x :: seen := by
  rw [List.nodup_cons, List.forall_mem_cons]
  constructor
  · rintro ⟨⟨once, distinct⟩, -, others⟩
    refine ⟨distinct, fun y hy => ?_⟩
    rw [List.mem_cons, not_or]
    exact ⟨fun same => once (same ▸ hy), others y hy⟩
  · rintro ⟨distinct, others⟩
    exact ⟨⟨fun again => others x again (List.mem_cons_self ..), distinct⟩, fresh,
      fun y hy old => others y hy (List.mem_cons_of_mem _ old)⟩

/-- A list repeats nothing exactly if its elements are distinct and none was seen before. -/
theorem firstRepeated?_eq_none_iff {α : Type} [BEq α] [LawfulBEq α] {seen items : List α} :
    firstRepeated? seen items = none ↔ items.Nodup ∧ ∀ x ∈ items, x ∉ seen := by
  induction items generalizing seen with
  | nil => simp [firstRepeated?]
  | cons x rest ih =>
      rw [firstRepeated?]
      by_cases repeated : x ∈ seen
      · simp [repeated]
      · rw [if_neg (by simpa using repeated), ih, nodup_and_fresh_cons_iff repeated]

namespace Board

/-- What it takes for a board to be accepted. -/
structure Consistent (b : Board) : Prop where
  /-- No two tags have the same number. -/
  tagIds : (b.tags.map (·.id)).Nodup
  /-- Every further name belongs to a tag of the board. -/
  aliases : ∀ a ∈ b.aliases, a.tagId ∈ b.tags.map (·.id)
  /-- No two posts have the same number. -/
  postIds : (b.posts.map (·.id)).Nodup
  /-- Posts carry tags of the board only. -/
  postTags : ∀ p ∈ b.posts, ∀ id ∈ p.tags, id ∈ b.tags.map (·.id)

/-- Posts are without fault exactly if their numbers are distinct and new and their tags are known. -/
theorem postFault?_eq_none_iff {tagIds : List TagId} {seen : List UInt64} {posts : List Post} :
    postFault? tagIds seen posts = none ↔
      ((posts.map (·.id)).Nodup ∧ ∀ id ∈ posts.map (·.id), id ∉ seen) ∧
        ∀ p ∈ posts, ∀ id ∈ p.tags, id ∈ tagIds := by
  induction posts generalizing seen with
  | nil => simp [postFault?]
  | cons post rest ih =>
      rw [postFault?]
      by_cases repeated : post.id ∈ seen
      · simp [repeated]
      · rw [if_neg (by simpa using repeated), List.map_cons, nodup_and_fresh_cons_iff repeated,
          List.forall_mem_cons]
        cases stray : post.tags.find? fun id => !tagIds.contains id with
        | some id =>
            have member := List.mem_of_find?_eq_some stray
            have unknown := List.find?_some stray
            simp only [reduceCtorEq, false_iff]
            rintro ⟨-, known, -⟩
            simp [known id member] at unknown
        | none =>
            have known : ∀ id ∈ post.tags, id ∈ tagIds := by simpa using stray
            simp only [ih]
            exact and_congr_right fun _ => ⟨fun others => ⟨known, others⟩, And.right⟩

theorem fault?_eq_none_iff {b : Board} : b.fault? = none ↔ b.Consistent := by
  rw [fault?]
  cases repeated : firstRepeated? [] (b.tags.map (·.id)) with
  | some id =>
      simp only [reduceCtorEq, false_iff]
      intro consistent
      rw [firstRepeated?_eq_none_iff.mpr ⟨consistent.tagIds, by simp⟩] at repeated
      cases repeated
  | none =>
      have tagIds := (firstRepeated?_eq_none_iff.mp repeated).1
      cases stray : b.aliases.find? fun a => !(b.tags.map (·.id)).contains a.tagId with
      | some a =>
          have member := List.mem_of_find?_eq_some stray
          have unknown := List.find?_some stray
          simp only [reduceCtorEq, false_iff]
          intro consistent
          simp only [List.contains_iff_mem.mpr (consistent.aliases a member), Bool.not_true,
            Bool.false_eq_true] at unknown
      | none =>
          have aliases : ∀ a ∈ b.aliases, a.tagId ∈ b.tags.map (·.id) := by simpa using stray
          simp only [postFault?_eq_none_iff]
          constructor
          · rintro ⟨⟨postIds, -⟩, postTags⟩
            exact ⟨tagIds, aliases, postIds, postTags⟩
          · intro consistent
            exact ⟨⟨consistent.postIds, by simp⟩, consistent.postTags⟩

/-- Exactly the consistent boards are accepted. -/
theorem accept_eq_ok_iff {b accepted : Board} :
    b.accept = .ok accepted ↔ b.Consistent ∧ b.settled = accepted := by
  rw [accept, ← fault?_eq_none_iff]
  cases b.fault? <;> simp

theorem exists_accept_iff_consistent {b : Board} :
    (∃ accepted, b.accept = .ok accepted) ↔ b.Consistent := by
  simp only [accept_eq_ok_iff]
  exact ⟨fun ⟨_, consistent, _⟩ => consistent, fun consistent => ⟨_, consistent, rfl⟩⟩

/-- Posts are sorted into ascending order. -/
theorem pairwise_mergeSort_posts (posts : List Post) :
    (posts.mergeSort fun p q => p.id ≤ q.id).Pairwise fun p q => p.id ≤ q.id := by
  have ranked := pairwise_mergeSort_of_rank Post.id_le_iff posts
  exact ranked.imp UInt64.le_iff_toNat_le.mpr

/-- Posts with different numbers are sorted into strictly ascending order. -/
theorem pairwise_mergeSort_of_nodup {posts : List Post} (distinct : (posts.map (·.id)).Nodup) :
    (posts.mergeSort fun p q => p.id ≤ q.id).Pairwise fun p q => p.id < q.id := by
  have different : (posts.mergeSort fun p q => p.id ≤ q.id).Pairwise fun p q => p.id ≠ q.id := by
    rw [← List.pairwise_map (R := (· ≠ ·))]
    exact ((List.mergeSort_perm posts _).map (·.id)).nodup_iff.mpr distinct
  exact ((pairwise_mergeSort_posts posts).and different).imp
    fun ⟨le, ne⟩ => UInt64.lt_of_le_of_ne le ne

@[simp] theorem mem_posts_settled {b : Board} {p : Post} : p ∈ b.settled.posts ↔ p ∈ b.posts :=
  (List.mergeSort_perm b.posts _).mem_iff

@[simp] theorem aliases_settled (b : Board) : b.settled.aliases = b.aliases := rfl

/-- The numbers of the posts stay as they are, but for their order. -/
theorem nodup_ids_settled {b : Board} (consistent : b.Consistent) :
    (b.settled.posts.map (·.id)).Nodup :=
  ((List.mergeSort_perm b.posts _).map (·.id)).nodup_iff.mpr consistent.postIds

/-- Where no two tags share a number, the tag of a number is the one that has it. -/
theorem tag?_eq_some_iff {b : Board} (distinct : (b.tags.map (·.id)).Nodup) {id : TagId} {t : Tag} :
    b.tag? id = some t ↔ t ∈ b.tags ∧ t.id = id := by
  unfold tag?
  constructor
  · intro found
    have same := List.find?_some found
    exact ⟨List.mem_of_find?_eq_some found, eq_of_beq same⟩
  · rintro ⟨member, rfl⟩
    cases found : b.tags.find? fun other => other.id == t.id with
    | none => simpa using List.find?_eq_none.mp found t member
    | some other =>
        have same := List.find?_some found
        rw [List.inj_on_of_nodup_map distinct (List.mem_of_find?_eq_some found) member
          (eq_of_beq same)]

/-- The accepted board finds the same tags by number, counted anew. -/
theorem tag?_settled (b : Board) (id : TagId) :
    b.settled.tag? id =
      (b.tag? id).map fun t => { t with postCount := UInt64.ofNat (b.timesCarried t.id) } :=
  List.find?_map ..

/-- The accepted board knows the tags of the board by number, with the same names. -/
theorem any_tag?_settled_iff {b : Board} (consistent : b.Consistent) {id : TagId}
    {test : String → Bool} :
    (b.settled.tag? id).any (fun t => test t.name) = true ↔
      ∃ t ∈ b.tags, t.id = id ∧ test t.name = true := by
  rw [tag?_settled, Option.any_map, Option.any_eq_true]
  simp only [tag?_eq_some_iff consistent.tagIds, and_assoc]

end Board

end Tagboard
