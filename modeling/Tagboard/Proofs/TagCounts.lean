import Tagboard.Proofs.SettledBoard

/-!
# What the count of a tag counts

The count of a tag of an accepted board is made anew from the posts. It counts how often the tag stands in
the lists of tags, so that a post counts once more for each time that it repeats the tag. It is the number
of the posts that carry the tag exactly where none of them repeats it.
-/

namespace Tagboard

/-- How often a post repeats a tag that it carries already. -/
def Post.repeats (p : Post) (id : TagId) : Nat := p.tags.count id - 1

namespace Board

variable {b : Board} {id : TagId}

/-- The number of posts that carry a tag. -/
def carriers (b : Board) (id : TagId) : Nat := b.posts.countP fun p => p.tags.contains id

/-- How often posts repeat a tag that they carry already. -/
def repeats (b : Board) (id : TagId) : Nat := (b.posts.map (·.repeats id)).sum

/-- Every post that carries a tag counts once, and once more for each time that it repeats the tag. -/
theorem timesCarried_eq_carriers_add_repeats (b : Board) (id : TagId) :
    b.timesCarried id = b.carriers id + b.repeats id := by
  unfold timesCarried carriers repeats
  induction b.posts with
  | nil => rfl
  | cons p rest ih =>
      rw [List.flatMap_cons, List.count_append, ih, List.countP_cons, List.map_cons, List.sum_cons,
        Post.repeats]
      by_cases carried : id ∈ p.tags
      · have positive : 0 < p.tags.count id := List.count_pos_iff.mpr carried
        rw [if_pos (List.contains_iff_mem.mpr carried)]
        omega
      · have absent : p.tags.count id = 0 := List.count_eq_zero.mpr carried
        rw [if_neg (mt List.contains_iff_mem.mp carried)]
        omega

theorem repeats_eq_zero_iff : b.repeats id = 0 ↔ ∀ p ∈ b.posts, p.tags.count id ≤ 1 := by
  rw [repeats, List.sum_eq_zero_iff_forall_eq_nat]
  simp only [List.forall_mem_map, Post.repeats, Nat.sub_eq_zero_iff_le]

/-- The tags of the accepted board are those of the board, each with its count made anew. -/
theorem postCount_of_mem_tags_settled {t : Tag} (member : t ∈ b.settled.tags) :
    t.postCount = UInt64.ofNat (b.timesCarried t.id) := by
  obtain ⟨given, -, rfl⟩ := List.mem_map.mp member
  rfl

/--
The count of a tag of an accepted board is the number of the posts that carry the tag and of the times that
they repeat it. If that fits a count, then it is the number of these posts exactly where none of them
repeats the tag.
-/
theorem postCount_counts_repeats {accepted : Board} (accepts : b.accept = .ok accepted) {t : Tag}
    (member : t ∈ accepted.tags) :
    t.postCount.toNat = (b.carriers t.id + b.repeats t.id) % 2 ^ 64 ∧
      (b.carriers t.id + b.repeats t.id < 2 ^ 64 →
        (t.postCount.toNat = b.carriers t.id ↔ ∀ p ∈ b.posts, p.tags.count t.id ≤ 1)) := by
  obtain ⟨-, rfl⟩ := accept_eq_ok_iff.mp accepts
  have counted : t.postCount.toNat = (b.carriers t.id + b.repeats t.id) % 2 ^ 64 := by
    rw [postCount_of_mem_tags_settled member, UInt64.toNat_ofNat',
      timesCarried_eq_carriers_add_repeats]
  refine ⟨counted, fun fits => ?_⟩
  rw [counted, Nat.mod_eq_of_lt fits, ← repeats_eq_zero_iff]
  omega

/-- Two posts carry a tag once and one does not: the count that was given does not matter. -/
theorem postCount_counts_repeats_once :
    let ann : Post := ⟨1, "", "ann", [2, 3], .safe, none, none, [], []⟩
    let bob : Post := ⟨5, "", "bob", [2], .safe, none, none, [], []⟩
    let eve : Post := ⟨4, "", "eve", [3, 3], .safe, none, none, [], []⟩
    let cat : Tag := ⟨2, "cat", none, 9, .safe⟩
    let b : Board := ⟨[bob, ann, eve], [cat, ⟨3, "dog", none, 9, .safe⟩], []⟩
    let counted : Tag := { cat with postCount := 2 }
    b.accept = .ok b.settled ∧ counted ∈ b.settled.tags ∧ (∀ p ∈ b.posts, p.tags.count 2 ≤ 1) ∧
      counted.postCount.toNat = b.carriers 2 := by
  intro ann bob eve cat b counted
  have accepts : b.accept = .ok b.settled := rfl
  have member : counted ∈ b.settled.tags := by decide +kernel
  have once : ∀ p ∈ b.posts, p.tags.count 2 ≤ 1 := by decide +kernel
  obtain ⟨-, unrepeated⟩ := postCount_counts_repeats accepts member
  exact ⟨accepts, member, once, (unrepeated (by decide +kernel)).mpr once⟩

/-- One post carries a tag and repeats it, and the tag is counted twice. -/
theorem postCount_ne_carriers_of_repeated :
    let ann : Post := ⟨1, "", "ann", [2, 2], .unrated, none, none, [], []⟩
    let b : Board := ⟨[ann], [⟨2, "cat", none, 0, .unrated⟩], []⟩
    let counted : Tag := ⟨2, "cat", none, 2, .unrated⟩
    b.accept = .ok b.settled ∧ counted ∈ b.settled.tags ∧ b.carriers counted.id = 1 ∧
      counted.postCount.toNat ≠ b.carriers counted.id := by
  intro ann b counted
  exact ⟨rfl, by decide +kernel, by decide +kernel, by decide +kernel⟩

end Board

end Tagboard
