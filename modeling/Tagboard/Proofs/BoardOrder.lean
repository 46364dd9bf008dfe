import Mathlib.Data.Prod.Lex
import Mathlib.Data.String.Basic
import Mathlib.Order.WithBot
import Tagboard.Store

/-!
# The orders in which a board sorts

Each order in which a board sorts is that of a rank: posts stand by number, tags by category, with those
without one last, then by falling count and by number, and further names by name and by number. Sorting
by a rank that tells the items apart gives the same list in whatever order the items come; items of one
rank stay in the order in which they come.
-/

namespace Tagboard

section Ranked

variable {α κ : Type} [LinearOrder κ] {rank : α → κ} {precedes : α → α → Bool}

theorem precedes_trans (ranked : ∀ x y, precedes x y = true ↔ rank x ≤ rank y) (x y z : α)
    (hxy : precedes x y = true) (hyz : precedes y z = true) : precedes x z = true := by
  rw [ranked] at hxy hyz ⊢
  exact le_trans hxy hyz

theorem precedes_total (ranked : ∀ x y, precedes x y = true ↔ rank x ≤ rank y) (x y : α) :
    (precedes x y || precedes y x) = true := by
  rw [Bool.or_eq_true, ranked, ranked]
  exact le_total (rank x) (rank y)

/-- Sorting by a rank puts the items in order of their ranks. -/
theorem pairwise_mergeSort_of_rank (ranked : ∀ x y, precedes x y = true ↔ rank x ≤ rank y)
    (items : List α) : (items.mergeSort precedes).Pairwise fun x y => rank x ≤ rank y :=
  (List.pairwise_mergeSort (precedes_trans ranked) (precedes_total ranked) items).imp
    (ranked _ _).mp

/-- Items that their ranks tell apart are sorted alike in whatever order they come. -/
theorem mergeSort_eq_of_perm (ranked : ∀ x y, precedes x y = true ↔ rank x ≤ rank y)
    {items items' : List α} (same : items.Perm items')
    (distinct : ∀ x ∈ items, ∀ y ∈ items, rank x = rank y → x = y) :
    items.mergeSort precedes = items'.mergeSort precedes := by
  have sorted := (items.mergeSort_perm precedes).trans
    (same.trans (items'.mergeSort_perm precedes).symm)
  refine sorted.eq_of_pairwise ?_ (pairwise_mergeSort_of_rank ranked items)
    (pairwise_mergeSort_of_rank ranked items')
  intro x y hx hy hxy hyx
  have memberx : x ∈ items := List.mem_mergeSort.mp hx
  have membery : y ∈ items := same.mem_iff.mpr (List.mem_mergeSort.mp hy)
  exact distinct x memberx y membery (le_antisymm hxy hyx)

/-- A list is another one in the order of a rank, where items of one rank stay in the order that they had. -/
structure SortsByRank (rank : α → κ) (sorted items : List α) : Prop where
  perm : sorted.Perm items
  ascending : sorted.Pairwise fun x y => rank x ≤ rank y
  ties : ∀ k, sorted.filter (rank · = k) = items.filter (rank · = k)

theorem sortsByRank_mergeSort (ranked : ∀ x y, precedes x y = true ↔ rank x ≤ rank y)
    (items : List α) : SortsByRank rank (items.mergeSort precedes) items where
  perm := items.mergeSort_perm precedes
  ascending := pairwise_mergeSort_of_rank ranked items
  ties := by
    intro k
    -- Items of one rank are in order already, and a sorted part of the list is a part of the sorted list.
    have inOrder : (items.filter (rank · = k)).Pairwise fun x y => precedes x y = true := by
      refine List.pairwise_of_forall_mem_list fun x hx y hy => (ranked x y).mpr ?_
      rw [of_decide_eq_true (List.mem_filter.mp hx).2, of_decide_eq_true (List.mem_filter.mp hy).2]
    have kept : (items.filter (rank · = k)).Sublist (items.mergeSort precedes) :=
      List.sublist_mergeSort (precedes_trans ranked) (precedes_total ranked) inOrder
        List.filter_sublist
    have part := kept.filter (rank · = k)
    rw [List.filter_filter] at part
    simp only [Bool.and_self] at part
    refine (part.eq_of_length ?_).symm
    exact ((items.mergeSort_perm precedes).filter (rank · = k)).length_eq.symm

/-- An item of a sorted list stands behind those that come before it, and only them: those of lower rank,
and those of its rank that come before it in the list. -/
theorem SortsByRank.getElem?_eq_some {sorted items before after : List α} {x : α}
    (sorts : SortsByRank rank sorted items) (listed : items = before ++ x :: after) :
    sorted[items.countP (rank · < rank x) + before.countP (rank · = rank x)]? = some x := by
  have tied := sorts.ties (rank x)
  rw [listed, List.filter_append, List.filter_cons, if_pos (decide_eq_true rfl)] at tied
  obtain ⟨front, back, rfl, earlier, later⟩ := List.filter_eq_append_iff.mp tied
  obtain ⟨between, rest, rfl, others, -, -⟩ := List.filter_eq_cons_iff.mp later
  rw [← List.append_assoc] at sorts ⊢
  obtain ⟨-, following, crossing⟩ := List.pairwise_append.mp sorts.ascending
  have atMost : ∀ y ∈ front ++ between, rank y ≤ rank x := fun y member =>
    crossing y member x (List.mem_cons_self ..)
  have atLeast : ∀ y ∈ x :: rest, rank x ≤ rank y :=
    List.forall_mem_cons.mpr ⟨le_rfl, (List.pairwise_cons.mp following).1⟩
  have lower : items.countP (rank · < rank x) = (front ++ between).countP (rank · < rank x) := by
    have none : (x :: rest).countP (rank · < rank x) = 0 :=
      List.countP_eq_zero.mpr fun y member less =>
        not_lt.mpr (atLeast y member) (of_decide_eq_true less)
    rw [← sorts.perm.countP_eq, List.countP_append, none, Nat.add_zero]
  have equal : before.countP (rank · = rank x) = (front ++ between).countP (rank · = rank x) := by
    have none : between.filter (rank · = rank x) = [] := List.filter_eq_nil_iff.mpr others
    rw [List.countP_eq_length_filter, ← earlier, List.countP_eq_length_filter, List.filter_append,
      none, List.append_nil]
  have whole : (front ++ between).countP (fun y => ¬ decide (rank y < rank x) = true) =
      (front ++ between).countP (rank · = rank x) := by
    refine List.countP_congr fun y member => ?_
    simp only [decide_eq_true_eq, not_lt]
    exact ⟨fun least => le_antisymm (atMost y member) least, fun same => same.ge⟩
  rw [lower, equal, ← whole, ← List.length_eq_countP_add_countP, List.getElem?_append_right le_rfl,
    Nat.sub_self, List.getElem?_cons_zero]

/-- An item that its rank tells apart stands behind those of lower rank, and only them. -/
theorem SortsByRank.getElem?_eq_some_of_pairwise {sorted items : List α} {x : α}
    (sorts : SortsByRank rank sorted items) (distinct : items.Pairwise fun y z => rank y ≠ rank z)
    (member : x ∈ items) : sorted[items.countP (rank · < rank x)]? = some x := by
  obtain ⟨before, after, listed⟩ := List.append_of_mem member
  have none : before.countP (rank · = rank x) = 0 := by
    rw [listed, List.pairwise_append] at distinct
    exact List.countP_eq_zero.mpr fun y inside same =>
      distinct.2.2 y inside x (List.mem_cons_self ..) (of_decide_eq_true same)
  have place := sorts.getElem?_eq_some listed
  rwa [none, Nat.add_zero] at place

end Ranked

theorem Post.id_le_iff (p q : Post) : decide (p.id ≤ q.id) = true ↔ p.id.toNat ≤ q.id.toNat := by
  rw [decide_eq_true_eq, UInt64.le_iff_toNat_le]

/-- Where a tag stands: by category, without one last, then by falling count, then by number. -/
def Tag.rank (t : Tag) : WithTop String ×ₗ ℕᵒᵈ ×ₗ ℕ :=
  toLex (t.category.elim ⊤ WithTop.some,
    toLex (OrderDual.toDual t.postCount.toNat, t.id.toNat))

/-- Where a further name stands: by name, then by number. -/
def Alias.rank (a : Alias) : String ×ₗ ℕ := toLex (a.name, a.id.toNat)

theorem Tag.id_eq_of_rank_eq {s t : Tag} (same : s.rank = t.rank) : s.id = t.id := by
  have parts := congrArg (fun rank => (ofLex (ofLex rank).2).2) same
  exact UInt64.toNat_inj.mp parts

theorem Alias.id_eq_of_rank_eq {a b : Alias} (same : a.rank = b.rank) : a.id = b.id := by
  have parts := congrArg (fun rank => (ofLex rank).2) same
  exact UInt64.toNat_inj.mp parts

namespace Board

/-- Among tags of one category, those that more posts carry come first, then those of lower numbers. -/
theorem count_then_id_iff {s t : Tag} :
    t.postCount < s.postCount ∨ s.postCount = t.postCount ∧ s.id ≤ t.id ↔
      toLex (OrderDual.toDual s.postCount.toNat, s.id.toNat) ≤
        toLex (OrderDual.toDual t.postCount.toNat, t.id.toNat) := by
  rw [Prod.Lex.toLex_le_toLex]
  simp [UInt64.lt_iff_toNat_lt, UInt64.le_iff_toNat_le, UInt64.toNat_inj]

theorem tagPrecedes_iff (s t : Tag) : tagPrecedes s t = true ↔ s.rank ≤ t.rank := by
  unfold tagPrecedes Tag.rank
  rw [Prod.Lex.toLex_le_toLex]
  cases s.category with
  | none =>
      cases t.category with
      | none => simp [← count_then_id_iff]
      | some d => simp
  | some c =>
      cases t.category with
      | none => simp
      | some d => simp [← count_then_id_iff]

theorem aliasPrecedes_iff (a b : Alias) : aliasPrecedes a b = true ↔ a.rank ≤ b.rank := by
  unfold aliasPrecedes Alias.rank
  rw [Prod.Lex.toLex_le_toLex]
  simp [UInt64.le_iff_toNat_le]

end Board

end Tagboard
