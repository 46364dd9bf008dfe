import Mathlib.Logic.Basic
import Tagboard.Store

/-!
# Evaluating a predicate with its patterns made ready

Every pattern of a predicate has been made ready, with its own glob, before the predicate is evaluated, so
that no clause misses one, be it under a negation or behind a conjunct that fails. A predicate therefore
holds of a post exactly if it does with each pattern matched by itself.
-/

namespace Tagboard

namespace Predicate

/-- What holds of clauses, and of a conjunction or a negation with its parts, holds of every predicate. -/
@[induction_eliminator]
theorem induction {motive : Predicate → Prop}
    (all : ∀ conditions, (∀ condition ∈ conditions, motive condition) → motive (.all conditions))
    (not : ∀ condition, motive condition → motive (.not condition))
    (clause : ∀ c, motive (.clause c)) (p : Predicate) : motive p := by
  refine @rec motive (fun conditions => ∀ condition ∈ conditions, motive condition) all not clause
    ?_ ?_ p
  · intro condition member
    cases member
  · intro first rest holds later
    exact List.forall_mem_cons.mpr ⟨holds, later⟩

/-- A clause stands somewhere in a predicate, be it under a negation or behind other conditions. -/
inductive Contains (c : Clause) : Predicate → Prop where
  | all {conditions : List Predicate} {condition : Predicate} (member : condition ∈ conditions)
      (inside : Contains c condition) : Contains c (.all conditions)
  | not {condition : Predicate} (inside : Contains c condition) : Contains c (.not condition)
  | clause : Contains c (.clause c)

theorem mem_clausesOfAll_iff {c : Clause} {conditions : List Predicate} :
    c ∈ clausesOfAll conditions ↔ ∃ condition ∈ conditions, c ∈ condition.clauses := by
  induction conditions with
  | nil => simp [clausesOfAll]
  | cons condition rest ih => simp [clausesOfAll, ih]

/-- The traversal of a predicate visits every clause that stands in it, and no other. -/
theorem mem_clauses_iff_contains {c : Clause} {p : Predicate} : c ∈ p.clauses ↔ p.Contains c := by
  induction p with
  | all conditions ih =>
      rw [clauses, mem_clausesOfAll_iff]
      constructor
      · rintro ⟨condition, member, visited⟩
        exact .all member ((ih condition member).mp visited)
      · rintro (⟨member, inside⟩ | _ | _)
        exact ⟨_, member, (ih _ member).mpr inside⟩
  | not condition ih =>
      rw [clauses, ih]
      constructor
      · exact .not
      · rintro (_ | inside | _)
        exact inside
  | clause d =>
      rw [clauses, List.mem_singleton]
      constructor
      · rintro rfl
        exact .clause
      · rintro (_ | _ | _)
        rfl

/-- Whether a predicate holds depends on the clauses that stand in it alone. -/
theorem holds_congr {test other : Clause → Bool} {p : Predicate}
    (same : ∀ c, p.Contains c → test c = other c) : p.holds test = p.holds other := by
  induction p with
  | all conditions ih =>
      rw [holds_all, holds_all, Bool.eq_iff_iff, List.all_eq_true, List.all_eq_true]
      refine forall₂_congr fun condition member => ?_
      rw [ih condition member fun c inside => same c (.all member inside)]
  | not condition ih =>
      rw [holds_not, holds_not, ih fun c inside => same c (.not inside)]
  | clause c => exact same c .clause

end Predicate

namespace PreparedPatterns

variable {ready : PreparedPatterns} {p q : Pattern}

/-- Every pattern that has been made ready has its own glob. -/
def IsSound (ready : PreparedPatterns) : Prop := ∀ p glob, ready.glob? p = some glob → glob = p.glob

theorem IsSound.add (sound : ready.IsSound) (p : Pattern) : (ready.add p).IsSound := by
  intro q glob found
  rw [PreparedPatterns.add] at found
  split at found
  · exact sound q glob found
  · rw [glob?, List.lookup_cons] at found
    split at found
    · next same =>
      rw [beq_iff_eq] at same
      cases found
      rw [same]
    · exact sound q glob found

theorem isSome_glob?_add_self (ready : PreparedPatterns) (p : Pattern) :
    ((ready.add p).glob? p).isSome = true := by
  rw [add]
  split
  · assumption
  · rw [glob?, List.lookup_cons, beq_self_eq_true]
    rfl

/-- What has been made ready stays so. -/
theorem isSome_glob?_add (known : (ready.glob? q).isSome = true) (p : Pattern) :
    ((ready.add p).glob? q).isSome = true := by
  rw [add]
  split
  · exact known
  · rw [glob?, List.lookup_cons]
    split
    · rfl
    · exact known

theorem isSome_glob?_foldl {patterns : List Pattern}
    (known : (ready.glob? q).isSome = true ∨ q ∈ patterns) :
    ((patterns.foldl add ready).glob? q).isSome = true := by
  induction patterns generalizing ready with
  | nil => exact known.resolve_right (by simp)
  | cons p rest ih =>
      refine ih ?_
      rcases known with known | member
      · exact .inl (isSome_glob?_add known p)
      · rcases List.mem_cons.mp member with rfl | later
        · exact .inl (isSome_glob?_add_self ready q)
        · exact .inr later

theorem isSound_foldl (sound : ready.IsSound) (patterns : List Pattern) :
    (patterns.foldl add ready).IsSound := by
  induction patterns generalizing ready with
  | nil => exact sound
  | cons p rest ih => exact ih (sound.add p)

/-- No look-up of a pattern of the predicate misses. -/
theorem glob?_ofPredicate {predicate : Predicate} (member : p ∈ predicate.patterns) :
    (ofPredicate predicate).glob? p = some p.glob := by
  have known : ((ofPredicate predicate).glob? p).isSome = true :=
    isSome_glob?_foldl (.inr member)
  obtain ⟨glob, found⟩ := Option.isSome_iff_exists.mp known
  have nothing : IsSound {} := by
    intro q glob impossible
    cases impossible
  rw [found, isSound_foldl nothing _ p glob found]

/-- Texts and patterns that have been made ready match the same values as on their own. -/
theorem accepts_eq {m : TextMatch} (known : ∀ p, m = .pattern p → ready.glob? p = some p.glob) :
    ready.accepts m = m.accepts := by
  funext value
  cases m with
  | exact text => rfl
  | pattern p =>
      rw [accepts, known p rfl, Option.any_some]
      rfl

end PreparedPatterns

/-- The text or pattern with which a clause compares a text of a post or of the board, if it does. -/
def Clause.text? : Clause → Option TextMatch
  | tagName text | tagAlias text | commentBy text | uploadedBy text | source text => some text
  | _ => none

/-- The patterns that are made ready are those with which some clause compares a text. -/
theorem Clause.pattern?_eq_some_iff {c : Clause} {p : Pattern} :
    c.pattern? = some p ↔ c.text? = some (.pattern p) := by
  cases c with
  | tagName text | tagAlias text | commentBy text | uploadedBy text | source text =>
      cases text <;> simp [pattern?, text?]
  | _ => simp [pattern?, text?]

/-- A pattern with which a clause of a predicate compares a text is a pattern of the predicate. -/
theorem Predicate.mem_patterns_of_contains {predicate : Predicate} {c : Clause} {p : Pattern}
    (inside : predicate.Contains c) (compares : c.text? = some (.pattern p)) :
    p ∈ predicate.patterns :=
  List.mem_filterMap.mpr
    ⟨c, mem_clauses_iff_contains.mpr inside, Clause.pattern?_eq_some_iff.mpr compares⟩

namespace Board

/-- Whether a clause holds depends on the matching of its own text alone. -/
theorem clauseHoldsBy_congr (b : Board) {accepts other : TextMatch → String → Bool} {c : Clause}
    (same : ∀ m, c.text? = some m → accepts m = other m) (p : AnnotatedPost) :
    b.clauseHoldsBy accepts p c = b.clauseHoldsBy other p c := by
  cases c with
  | tagName text | tagAlias text | commentBy text | uploadedBy text | source text =>
      simp only [clauseHoldsBy, same text rfl]
  | _ => rfl

/-- Making the patterns of a predicate ready before does not change where the predicate holds. -/
theorem evaluate_ofPredicate (b : Board) (predicate : Predicate) :
    b.evaluate (.ofPredicate predicate) predicate = b.holds predicate := by
  funext p
  refine Predicate.holds_congr fun c inside => ?_
  refine b.clauseHoldsBy_congr (fun m compares => PreparedPatterns.accepts_eq ?_) p
  rintro pattern rfl
  exact PreparedPatterns.glob?_ofPredicate (Predicate.mem_patterns_of_contains inside compares)

/-- The posts of a list that satisfy a predicate with each pattern matched by itself. -/
theorem filterPosts_eq_of_holds (b : Board) (posts : List AnnotatedPost) (predicate : Predicate) :
    b.filterPosts posts predicate =
      match missingCount? predicate.aggregates posts with
      | some error => .error error
      | none =>
          .ok (((posts.filter (b.holds predicate)).map (·.post)).mergeSort fun p q => p.id ≤ q.id) := by
  rw [filterPosts]
  cases missingCount? predicate.aggregates posts with
  | some error => rfl
  | none => simp only [evaluate_ofPredicate]

end Board

end Tagboard
