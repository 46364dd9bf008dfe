import Tagboard.Proofs.GlobMatching
import Tagboard.Proofs.ReadTokens
import Tagboard.Proofs.TypedText

/-!
# Read tokens are well formed

What can be relied upon in a token without knowing where it was read: its wildcards are few, in order
and inside its argument, its relation and its name go with its category, and the glob that its argument
is matched as has a gap for each recorded wildcard and for nothing else.
-/

namespace Tagboard

namespace Glob

/-- The characters of a glob, its gaps left out. -/
def characters (glob : List GlobItem) : List Char := glob.filterMap id

/-- For each gap in order, the number of characters before it, of which `passed` are counted already. -/
def gapPositions (passed : Nat) : List GlobItem → List Nat
  | [] => []
  | none :: rest => passed :: gapPositions passed rest
  | some _ :: rest => gapPositions (passed + 1) rest

theorem ofTyped_wildcard_cons (rest : List Char) :
    ofTyped (Pattern.wildcard :: rest) = none :: ofTyped rest := by
  simp [ofTyped]

theorem ofTyped_cons {c : Char} (plain : c ≠ Pattern.wildcard) (rest : List Char) :
    ofTyped (c :: rest) = some c :: ofTyped rest := by
  simp [ofTyped, plain]

/-- The characters of a typed text are those that are no wildcards. -/
theorem characters_ofTyped (typed : List Char) :
    characters (ofTyped typed) = typed.filter (· != Pattern.wildcard) := by
  induction typed with
  | nil => rfl
  | cons c rest ih =>
      by_cases wild : c = Pattern.wildcard
      · rw [wild, ofTyped_wildcard_cons, List.filter_cons_of_neg (by simp), ← ih]
        rfl
      · rw [ofTyped_cons wild, List.filter_cons_of_pos (by simpa using wild), ← ih]
        rfl

/-- The gaps of a typed text are where its wildcards are taken out. -/
theorem gapPositions_ofTyped (passed : Nat) (typed : List Char) :
    gapPositions passed (ofTyped typed) = Pattern.wildcardPositions passed typed := by
  induction typed generalizing passed with
  | nil => rfl
  | cons c rest ih =>
      by_cases wild : c = Pattern.wildcard
      · rw [wild, ofTyped_wildcard_cons, gapPositions, ih, Pattern.wildcardPositions,
          if_pos (beq_self_eq_true _)]
      · rw [ofTyped_cons wild, gapPositions, ih, Pattern.wildcardPositions,
          if_neg (by simpa using wild)]

end Glob

namespace Pattern

theorem hasWildcards_iff_ne_nil {p : Pattern} : p.hasWildcards = true ↔ p.positions ≠ [] := by
  simp [hasWildcards]

/-- Wildcards are taken out from left to right. -/
theorem pairwise_wildcardPositions (kept : Nat) (typed : List Char) :
    (wildcardPositions kept typed).Pairwise (· ≤ ·) := by
  induction typed generalizing kept with
  | nil => exact .nil
  | cons c rest ih =>
      rw [wildcardPositions]
      split
      · refine .cons ?_ (ih kept)
        intro position member
        exact le_of_mem_wildcardPositions member
      · exact ih (kept + 1)

/-- No wildcard is taken out past the end of what is left. -/
theorem le_length_of_mem_wildcardPositions {kept position : Nat} {typed : List Char}
    (member : position ∈ wildcardPositions kept typed) :
    position ≤ kept + (typed.filter (· != wildcard)).length := by
  induction typed generalizing kept with
  | nil => cases member
  | cons c rest ih =>
      rw [wildcardPositions] at member
      split at member
      · rename_i wild
        rw [List.filter_cons_of_neg (by simpa using wild)]
        rcases List.mem_cons.mp member with rfl | later
        · exact Nat.le_add_right ..
        · exact ih later
      · rename_i plain
        rw [List.filter_cons_of_pos (by simpa using plain), List.length_cons]
        have bound := ih member
        omega

theorem le_length_of_mem_positions_ofText {position : Nat} {typed : List Char}
    (member : position ∈ (ofText typed).positions) : position ≤ (ofText typed).text.length := by
  have bound := le_length_of_mem_wildcardPositions member
  rwa [Nat.zero_add, ← text_ofText, String.length_toList] at bound

/-- The glob of what is left of a typed text has the recorded gaps, if the text carries no other. -/
theorem gaps_glob_ofText {typed : List Char} (noGap : Glob.gap ∉ (ofText typed).text.toList) :
    Glob.gapPositions 0 (ofText typed).glob = (ofText typed).positions ∧
      Glob.characters (ofText typed).glob = (ofText typed).text.toList := by
  rw [glob_eq_ofTyped (wildcard_not_mem_text_ofText typed) noGap, typed_ofText, String.toList_ofList,
    Glob.gapPositions_ofTyped, Glob.characters_ofTyped, text_ofText]
  exact ⟨rfl, rfl⟩

end Pattern

namespace Token

/-- What can be relied upon in a token that was read. -/
structure IsWellFormed (t : Token) : Prop where
  /-- The plain argument holds no wildcard. -/
  noWildcard : Pattern.wildcard ∉ t.argument.text.toList
  /-- There are not too many wildcards. -/
  few : t.argument.positions.length ≤ 4
  /-- The wildcards are in order. -/
  ascending : t.argument.positions.Pairwise (· ≤ ·)
  /-- No wildcard is past the end of the plain argument. -/
  inside : ∀ position ∈ t.argument.positions, position ≤ t.argument.text.length
  /-- Only some categories have wildcards. -/
  wildcards : t.argument.positions ≠ [] → t.category.allowsWildcards = true
  /-- Without wildcards the argument is not empty. -/
  nonempty : t.argument.text = "" → t.argument.positions ≠ []
  /-- Tags have no relation, and all other tokens have one. -/
  bare : t.relation = none ↔ t.category = .tag
  /-- A relation is one that the category accepts. -/
  allowed : ∀ relation, t.relation = some relation → t.category.allows relation = true
  /-- A filter has a name of its category. -/
  named : t.category ≠ .tag → Category.ofName? t.name = some t.category
  /-- Where there are wildcards, no character of the argument would be taken for a gap. -/
  noGap : t.argument.positions ≠ [] → Glob.gap ∉ t.argument.text.toList
  /-- Where there are wildcards, exactly they are the gaps of the glob. -/
  gaps : t.argument.positions ≠ [] →
    Glob.gapPositions 0 t.argument.glob = t.argument.positions ∧
      Glob.characters t.argument.glob = t.argument.text.toList

variable {t : Token}

/-- Exactly the tags go without a relation. -/
theorem RelationFits.eq_none_iff {category : Category} {relation : Option Relation}
    (fits : RelationFits category relation) : relation = none ↔ category = .tag := by
  unfold RelationFits at fits
  split at fits
  · rename_i tag
    exact ⟨fun _ => tag, fun _ => fits⟩
  · rename_i notTag
    obtain ⟨r, rfl, -⟩ := fits
    simp [notTag]

/-- A relation that goes with a category is one that it accepts. -/
theorem RelationFits.allows {category : Category} {relation : Relation}
    (fits : RelationFits category (some relation)) : category.allows relation = true := by
  unfold RelationFits at fits
  split at fits
  · cases fits
  · obtain ⟨r, same, allowed⟩ := fits
    cases same
    exact allowed

theorem IsRead.isWellFormed (read : t.IsRead) : t.IsWellFormed := by
  obtain ⟨typed, few, argument⟩ := read.typed
  obtain ⟨wildcards, nonempty, -⟩ := argumentFault?_eq_none_iff.mp read.faultless
  have noGap : t.argument.positions ≠ [] → Glob.gap ∉ t.argument.text.toList :=
    fun wild => read.gap_not_mem (Pattern.hasWildcards_iff_ne_nil.mpr wild)
  have positions : t.argument.positions = Pattern.wildcardPositions 0 typed := by
    rw [argument, Pattern.ofText]
  exact {
    noWildcard := read.wildcard_not_mem
    few := by
      rw [positions, Pattern.length_wildcardPositions]
      exact few
    ascending := by
      rw [positions]
      exact Pattern.pairwise_wildcardPositions 0 typed
    inside := by
      rw [argument]
      exact fun _ => Pattern.le_length_of_mem_positions_ofText
    wildcards := fun wild => wildcards (Pattern.hasWildcards_iff_ne_nil.mpr wild)
    nonempty := fun empty => Pattern.hasWildcards_iff_ne_nil.mp (nonempty empty)
    bare := read.relation.eq_none_iff
    allowed := by
      intro relation given
      have fits := read.relation
      rw [given] at fits
      exact fits.allows
    named := read.named
    noGap := noGap
    gaps := by
      intro wild
      have absent := noGap wild
      rw [argument] at absent ⊢
      exact Pattern.gaps_glob_ofText absent }

/-- Every token that is read from a query or from a form is well formed. -/
theorem read_tokens_are_well_formed :
    (∀ query tokens, ofQuery query = .ok tokens → ∀ t ∈ tokens, t.IsWellFormed) ∧
      ∀ (form : Form) tokens, form.tokens = .ok tokens → ∀ t ∈ tokens, t.IsWellFormed := by
  constructor
  · intro query tokens read t member
    exact (IsRead.of_ofQuery read t member).isWellFormed
  · intro form tokens read t member
    exact (IsRead.of_form read t member).isWellFormed

/-- Wildcards side by side and at both ends of a query, a lone wildcard of a form. -/
theorem read_tokens_are_well_formed_wildcards :
    let tokens : List Token := [⟨.tag, "*ö**", ⟨"ö", [0, 1, 1]⟩, none, true⟩,
      ⟨.source, "src", ⟨"a.b/", [0, 4]⟩, some .equal, false⟩,
      ⟨.width, "w", ⟨"-3", []⟩, some .less, false⟩]
    let form : Form := ⟨["7"], [("comment", ⟨" * ", none, true⟩)]⟩
    let filters : List Token := [⟨.tagId, "tag_id", ⟨"7", []⟩, some .equal, false⟩,
      ⟨.commentBy, "comment", ⟨"", [0]⟩, some .equal, true⟩]
    ofQuery "-*ö** src=*a.b/*  w<-3" = .ok tokens ∧ form.tokens = .ok filters ∧
      (∀ t ∈ tokens, t.IsWellFormed) ∧ ∀ t ∈ filters, t.IsWellFormed := by
  intro tokens form filters
  have query : ofQuery "-*ö** src=*a.b/*  w<-3" = .ok tokens := by rfl
  have fields : form.tokens = .ok filters := by rfl
  obtain ⟨ofQueries, ofForms⟩ := read_tokens_are_well_formed
  exact ⟨query, fields, ofQueries _ _ query, ofForms _ _ fields⟩

end Token

end Tagboard
