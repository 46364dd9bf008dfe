import Tagboard.Proofs.AcceptedBoard
import Tagboard.Proofs.Traverse
import Tagboard.Search

/-!
# Looking up names on a board

What a board finds for a text: the tags in whose names it occurs, and the further names in which it
occurs, each with its tag. Looking up further names succeeds on every board whose further names belong
to tags of the board, and such a board has suggestions for every word.
-/

namespace Tagboard

open Text

namespace Board

variable {b : Board} {text : String} {names : List String} {ids : List TagId}

theorem mem_tagsByName_iff {t : Tag} :
    t ∈ b.tagsByName text names ids ↔
      t ∈ b.tags ∧ occursIgnoringCase text t.name = true ∧ t.name ∉ names ∧ t.id ∉ ids := by
  simp [tagsByName, List.mem_mergeSort, List.mem_filter, and_assoc]

/-- A further name together with its tag, if there is one. -/
def withTag? (b : Board) (a : Alias) : Option (Alias × Tag) :=
  (b.tag? a.tagId).map fun t => (a, t)

/-- The further names in which a text occurs, with their tags and without what is not wanted. -/
def namedAliases (b : Board) (text : String) (names : List String) (ids : List TagId) :
    List (Alias × Tag) :=
  ((b.aliases.filter fun a =>
    occursIgnoringCase text a.name && !names.contains a.name && !ids.contains a.tagId).filterMap
      b.withTag?).mergeSort fun x y => aliasPrecedes x.1 y.1

theorem withTag?_eq_some_iff {a : Alias} {pair : Alias × Tag} :
    b.withTag? a = some pair ↔ pair.1 = a ∧ b.tag? a.tagId = some pair.2 := by
  obtain ⟨other, t⟩ := pair
  simp only [withTag?, Option.map_eq_some_iff, Prod.mk.injEq]
  constructor
  · rintro ⟨_, found, rfl, rfl⟩
    exact ⟨rfl, found⟩
  · rintro ⟨rfl, found⟩
    exact ⟨t, found, rfl, rfl⟩

theorem mem_namedAliases_iff {pair : Alias × Tag} :
    pair ∈ b.namedAliases text names ids ↔
      pair.1 ∈ b.aliases ∧ b.tag? pair.1.tagId = some pair.2 ∧
        occursIgnoringCase text pair.1.name = true ∧ pair.1.name ∉ names ∧ pair.1.tagId ∉ ids := by
  rw [namedAliases, List.mem_mergeSort, List.mem_filterMap]
  constructor
  · rintro ⟨a, member, found⟩
    obtain ⟨rfl, tagged⟩ := withTag?_eq_some_iff.mp found
    simp only [List.mem_filter, Bool.and_eq_true, Bool.not_eq_true', List.contains_eq_mem,
      decide_eq_false_iff_not] at member
    obtain ⟨listed, ⟨occurs, unnamed⟩, kept⟩ := member
    exact ⟨listed, tagged, occurs, unnamed, kept⟩
  · rintro ⟨listed, tagged, occurs, unnamed, kept⟩
    refine ⟨pair.1, ?_, withTag?_eq_some_iff.mpr ⟨rfl, tagged⟩⟩
    simp [List.mem_filter, listed, occurs, unnamed, kept]

/-- A tag of the board is found by its number. -/
theorem exists_tag?_of_mem {id : TagId} (known : id ∈ b.tags.map (·.id)) :
    ∃ t, b.tag? id = some t := by
  obtain ⟨t, member, same⟩ := List.mem_map.mp known
  rw [← Option.isSome_iff_exists, tag?, List.find?_isSome]
  exact ⟨t, member, by simpa using same⟩

/-- A board whose further names belong to its tags finds further names without fail. -/
theorem aliasesByName_eq_ok (known : ∀ a ∈ b.aliases, a.tagId ∈ b.tags.map (·.id)) (text : String)
    (names : List String) (ids : List TagId) :
    b.aliasesByName text names ids = .ok (b.namedAliases text names ids) := by
  rw [aliasesByName, mapM_eq_ok_filterMap b.withTag?]
  · rfl
  · intro a member
    obtain ⟨t, found⟩ := exists_tag?_of_mem (known a (List.mem_filter.mp member).1)
    refine ⟨(a, t), withTag?_eq_some_iff.mpr ⟨rfl, found⟩, ?_⟩
    simp only [found]

/-- The suggestions of a board for a word: filters if they are asked for, tags and further names. -/
def suggested (b : Board) (tokens : List Token) (word : String) (excluded : List TagId)
    (withFilters : Bool) (limits : SuggestionLimits) : List Suggestion :=
  let word := withoutNegation word
  let mentioned := mentionedNames tokens word
  (if withFilters then filterSuggestions word else []) ++
    ((b.tagsByName word mentioned excluded).take limits.tags).map .ofTag ++
    ((b.namedAliases word mentioned excluded).take limits.aliases).map fun (a, t) => .ofAlias a t

/-- A board whose further names belong to its tags has suggestions for every word. -/
theorem suggest_store_eq (known : ∀ a ∈ b.aliases, a.tagId ∈ b.tags.map (·.id)) (tokens : List Token)
    (word : String) (excluded : List TagId) (withFilters : Bool) (limits : SuggestionLimits) :
    suggest b.store tokens word excluded withFilters limits =
      .ok (b.suggested tokens word excluded withFilters limits) := by
  simp only [suggest, store, aliasesByName_eq_ok known, ok_bind]
  rfl

/-- A suggestion is a filter in which the word occurs, or a tag or a further name that is looked up. -/
theorem cases_of_mem_suggested {tokens : List Token} {word : String} {excluded : List TagId}
    {withFilters : Bool} {limits : SuggestionLimits} {item : Suggestion}
    (member : item ∈ b.suggested tokens word excluded withFilters limits) :
    (∃ c : Category, item = .ofCategory c ∧
        occursIn (withoutNegation word).toList c.name.toList = true) ∨
      (∃ t ∈ b.tagsByName (withoutNegation word) (mentionedNames tokens (withoutNegation word))
        excluded, item = .ofTag t) ∨
      ∃ pair ∈ b.namedAliases (withoutNegation word) (mentionedNames tokens (withoutNegation word))
        excluded, item = .ofAlias pair.1 pair.2 := by
  simp only [suggested, List.mem_append, List.mem_map] at member
  rcases member with (filter | ⟨t, taken, rfl⟩) | ⟨pair, taken, rfl⟩
  · left
    split at filter
    · obtain ⟨c, occurs, rfl⟩ := List.mem_map.mp filter
      exact ⟨c, rfl, (List.mem_filter.mp occurs).2⟩
    · cases filter
  · exact .inr (.inl ⟨t, List.mem_of_mem_take taken, rfl⟩)
  · exact .inr (.inr ⟨pair, List.mem_of_mem_take taken, rfl⟩)

end Board

/-- Such a board has suggestions for every search. -/
theorem Search.suggestions_store_eq (s : Search) {b : Board}
    (known : ∀ a ∈ b.aliases, a.tagId ∈ b.tags.map (·.id)) (word : Option String)
    (excluded : List TagId) (withFilters : Bool) :
    s.suggestions b.store word excluded withFilters =
      .ok (b.suggested s.tokens (word.getD s.word) (orderedSet (s.excluded ++ excluded)) withFilters
        s.limits) := by
  rw [suggestions, Board.suggest_store_eq known]
  rfl

end Tagboard
