import Tagboard.Proofs.BoardOrder
import Tagboard.Proofs.LowercaseParts
import Tagboard.Proofs.NameLookup
import Tagboard.Proofs.SettledBoard

/-!
# The first of all suggestions

The tags and the further names that may be suggested for a word are put in order before they are cut, so
that the suggestions are the first of them. Each stands behind those that come before it in the order, and
is left out only where these are as many as the limit.
-/

namespace Tagboard

open Text

/-- Whether a name of a tag may be suggested for a word, given the names and the tags that may not. -/
structure Eligible (word : String) (names : List String) (ids : List TagId) (name : String)
    (id : TagId) : Prop where
  occurs : lowercase word.toList <:+: lowercase name.toList
  unmentioned : name ∉ names
  kept : id ∉ ids

variable {word : String} {names : List String} {ids : List TagId}

theorem eligible_iff {name : String} {id : TagId} :
    Eligible word names ids name id ↔
      (occursIgnoringCase word name && !names.contains name && !ids.contains id) = true := by
  simp only [Bool.and_eq_true, Bool.not_eq_true', List.contains_eq_mem, decide_eq_false_iff_not,
    occursIgnoringCase, occursIn_iff_isInfix]
  constructor
  · rintro ⟨occurs, unmentioned, kept⟩
    exact ⟨⟨occurs, unmentioned⟩, kept⟩
  · rintro ⟨⟨occurs, unmentioned⟩, kept⟩
    exact ⟨occurs, unmentioned, kept⟩

/-- The filters that are suggested are those in whose names the word occurs, as they are listed. -/
theorem filterSuggestions_eq (word : String) :
    filterSuggestions word =
      (Category.all.filter fun c => word.toList <:+: c.name.toList).map .ofCategory := by
  have same : ∀ c ∈ Category.all, occursIn word.toList c.name.toList =
      decide (word.toList <:+: c.name.toList) := fun c _ => by
    rw [Bool.eq_iff_iff, occursIn_iff_isInfix, decide_eq_true_eq]
  rw [filterSuggestions, List.filter_congr same]

instance (name : String) (id : TagId) : Decidable (Eligible word names ids name id) :=
  decidable_of_iff _ eligible_iff.symm

namespace Board

variable {b : Board}

/-- The tags of a look-up are all that may be suggested, in order. -/
theorem sortsByRank_tagsByName :
    SortsByRank Tag.rank (b.tagsByName word names ids)
      (b.tags.filter fun t => Eligible word names ids t.name t.id) := by
  simp only [tagsByName, eligible_iff, Bool.decide_eq_true]
  exact sortsByRank_mergeSort tagPrecedes_iff _

/-- Further names of tags of the board are paired with their tags, none left out. -/
theorem map_fst_filterMap_withTag? {aliases : List Alias}
    (known : ∀ a ∈ aliases, a.tagId ∈ b.tags.map (·.id)) :
    (aliases.filterMap b.withTag?).map (·.1) = aliases := by
  have single : ∀ a ∈ aliases, (b.withTag? a).map (·.1) = some a := by
    intro a member
    obtain ⟨t, found⟩ := exists_tag?_of_mem (known a member)
    rw [withTag?, found]
    rfl
  rw [List.map_filterMap, List.filterMap_congr single, List.filterMap_some]

/-- The further names of a look-up are all that may be suggested, in order. -/
theorem sortsByRank_namedAliases (known : ∀ a ∈ b.aliases, a.tagId ∈ b.tags.map (·.id)) :
    SortsByRank Alias.rank ((b.namedAliases word names ids).map (·.1))
      (b.aliases.filter fun a => Eligible word names ids a.name a.tagId) := by
  simp only [namedAliases, eligible_iff, Bool.decide_eq_true]
  rw [List.map_mergeSort (s := aliasPrecedes) (f := Prod.fst) fun _ _ _ _ => rfl,
    map_fst_filterMap_withTag? fun a member => known a (List.mem_of_mem_filter member)]
  exact sortsByRank_mergeSort aliasPrecedes_iff _

/-- Tags that may be suggested are told apart by their ranks. -/
theorem pairwise_rank_ne (distinct : (b.tags.map (·.id)).Nodup) (may : Tag → Bool) :
    (b.tags.filter may).Pairwise fun s t => s.rank ≠ t.rank :=
  ((List.pairwise_map.mp distinct).sublist List.filter_sublist).imp
    fun other same => other (Tag.id_eq_of_rank_eq same)

/--
The suggestions for a word are the filters in whose names it occurs, if they are asked for, then the first
of all tags that may be suggested, and then the first of all further names that may be, each with its own
tag. The tags and the further names are in order, further names of one rank as the board lists them, and
each stands behind those that come before it, unless these are as many as the limit.
-/
theorem suggestions_are_first {accepted : Board} (accepts : b.accept = .ok accepted)
    (tokens : List Token) (word : String) (excluded : List TagId) (withFilters : Bool)
    (limits : SuggestionLimits) :
    let typed := withoutNegation word
    let may := Eligible typed (mentionedNames tokens typed) excluded
    ∃ (tags : List Tag) (aliases : List (Alias × Tag)),
      suggest accepted.store tokens word excluded withFilters limits = .ok
        ((if withFilters then
            (Category.all.filter fun c => typed.toList <:+: c.name.toList).map .ofCategory
          else []) ++
          (tags.take limits.tags).map (fun t =>
            ⟨.tag, t.name, t.category, some t.id, none, some t.postCount⟩) ++
          (aliases.take limits.aliases).map fun (a, t) =>
            ⟨.tagAlias, t.name, t.category, some t.id, some a.name, some t.postCount⟩) ∧
      SortsByRank Tag.rank tags (accepted.tags.filter fun t => may t.name t.id) ∧
      SortsByRank Alias.rank (aliases.map (·.1))
        (accepted.aliases.filter fun a => may a.name a.tagId) ∧
      (∀ pair ∈ aliases, pair.2 ∈ accepted.tags ∧ pair.2.id = pair.1.tagId) ∧
      (∀ t ∈ accepted.tags, may t.name t.id →
        let earlier := accepted.tags.countP fun s => s.rank < t.rank ∧ may s.name s.id
        earlier < limits.tags → (tags.take limits.tags)[earlier]? = some t) ∧
      ∀ before a after, accepted.aliases = before ++ a :: after → may a.name a.tagId →
        let earlier := accepted.aliases.countP (fun c => c.rank < a.rank ∧ may c.name c.tagId) +
          before.countP fun c => c.rank = a.rank ∧ may c.name c.tagId
        earlier < limits.aliases →
          ((aliases.take limits.aliases).map (·.1))[earlier]? = some a := by
  intro typed may
  obtain ⟨consistent, rfl⟩ := accept_eq_ok_iff.mp accepts
  have known := consistent.settled.aliases
  have distinct := consistent.settled.tagIds
  have tagOrder : SortsByRank Tag.rank
      (b.settled.tagsByName typed (mentionedNames tokens typed) excluded)
      (b.settled.tags.filter fun t => may t.name t.id) := sortsByRank_tagsByName
  have aliasOrder : SortsByRank Alias.rank
      ((b.settled.namedAliases typed (mentionedNames tokens typed) excluded).map (·.1))
      (b.settled.aliases.filter fun a => may a.name a.tagId) := sortsByRank_namedAliases known
  refine ⟨_, b.settled.namedAliases typed (mentionedNames tokens typed) excluded, ?_, tagOrder,
    aliasOrder, ?_, ?_, ?_⟩
  · rw [suggest_store_eq known, suggested, filterSuggestions_eq]
    rfl
  · intro pair member
    obtain ⟨-, found, -⟩ := mem_namedAliases_iff.mp member
    exact (tag?_eq_some_iff distinct).mp found
  · intro t member eligible earlier room
    have place := tagOrder.getElem?_eq_some_of_pairwise (pairwise_rank_ne distinct _)
      (List.mem_filter.mpr ⟨member, decide_eq_true eligible⟩)
    rw [List.countP_filter] at place
    simp only [← Bool.decide_and] at place
    rw [List.getElem?_take_of_lt room]
    exact place
  · intro before a after listed eligible earlier room
    have cut : b.settled.aliases.filter (fun a => may a.name a.tagId) =
        before.filter (fun a => may a.name a.tagId) ++
          a :: after.filter (fun a => may a.name a.tagId) := by
      rw [listed, List.filter_append, List.filter_cons, if_pos (decide_eq_true eligible)]
    have place := aliasOrder.getElem?_eq_some cut
    rw [List.countP_filter, List.countP_filter] at place
    simp only [← Bool.decide_and] at place
    rw [List.map_take, List.getElem?_take_of_lt room]
    exact place

/-- Two of three tags, the one without a category left out, and two of three further names, of which two
have one rank. -/
theorem suggestions_are_first_al :
    let alp : Tag := ⟨2, "ALP", some "bio", 0, .safe⟩
    let alga : Tag := ⟨3, "alga", some "bio", 0, .safe⟩
    let b : Board := ⟨[], [⟨4, "opal", none, 0, .safe⟩, alga, alp, ⟨5, "halo", some "art", 0, .safe⟩],
      [⟨8, "alps", 2⟩, ⟨8, "alps", 3⟩, ⟨7, "mount", 2⟩, ⟨1, "algae", 3⟩]⟩
    let tokens : List Token := [⟨.tag, "halo", ⟨"halo", []⟩, none, false⟩]
    let may := Eligible (withoutNegation "-al") (mentionedNames tokens (withoutNegation "-al")) [9]
    b.accept = .ok b.settled ∧
      suggest b.settled.store tokens "-al" [9] true ⟨2, 2⟩ = .ok
        [⟨.tagAlias, "alias", none, none, none, none⟩,
          ⟨.tag, "ALP", some "bio", some 2, none, some 0⟩,
          ⟨.tag, "alga", some "bio", some 3, none, some 0⟩,
          ⟨.tagAlias, "alga", some "bio", some 3, some "algae", some 0⟩,
          ⟨.tagAlias, "ALP", some "bio", some 2, some "alps", some 0⟩] ∧
      ∃ (tags : List Tag) (aliases : List (Alias × Tag)),
        SortsByRank Tag.rank tags (b.settled.tags.filter fun t => may t.name t.id) ∧
        (tags.take 2)[1]? = some alga ∧
        ((aliases.take 2).map (·.1))[1]? = some ⟨8, "alps", 2⟩ := by
  intro alp alga b tokens may
  have accepts : b.accept = .ok b.settled := rfl
  have computed : suggest b.settled.store tokens "-al" [9] true ⟨2, 2⟩ = .ok
      [⟨.tagAlias, "alias", none, none, none, none⟩,
        ⟨.tag, "ALP", some "bio", some 2, none, some 0⟩,
        ⟨.tag, "alga", some "bio", some 3, none, some 0⟩,
        ⟨.tagAlias, "alga", some "bio", some 3, some "algae", some 0⟩,
        ⟨.tagAlias, "ALP", some "bio", some 2, some "alps", some 0⟩] := by cbv
  obtain ⟨tags, aliases, -, order, -, -, tagPlaces, aliasPlaces⟩ :=
    suggestions_are_first accepts tokens "-al" [9] true ⟨2, 2⟩
  have tagPlace := tagPlaces alga (by decide) (by decide +kernel) (by decide +kernel)
  have aliasPlace := aliasPlaces [] ⟨8, "alps", 2⟩ _ rfl (by decide +kernel) (by decide +kernel)
  have oneTag : b.settled.tags.countP (fun s => s.rank < alga.rank ∧ may s.name s.id) = 1 := by
    decide +kernel
  have oneAlias : b.settled.aliases.countP (fun c =>
      c.rank < (⟨8, "alps", 2⟩ : Alias).rank ∧ may c.name c.tagId) = 1 := by
    decide +kernel
  rw [oneTag] at tagPlace
  rw [oneAlias] at aliasPlace
  exact ⟨accepts, computed, tags, aliases, order, tagPlace, aliasPlace⟩

end Board

end Tagboard
