import Tagboard.Proofs.LowercaseParts
import Tagboard.Proofs.NameLookup
import Tagboard.Proofs.SearchMeaning
import Tagboard.Proofs.SettledBoard

/-!
# What suggestions withhold

A name that a query mentions is not suggested again, unless it is the word that is being typed and no
two tokens have that name; and nothing is suggested of a tag that is excluded, be it from the search or
from this one question.
-/

namespace Tagboard

open Text

namespace Token

/-- Whether a token mentions a name: a tag its own, a further name of a tag its argument. -/
def Mentions (t : Token) (name : String) : Prop :=
  t.category = .tag ∧ t.name = name ∨ t.category = .tagAlias ∧ t.argument.text = name

theorem mentionedName?_eq_some_iff {t : Token} {name : String} :
    t.mentionedName? = some name ↔ t.Mentions name := by
  unfold mentionedName? Mentions
  cases t.category <;> simp

/-- A token that is read from a word has a name. -/
theorem name_ne_empty_of_ofWord {word : List Char} {t : Token} (read : ofWord word = .ok t) :
    t.name ≠ "" := by
  rcases cases_of_ofWord read with built | ⟨name, _, _, _, -, nonempty, -, -, -, built⟩
  · obtain ⟨-, faultless, rfl⟩ := build_eq_ok_iff.mp built
    intro unnamed
    rw [String.ofList_eq_empty_iff.mp unnamed] at faultless
    exact absurd faultless (by decide)
  · obtain ⟨-, -, rfl⟩ := build_eq_ok_iff.mp built
    exact fun unnamed => nonempty (String.ofList_eq_empty_iff.mp unnamed)

theorem name_ne_empty_of_ofQuery {query : String} {tokens : List Token}
    (read : ofQuery query = .ok tokens) : ∀ t ∈ tokens, t.name ≠ "" :=
  (forall_mem_results_iff read).mpr fun _ _ _ => name_ne_empty_of_ofWord

theorem name_ne_empty_of_form {form : Form} {tokens : List Token} (read : form.tokens = .ok tokens) :
    ∀ t ∈ tokens, t.name ≠ "" := by
  refine forall_mem_formTokens read (fun entry t built => ?_) (fun name filter t built => ?_)
  · obtain ⟨-, -, rfl⟩ := build_eq_ok_iff.mp built
    exact (by decide : Category.tagId.name ≠ "")
  · obtain ⟨category, counting, relation, -, built⟩ := Form.filterToken?_eq_some_iff.mp built
    obtain ⟨-, -, rfl⟩ := build_eq_ok_iff.mp built
    obtain ⟨named, notTag, -⟩ := Form.countingCategory?_eq_some_iff.mp counting
    -- the empty name belongs to the category of tags
    rintro rfl
    exact notTag (Option.some.inj (named.symm.trans rfl))

end Token

/-- A name that is mentioned counts, except for the word being typed where no two tokens have it. -/
theorem mem_mentionedNames_iff {tokens : List Token} {word name : String} :
    name ∈ mentionedNames tokens word ↔
      (∃ t ∈ tokens, t.Mentions name) ∧
        (name ≠ word ∨ 2 ≤ tokens.countP fun t => t.name == word) := by
  rw [mentionedNames, mem_orderedSet_iff, List.mem_filter, List.mem_filterMap]
  simp only [Token.mentionedName?_eq_some_iff, ← List.countP_eq_length_filter]
  simp [or_comm, Nat.lt_iff_add_one_le]

/-- The name that a suggestion offers: that of a tag, or the further name that is suggested. -/
def Suggestion.offeredName? (item : Suggestion) : Option String :=
  match item.category with
  | .tag => some item.name
  | .tagAlias => item.aliasName
  | _ => none

namespace Board

variable {b : Board} {tokens : List Token} {word : String} {excluded : List TagId}
  {withFilters : Bool} {limits : SuggestionLimits} {item : Suggestion}

/-- Nothing is suggested of an excluded tag, neither the tag nor a further name of it. -/
theorem tagId_not_mem_of_mem_suggested
    (member : item ∈ b.suggested tokens word excluded withFilters limits) {id : TagId}
    (tagged : item.tagId = some id) : id ∉ excluded := by
  rcases cases_of_mem_suggested member with ⟨c, rfl, -⟩ | ⟨t, found, rfl⟩ | ⟨pair, found, rfl⟩
  · cases tagged
  · obtain ⟨-, -, -, kept⟩ := mem_tagsByName_iff.mp found
    cases tagged
    exact kept
  · obtain ⟨-, target, -, -, kept⟩ := mem_namedAliases_iff.mp found
    cases tagged
    have same : pair.2.id = pair.1.tagId := by simpa using List.find?_some target
    rwa [same]

/-- No mentioned name is offered; the filter of tags, which has no name, completes the empty word. -/
theorem not_mem_mentionedNames_of_mem_suggested
    (member : item ∈ b.suggested tokens word excluded withFilters limits) {name : String}
    (offered : item.offeredName? = some name) :
    name ∉ mentionedNames tokens (withoutNegation word) ∨ name = "" ∧ withoutNegation word = "" := by
  rcases cases_of_mem_suggested member with ⟨c, rfl, occurs⟩ | ⟨t, found, rfl⟩ | ⟨pair, found, rfl⟩
  · right
    cases c with
    | tag =>
        cases offered
        exact ⟨rfl, String.toList_eq_nil_iff.mp (List.infix_nil.mp (occursIn_iff_isInfix.mp occurs))⟩
    | _ => cases offered
  · obtain ⟨-, -, unmentioned, -⟩ := mem_tagsByName_iff.mp found
    cases offered
    exact .inl unmentioned
  · obtain ⟨-, -, -, unmentioned, -⟩ := mem_namedAliases_iff.mp found
    cases offered
    exact .inl unmentioned

end Board

/-- The tokens of a query or of a form have names. -/
theorem Search.name_ne_empty_of_read {s : Search}
    (read : (∃ query, ofQuery query = .ok s) ∨ ∃ form, ofForm form = .ok s) :
    ∀ t ∈ s.tokens, t.name ≠ "" := by
  rcases read with ⟨query, read⟩ | ⟨form, read⟩
  · obtain ⟨tokens, htokens, same⟩ := bind_eq_ok_iff.mp read
    cases same
    exact Token.name_ne_empty_of_ofQuery htokens
  · obtain ⟨tokens, htokens, same⟩ := bind_eq_ok_iff.mp read
    cases same
    exact Token.name_ne_empty_of_form htokens

/--
A search of a query or of a form has suggestions on every accepted board, and none of them is of an
excluded tag or offers a name that a token mentions. Only the word being typed may be offered although it
is mentioned, and not even this where two tokens have it as their name.
-/
theorem Search.suggestions_withhold {b accepted : Board} (accepts : b.accept = .ok accepted)
    {s : Search} (read : (∃ query, ofQuery query = .ok s) ∨ ∃ form, ofForm form = .ok s)
    (hidden excluded : List TagId) (limits : SuggestionLimits) (word : Option String)
    (withFilters : Bool) :
    let typed := withoutNegation (word.getD s.word)
    ∃ items, ((s.exclude hidden).withLimits limits).suggestions accepted.store word excluded
        withFilters = .ok items ∧
      (∀ item ∈ items, ∀ id, item.tagId = some id → id ∉ hidden ∧ id ∉ excluded) ∧
      (∀ item ∈ items, ∀ name, item.offeredName? = some name →
        ∀ t ∈ s.tokens, t.Mentions name → name = typed) ∧
      (2 ≤ s.tokens.countP (fun t => t.name == typed) →
        ∀ item ∈ items, ∀ name, item.offeredName? = some name →
          ∀ t ∈ s.tokens, ¬ t.Mentions name) := by
  intro typed
  obtain ⟨consistent, rfl⟩ := Board.accept_eq_ok_iff.mp accepts
  have members (id : TagId) :
      id ∈ orderedSet ((s.exclude hidden).excluded ++ excluded) ↔ id ∈ hidden ∨ id ∈ excluded := by
    rw [mem_orderedSet_iff, List.mem_append, mem_excluded_exclude_iff]
  refine ⟨_, suggestions_store_eq _ consistent.settled.aliases word excluded withFilters, ?_, ?_, ?_⟩
  · intro item member id tagged
    have kept := Board.tagId_not_mem_of_mem_suggested member tagged
    exact not_or.mp (mt (members id).mpr kept)
  · intro item member name offered t listed mentions
    rcases Board.not_mem_mentionedNames_of_mem_suggested member offered with absent | ⟨rfl, empty⟩
    · by_contra other
      exact absent (mem_mentionedNames_iff.mpr ⟨⟨t, listed, mentions⟩, .inl other⟩)
    · exact empty.symm
  · intro repeated item member name offered t listed mentions
    rcases Board.not_mem_mentionedNames_of_mem_suggested member offered with absent | ⟨-, empty⟩
    · exact absent (mem_mentionedNames_iff.mpr ⟨⟨t, listed, mentions⟩, .inr repeated⟩)
    · -- no token is named by the empty word, so that none repeats it
      have once : 0 < s.tokens.countP fun t => t.name == typed := by omega
      obtain ⟨other, present, named⟩ := List.countP_pos_iff.mp once
      exact name_ne_empty_of_read read other present ((eq_of_beq named).trans empty)

/-- The word `blu` is offered while it is typed once, and no mentioned name is once it is repeated. -/
theorem Search.suggestions_withhold_blue :
    let b : Board := ⟨[⟨1, "", "ann", [7, 8], .safe, none, none, [], []⟩],
      [⟨8, "blu", none, 0, .safe⟩, ⟨7, "blue", none, 0, .safe⟩,
        ⟨5, "blub", none, 0, .safe⟩, ⟨4, "bluff", none, 0, .safe⟩],
      [⟨1, "blues", 7⟩, ⟨2, "bluish", 7⟩, ⟨3, "blubber", 5⟩]⟩
    let once : Search := { word := "-blu", tokens := [
      ⟨.tagAlias, "alias", ⟨"blues", []⟩, some .equal, false⟩, ⟨.tag, "blu", ⟨"blu", []⟩, none, true⟩] }
    let twice : Search := { word := "-blu", tokens := [
      ⟨.tag, "blu", ⟨"blu", []⟩, none, false⟩, ⟨.tag, "blu", ⟨"blu", []⟩, none, true⟩] }
    let items : List Suggestion := [⟨.tag, "blue", none, some 7, none, some 1⟩,
      ⟨.tag, "blu", none, some 8, none, some 1⟩,
      ⟨.tagAlias, "blue", none, some 7, some "bluish", some 1⟩]
    let fewer : List Suggestion := [⟨.tag, "blue", none, some 7, none, some 1⟩,
      ⟨.tagAlias, "blue", none, some 7, some "blues", some 1⟩]
    b.accept = .ok b.settled ∧ ofQuery "alias=blues -blu" = .ok once ∧
      ofQuery "blu -blu" = .ok twice ∧
      ((once.exclude [5]).withLimits ⟨9, 9⟩).suggestions b.settled.store none [4] true = .ok items ∧
      (∀ item ∈ items, ∀ id, item.tagId = some id → id ∉ [5] ∧ id ∉ [4]) ∧
      (∀ item ∈ items, ∀ name, item.offeredName? = some name →
        ∀ t ∈ once.tokens, t.Mentions name → name = withoutNegation "-blu") ∧
      ((twice.exclude [5]).withLimits ⟨9, 1⟩).suggestions b.settled.store none [4] false =
        .ok fewer ∧
      2 ≤ twice.tokens.countP (fun t => t.name == withoutNegation "-blu") ∧
      ∀ item ∈ fewer, ∀ name, item.offeredName? = some name →
        ∀ t ∈ twice.tokens, ¬ t.Mentions name := by
  intro b once twice items fewer
  have accepts : b.accept = .ok b.settled := rfl
  have readOnce : ofQuery "alias=blues -blu" = .ok once := rfl
  have readTwice : ofQuery "blu -blu" = .ok twice := rfl
  have repeated : 2 ≤ twice.tokens.countP (fun t => t.name == withoutNegation "-blu") := by
    decide +kernel
  obtain ⟨found, answered, kept, unmentioned, -⟩ := suggestions_withhold accepts
    (.inl ⟨_, readOnce⟩) [5] [4] ⟨9, 9⟩ none true
  obtain ⟨found', answered', -, -, unoffered⟩ := suggestions_withhold accepts
    (.inl ⟨_, readTwice⟩) [5] [4] ⟨9, 1⟩ none false
  have computed : ((once.exclude [5]).withLimits ⟨9, 9⟩).suggestions b.settled.store none [4] true =
      .ok items := by cbv
  have computed' : ((twice.exclude [5]).withLimits ⟨9, 1⟩).suggestions b.settled.store none [4] false =
      .ok fewer := by cbv
  cases answered.symm.trans computed
  cases answered'.symm.trans computed'
  exact ⟨accepts, readOnce, readTwice, computed, kept, unmentioned, computed', repeated,
    unoffered repeated⟩

end Tagboard
