import Tagboard.Form
import Tagboard.Proofs.ArgumentRules
import Tagboard.Token.Parser

/-!
# Tokens as they are read

A query and a form are two ways to write down tokens. Every token that is read from either satisfies
`Token.IsRead`: its argument is what is left of a typed text, its category finds no fault with the
argument, and its relation is one that the category accepts.
-/

namespace Tagboard

open Text

namespace Pattern

theorem text_ofText (typed : List Char) :
    (ofText typed).text.toList = typed.filter (· != wildcard) := by
  rw [ofText, String.toList_ofList]

/-- What is left of a typed text holds no wildcard. -/
theorem wildcard_not_mem_text_ofText (typed : List Char) :
    wildcard ∉ (ofText typed).text.toList := by
  simp [text_ofText]

end Pattern

namespace Form

/-- A filter counts exactly if its name is that of a category with names and its value is not blank. -/
theorem countingCategory?_eq_some_iff {name : String} {filter : FormFilter} {category : Category} :
    countingCategory? name filter = some category ↔
      Category.ofName? name = some category ∧ category ≠ .tag ∧
        filter.value.toList.all isBlank = false := by
  rw [countingCategory?, isEmpty_trim]
  split
  · rename_i unnamed
    simp [unnamed]
  · rename_i named
    simp +contextual [named]
  · rename_i found notTag named
    rw [named, Option.some.injEq]
    cases filter.value.toList.all isBlank
    · simpa using fun same => same ▸ notTag
    · simp

/-- The relation of a filter is one that its category accepts. -/
theorem allows_of_relationOf {category : Category} {filter : FormFilter} {relation : Relation}
    (related : relationOf category filter = .ok relation) : category.allows relation = true := by
  unfold relationOf at related
  split at related
  · cases related
    cases category <;> rfl
  · simp only at related
    split at related
    · split at related
      · cases related
        assumption
      · cases related
    · cases related

/-- A filter has a token exactly if it counts, its relation is accepted and its token can be built. -/
theorem filterToken?_eq_some_iff {name : String} {filter : FormFilter} {t : Token} :
    filterToken? name filter = .ok (some t) ↔
      ∃ category, countingCategory? name filter = some category ∧
        ∃ relation, relationOf category filter = .ok relation ∧
          Token.build category name filter.value.toList (some relation) filter.negated = .ok t := by
  unfold filterToken?
  cases countingCategory? name filter with
  | none => simp
  | some category => simp [bind_eq_ok_iff]

end Form

namespace Token

/-- Reading an argument refuses too many wildcards, and nothing else. -/
theorem readArgument_eq (typed : List Char) :
    readArgument typed =
      if Pattern.maxWildcards < typed.count Pattern.wildcard then
        .error (.tooManyWildcards (String.ofList typed) (typed.count Pattern.wildcard))
      else .ok (Pattern.ofText typed) := by
  have positions : (Pattern.ofText typed).positions.length = typed.count Pattern.wildcard :=
    Pattern.length_wildcardPositions 0 typed
  simp only [readArgument, positions]
  by_cases many : Pattern.maxWildcards < typed.count Pattern.wildcard
  · rw [if_pos many, if_pos many]
    rfl
  · rw [if_neg many, if_neg many]
    rfl

/-- Building a token refuses too many wildcards first, and then what the category refuses. -/
theorem build_eq (category : Category) (name : String) (typed : List Char)
    (relation : Option Relation) (negated : Bool) :
    build category name typed relation negated =
      if Pattern.maxWildcards < (trim typed).count Pattern.wildcard then
        .error (.tooManyWildcards (String.ofList (trim typed))
          ((trim typed).count Pattern.wildcard))
      else
        match argumentFault? category (Pattern.ofText (trim typed)) with
        | none => .ok ⟨category, name, Pattern.ofText (trim typed), relation, negated⟩
        | some fault =>
            .error (.invalidArgument category (Pattern.ofText (trim typed)).typed fault) := by
  simp only [build, readArgument_eq]
  by_cases many : Pattern.maxWildcards < (trim typed).count Pattern.wildcard
  · rw [if_pos many, if_pos many, error_bind]
  · rw [if_neg many, if_neg many, ok_bind, checkArgument]
    cases argumentFault? category (Pattern.ofText (trim typed)) <;> rfl

/-- Reading a filter looks at its parts in a fixed order, and the first fault is the answer. -/
theorem ofFilter_eq (word : String) (negated : Bool) (name : List Char) (relation : Relation)
    (argument : List Char) :
    ofFilter word negated name relation argument =
      if name = [] ∨ argument = [] then .error (.malformedToken word)
      else
        match Category.ofName? (String.ofList name) with
        | none => .error (.unknownFilter (String.ofList name))
        | some category =>
            if argument.any Relation.isSymbol = true then .error (.severalRelations word)
            else if category.allows relation = false then
              .error (.relationNotAllowed category relation.text)
            else build category (String.ofList name) argument (some relation) negated := by
  have empty : (name.isEmpty || argument.isEmpty) = true ↔ name = [] ∨ argument = [] := by simp
  simp only [ofFilter, empty]
  by_cases malformed : name = [] ∨ argument = []
  · rw [if_pos malformed, if_pos malformed]
    rfl
  · rw [if_neg malformed, if_neg malformed]
    cases Category.ofName? (String.ofList name) with
    | none => rfl
    | some category =>
        dsimp only
        cases argument.any Relation.isSymbol <;> cases category.allows relation <;> rfl

/-- Whether a relation, or the lack of one, goes with a category. -/
def RelationFits (category : Category) (relation : Option Relation) : Prop :=
  if category = .tag then relation = none
  else ∃ r, relation = some r ∧ category.allows r = true

/-- What holds of every token that is read from a query or from a form. -/
structure IsRead (t : Token) : Prop where
  /-- The argument is what is left of a typed text, without too many wildcards. -/
  typed : ∃ typed, typed.count Pattern.wildcard ≤ Pattern.maxWildcards ∧
    t.argument = Pattern.ofText typed
  /-- The category finds no fault with the argument. -/
  faultless : argumentFault? t.category t.argument = none
  /-- A tag has no relation, and a filter has one that its category accepts. -/
  relation : RelationFits t.category t.relation
  /-- A filter has a name of its category. -/
  named : t.category ≠ .tag → Category.ofName? t.name = some t.category

/-- A token is built exactly from an argument without too many wildcards or another fault. -/
theorem build_eq_ok_iff {category : Category} {name : String} {typed : List Char}
    {relation : Option Relation} {negated : Bool} {t : Token} :
    build category name typed relation negated = .ok t ↔
      (trim typed).count Pattern.wildcard ≤ Pattern.maxWildcards ∧
        argumentFault? category (Pattern.ofText (trim typed)) = none ∧
          t = ⟨category, name, Pattern.ofText (trim typed), relation, negated⟩ := by
  rw [build_eq]
  split
  · rename_i many
    simp [Nat.not_le.mpr many]
  · rename_i few
    cases argumentFault? category (Pattern.ofText (trim typed)) with
    | none => simp [Nat.not_lt.mp few, eq_comm]
    | some fault => simp

/-- A built token is as tokens are read, if its relation and its name go with its category. -/
theorem IsRead.of_build {category : Category} {name : String} {typed : List Char}
    {relation : Option Relation} {negated : Bool} {t : Token}
    (built : build category name typed relation negated = .ok t)
    (fits : RelationFits category relation)
    (named : category ≠ .tag → Category.ofName? name = some category) : t.IsRead := by
  obtain ⟨few, faultless, rfl⟩ := build_eq_ok_iff.mp built
  exact ⟨⟨trim typed, few, rfl⟩, faultless, fits, named⟩

/-- A filter is read exactly from a name of a category, one relation that it accepts and an argument. -/
theorem ofFilter_eq_ok_iff {word : String} {negated : Bool} {name : List Char} {relation : Relation}
    {argument : List Char} {t : Token} :
    ofFilter word negated name relation argument = .ok t ↔
      name ≠ [] ∧ argument ≠ [] ∧ argument.any Relation.isSymbol = false ∧
        ∃ category, Category.ofName? (String.ofList name) = some category ∧
          category.allows relation = true ∧
            build category (String.ofList name) argument (some relation) negated = .ok t := by
  rw [ofFilter_eq]
  by_cases malformed : name = [] ∨ argument = []
  · rw [if_pos malformed]
    simp only [reduceCtorEq, false_iff]
    rintro ⟨hname, hargument, -⟩
    exact malformed.elim hname hargument
  · rw [if_neg malformed]
    rw [not_or] at malformed
    cases Category.ofName? (String.ofList name) with
    | none => simp
    | some category =>
        cases argument.any Relation.isSymbol <;> cases allowed : category.allows relation <;>
          simp [malformed.1, malformed.2, allowed]

/-- A word without a relation is read as a tag, and any other as a filter of a category with names. -/
theorem cases_of_ofWord {word : List Char} {t : Token} (read : ofWord word = .ok t) :
    build .tag (String.ofList (splitNegation word).2) (splitNegation word).2 none
        (splitNegation word).1 = .ok t ∨
      ∃ name relation argument category,
        splitRelation? (splitNegation word).2 = some (name, relation, argument) ∧ name ≠ [] ∧
          Category.ofName? (String.ofList name) = some category ∧ category ≠ .tag ∧
            category.allows relation = true ∧
              build category (String.ofList name) argument (some relation) (splitNegation word).1 =
                .ok t := by
  unfold ofWord at read
  cases parts : splitRelation? (splitNegation word).2 with
  | none =>
      simp only [parts] at read
      exact .inl read
  | some found =>
      obtain ⟨name, relation, argument⟩ := found
      simp only [parts] at read
      obtain ⟨nonempty, -, -, category, named, allowed, built⟩ := ofFilter_eq_ok_iff.mp read
      have notTag : category ≠ .tag := by
        rintro rfl
        have unnamed := List.mem_singleton.mp (Category.ofName?_eq_some_iff.mp named)
        exact nonempty (String.ofList_eq_empty_iff.mp unnamed)
      exact .inr ⟨name, relation, argument, category, rfl, nonempty, named, notTag, allowed, built⟩

/-- The tokens of words are as tokens are read. -/
theorem IsRead.of_ofWord {word : List Char} {t : Token} (read : ofWord word = .ok t) : t.IsRead := by
  rcases cases_of_ofWord read with
    built | ⟨name, relation, argument, category, -, -, named, notTag, allowed, built⟩
  · exact .of_build built rfl (absurd rfl)
  · exact .of_build built (by rw [RelationFits, if_neg notTag]; exact ⟨relation, rfl, allowed⟩)
      fun _ => named

/-- The tokens of a query are as tokens are read. -/
theorem IsRead.of_ofQuery {query : String} {tokens : List Token} (read : ofQuery query = .ok tokens) :
    ∀ t ∈ tokens, t.IsRead :=
  (forall_mem_results_iff read).mpr fun _ _ _ => .of_ofWord

/-- The token of a filter of a form is as tokens are read. -/
theorem IsRead.of_filterToken? {name : String} {filter : FormFilter} {t : Token}
    (read : Form.filterToken? name filter = .ok (some t)) : t.IsRead := by
  obtain ⟨category, counting, relation, related, built⟩ := Form.filterToken?_eq_some_iff.mp read
  obtain ⟨named, notTag, -⟩ := Form.countingCategory?_eq_some_iff.mp counting
  refine .of_build built ?_ fun _ => named
  rw [RelationFits, if_neg notTag]
  exact ⟨relation, rfl, Form.allows_of_relationOf related⟩

/-- What holds of the tokens of the tagset and of those of the filters holds of every token of a form. -/
theorem forall_mem_formTokens {form : Form} {tokens : List Token} {P : Token → Prop}
    (read : form.tokens = .ok tokens) (ofTags : ∀ entry t, Form.tagToken entry = .ok t → P t)
    (ofFilters : ∀ name filter t, Form.filterToken? name filter = .ok (some t) → P t) :
    ∀ t ∈ tokens, P t := by
  simp only [Form.tokens, bind_eq_ok_iff] at read
  obtain ⟨tags, htags, filters, hfilters, same⟩ := read
  cases same
  intro t member
  rcases List.mem_append.mp member with tag | filter
  · exact (forall_mem_results_iff htags).mpr (fun entry _ t built => ofTags entry t built) t tag
  · obtain ⟨result, present, rfl⟩ := List.mem_filterMap.mp filter
    refine (forall_mem_results_iff (P := fun result => ∀ t, result = some t → P t) hfilters).mpr
      (fun field _ result built t same => ?_) _ present t rfl
    exact ofFilters field.1 field.2 t (by rw [built, same])

/-- The tokens of a form are as tokens are read. -/
theorem IsRead.of_form {form : Form} {tokens : List Token} (read : form.tokens = .ok tokens) :
    ∀ t ∈ tokens, t.IsRead := by
  refine forall_mem_formTokens read (fun entry t built => ?_) fun _ _ _ => .of_filterToken?
  exact .of_build built ⟨.equal, rfl, rfl⟩ fun _ => rfl

/-- A category finds no fault with a lone wildcard, or with an argument that satisfies its rule. -/
theorem argumentFault?_eq_none_iff {category : Category} {argument : Pattern} :
    argumentFault? category argument = none ↔
      (argument.hasWildcards = true → category.allowsWildcards = true) ∧
        (argument.text = "" → argument.hasWildcards = true) ∧
          (argument.text ≠ "" → Argument.check (category.argumentKind argument.hasWildcards)
            argument.text.toList = .ok ()) := by
  unfold argumentFault?
  by_cases blank : argument.text = ""
  · cases argument.hasWildcards <;> cases category.allowsWildcards <;> simp [blank]
  · cases checked : Argument.check (category.argumentKind argument.hasWildcards)
      argument.text.toList <;>
    cases argument.hasWildcards <;> cases category.allowsWildcards <;> simp [blank]

namespace IsRead

variable {t : Token}

/-- The plain argument holds no wildcard. -/
theorem wildcard_not_mem (read : t.IsRead) : Pattern.wildcard ∉ t.argument.text.toList := by
  obtain ⟨typed, -, same⟩ := read.typed
  rw [same]
  exact Pattern.wildcard_not_mem_text_ofText typed

/-- A category without wildcards has arguments that satisfy its rule. -/
theorem check_argument (read : t.IsRead) (plain : t.category.allowsWildcards = false) :
    Argument.check (t.category.argumentKind false) t.argument.text.toList = .ok () := by
  obtain ⟨allowed, nonempty, checked⟩ := argumentFault?_eq_none_iff.mp read.faultless
  have none : t.argument.hasWildcards = false := by
    simpa [plain] using allowed
  rw [none] at nonempty checked
  exact checked fun blank => absurd (nonempty blank) (by simp)

/-- The kinds of argument with wildcards end with a test of characters. -/
theorem gap_not_mem (read : t.IsRead) (wild : t.argument.hasWildcards = true) :
    Glob.gap ∉ t.argument.text.toList := by
  obtain ⟨allowed, -, checked⟩ := argumentFault?_eq_none_iff.mp read.faultless
  by_cases blank : t.argument.text = ""
  · simp [blank]
  · rw [wild] at checked
    have kinds : ∀ category : Category, category.allowsWildcards = true →
        ∃ test, Argument.characterTest? (category.argumentKind true) = some test := by
      intro category
      cases category <;> simp [Category.allowsWildcards, Category.argumentKind,
        Argument.characterTest?]
    obtain ⟨test, tested⟩ := kinds t.category (allowed wild)
    exact Argument.gap_not_mem_of_check tested (checked blank)

/-- A category that compares for equality only has tokens that do. -/
theorem relationOrDefault_eq (read : t.IsRead) (simple : t.category.isComparable = false) :
    t.relationOrDefault = .equal := by
  have fits := read.relation
  unfold RelationFits at fits
  split at fits
  · simp [relationOrDefault, fits]
  · obtain ⟨r, given, allowed⟩ := fits
    rw [relationOrDefault, given, Option.getD_some]
    simpa [Category.allows, Category.relations, simple] using allowed

end IsRead

end Token

end Tagboard
