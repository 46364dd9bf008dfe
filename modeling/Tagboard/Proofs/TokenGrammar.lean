import Tagboard.Proofs.PrintedTokens
import Tagboard.Proofs.WordFaults

/-!
# The grammar of words

Exactly the words of the grammar are read. Any other word is refused with the error of its first fault,
and a query with the error of the first word that is refused.
-/

namespace Tagboard

open Text

namespace Token

variable {word name argument : List Char} {relation : Relation} {k : Category} {e : SearchError}

/-- A category builds a token from exactly the arguments that it takes, without too many wildcards. -/
theorem exists_build_iff {label : String} {given : Option Relation} {negated : Bool}
    (trimmed : trim argument = argument) :
    (∃ t, build k label argument given negated = .ok t) ↔
      argument.count Pattern.wildcard ≤ Pattern.maxWildcards ∧ k.Takes argument := by
  simp only [build_eq_ok_iff, trimmed, Category.argumentFault?_ofText_eq_none_iff]
  exact ⟨fun ⟨_, few, takes, _⟩ => ⟨few, takes⟩, fun ⟨few, takes⟩ => ⟨_, few, takes, rfl⟩⟩

/-- What keeps a token from being built is the first fault of a word that has no fault before. -/
theorem Denotes.exists_isFirstFault (denotes : Denotes word k argument)
    (clear : ClearBelow word WordFault.tooManyWildcards.rank) {label : String}
    {given : Option Relation} {negated : Bool} (trimmed : trim argument = argument)
    (failed : build k label argument given negated = .error e) :
    ∃ fault, IsFirstFault word fault e := by
  rw [build_eq, trimmed] at failed
  split at failed
  · rename_i many
    cases failed
    exact ⟨.tooManyWildcards, .tooManyWildcards denotes many, clear⟩
  · rename_i few
    split at failed
    · cases failed
    · rename_i fault found
      have refuses : k.Refuses argument fault :=
        Category.argumentFault?_ofText_eq_some_iff.mp found
      rw [Pattern.typed_ofText] at failed
      cases failed
      exact ⟨.invalidArgument, .invalidArgument denotes refuses,
        denotes.clear_tooManyWildcards clear (Nat.not_lt.mp few)⟩

theorem ofWord_of_bare (bare : (withoutHyphen word).any Relation.isSymbol = false) :
    ofWord word = build .tag (String.ofList (withoutHyphen word)) (withoutHyphen word) none
      (word.head? == some '-') := by
  simp only [ofWord, splitNegation_eq, splitRelation?_eq_none_iff.mpr bare]

theorem HasParts.ofWord_eq (parts : HasParts word name relation argument) :
    ofWord word = ofFilter (String.ofList word) (word.head? == some '-') name relation argument := by
  simp only [ofWord, splitNegation_eq, splitRelation?_withoutHyphen_eq_some_iff.mpr parts]

/-- Every word is bare or has parts. -/
theorem bare_or_hasParts (word : List Char) :
    (withoutHyphen word).any Relation.isSymbol = false ∨
      ∃ name relation argument, HasParts word name relation argument := by
  cases found : splitRelation? (withoutHyphen word) with
  | none => exact .inl (splitRelation?_eq_none_iff.mp found)
  | some parts =>
      obtain ⟨name, relation, argument⟩ := parts
      exact .inr ⟨name, relation, argument, splitRelation?_withoutHyphen_eq_some_iff.mp found⟩

theorem mem_of_mem_withoutHyphen {c : Char} (member : c ∈ withoutHyphen word) : c ∈ word := by
  apply mem_of_mem_splitNegation
  rwa [splitNegation_eq]

/-- A tag takes the names of tags and what consists of wildcards alone. -/
theorem takes_tag_iff {typed : List Char} :
    Category.Takes .tag typed ↔ Argument.IsTagName (Pattern.plain typed) ∨
      Pattern.plain typed = [] ∧ Pattern.wildcard ∈ typed := by
  have rule (withWildcards : Bool) (s : List Char) :
      Argument.check (Category.tag.argumentKind withWildcards) s = .ok () ↔ Argument.IsTagName s :=
    Argument.check_tagName_eq_ok_iff
  rw [Category.Takes, rule, rule]
  by_cases wild : Pattern.wildcard ∈ typed
  · simp only [wild, not_true, false_and, false_or, true_and, and_true, Category.allowsWildcards]
    exact or_comm
  · simp only [wild, not_false_eq_true, true_and, false_and, and_false, or_false,
      Pattern.plain_eq_self wild]

/-- A word of the grammar has none of the faults. -/
theorem InGrammar.clear (grammatical : InGrammar word) : ClearBelow word 6 := by
  rcases grammatical with tag | ⟨name, relation, argument, k, filter⟩
  · have denotes := Denotes.tag tag.bare
    have clear := denotes.clear_tooManyWildcards (clearBelow_of_bare tag.bare) tag.few
    exact denotes.clear_invalidArgument clear (takes_tag_iff.mpr tag.name)
  · have parts := filter.parts
    have denotes := Denotes.filter parts filter.named
    have clear := parts.clear_malformed filter.name_ne_nil filter.argument_ne_nil
    replace clear := parts.clear_unknownFilter clear filter.named
    replace clear := parts.clear_severalRelations clear filter.single
    replace clear := parts.clear_relationNotAllowed clear filter.named filter.allowed
    exact denotes.clear_invalidArgument (denotes.clear_tooManyWildcards clear filter.few) filter.takes

section NoBlank

variable (noBlank : ∀ c ∈ word, isBlank c = false)

include noBlank

theorem trim_withoutHyphen : trim (withoutHyphen word) = withoutHyphen word :=
  trim_eq_self fun c member => noBlank c (mem_of_mem_withoutHyphen member)

theorem HasParts.trim_argument (parts : HasParts word name relation argument) :
    trim argument = argument := by
  apply trim_eq_self
  intro c member
  apply noBlank c
  apply mem_of_mem_withoutHyphen
  rw [parts.whole]
  exact List.mem_append_right _ (List.mem_cons_of_mem _ member)

/-- Exactly the words of the grammar are read. -/
theorem exists_ofWord_iff_inGrammar : (∃ t, ofWord word = .ok t) ↔ InGrammar word := by
  rcases bare_or_hasParts word with bare | ⟨name, relation, argument, parts⟩
  · have noFilter : ¬ ∃ name relation argument k, IsFilterWord word name relation argument k := by
      rintro ⟨name, relation, argument, k, filter⟩
      exact filter.parts.not_bare bare
    rw [ofWord_of_bare bare, exists_build_iff (trim_withoutHyphen noBlank), takes_tag_iff, InGrammar,
      or_iff_left noFilter]
    exact ⟨fun ⟨few, named⟩ => ⟨bare, few, named⟩, fun tag => ⟨tag.few, tag.name⟩⟩
  · rw [parts.ofWord_eq]
    constructor
    · rintro ⟨t, read⟩
      obtain ⟨hname, hargument, single, k, found, allowed, built⟩ := ofFilter_eq_ok_iff.mp read
      obtain ⟨few, takes⟩ := (exists_build_iff (parts.trim_argument noBlank)).mp ⟨t, built⟩
      exact .inr ⟨name, relation, argument, k, parts, hname, Category.ofName?_eq_some_iff.mp found,
        hargument, single, few, allowed, takes⟩
    · rintro (tag | ⟨name', relation', argument', k, filter⟩)
      · exact absurd tag.bare parts.not_bare
      · obtain ⟨rfl, rfl, rfl⟩ := parts.unique filter.parts
        obtain ⟨t, built⟩ := (exists_build_iff (parts.trim_argument noBlank)).mpr
          ⟨filter.few, filter.takes⟩
        exact ⟨t, ofFilter_eq_ok_iff.mpr ⟨filter.name_ne_nil, filter.argument_ne_nil, filter.single,
          k, Category.ofName?_of_mem_names filter.named, filter.allowed, built⟩⟩

/-- The error of a word that is not read is the one of its first fault. -/
theorem exists_isFirstFault (failed : ofWord word = .error e) :
    ∃ fault, IsFirstFault word fault e := by
  rcases bare_or_hasParts word with bare | ⟨name, relation, argument, parts⟩
  · rw [ofWord_of_bare bare] at failed
    exact (Denotes.tag bare).exists_isFirstFault (clearBelow_of_bare bare)
      (trim_withoutHyphen noBlank) failed
  · rw [parts.ofWord_eq, ofFilter_eq] at failed
    split at failed
    · rename_i blank
      cases failed
      exact ⟨.malformed, .malformed parts blank, clearBelow_zero word⟩
    · rename_i filled
      rw [not_or] at filled
      have clear := parts.clear_malformed filled.1 filled.2
      split at failed
      · rename_i unnamed
        cases failed
        have unknown : ∀ k : Category, String.ofList name ∉ k.names := by
          intro k named
          rw [Category.ofName?_of_mem_names named] at unnamed
          cases unnamed
        exact ⟨.unknownFilter, .unknownFilter parts unknown, clear⟩
      · rename_i k found
        have named := Category.ofName?_eq_some_iff.mp found
        replace clear := parts.clear_unknownFilter clear named
        split at failed
        · rename_i second
          cases failed
          exact ⟨.severalRelations, .severalRelations parts second, clear⟩
        · rename_i single
          replace clear := parts.clear_severalRelations clear (Bool.not_eq_true _ ▸ single)
          split at failed
          · rename_i refused
            cases failed
            exact ⟨.relationNotAllowed, .relationNotAllowed parts named refused, clear⟩
          · rename_i allowed
            replace clear := parts.clear_relationNotAllowed clear named
              (Bool.not_eq_false _ ▸ allowed)
            exact (Denotes.filter parts named).exists_isFirstFault clear
              (parts.trim_argument noBlank) failed

/-- A word is refused exactly with the error of its first fault. -/
theorem ofWord_eq_error_iff : ofWord word = .error e ↔ ∃ fault, IsFirstFault word fault e := by
  constructor
  · exact exists_isFirstFault noBlank
  · rintro ⟨fault, first⟩
    cases read : ofWord word with
    | ok t =>
        have grammatical := (exists_ofWord_iff_inGrammar noBlank).mp ⟨t, read⟩
        exact absurd first.has grammatical.clear.not_hasFault
    | error e' =>
        obtain ⟨fault', first'⟩ := exists_isFirstFault noBlank read
        rw [first.unique first']

end NoBlank

/--
Exactly the words of the grammar are read, and any other word is refused with the error of its first
fault, which is of the kind of that fault. A query is read exactly if each of its words is one of the
grammar, and is otherwise refused as the first word that is not.
-/
theorem tokenizer_accepts_grammar :
    (∀ word : List Char, (∀ c ∈ word, isBlank c = false) →
        ((∃ t, ofWord word = .ok t) ↔ InGrammar word) ∧
          ∀ e, ofWord word = .error e ↔
            ∃ fault, IsFirstFault word fault e ∧ e.kind = fault.kind) ∧
      ∀ query : String,
        ((∃ tokens, ofQuery query = .ok tokens) ↔ ∀ word ∈ words query.toList, InGrammar word) ∧
          ∀ e, ofQuery query = .error e ↔
            ∃ before word after, words query.toList = before ++ word :: after ∧
              (∀ earlier ∈ before, InGrammar earlier) ∧ ∃ fault, IsFirstFault word fault e := by
  constructor
  · intro word noBlank
    refine ⟨exists_ofWord_iff_inGrammar noBlank, fun e => ?_⟩
    rw [ofWord_eq_error_iff noBlank]
    exact exists_congr fun fault => (and_iff_left_of_imp fun first => first.has.kind_eq).symm
  · intro query
    have noBlank : ∀ word ∈ words query.toList, ∀ c ∈ word, isBlank c = false :=
      fun _ => isBlank_of_mem_words
    rw [ofQuery, exists_mapM_eq_ok_iff]
    refine ⟨forall₂_congr fun word member => exists_ofWord_iff_inGrammar (noBlank word member),
      fun e => ?_⟩
    rw [mapM_eq_error_iff]
    refine exists₃_congr fun before word after => and_congr_right fun whole => ?_
    have wordNoBlank := noBlank word (by simp [whole])
    rw [ofWord_eq_error_iff wordNoBlank]
    refine and_congr_left fun _ => forall₂_congr fun earlier member => ?_
    exact exists_ofWord_iff_inGrammar (noBlank earlier (by simp [whole, member]))

/-- A lone wildcard is an address, and of four faults of a word the second relation comes first. -/
theorem tokenizer_accepts_grammar_faults :
    let accepted := "-source=*".toList
    let refused := "-tag_id>*****x=".toList
    let e : SearchError := .severalRelations "-tag_id>*****x="
    (∀ c ∈ accepted, isBlank c = false) ∧ InGrammar accepted ∧
      (∀ c ∈ refused, isBlank c = false) ∧ ¬ InGrammar refused ∧
        ∃ fault, IsFirstFault refused fault e ∧ "multiple_operators" = fault.kind := by
  intro accepted refused e
  have noBlank : ∀ c ∈ accepted, isBlank c = false := by
    have checked : accepted.all (fun c => !isBlank c) = true := by decide +kernel
    simpa using checked
  have noBlank' : ∀ c ∈ refused, isBlank c = false := by
    have checked : refused.all (fun c => !isBlank c) = true := by decide +kernel
    simpa using checked
  have read : ofWord accepted = .ok ⟨.source, "source", ⟨"", [0]⟩, some .equal, true⟩ := by rfl
  have failed : ofWord refused = .error e := by rfl
  obtain ⟨acceptance, -⟩ := tokenizer_accepts_grammar.1 accepted noBlank
  obtain ⟨acceptance', errors⟩ := tokenizer_accepts_grammar.1 refused noBlank'
  refine ⟨noBlank, acceptance.mp ⟨_, read⟩, noBlank', ?_, (errors e).mp failed⟩
  intro grammatical
  obtain ⟨t, impossible⟩ := acceptance'.mpr grammatical
  cases failed.symm.trans impossible

end Token

end Tagboard