import Tagboard.Proofs.ArgumentFaults
import Tagboard.Proofs.FormWords

/-!
# The faults of words

A word of a query is a tag or a filter, perhaps with a hyphen in front. Each fault that it can have is
described on its own, with the error that reports it. The faults are looked for in a fixed order: the
first fault of a word is unique, and a word that is without one fault is clear up to the next.
-/

namespace Tagboard

open Text

namespace Token

/-- A word without the hyphen in front of it, if there is one. -/
def withoutHyphen (word : List Char) : List Char :=
  if word.head? = some '-' then word.tail else word

theorem splitNegation_eq (word : List Char) :
    splitNegation word = (word.head? == some '-', withoutHyphen word) := by
  unfold splitNegation withoutHyphen
  split
  · rfl
  · rename_i noHyphen
    have head : word.head? ≠ some '-' := by
      intro hyphen
      obtain ⟨rest, rfl⟩ := List.head?_eq_some_iff.mp hyphen
      exact noHyphen rest rfl
    rw [if_neg head, beq_false_of_ne head]

/-- The parts of a word around its first relation. -/
structure HasParts (word name : List Char) (relation : Relation) (argument : List Char) : Prop where
  whole : withoutHyphen word = name ++ relation.symbol :: argument
  /-- The relation is the first one. -/
  first : name.any Relation.isSymbol = false

/-- A word of a tag: without its wildcards it is the name of a tag, or nothing but wildcards. -/
structure IsTagWord (word : List Char) : Prop where
  bare : (withoutHyphen word).any Relation.isSymbol = false
  few : (withoutHyphen word).count Pattern.wildcard ≤ Pattern.maxWildcards
  name : Argument.IsTagName (Pattern.plain (withoutHyphen word)) ∨
    Pattern.plain (withoutHyphen word) = [] ∧ Pattern.wildcard ∈ withoutHyphen word

/-- A word of a filter: a name of a category, a relation and an argument, all as it accepts them. -/
structure IsFilterWord (word name : List Char) (relation : Relation) (argument : List Char)
    (k : Category) : Prop where
  parts : HasParts word name relation argument
  name_ne_nil : name ≠ []
  named : String.ofList name ∈ k.names
  argument_ne_nil : argument ≠ []
  single : argument.any Relation.isSymbol = false
  few : argument.count Pattern.wildcard ≤ Pattern.maxWildcards
  allowed : k.allows relation = true
  takes : k.Takes argument

/-- The words of the grammar. -/
def InGrammar (word : List Char) : Prop :=
  IsTagWord word ∨ ∃ name relation argument k, IsFilterWord word name relation argument k

/-- The kinds of faults of words. -/
inductive WordFault where
  | malformed
  | unknownFilter
  | severalRelations
  | relationNotAllowed
  | tooManyWildcards
  | invalidArgument
deriving DecidableEq, Repr

namespace WordFault

/-- The place of a kind in the order in which faults are looked for. -/
def rank : WordFault → Nat
  | malformed => 0
  | unknownFilter => 1
  | severalRelations => 2
  | relationNotAllowed => 3
  | tooManyWildcards => 4
  | invalidArgument => 5

/-- The name of a kind in errors. -/
def kind : WordFault → String
  | malformed => "malformed_token"
  | unknownFilter => "unknown_filter_name"
  | severalRelations => "multiple_operators"
  | relationNotAllowed => "operator_not_allowed"
  | tooManyWildcards => "too_many_wildcards"
  | invalidArgument => "argument_validation"

theorem rank_injective {fault other : WordFault} (same : fault.rank = other.rank) :
    fault = other := by
  cases fault <;> cases other <;> first | rfl | cases same

end WordFault

/-- The category and the argument that a word names, whether or not the two go together. -/
inductive Denotes (word : List Char) : Category → List Char → Prop where
  | tag (bare : (withoutHyphen word).any Relation.isSymbol = false) :
      Denotes word .tag (withoutHyphen word)
  | filter {name argument : List Char} {relation : Relation} {k : Category}
      (parts : HasParts word name relation argument) (named : String.ofList name ∈ k.names) :
      Denotes word k argument

/-- The faults of a word, each on its own, with the error that reports it. -/
inductive HasFault (word : List Char) : WordFault → SearchError → Prop where
  | malformed {name argument : List Char} {relation : Relation}
      (parts : HasParts word name relation argument) (blank : name = [] ∨ argument = []) :
      HasFault word .malformed (.malformedToken (String.ofList word))
  | unknownFilter {name argument : List Char} {relation : Relation}
      (parts : HasParts word name relation argument)
      (unknown : ∀ k : Category, String.ofList name ∉ k.names) :
      HasFault word .unknownFilter (.unknownFilter (String.ofList name))
  | severalRelations {name argument : List Char} {relation : Relation}
      (parts : HasParts word name relation argument)
      (second : argument.any Relation.isSymbol = true) :
      HasFault word .severalRelations (.severalRelations (String.ofList word))
  | relationNotAllowed {name argument : List Char} {relation : Relation} {k : Category}
      (parts : HasParts word name relation argument) (named : String.ofList name ∈ k.names)
      (refused : k.allows relation = false) :
      HasFault word .relationNotAllowed (.relationNotAllowed k relation.text)
  | tooManyWildcards {k : Category} {argument : List Char} (denotes : Denotes word k argument)
      (many : Pattern.maxWildcards < argument.count Pattern.wildcard) :
      HasFault word .tooManyWildcards
        (.tooManyWildcards (String.ofList argument) (argument.count Pattern.wildcard))
  | invalidArgument {k : Category} {argument : List Char} {fault : ArgumentFault}
      (denotes : Denotes word k argument) (refuses : k.Refuses argument fault) :
      HasFault word .invalidArgument (.invalidArgument k (String.ofList argument) fault)

/-- A word has none of the faults before a place in the order. -/
def ClearBelow (word : List Char) (place : Nat) : Prop :=
  ∀ fault e, HasFault word fault e → place ≤ fault.rank

/-- The first of the faults of a word, in the order in which they are looked for. -/
structure IsFirstFault (word : List Char) (fault : WordFault) (e : SearchError) : Prop where
  has : HasFault word fault e
  first : ClearBelow word fault.rank

variable {word name argument : List Char} {relation : Relation} {k : Category} {e : SearchError}

theorem splitRelation?_withoutHyphen_eq_some_iff :
    splitRelation? (withoutHyphen word) = some (name, relation, argument) ↔
      HasParts word name relation argument := by
  rw [splitRelation?_eq_some_iff]
  exact ⟨fun ⟨whole, first⟩ => ⟨whole, first⟩, fun parts => ⟨parts.whole, parts.first⟩⟩

/-- A word has its parts in one way. -/
theorem HasParts.unique {name' argument' : List Char} {relation' : Relation}
    (parts : HasParts word name relation argument)
    (again : HasParts word name' relation' argument') :
    name = name' ∧ relation = relation' ∧ argument = argument' := by
  rw [← splitRelation?_withoutHyphen_eq_some_iff] at parts again
  have same := Option.some.inj (parts.symm.trans again)
  simpa only [Prod.mk.injEq] using same

/-- A word with a relation is not bare. -/
theorem HasParts.not_bare (parts : HasParts word name relation argument) :
    (withoutHyphen word).any Relation.isSymbol ≠ false := by
  intro bare
  rw [← splitRelation?_eq_none_iff, splitRelation?_withoutHyphen_eq_some_iff.mpr parts] at bare
  cases bare

/-- A word denotes one category and one argument. -/
theorem Denotes.unique {k' : Category} {argument' : List Char} (denotes : Denotes word k argument)
    (again : Denotes word k' argument') : k = k' ∧ argument = argument' := by
  cases denotes with
  | tag bare =>
      cases again with
      | tag => exact ⟨rfl, rfl⟩
      | filter parts _ => exact absurd bare parts.not_bare
  | filter parts named =>
      cases again with
      | tag bare => exact absurd bare parts.not_bare
      | filter parts' named' =>
          obtain ⟨rfl, rfl, rfl⟩ := parts.unique parts'
          have found := Category.ofName?_of_mem_names named
          rw [Category.ofName?_of_mem_names named'] at found
          exact ⟨(Option.some.inj found).symm, rfl⟩

/-- A fault of a word has one error. -/
theorem HasFault.unique {fault : WordFault} {e' : SearchError} (has : HasFault word fault e)
    (again : HasFault word fault e') : e = e' := by
  cases has with
  | malformed => cases again; rfl
  | unknownFilter parts =>
      cases again with
      | unknownFilter parts' => rw [(parts.unique parts').1]
  | severalRelations => cases again; rfl
  | relationNotAllowed parts named =>
      cases again with
      | relationNotAllowed parts' named' =>
          have same := (Denotes.filter parts named).unique (.filter parts' named')
          rw [same.1, (parts.unique parts').2.1]
  | tooManyWildcards denotes =>
      cases again with
      | tooManyWildcards denotes' => rw [(denotes.unique denotes').2]
  | invalidArgument denotes refuses =>
      cases again with
      | invalidArgument denotes' refuses' =>
          obtain ⟨rfl, rfl⟩ := denotes.unique denotes'
          rw [refuses.unique refuses']

/-- Only one error reports the first fault of a word. -/
theorem IsFirstFault.unique {fault fault' : WordFault} {e' : SearchError}
    (first : IsFirstFault word fault e) (again : IsFirstFault word fault' e') : e = e' := by
  have before : fault.rank ≤ fault'.rank := first.first fault' e' again.has
  have after : fault'.rank ≤ fault.rank := again.first fault e first.has
  have same : fault = fault' := WordFault.rank_injective (Nat.le_antisymm before after)
  subst same
  exact first.has.unique again.has

/-- The error of a fault is of the kind of the fault. -/
theorem HasFault.kind_eq {fault : WordFault} (has : HasFault word fault e) : e.kind = fault.kind := by
  cases has <;> rfl

/-! ## From one fault to the next -/

theorem clearBelow_zero (word : List Char) : ClearBelow word 0 := fun _ _ _ => Nat.zero_le _

/-- Without the fault at a place, a word is clear one place further. -/
theorem ClearBelow.succ {fault : WordFault} (clear : ClearBelow word fault.rank)
    (absent : ∀ e, ¬ HasFault word fault e) : ClearBelow word (fault.rank + 1) := by
  intro other e has
  have bound : fault.rank ≤ other.rank := clear other e has
  rcases Nat.eq_or_lt_of_le bound with same | later
  · rw [← WordFault.rank_injective same] at has
    exact absurd has (absent e)
  · exact later

/-- The order has no further place. -/
theorem ClearBelow.not_hasFault (clear : ClearBelow word 6) {fault : WordFault} :
    ¬ HasFault word fault e := by
  intro has
  have bound : 6 ≤ fault.rank := clear fault e has
  cases fault <;> exact absurd bound (by decide)

/-- A bare word is no filter, and has none of the faults of filters. -/
theorem clearBelow_of_bare (bare : (withoutHyphen word).any Relation.isSymbol = false) :
    ClearBelow word WordFault.tooManyWildcards.rank := by
  intro fault e has
  cases has with
  | malformed parts | unknownFilter parts | severalRelations parts | relationNotAllowed parts =>
      exact absurd bare parts.not_bare
  | tooManyWildcards => decide
  | invalidArgument => decide

namespace HasParts

variable (parts : HasParts word name relation argument)

include parts

theorem clear_malformed (hname : name ≠ []) (hargument : argument ≠ []) :
    ClearBelow word WordFault.unknownFilter.rank := by
  have clear : ClearBelow word WordFault.malformed.rank := clearBelow_zero word
  refine clear.succ fun e has => ?_
  cases has with
  | malformed parts' blank =>
      obtain ⟨rfl, rfl, rfl⟩ := parts.unique parts'
      exact blank.elim hname hargument

theorem clear_unknownFilter (clear : ClearBelow word WordFault.unknownFilter.rank)
    (named : String.ofList name ∈ k.names) : ClearBelow word WordFault.severalRelations.rank := by
  refine clear.succ fun e has => ?_
  cases has with
  | unknownFilter parts' unknown =>
      obtain ⟨rfl, rfl, rfl⟩ := parts.unique parts'
      exact unknown k named

theorem clear_severalRelations (clear : ClearBelow word WordFault.severalRelations.rank)
    (single : argument.any Relation.isSymbol = false) :
    ClearBelow word WordFault.relationNotAllowed.rank := by
  refine clear.succ fun e has => ?_
  cases has with
  | severalRelations parts' second =>
      obtain ⟨rfl, rfl, rfl⟩ := parts.unique parts'
      rw [single] at second
      cases second

theorem clear_relationNotAllowed (clear : ClearBelow word WordFault.relationNotAllowed.rank)
    (named : String.ofList name ∈ k.names) (allowed : k.allows relation = true) :
    ClearBelow word WordFault.tooManyWildcards.rank := by
  refine clear.succ fun e has => ?_
  cases has with
  | relationNotAllowed parts' named' refused =>
      obtain ⟨rfl, -⟩ := (Denotes.filter parts named).unique (.filter parts' named')
      obtain ⟨rfl, rfl, rfl⟩ := parts.unique parts'
      rw [allowed] at refused
      cases refused

end HasParts

theorem Denotes.clear_tooManyWildcards (denotes : Denotes word k argument)
    (clear : ClearBelow word WordFault.tooManyWildcards.rank)
    (few : argument.count Pattern.wildcard ≤ Pattern.maxWildcards) :
    ClearBelow word WordFault.invalidArgument.rank := by
  refine clear.succ fun e has => ?_
  cases has with
  | tooManyWildcards denotes' many =>
      obtain ⟨rfl, rfl⟩ := denotes.unique denotes'
      exact absurd few (Nat.not_le.mpr many)

theorem Denotes.clear_invalidArgument (denotes : Denotes word k argument)
    (clear : ClearBelow word WordFault.invalidArgument.rank) (takes : k.Takes argument) :
    ClearBelow word 6 := by
  refine clear.succ fun e has => ?_
  cases has with
  | invalidArgument denotes' refuses =>
      obtain ⟨rfl, rfl⟩ := denotes.unique denotes'
      rw [← Category.argumentFault?_ofText_eq_none_iff,
        Category.argumentFault?_ofText_eq_some_iff.mpr refuses] at takes
      cases takes

end Token

end Tagboard
