import Tagboard.Proofs.ArgumentFaults
import Tagboard.Proofs.PrintedTokens
import Tagboard.Proofs.WithheldSuggestions

/-!
# Withheld names and the query as it is typed

A query withholds the names that it mentions from the suggestions. The name of a tag is mentioned as it is
typed, with its wildcards. A further name of a tag is mentioned without them, so that a query withholds a
name that it does not spell exactly where the argument of a further name has wildcards.
-/

namespace Tagboard

open Text

namespace Token

variable {t : Token}

/-- A tag that is read from a word has its argument as it is typed for its name. -/
theorem typed_eq_name_of_ofWord {word : List Char} (noBlank : ∀ c ∈ word, isBlank c = false)
    (read : ofWord word = .ok t) (tag : t.category = .tag) : t.argument.typed = t.name := by
  rcases cases_of_ofWord read with built | ⟨_, _, _, category, -, -, -, notTag, -, built⟩
  · have restNoBlank : ∀ c ∈ (splitNegation word).2, isBlank c = false :=
      fun c member => noBlank c (mem_of_mem_splitNegation member)
    obtain ⟨-, -, rfl⟩ := build_eq_ok_iff.mp built
    rw [trim_eq_self restNoBlank, Pattern.typed_ofText]
  · obtain ⟨-, -, rfl⟩ := build_eq_ok_iff.mp built
    exact absurd tag notTag

theorem typed_eq_name_of_ofQuery {query : String} {tokens : List Token}
    (read : ofQuery query = .ok tokens) : ∀ t ∈ tokens, t.category = .tag → t.argument.typed = t.name :=
  (forall_mem_results_iff read).mpr fun _ member _ =>
    typed_eq_name_of_ofWord (isBlank_of_mem_words member)

/-- The plain argument is what is typed without the wildcards. -/
theorem IsRead.toList_text (read : t.IsRead) :
    t.argument.text.toList = Pattern.plain t.argument.typed.toList := by
  obtain ⟨typed, -, same⟩ := read.typed
  rw [same, Pattern.toList_text_ofText, Pattern.typed_ofText, String.toList_ofList]

/-- The plain argument is what is typed exactly if there are no wildcards. -/
theorem IsRead.typed_eq_text_iff (read : t.IsRead) :
    t.argument.typed = t.argument.text ↔ t.argument.hasWildcards = false := by
  obtain ⟨typed, -, same⟩ := read.typed
  have wild := Pattern.hasWildcards_ofText typed
  rw [same, Pattern.typed_ofText, ← String.toList_inj, String.toList_ofList, Pattern.toList_text_ofText,
    ← Bool.not_eq_true, wild]
  constructor
  · intro kept member
    rw [kept, Pattern.plain, List.mem_filter] at member
    simp at member
  · exact fun tame => (Pattern.plain_eq_self tame).symm

end Token

/--
A name that a query withholds is the argument of a tag or of a further name as it is typed, or else the
argument of a further name with wildcards, which it spells only without them.
-/
theorem withheld_names_are_spelled {query : String} {tokens : List Token}
    (read : Token.ofQuery query = .ok tokens) {word name : String}
    (withheld : name ∈ mentionedNames tokens word) :
    (∃ t ∈ tokens, (t.category = .tag ∨ t.category = .tagAlias) ∧ t.argument.typed = name) ∨
      ∃ t ∈ tokens, t.category = .tagAlias ∧ t.argument.hasWildcards = true ∧
        t.argument.typed ≠ name ∧ name.toList = t.argument.typed.toList.filter (· != '*') := by
  obtain ⟨⟨t, member, mentions⟩, -⟩ := mem_mentionedNames_iff.mp withheld
  have isRead : t.IsRead := Token.IsRead.of_ofQuery read t member
  rcases mentions with ⟨tag, rfl⟩ | ⟨isAlias, rfl⟩
  · exact .inl ⟨t, member, .inl tag, Token.typed_eq_name_of_ofQuery read t member tag⟩
  · cases wild : t.argument.hasWildcards with
    | false => exact .inl ⟨t, member, .inr isAlias, isRead.typed_eq_text_iff.mpr wild⟩
    | true =>
        refine .inr ⟨t, member, isAlias, wild, fun spelled => ?_, isRead.toList_text⟩
        rw [isRead.typed_eq_text_iff.mp spelled] at wild
        cases wild

/-- A tag with a wildcard withholds itself and not the names that it matches, and so does a further name
without one. -/
theorem withheld_names_are_spelled_blue :
    let tokens : List Token := [⟨.tag, "blu*", ⟨"blu", [3]⟩, none, false⟩,
      ⟨.tagAlias, "alias", ⟨"navy", []⟩, some .equal, true⟩]
    Token.ofQuery "blu* -alias=navy" = .ok tokens ∧ mentionedNames tokens "" = ["blu*", "navy"] ∧
      ∀ name ∈ ["blu*", "navy"],
        ∃ t ∈ tokens, (t.category = .tag ∨ t.category = .tagAlias) ∧ t.argument.typed = name := by
  intro tokens
  have read : Token.ofQuery "blu* -alias=navy" = .ok tokens := rfl
  have names : mentionedNames tokens "" = ["blu*", "navy"] := by decide +kernel
  refine ⟨read, names, fun name member => ?_⟩
  rw [← names] at member
  rcases withheld_names_are_spelled read member with spelled | ⟨t, given, isAlias, wild, -⟩
  · exact spelled
  · rcases List.mem_pair.mp given with rfl | rfl
    · cases isAlias
    · cases wild

/-- A further name that the query does not spell is withheld, and not suggested though its start is typed. -/
theorem unspelled_name_is_withheld :
    let tokens : List Token := [⟨.tagAlias, "alias", ⟨"crimson", [4]⟩, some .equal, false⟩]
    let b : Board := ⟨[], [⟨1, "red", none, 0, .unrated⟩], [⟨7, "crimson", 1⟩]⟩
    Token.ofQuery "alias=crim*son" = .ok tokens ∧ "crimson" ∈ mentionedNames tokens "crim" ∧
      (∀ t ∈ tokens, t.argument.typed = "crim*son") ∧
      suggest b.settled.store tokens "crim" [] false {} = .ok [] ∧
      suggest b.settled.store [] "crim" [] false {} =
        .ok [⟨.tagAlias, "red", none, some 1, some "crimson", some 0⟩] := by
  intro tokens b
  exact ⟨rfl, by decide +kernel, by decide +kernel, by cbv, by cbv⟩

end Tagboard
