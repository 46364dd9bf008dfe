import Tagboard.Proofs.TypedText
import Tagboard.Proofs.WithheldSuggestions

/-!
# The word that is being typed

The word at the end of a query is what stands behind its last blank. It is the last word of the query, and
the last token is read from it, so that a tag which is being typed has this word for its name. The tag
keeps its own suggestion unless another token has the same name.
-/

namespace Tagboard

open Text

/-- Whether a piece is what a text has behind its last blank; a text without blanks is such a piece. -/
structure IsLastPiece (s piece : List Char) : Prop where
  noBlank : ∀ c ∈ piece, isBlank c = false
  behindBlank : ∃ before, s = before ++ piece ∧ ∀ c ∈ before.getLast?, isBlank c = true

theorem exists_isLastPiece (s : List Char) : ∃ piece, IsLastPiece s piece := by
  induction s using List.reverseRecOn with
  | nil => exact ⟨[], nofun, [], rfl, nofun⟩
  | append_singleton s c ih =>
      cases blank : isBlank c with
      | true => exact ⟨[], nofun, s ++ [c], by simp, by simpa using blank⟩
      | false =>
          obtain ⟨piece, noBlank, before, rfl, behindBlank⟩ := ih
          refine ⟨piece ++ [c], ?_, before, by simp, behindBlank⟩
          intro x member
          rcases List.mem_append.mp member with earlier | last
          · exact noBlank x earlier
          · rw [List.mem_singleton.mp last]
            exact blank

namespace IsLastPiece

variable {s piece : List Char}

/-- The words of a text are those before its last piece, and then the last piece unless it is empty. -/
theorem exists_words_eq (last : IsLastPiece s piece) :
    ∃ earlier, words s = earlier ++ words piece := by
  obtain ⟨before, rfl, behindBlank⟩ := last.behindBlank
  rcases List.eq_nil_or_concat before with rfl | ⟨start, c, rfl⟩
  · exact ⟨[], rfl⟩
  · have blank : isBlank c = true := behindBlank c (by simp)
    refine ⟨words start, ?_⟩
    rw [List.concat_eq_append, List.append_assoc, List.singleton_append, words_append_blank blank]

theorem getLast?_words (last : IsLastPiece s piece) (nonempty : piece ≠ []) :
    (words s).getLast? = some piece := by
  obtain ⟨earlier, listed⟩ := last.exists_words_eq
  rw [listed, words_eq_singleton nonempty last.noBlank, List.getLast?_concat]

/-- Behind the last blank of a text stands the word that is being typed. -/
theorem trailingWord_eq (last : IsLastPiece s piece) : trailingWord s = piece := by
  obtain ⟨before, whole, behindBlank⟩ := last.behindBlank
  rcases List.eq_nil_or_concat piece with rfl | ⟨start, c, rfl⟩
  · rw [List.append_nil] at whole
    subst whole
    rcases List.eq_nil_or_concat s with rfl | ⟨start, c, rfl⟩
    · rfl
    · have blank : isBlank c = true := behindBlank c (by simp)
      simp [trailingWord, endsBlank, blank]
  · have notBlank : isBlank c = false := last.noBlank c (by simp)
    have typing : endsBlank s = false := by simp [endsBlank, whole, notBlank]
    rw [trailingWord, typing, if_neg Bool.false_ne_true, last.getLast?_words (by simp)]
    rfl

end IsLastPiece

section TrailingWord

variable (s : List Char)

theorem isLastPiece_trailingWord : IsLastPiece s (trailingWord s) := by
  obtain ⟨piece, last⟩ := exists_isLastPiece s
  rwa [last.trailingWord_eq]

/-- No word is being typed exactly where the text is empty, blank or blank at its end. -/
theorem trailingWord_eq_nil_iff :
    trailingWord s = [] ↔
      s = [] ∨ (∀ c ∈ s, isBlank c = true) ∨ ∃ c, s.getLast? = some c ∧ isBlank c = true := by
  constructor
  · intro empty
    obtain ⟨before, whole, behindBlank⟩ := (isLastPiece_trailingWord s).behindBlank
    rw [empty, List.append_nil] at whole
    subst whole
    rcases List.eq_nil_or_concat s with rfl | ⟨start, c, rfl⟩
    · exact .inl rfl
    · exact .inr (.inr ⟨c, by simp, behindBlank c (by simp)⟩)
  · intro complete
    have blankEnd : ∀ c ∈ s.getLast?, isBlank c = true := by
      intro c atEnd
      rcases complete with rfl | blank | ⟨x, last, blank⟩
      · cases atEnd
      · exact blank c (List.mem_of_getLast? atEnd)
      · rw [Option.mem_def, last] at atEnd
        cases atEnd
        exact blank
    exact IsLastPiece.trailingWord_eq ⟨nofun, s, (List.append_nil s).symm, blankEnd⟩

end TrailingWord

/-- One hyphen in front of a word has no part in the name of a tag. -/
theorem withoutNegation_ofList (word : List Char) :
    withoutNegation (String.ofList word) = String.ofList (Token.splitNegation word).2 := by
  unfold withoutNegation
  rw [String.toList_ofList]
  split
  · rfl
  · next unsigned =>
    rw [Token.splitNegation]
    exact fun rest => unsigned rest

namespace Token

variable {query : String} {tokens : List Token} {t : Token}

/-- A tag that is read from a word has the word without its sign for its name. -/
theorem name_of_ofWord {word : List Char} (read : ofWord word = .ok t) (tag : t.category = .tag) :
    t.name = withoutNegation (String.ofList word) := by
  rw [withoutNegation_ofList]
  rcases cases_of_ofWord read with built | ⟨_, _, _, category, -, -, -, notTag, -, built⟩
  · obtain ⟨-, -, rfl⟩ := build_eq_ok_iff.mp built
    rfl
  · obtain ⟨-, -, rfl⟩ := build_eq_ok_iff.mp built
    exact absurd tag notTag

/-- The last token of a query is read from its last word. -/
theorem ofWord_of_getLast? {word : List Char} (read : ofQuery query = .ok tokens)
    (lastWord : (words query.toList).getLast? = some word) (last : tokens.getLast? = some t) :
    ofWord word = .ok t := by
  obtain ⟨earlier, listed⟩ := List.getLast?_eq_some_iff.mp lastWord
  rw [ofQuery, listed, List.mapM_append] at read
  simp only [List.mapM_cons, List.mapM_nil, bind_eq_ok_iff, pure_eq_ok, Except.ok.injEq] at read
  obtain ⟨before, -, _, ⟨result, success, _, rfl, rfl⟩, rfl⟩ := read
  rw [List.getLast?_concat, Option.some.injEq] at last
  rw [success, last]

end Token

/--
The word that is being typed is the last word of a query, unless the query is complete at its end. If it
is a tag, then the tag has it, without one hyphen in front, for its name, and the query withholds this name
exactly if two tokens have it. A query that is complete withholds every name that it mentions.
-/
theorem trailing_word_is_last_token {query : String} {word : List Char}
    (typed : trailingWord query.toList = word) :
    (word = [] ↔ query = "" ∨ (∀ c ∈ query.toList, isBlank c = true) ∨
        ∃ c, query.toList.getLast? = some c ∧ isBlank c = true) ∧
      (word ≠ [] →
        (words query.toList).getLast? = some word ∧ IsLastPiece query.toList word) ∧
      ∀ tokens, Token.ofQuery query = .ok tokens →
        (word ≠ [] → ∀ t, tokens.getLast? = some t → t.category = .tag →
          withoutNegation (String.ofList word) = t.name ∧
            (t.name ∈ mentionedNames tokens t.name ↔
              2 ≤ tokens.countP fun other => other.name == t.name)) ∧
        (word = [] → ∀ t ∈ tokens, ∀ name, t.Mentions name → name ≠ "" →
          name ∈ mentionedNames tokens (String.ofList word)) := by
  have lastPiece : IsLastPiece query.toList word := by
    rw [← typed]
    exact isLastPiece_trailingWord query.toList
  refine ⟨?_, fun typing => ⟨lastPiece.getLast?_words typing, lastPiece⟩,
    fun tokens read => ⟨?_, ?_⟩⟩
  · rw [← String.toList_eq_nil_iff, ← typed]
    exact trailingWord_eq_nil_iff query.toList
  · intro typing t last tag
    have success : Token.ofWord word = .ok t :=
      Token.ofWord_of_getLast? read (lastPiece.getLast?_words typing) last
    refine ⟨(Token.name_of_ofWord success tag).symm, ?_⟩
    rw [mem_mentionedNames_iff]
    have mentions : ∃ s ∈ tokens, s.Mentions t.name :=
      ⟨t, List.mem_of_getLast? last, .inl ⟨tag, rfl⟩⟩
    simp [mentions]
  · intro complete t member name mentions nonempty
    rw [complete, String.ofList_nil]
    exact mem_mentionedNames_iff.mpr ⟨⟨t, member, mentions⟩, .inl nonempty⟩

/-- A tag loses its own suggestion to a filter of the same name, and a wide blank completes a query. -/
theorem trailing_word_is_last_token_id :
    let tag : Token := ⟨.tag, "id", ⟨"id", []⟩, none, true⟩
    let tokens : List Token := [⟨.postId, "id", ⟨"3", []⟩, some .less, false⟩, tag]
    let complete : List Token := [⟨.tagAlias, "alias", ⟨"blu", []⟩, some .equal, false⟩]
    Token.ofQuery "id<3 -id" = .ok tokens ∧ trailingWord "id<3 -id".toList = "-id".toList ∧
      withoutNegation "-id" = "id" ∧ "id" ∈ mentionedNames tokens "id" ∧
      Token.ofQuery "alias=blu\u2003" = .ok complete ∧
      trailingWord "alias=blu\u2003".toList = [] ∧ "blu" ∈ mentionedNames complete "" := by
  intro tag tokens complete
  have read : Token.ofQuery "id<3 -id" = .ok tokens := rfl
  have readComplete : Token.ofQuery "alias=blu\u2003" = .ok complete := rfl
  have typed : trailingWord "id<3 -id".toList = "-id".toList := by decide +kernel
  obtain ⟨-, -, typing⟩ := trailing_word_is_last_token typed
  obtain ⟨named, withheld⟩ := (typing tokens read).1 (by decide) tag rfl rfl
  have nothing : trailingWord "alias=blu\u2003".toList = [] := by decide +kernel
  obtain ⟨-, -, completed⟩ := trailing_word_is_last_token nothing
  have mentioned := (completed complete readComplete).2 rfl _ (List.mem_singleton_self _) "blu"
    (.inr ⟨rfl, rfl⟩) (by decide)
  rw [String.ofList_nil] at mentioned
  exact ⟨read, typed, named, withheld.mpr (by decide +kernel), readComplete, nothing, mentioned⟩

end Tagboard
