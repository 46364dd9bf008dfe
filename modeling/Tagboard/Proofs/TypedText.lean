import Tagboard.Proofs.EffectiveOffsets
import Tagboard.Text.Blank

/-!
# Typing what was read

A query is cut into words at its blanks, and words that are joined by blanks are cut at the same
places. An argument is read by taking its wildcards out, and typed by putting them back: every typed
text comes back as it was, and so does every pattern whose wildcards are in order and inside its text.
-/

namespace Tagboard

namespace Text

section Split

variable {α : Type} {isSeparator : α → Bool}

/-- No piece between separators holds a separator. -/
theorem isSeparator_of_mem_split {items piece : List α} (member : piece ∈ split isSeparator items) :
    ∀ x ∈ piece, isSeparator x = false := by
  induction items generalizing piece with
  | nil =>
      rw [split_nil, List.mem_singleton] at member
      subst member
      intro x hx
      cases hx
  | cons first rest ih =>
      rw [split] at member
      cases separates : isSeparator first with
      | true =>
          rw [separates, if_pos rfl, List.mem_cons] at member
          rcases member with rfl | later
          · intro x hx
            cases hx
          · exact ih later
      | false =>
          rw [separates, if_neg Bool.false_ne_true] at member
          cases pieces : split isSeparator rest with
          | nil => exact absurd pieces (split_ne_nil isSeparator rest)
          | cons head tail =>
              rw [pieces] at ih member
              rcases List.mem_cons.mp member with rfl | later
              · intro x hx
                rcases List.mem_cons.mp hx with rfl | inside
                · exact separates
                · exact ih (List.mem_cons_self ..) x inside
              · exact ih (List.mem_cons_of_mem _ later)

/-- A list without separators is one piece. -/
theorem split_eq_singleton {items : List α} (free : ∀ x ∈ items, isSeparator x = false) :
    split isSeparator items = [items] := by
  induction items with
  | nil => rfl
  | cons first rest ih =>
      rw [List.forall_mem_cons] at free
      rw [split, free.1, if_neg Bool.false_ne_true, ih free.2]

/-- A list is cut at each of its separators. -/
theorem split_append_separator {separator : α} (separates : isSeparator separator = true)
    (before after : List α) :
    split isSeparator (before ++ separator :: after) =
      split isSeparator before ++ split isSeparator after := by
  induction before with
  | nil => rw [List.nil_append, split_nil, split, if_pos separates, List.singleton_append]
  | cons first rest ih =>
      rw [List.cons_append, split, split, ih]
      cases isSeparator first with
      | true => rfl
      | false =>
          cases pieces : split isSeparator rest with
          | nil => exact absurd pieces (split_ne_nil isSeparator rest)
          | cons piece pieces => rfl

/-- A list is cut at its first separator. -/
theorem split_append_cons {before after : List α} {separator : α}
    (free : ∀ x ∈ before, isSeparator x = false) (separates : isSeparator separator = true) :
    split isSeparator (before ++ separator :: after) = before :: split isSeparator after := by
  rw [split_append_separator separates, split_eq_singleton free, List.singleton_append]

/-- What stands before the first separator belongs to the first piece. -/
theorem split_append_of_free {before after piece : List α} {pieces : List (List α)}
    (free : ∀ x ∈ before, isSeparator x = false) (cut : split isSeparator after = piece :: pieces) :
    split isSeparator (before ++ after) = (before ++ piece) :: pieces := by
  induction before with
  | nil => exact cut
  | cons first rest ih =>
      rw [List.forall_mem_cons] at free
      rw [List.cons_append, split, free.1, if_neg Bool.false_ne_true, ih free.2]
      rfl

/-- Pieces that are joined by their separator are the list again. -/
theorem join_split [BEq α] [LawfulBEq α] (separator : α) (items : List α) :
    join [separator] (split (· == separator) items) = items := by
  induction items with
  | nil => rfl
  | cons first rest ih =>
      rw [split]
      cases cut : split (· == separator) rest with
      | nil => exact absurd cut (split_ne_nil _ rest)
      | cons piece pieces =>
          rw [cut] at ih
          by_cases separates : first = separator
          · rw [if_pos (by simpa using separates), join, ih, List.nil_append,
              List.singleton_append, separates]
          · rw [if_neg (by simpa using separates)]
            cases pieces with
            | nil => exact congrArg (first :: ·) ih
            | cons next pieces =>
                rw [join] at ih ⊢
                exact congrArg (first :: ·) ih

end Split

/-- Words have no blanks. -/
theorem isBlank_of_mem_words {s word : List Char} (member : word ∈ words s) :
    ∀ c ∈ word, isBlank c = false :=
  isSeparator_of_mem_split (List.mem_filter.mp member).1

/-- The words around a blank are the words of both sides. -/
theorem words_append_blank {blank : Char} (isBlank : isBlank blank = true) (before after : List Char) :
    words (before ++ blank :: after) = words before ++ words after := by
  rw [words, split_append_separator isBlank, List.filter_append, words, words]

/-- A text without blanks is one word, unless it is empty. -/
theorem words_eq_singleton {s : List Char} (nonempty : s ≠ [])
    (noBlank : ∀ c ∈ s, isBlank c = false) : words s = [s] := by
  rw [words, split_eq_singleton noBlank]
  simp [nonempty]

/-- Words that are joined by blanks are the words of what comes out. -/
theorem words_join {pieces : List (List Char)} (nonempty : ∀ piece ∈ pieces, piece ≠ [])
    (noBlank : ∀ piece ∈ pieces, ∀ c ∈ piece, isBlank c = false) :
    words (join [' '] pieces) = pieces := by
  induction pieces with
  | nil => rfl
  | cons piece rest ih =>
      rw [List.forall_mem_cons] at nonempty noBlank
      have kept : (!piece.isEmpty) = true := by simpa using nonempty.1
      cases rest with
      | nil =>
          rw [join, words, split_eq_singleton noBlank.1, List.filter_cons, if_pos kept,
            List.filter_nil]
      | cons next pieces =>
          have cut : words (piece ++ [' '] ++ join [' '] (next :: pieces)) =
              piece :: words (join [' '] (next :: pieces)) := by
            rw [List.append_assoc, List.singleton_append, words,
              split_append_cons noBlank.1 (by decide), List.filter_cons, if_pos kept, words]
          rw [join, cut, ih nonempty.2 noBlank.2]

/-- The words of a query, joined by single blanks, are its words again. -/
theorem words_join_words (s : List Char) : words (join [' '] (words s)) = words s :=
  words_join (fun _ => ne_nil_of_mem_words) fun _ => isBlank_of_mem_words

theorem dropWhile_isBlank_of_head? {s : List Char} (start : ∀ c ∈ s.head?, isBlank c = false) :
    s.dropWhile isBlank = s := by
  cases s with
  | nil => rfl
  | cons c rest =>
      have notBlank : isBlank c = false := start c rfl
      exact List.dropWhile_cons_of_neg (by simp [notBlank])

/-- A text with no blank at either end has nothing to trim. -/
theorem trim_of_ends {s : List Char} (start : ∀ c ∈ s.head?, isBlank c = false)
    (stop : ∀ c ∈ s.getLast?, isBlank c = false) : trim s = s := by
  rw [trim, trimStart, dropWhile_isBlank_of_head? start, trimEnd, dropWhile_isBlank_of_head?,
    List.reverse_reverse]
  rwa [List.head?_reverse]

end Text

namespace Pattern

variable {marker : List Char} {write : Char → List Char}

/-- A marker whose position has been reached comes next. -/
theorem weave_cons_of_le {position index : Nat} (reached : position ≤ index) (text : List Char)
    (positions : List Nat) :
    weave marker write index text (position :: positions) =
      marker ++ weave marker write index text positions := by
  cases text with
  | nil => rw [weave, weave, List.flatMap_cons]
  | cons c rest =>
      have passed : decide (position ≤ index) = true := decide_eq_true reached
      rw [weave, weave, List.takeWhile_cons, List.dropWhile_cons, passed]
      simp only [if_true, List.flatMap_cons, List.append_assoc]

/-- Before the next position is reached, a character comes next. -/
theorem weave_cons_of_lt {index : Nat} {positions : List Nat}
    (ahead : ∀ position ∈ positions.head?, index < position) (c : Char) (rest : List Char) :
    weave marker write index (c :: rest) positions =
      write c ++ weave marker write (index + 1) rest positions := by
  rw [weave]
  cases positions with
  | nil => rw [List.takeWhile_nil, List.dropWhile_nil, List.flatMap_nil, List.nil_append]
  | cons position positions =>
      have notReached : decide (position ≤ index) = false := by
        have later : index < position := ahead position rfl
        exact decide_eq_false (Nat.not_le.mpr later)
      rw [List.takeWhile_cons, List.dropWhile_cons, notReached, if_neg Bool.false_ne_true,
        if_neg Bool.false_ne_true, List.flatMap_nil, List.nil_append]

/-- A marker comes next if its position has been reached, or at the end of the text. -/
theorem weave_cons_of_due {position index : Nat} {text : List Char}
    (due : text = [] ∨ position ≤ index) (positions : List Nat) :
    weave marker write index text (position :: positions) =
      marker ++ weave marker write index text positions := by
  rcases due with rfl | reached
  · rw [weave, weave, List.flatMap_cons]
  · exact weave_cons_of_le reached text positions

/-- Each step of weaving takes one position or one character: a position that is due, or else a character. -/
theorem weave_induction {motive : Nat → List Char → List Nat → Prop}
    (done : ∀ index, motive index [] [])
    (marker : ∀ index text position positions, text = [] ∨ position ≤ index →
      motive index text positions → motive index text (position :: positions))
    (character : ∀ index c rest positions, (∀ position ∈ positions.head?, index < position) →
      motive (index + 1) rest positions → motive index (c :: rest) positions)
    (index : Nat) (text : List Char) (positions : List Nat) : motive index text positions := by
  induction text generalizing index positions with
  | nil =>
      induction positions with
      | nil => exact done index
      | cons position positions ih => exact marker index [] position positions (.inl rfl) ih
  | cons c rest ihtext =>
      induction positions with
      | nil => exact character index c rest [] (by simp) (ihtext (index + 1) [])
      | cons position positions ih =>
          rcases Nat.lt_or_ge index position with ahead | reached
          · exact character index c rest _ (by simpa using ahead) (ihtext (index + 1) _)
          · exact marker index (c :: rest) position positions (.inr reached) ih

/-- What is woven consists of the marker and of the characters of the text. -/
theorem mem_weave {m : Char} {index : Nat} {text : List Char} {positions : List Nat} {x : Char}
    (member : x ∈ weave [m] (fun c => [c]) index text positions) : x = m ∨ x ∈ text := by
  have markers {passed : List Nat} (marked : x ∈ passed.flatMap fun _ => [m]) : x = m := by
    obtain ⟨_, -, same⟩ := List.mem_flatMap.mp marked
    exact List.mem_singleton.mp same
  induction text generalizing index positions with
  | nil => exact .inl (markers member)
  | cons c rest ih =>
      rw [weave, List.mem_append, List.mem_append] at member
      rcases member with (marked | written) | later
      · exact .inl (markers marked)
      · rw [List.mem_singleton] at written
        exact .inr (written ▸ List.mem_cons_self ..)
      · rcases ih later with same | inside
        · exact .inl same
        · exact .inr (List.mem_cons_of_mem _ inside)

/-- Wildcards are taken out at positions that have been passed. -/
theorem le_of_mem_wildcardPositions {kept position : Nat} {s : List Char}
    (member : position ∈ wildcardPositions kept s) : kept ≤ position := by
  induction s generalizing kept with
  | nil => cases member
  | cons c rest ih =>
      rw [wildcardPositions] at member
      split at member
      · rcases List.mem_cons.mp member with rfl | later
        · exact Nat.le_refl _
        · exact ih later
      · have further : kept + 1 ≤ position := ih member
        omega

/-- Putting the wildcards back gives the typed text. -/
theorem weave_wildcardPositions (kept : Nat) (s : List Char) :
    weave [wildcard] (fun c => [c]) kept (s.filter (· != wildcard)) (wildcardPositions kept s) =
      s := by
  induction s generalizing kept with
  | nil => rfl
  | cons c rest ih =>
      by_cases wild : c = wildcard
      · have positions : wildcardPositions kept (c :: rest) =
            kept :: wildcardPositions kept rest := by simp [wildcardPositions, wild]
        have plain : (c :: rest).filter (· != wildcard) = rest.filter (· != wildcard) := by
          simp [wild]
        rw [positions, plain, weave_cons_of_le (Nat.le_refl kept), ih, wild, List.singleton_append]
      · have positions : wildcardPositions kept (c :: rest) = wildcardPositions (kept + 1) rest := by
          simp [wildcardPositions, wild]
        have plain : (c :: rest).filter (· != wildcard) = c :: rest.filter (· != wildcard) := by
          simp [wild]
        have ahead : ∀ position ∈ (wildcardPositions (kept + 1) rest).head?, kept < position := by
          intro position first
          exact le_of_mem_wildcardPositions (List.mem_of_mem_head? first)
        rw [positions, plain, weave_cons_of_lt ahead, ih, List.singleton_append]

/-- A typed text is typed again as it was. -/
theorem typed_ofText (s : List Char) : (ofText s).typed = String.ofList s := by
  rw [typed, marked, ofText, String.toList_ofList, weave_wildcardPositions]

/-- Taking the wildcards out of a woven text leaves the text. -/
theorem filter_weave {text : List Char} (plain : wildcard ∉ text) (index : Nat)
    (positions : List Nat) :
    (weave [wildcard] (fun c => [c]) index text positions).filter (· != wildcard) = text := by
  have markers (passed : List Nat) :
      (passed.flatMap fun _ => [wildcard]).filter (· != wildcard) = [] := by
    rw [List.filter_eq_nil_iff]
    intro x member
    obtain ⟨_, -, same⟩ := List.mem_flatMap.mp member
    rw [List.mem_singleton.mp same]
    decide
  induction text generalizing index positions with
  | nil => exact markers positions
  | cons c rest ih =>
      rw [List.mem_cons, not_or] at plain
      have kept : [c].filter (· != wildcard) = [c] := by simp [Ne.symm plain.1]
      rw [weave, List.filter_append, List.filter_append, markers, kept, ih plain.2]
      rfl

/-- Taking the wildcards out of a woven text finds the offsets at which they took effect. -/
theorem wildcardPositions_weave {text : List Char} (plain : wildcard ∉ text) (index : Nat)
    (positions : List Nat) :
    wildcardPositions index (weave [wildcard] (fun c => [c]) index text positions) =
      offsetsFrom (index + text.length) index positions := by
  induction index, text, positions using weave_induction with
  | done index => rfl
  | marker index text position positions due ih =>
      rw [weave_cons_of_due due, List.singleton_append, wildcardPositions,
        if_pos (beq_self_eq_true _), ih plain, offsetsFrom_of_due due]
  | character index c rest positions ahead ih =>
      rw [List.mem_cons, not_or] at plain
      have notWild : ¬ (c == wildcard) = true := by simpa using Ne.symm plain.1
      have stop : index + (c :: rest).length = index + 1 + rest.length := by
        rw [List.length_cons]
        omega
      rw [weave_cons_of_lt ahead, List.singleton_append, wildcardPositions, if_neg notWild,
        ih plain.2, stop, offsetsFrom_ahead ahead]

/-- What is typed for a pattern reads back with each wildcard where it took effect. -/
theorem ofText_typed_eq {p : Pattern} (plain : wildcard ∉ p.text.toList) :
    ofText p.typed.toList = ⟨p.text, p.effectiveOffsets⟩ := by
  have text : (ofText p.typed.toList).text = p.text := by
    rw [ofText, typed, marked, String.toList_ofList, filter_weave plain, String.ofList_toList]
  have positions : (ofText p.typed.toList).positions = p.effectiveOffsets := by
    rw [ofText, typed, marked, String.toList_ofList, effectiveOffsets_eq, ← String.length_toList,
      ← Nat.zero_add p.text.toList.length]
    exact wildcardPositions_weave plain 0 p.positions
  show Pattern.mk (ofText p.typed.toList).text (ofText p.typed.toList).positions = _
  rw [text, positions]

/-- What is typed for a pattern has as many wildcards as the pattern. -/
theorem count_wildcard_typed {p : Pattern} (plain : wildcard ∉ p.text.toList) :
    p.typed.toList.count wildcard = p.positions.length := by
  calc p.typed.toList.count wildcard
      = (ofText p.typed.toList).positions.length := (length_wildcardPositions 0 p.typed.toList).symm
    _ = p.effectiveOffsets.length := by rw [ofText_typed_eq plain]
    _ = p.positions.length := by rw [effectiveOffsets, List.length_map, List.length_range]

/-- A pattern whose wildcards are in order and inside its text is read back from its typed form. -/
theorem ofText_typed {p : Pattern} (plain : wildcard ∉ p.text.toList)
    (ascending : p.positions.Pairwise (· ≤ ·))
    (inside : ∀ position ∈ p.positions, position ≤ p.text.length) :
    ofText p.typed.toList = p := by
  rw [ofText_typed_eq plain, effectiveOffsets_eq_positions ascending inside]

end Pattern

end Tagboard
