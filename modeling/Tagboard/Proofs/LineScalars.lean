import Mathlib.Algebra.Group.Nat.Defs
import Mathlib.Data.List.TakeWhile
import Tagboard.Proofs.Numerals
import Tagboard.Yaml.Writer

/-!
# Scalars on one line are read back

A text in quotes of either kind is read up to its last quote, each escape as the character that it
stands for. A text without quotes is read as it stands, because a text with a comment, with a colon
before a gap or with gaps at its ends is never written so.
-/

namespace Tagboard.Yaml

open Text

/-- Zeros in front do not change a number. -/
theorem valueInBase?_hexOfWidth (width n : Nat) : valueInBase? 16 (hexOfWidth width n) = some n := by
  have zeros (count : Nat) (digits : List Char) :
      valueInBase? 16 (List.replicate count '0' ++ digits) = valueInBase? 16 digits := by
    induction count with
    | zero => rfl
    | succ count ih =>
      rw [List.replicate_succ, List.cons_append]
      exact ih
  rw [hexOfWidth, zeros, valueInBase?_hexNumeral]

theorem length_hexOfWidth {width n : Nat} (positive : 0 < width) (fits : n < 16 ^ width) :
    (hexOfWidth width n).length = width := by
  have short : (hexNumeral n).length ≤ width :=
    (Nat.length_toDigits_le_iff (by decide) positive).mpr fits
  simp [hexOfWidth, short]

theorem numbered?_hexOfWidth (width : Nat) (c : Char) :
    numbered? (hexOfWidth width c.toNat) = some c := by
  have valid : c.toNat.isValidChar := c.valid
  simp [numbered?, valueInBase?_hexOfWidth, valid, Char.ofNat_toNat]

theorem exists_of_length_eq_four {α : Type} {s : List α} (length : s.length = 4) :
    ∃ a b c d, s = [a, b, c, d] :=
  match s, length with
  | [a, b, c, d], _ => ⟨a, b, c, d, rfl⟩

theorem exists_of_length_eq_eight {α : Type} {s : List α} (length : s.length = 8) :
    ∃ a b c d e f g h, s = [a, b, c, d, e, f, g, h] :=
  match s, length with
  | [a, b, c, d, e, f, g, h], _ => ⟨a, b, c, d, e, f, g, h, rfl⟩

/-- An escape of one letter. -/
theorem doubleQuoted?_letter {letter : Char} (short : letter ∉ ['x', 'u', 'U']) (rest : List Char) :
    doubleQuoted? ('\\' :: letter :: rest) = withChar (escaped? letter) (doubleQuoted? rest) := by
  simp only [List.mem_cons, List.not_mem_nil, or_false, not_or] at short
  obtain ⟨notX, notSmall, notLarge⟩ := short
  rw [doubleQuoted?] <;> intros <;> simp_all

theorem doubleQuoted?_self {c : Char} (noQuote : c ≠ '"') (noBackslash : c ≠ '\\')
    (rest : List Char) :
    doubleQuoted? (c :: rest) = withChar (some c) (doubleQuoted? rest) := by
  rw [doubleQuoted?] <;> intros <;> simp_all

/-- Whether a character may stand inside a line of a file. -/
def isInLine (c : Char) : Bool := isAllowed c && c != '\r' && c != '\n'

/-- A letter that escapes a character is no mark of a number, and may stand in a line. -/
theorem of_escapeLetter? {c letter : Char} (found : escapeLetter? c = some letter) :
    letter ∉ ['x', 'u', 'U'] ∧ isInLine letter = true := by
  have listed := List.mem_of_find?_eq_some found
  simp only [List.mem_cons, List.not_mem_nil, or_false] at listed
  rcases listed with rfl | rfl | rfl | rfl | rfl | rfl | rfl | rfl | rfl | rfl | rfl | rfl | rfl | rfl <;>
    decide

/-- The escape of a character is read as the character. -/
theorem doubleQuoted?_escapeDouble (c : Char) (rest : List Char) :
    doubleQuoted? (escapeDouble c ++ rest) = withChar (some c) (doubleQuoted? rest) := by
  unfold escapeDouble
  split
  · next letter found =>
    have means : escaped? letter = some c := by simpa using List.find?_some found
    rw [← means]
    exact doubleQuoted?_letter (of_escapeLetter? found).1 rest
  · next letterless =>
    split
    · refine doubleQuoted?_self ?_ ?_ rest <;> rintro rfl <;> exact absurd letterless (by decide)
    split
    · next fits =>
      obtain ⟨a, b, digits⟩ := List.length_eq_two.mp (length_hexOfWidth (by decide : 0 < 2) fits)
      have value := numbered?_hexOfWidth 2 c
      rw [digits] at value ⊢
      simp [doubleQuoted?, value]
    split
    · next fits =>
      obtain ⟨a, b, d, e, digits⟩ := exists_of_length_eq_four
        (length_hexOfWidth (by decide : 0 < 4) fits)
      have value := numbered?_hexOfWidth 4 c
      rw [digits] at value ⊢
      simp [doubleQuoted?, value]
    · have fits : c.toNat < 16 ^ 8 := lt_of_lt_of_eq c.val.toNat_lt (by decide)
      obtain ⟨a, b, d, e, f, g, h, i, digits⟩ := exists_of_length_eq_eight
        (length_hexOfWidth (by decide : 0 < 8) fits)
      have value := numbered?_hexOfWidth 8 c
      rw [digits] at value ⊢
      simp [doubleQuoted?, value]

/-- A text in double quotes is read back, up to the last quote. -/
theorem doubleQuoted?_flatMap_escapeDouble (s rest : List Char) :
    doubleQuoted? (s.flatMap escapeDouble ++ '"' :: rest) = some (s, rest) := by
  induction s with
  | nil => rfl
  | cons c s ih =>
      rw [List.flatMap_cons, List.append_assoc, doubleQuoted?_escapeDouble, ih]
      rfl

/-- A text in single quotes is read back. -/
theorem singleQuoted?_flatMap (s : List Char) :
    singleQuoted? (s.flatMap (fun c => if c == '\'' then ['\'', '\''] else [c]) ++ ['\'']) =
      some (s, []) := by
  induction s with
  | nil => rfl
  | cons c s ih =>
      rw [List.flatMap_cons, List.append_assoc]
      by_cases quote : c = '\''
      · rw [if_pos (by simpa using quote), List.cons_append, List.singleton_append, singleQuoted?, ih,
          quote]
        rfl
      · rw [if_neg (by simpa using quote), List.singleton_append, singleQuoted?, ih] <;>
          simp [quote]

theorem isInLine_of_isHidden {c : Char} (visible : isHidden c = false) (inner : c ≠ '\n') :
    isInLine c = true := by
  simp only [isHidden, Bool.and_eq_false_iff, bne_eq_false_iff_eq, inner, false_or,
    Bool.or_eq_false_iff, Bool.not_eq_false'] at visible
  have noReturn : c ≠ '\r' := by
    rintro rfl
    exact absurd visible.2 (by decide)
  simp [isInLine, visible.1, noReturn, inner]

theorem isGap_eq_of_isHidden {c : Char} (visible : isHidden c = false) : isGap c = (c == ' ') := by
  have noTab : c ≠ '\t' := by
    rintro rfl
    exact absurd visible (by decide)
  simp [isGap, noTab]

theorem isInLine_of_mem_hexOfWidth {width n : Nat} {c : Char} (member : c ∈ hexOfWidth width n) :
    isInLine c = true := by
  rcases List.mem_append.mp member with zero | digit
  · rw [List.eq_of_mem_replicate zero]
    decide
  · obtain ⟨lower, inside, rfl⟩ := List.mem_map.mp digit
    exact forall_mem_toDigits (P := fun c => isInLine c.toUpper = true) (by decide) (by decide) n
      lower inside

theorem isInLine_of_mem_escapeDouble {x c : Char} (member : x ∈ escapeDouble c) :
    isInLine x = true := by
  unfold escapeDouble at member
  split at member
  · next letter found =>
    rcases List.mem_pair.mp member with rfl | rfl
    · decide
    · exact (of_escapeLetter? found).2
  · next letterless =>
    have numbered {mark : Char} {width : Nat} (marked : isInLine mark = true)
        (member : x ∈ ['\\', mark] ++ hexOfWidth width c.toNat) : isInLine x = true := by
      rcases List.mem_append.mp member with sign | digit
      · rcases List.mem_pair.mp sign with rfl | rfl
        · decide
        · exact marked
      · exact isInLine_of_mem_hexOfWidth digit
    split at member
    · next visible =>
      rw [List.mem_singleton.mp member]
      refine isInLine_of_isHidden (by simpa using visible) ?_
      rintro rfl
      exact absurd letterless (by decide)
    split at member
    · exact numbered (by decide) member
    split at member
    · exact numbered (by decide) member
    · exact numbered (by decide) member

/-- A text in double quotes is one line. -/
theorem isInLine_of_mem_writeDouble {s : List Char} {c : Char} (member : c ∈ writeDouble s) :
    isInLine c = true := by
  simp only [writeDouble, List.cons_append, List.mem_cons, List.mem_append, List.mem_flatMap,
    List.not_mem_nil, or_false] at member
  rcases member with rfl | ⟨_, _, inside⟩ | rfl
  · decide
  · exact isInLine_of_mem_escapeDouble inside
  · decide

/-- A text in single quotes has no characters but its own and quotes. -/
theorem mem_of_mem_writeSingle {s : List Char} {c : Char} (member : c ∈ writeSingle s) :
    c = '\'' ∨ c ∈ s := by
  simp only [writeSingle, List.cons_append, List.mem_cons, List.mem_append, List.mem_flatMap,
    List.not_mem_nil, or_false] at member
  rcases member with rfl | ⟨x, inside, part⟩ | rfl
  · exact .inl rfl
  · split at part
    · exact .inl (by simpa using part)
    · exact .inr (by rwa [List.mem_singleton.mp part])
  · exact .inl rfl

theorem trimGaps_eq_self {s : List Char} (stop : ∀ c ∈ s.getLast?, isGap c = false) :
    trimGaps s = s := by
  rw [List.getLast?_eq_head?_reverse] at stop
  rw [trimGaps]
  cases reversed : s.reverse with
  | nil => rw [List.reverse_eq_nil_iff.mp reversed]; rfl
  | cons c rest =>
      rw [reversed] at stop
      rw [List.dropWhile_cons_of_neg (by simp [stop c rfl]), ← reversed, List.reverse_reverse]

theorem trimGaps_concat {s : List Char} {c : Char} (noGap : isGap c = false) :
    trimGaps (s ++ [c]) = s ++ [c] := by
  refine trimGaps_eq_self fun x last => ?_
  rw [List.getLast?_concat, Option.mem_some_iff] at last
  rw [← last, noGap]

theorem exists_cons_of_startsPlain {s : List Char} (starts : startsPlain s = true) :
    ∃ c rest, s = c :: rest ∧ isGap c = false ∧ isIndicator c = false := by
  cases s with
  | nil => exact absurd starts Bool.false_ne_true
  | cons c rest =>
      refine ⟨c, rest, rfl, ?_⟩
      rw [startsPlain] at starts
      split at starts
      · next sign =>
        simp only [List.contains_cons, List.contains_nil, Bool.or_false, Bool.or_eq_true,
          beq_iff_eq] at sign
        rcases sign with rfl | rfl | rfl <;> decide
      · simpa using starts

section Plain

variable {s : List Char} {afterGap : Bool}

/-- A text without marks has no comment. A tab would start one as well, but it is never written. -/
theorem beforeComment_eq_self (unmarked : hasMark afterGap s = false)
    (visible : ∀ c ∈ s, isHidden c = false) : beforeComment afterGap s = s := by
  induction s generalizing afterGap with
  | nil => rfl
  | cons c rest ih =>
      rw [List.forall_mem_cons] at visible
      simp only [hasMark, Bool.or_eq_false_iff] at unmarked
      rw [beforeComment, unmarked.1.1, if_neg Bool.false_ne_true, isGap_eq_of_isHidden visible.1,
        ih unmarked.2 visible.2]

/-- A text without marks is no key and value. -/
theorem cutKey?_eq_none (unmarked : hasMark afterGap s = false)
    (visible : ∀ c ∈ s, isHidden c = false) : cutKey? s = none := by
  induction s generalizing afterGap with
  | nil => rfl
  | cons c rest ih =>
      rw [List.forall_mem_cons] at visible
      simp only [hasMark, Bool.or_eq_false_iff] at unmarked
      have next : rest.head?.any isGap = (rest.head? == some ' ') := by
        cases rest with
        | nil => rfl
        | cons d rest => simp [isGap_eq_of_isHidden (visible.2 d (List.mem_cons_self ..))]
      rw [cutKey?, next, unmarked.1.2, if_neg Bool.false_ne_true, ih unmarked.2 visible.2]
      rfl

theorem startsPlain_of_isPlain (plain : isPlain s = true) : startsPlain s = true := by
  simp only [isPlain, Bool.and_eq_true] at plain
  exact plain.1.1

theorem trimGaps_of_isPlain (plain : isPlain s = true) (visible : ∀ c ∈ s, isHidden c = false) :
    trimGaps s = s := by
  refine trimGaps_eq_self fun c last => ?_
  have noSpace : s.getLast? ≠ some ' ' := by
    simp only [isPlain, Bool.and_eq_true, bne_iff_ne] at plain
    exact plain.2
  rw [isGap_eq_of_isHidden (visible c (List.mem_of_getLast? last)), beq_eq_false_iff_ne]
  rintro rfl
  exact noSpace last

theorem plain?_of_isPlain (plain : isPlain s = true) (visible : ∀ c ∈ s, isHidden c = false) :
    plain? s = some ⟨String.ofList s, true⟩ := by
  have trimmed := trimGaps_of_isPlain plain visible
  simp only [isPlain, Bool.and_eq_true, Bool.not_eq_true'] at plain
  obtain ⟨⟨starts, unmarked⟩, -⟩ := plain
  rw [plain?, beforeComment_eq_self unmarked visible, trimmed, starts,
    cutKey?_eq_none unmarked visible]
  obtain ⟨c, rest, rfl, -⟩ := exists_cons_of_startsPlain starts
  rfl

/-- A text that can be written without quotes is read as it stands. -/
theorem value?_of_isPlain (plain : isPlain s = true) (visible : ∀ c ∈ s, isHidden c = false) :
    value? s = some (.scalar ⟨String.ofList s, true⟩) := by
  have read := plain?_of_isPlain plain visible
  obtain ⟨c, rest, rfl, -, unindicated⟩ := exists_cons_of_startsPlain (startsPlain_of_isPlain plain)
  have unquoted : startsQuoted (c :: rest) = false := by
    have noQuote : c ≠ '\'' ∧ c ≠ '"' := by
      constructor <;> rintro rfl <;> exact absurd unindicated (by decide)
    simp [startsQuoted, noQuote]
  have noBracket : c ≠ '[' := by
    rintro rfl
    exact absurd unindicated (by decide)
  rw [value?, unquoted, if_neg Bool.false_ne_true, read]
  · rfl
  · intro rest same
    exact noBracket (List.cons.inj same).1

end Plain

theorem value?_writeDouble (s : List Char) :
    value? (writeDouble s) = some (.scalar ⟨String.ofList s, false⟩) := by
  have read := doubleQuoted?_flatMap_escapeDouble s []
  simp [value?, writeDouble, startsQuoted, quotedScalar?, read, isOver]

theorem value?_writeSingle (s : List Char) :
    value? (writeSingle s) = some (.scalar ⟨String.ofList s, false⟩) := by
  have read := singleQuoted?_flatMap s
  simp only [beq_iff_eq] at read
  simp [value?, writeSingle, startsQuoted, quotedScalar?, read, isOver]

/-- A text on the line of its key is read as a value. -/
theorem entryValue?_line {s : List Char} (ends : trimGaps s = s) (noBar : s.head? ≠ some '|')
    (noComment : s.head? ≠ some '#') (nonempty : s ≠ []) : entryValue? 0 s [] = value? s := by
  unfold entryValue?
  split
  · exact absurd rfl noBar
  · simp [nonempty, noComment, unfold, ends]

end Tagboard.Yaml
