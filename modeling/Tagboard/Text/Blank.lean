import Tagboard.Text.Split

/-!
# Blank characters

The Unicode property `White_Space`, and the three ways in which blanks shape a text: trimming both
ends, cutting into words, and looking at the last character.
-/

namespace Tagboard.Text

/-- Whether a character has the Unicode property `White_Space`. -/
def isBlank (c : Char) : Bool :=
  let n := c.toNat
  (9 ≤ n && n ≤ 13) || n == 0x20 || n == 0x85 || n == 0xa0 || n == 0x1680 ||
    (0x2000 ≤ n && n ≤ 0x200a) || n == 0x2028 || n == 0x2029 || n == 0x202f || n == 0x205f ||
    n == 0x3000

/-- Every blank of the ASCII range is blank here too. -/
theorem isBlank_of_isWhitespace {c : Char} (h : c.isWhitespace = true) : isBlank c = true := by
  simp only [Char.isWhitespace, Bool.or_eq_true, decide_eq_true_eq] at h
  rcases h with ((h | h) | h) | h <;> subst h <;> decide

/-- Drops the blanks at the start. -/
def trimStart (s : List Char) : List Char := s.dropWhile isBlank

/-- Drops the blanks at the end. -/
def trimEnd (s : List Char) : List Char := (s.reverse.dropWhile isBlank).reverse

/-- Drops the blanks at both ends. -/
def trim (s : List Char) : List Char := trimEnd (trimStart s)

/-- The maximal runs of characters that are not blank, in order. -/
def words (s : List Char) : List (List Char) := (split isBlank s).filter fun piece => !piece.isEmpty

/-- Whether the last character is blank. -/
def endsBlank (s : List Char) : Bool := s.getLast?.any isBlank

@[simp] theorem trim_nil : trim [] = [] := rfl

@[simp] theorem words_nil : words [] = [] := rfl

/-- No letter is blank. -/
theorem isBlank_of_isAlpha {c : Char} (letter : c.isAlpha = true) : isBlank c = false := by
  have cases : (decide (c.val ≥ 65 ∧ c.val ≤ 90) || (c.val ≥ 97 && c.val ≤ 122)) = true := letter
  have range : 65 ≤ c.toNat ∧ c.toNat ≤ 90 ∨ 97 ≤ c.toNat ∧ c.toNat ≤ 122 := by
    simpa [UInt32.le_iff_toNat_le] using cases
  simp only [isBlank, Bool.or_eq_false_iff, Bool.and_eq_false_iff, decide_eq_false_iff_not,
    beq_eq_false_iff_ne]
  omega

theorem dropWhile_isBlank_eq_self {s : List Char} (noBlank : ∀ c ∈ s, isBlank c = false) :
    s.dropWhile isBlank = s := by
  cases s with
  | nil => rfl
  | cons c rest => rw [List.dropWhile_cons_of_neg (by simp [noBlank c])]

/-- A text without blanks has nothing to trim. -/
theorem trim_eq_self {s : List Char} (noBlank : ∀ c ∈ s, isBlank c = false) : trim s = s := by
  rw [trim, trimStart, dropWhile_isBlank_eq_self noBlank, trimEnd, dropWhile_isBlank_eq_self,
    List.reverse_reverse]
  exact fun c hc => noBlank c (List.mem_reverse.mp hc)

theorem dropWhile_isBlank_eq_nil_iff {s : List Char} :
    s.dropWhile isBlank = [] ↔ ∀ c ∈ s, isBlank c = true := by
  induction s with
  | nil => simp
  | cons c rest step => cases blank : isBlank c <;> simp [blank, step]

/-- Trimming leaves nothing exactly of a text of blanks. -/
theorem trim_eq_nil_iff {s : List Char} : trim s = [] ↔ s.all isBlank = true := by
  have rest : trim s = [] ↔ ∀ c ∈ s.dropWhile isBlank, isBlank c = true := by
    rw [trim, trimEnd, trimStart, List.reverse_eq_nil_iff, dropWhile_isBlank_eq_nil_iff]
    exact ⟨fun blank c hc => blank c (List.mem_reverse.mpr hc),
      fun blank c hc => blank c (List.mem_reverse.mp hc)⟩
  rw [rest, List.all_eq_true]
  constructor
  · intro blank c hc
    rw [← List.takeWhile_append_dropWhile (p := isBlank) (l := s), List.mem_append] at hc
    rcases hc with start | stop
    · exact List.all_eq_true.mp List.all_takeWhile c start
    · exact blank c stop
  · exact fun blank c hc => blank c ((List.dropWhile_sublist isBlank).subset hc)

theorem isEmpty_trim (s : List Char) : (trim s).isEmpty = s.all isBlank := by
  rw [Bool.eq_iff_iff, List.isEmpty_iff, trim_eq_nil_iff]

/-- A word is not empty. -/
theorem ne_nil_of_mem_words {s word : List Char} (h : word ∈ words s) : word ≠ [] := by
  simp only [words, List.mem_filter, Bool.not_eq_true', List.isEmpty_eq_false_iff] at h
  exact h.2

example : words "  a\tbc ".toList = ["a".toList, "bc".toList] := by decide

end Tagboard.Text
