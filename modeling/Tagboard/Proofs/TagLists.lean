import Tagboard.Command.Input
import Tagboard.Proofs.ArgumentRules
import Tagboard.Proofs.Numerals
import Tagboard.Proofs.TypedText

/-!
# Lists of numbers on the command line

A list of tags is written with any commas and spaces before, between and behind the numbers, as long as
two numbers are kept apart, and it is read as the numbers in order. A list with an entry that is no numeral
of 64 bits is refused.
-/

namespace Tagboard

open Text

namespace Input

/-- Whether a text is a decimal numeral of a number; zeros in front are allowed. -/
structure IsDecimal (digits : List Char) (n : Nat) : Prop where
  nonempty : digits ≠ []
  allDigits : ∀ c ∈ digits, isDigit c = true
  value : Nat.ofDigitChars 10 digits 0 = n

/-- Whether a text is what an entry of a list may be: a decimal numeral, perhaps behind a plus sign. -/
def IsEntry (s : List Char) (id : TagId) : Prop :=
  ∃ digits, (s = digits ∨ s = '+' :: digits) ∧ IsDecimal digits id.toNat

/-- How numbers are written in a list, with separators between them and around them. -/
inductive Lists : List Char → List TagId → Prop where
  | nothing {gap : List Char} (separators : ∀ c ∈ gap, separates c = true) : Lists gap []
  | last {gap digits : List Char} {id : TagId} (separators : ∀ c ∈ gap, separates c = true)
      (decimal : IsDecimal digits id.toNat) : Lists (gap ++ digits) [id]
  | next {gap digits rest : List Char} {separator : Char} {id : TagId} {ids : List TagId}
      (separators : ∀ c ∈ gap, separates c = true) (decimal : IsDecimal digits id.toNat)
      (apart : separates separator = true) (later : Lists rest ids) :
      Lists (gap ++ (digits ++ separator :: rest)) (id :: ids)

/-- A part of a list without separators, which reaches to separators or to the ends of the list. -/
def IsPiece (list piece : List Char) : Prop :=
  ∃ before after, list = before ++ piece ++ after ∧ (∀ c ∈ before.getLast?, separates c = true) ∧
    (∀ c ∈ after.head?, separates c = true) ∧ ∀ c ∈ piece, separates c = false

namespace IsDecimal

variable {digits : List Char} {n : Nat}

theorem natOfNumeral?_eq (decimal : IsDecimal digits n) : natOfNumeral? digits = some n := by
  rw [natOfNumeral?_eq_some_iff, digitsValue_eq_ofDigitChars]
  exact ⟨decimal.nonempty, List.all_eq_true.mpr decimal.allDigits, decimal.value⟩

theorem separates_eq_false (decimal : IsDecimal digits n) : ∀ c ∈ digits, separates c = false := by
  intro c member
  have digit := decimal.allDigits c member
  cases apart : separates c with
  | false => rfl
  | true =>
      rcases Bool.or_eq_true_iff.mp apart with comma | space
      · rw [eq_of_beq comma] at digit
        exact absurd digit (by decide)
      · rw [eq_of_beq space] at digit
        exact absurd digit (by decide)

theorem trim_eq_self (decimal : IsDecimal digits n) : trim digits = digits := by
  refine Text.trim_eq_self fun c member => ?_
  have digit := decimal.allDigits c member
  simp only [isDigit, Bool.and_eq_true, decide_eq_true_eq] at digit
  simp only [isBlank, Bool.or_eq_false_iff, Bool.and_eq_false_iff, decide_eq_false_iff_not,
    beq_eq_false_iff_ne]
  omega

end IsDecimal

theorem natOfNumeral?_eq_some_iff_isDecimal {digits : List Char} {n : Nat} :
    natOfNumeral? digits = some n ↔ IsDecimal digits n := by
  constructor
  · intro numeral
    obtain ⟨nonempty, digits, value⟩ := natOfNumeral?_eq_some_iff.mp numeral
    rw [digitsValue_eq_ofDigitChars] at value
    exact ⟨nonempty, List.all_eq_true.mp digits, value⟩
  · exact IsDecimal.natOfNumeral?_eq

/-- A plus sign in front of a numeral has no part in its value. -/
theorem readUInt64?_plus (digits : List Char) :
    readUInt64? ('+' :: digits) = (natOfNumeral? digits).bind uint64? := rfl

/-- Exactly the entries that are numerals of 64 bits are read, as their numbers. -/
theorem readUInt64?_eq_some_iff {s : List Char} {id : TagId} :
    readUInt64? s = some id ↔ IsEntry s id := by
  constructor
  · intro read
    by_cases plus : s.head? = some '+'
    · obtain ⟨digits, rfl⟩ := List.head?_eq_some_iff.mp plus
      rw [readUInt64?_plus] at read
      obtain ⟨n, numeral, bound⟩ := Option.bind_eq_some_iff.mp read
      rw [← uint64?_eq_some_iff.mp bound] at numeral
      exact ⟨digits, .inr rfl, natOfNumeral?_eq_some_iff_isDecimal.mp numeral⟩
    · rw [readUInt64?_eq_bind plus] at read
      obtain ⟨n, numeral, bound⟩ := Option.bind_eq_some_iff.mp read
      rw [← uint64?_eq_some_iff.mp bound] at numeral
      exact ⟨s, .inl rfl, natOfNumeral?_eq_some_iff_isDecimal.mp numeral⟩
  · rintro ⟨digits, rfl | rfl, decimal⟩
    · exact readUInt64?_of_natOfNumeral? decimal.natOfNumeral?_eq
    · rw [readUInt64?_plus, decimal.natOfNumeral?_eq]
      exact uint64?_eq_some_iff.mpr rfl

theorem tagId_eq_ok_iff {s : List Char} {id : TagId} : tagId s = .ok id ↔ IsEntry s id := by
  rw [← readUInt64?_eq_some_iff, tagId]
  cases readUInt64? s <;> simp

theorem entries_append_separator {separator : Char} (apart : separates separator = true)
    (before after : List Char) :
    entries (before ++ separator :: after) = entries before ++ entries after := by
  rw [entries, split_append_separator apart, List.map_append, List.filter_append, entries, entries]

@[simp] theorem entries_nil : entries [] = [] := rfl

/-- Separators in front of a list have no part in its entries. -/
theorem entries_append_of_separators {gap : List Char} (separators : ∀ c ∈ gap, separates c = true)
    (list : List Char) : entries (gap ++ list) = entries list := by
  induction gap with
  | nil => rfl
  | cons c gap ih =>
      rw [List.forall_mem_cons] at separators
      have cut := entries_append_separator separators.1 [] (gap ++ list)
      rw [List.nil_append, entries_nil, List.nil_append] at cut
      rw [List.cons_append, cut, ih separators.2]

/-- A decimal numeral is one entry. -/
theorem entries_decimal {digits : List Char} {n : Nat} (decimal : IsDecimal digits n) :
    entries digits = [digits] := by
  have kept : (!digits.isEmpty) = true := by simpa using decimal.nonempty
  rw [entries, split_eq_singleton decimal.separates_eq_false, List.map_singleton,
    decimal.trim_eq_self, List.filter_cons, if_pos kept, List.filter_nil]

/-- The entries of a list are read as the numbers that it was written for. -/
theorem Lists.mapM_entries {list : List Char} {ids : List TagId} (written : Lists list ids) :
    (entries list).mapM tagId = .ok ids := by
  have read {digits : List Char} {id : TagId} (decimal : IsDecimal digits id.toNat) :
      tagId digits = .ok id := tagId_eq_ok_iff.mpr ⟨digits, .inl rfl, decimal⟩
  induction written with
  | nothing separators =>
      have nothing := entries_append_of_separators separators []
      rw [List.append_nil, entries_nil] at nothing
      rw [nothing]
      rfl
  | last separators decimal =>
      rw [entries_append_of_separators separators, entries_decimal decimal, List.mapM_cons,
        read decimal]
      rfl
  | next separators decimal apart _ ih =>
      rw [entries_append_of_separators separators, entries_append_separator apart,
        entries_decimal decimal, List.singleton_append, List.mapM_cons, read decimal, ih]
      rfl

theorem mem_split_of_isPiece {list piece : List Char} (isPiece : IsPiece list piece) :
    piece ∈ split separates list := by
  obtain ⟨before, after, rfl, start, stop, free⟩ := isPiece
  have first : piece ∈ split separates (piece ++ after) := by
    cases after with
    | nil => rw [List.append_nil, split_eq_singleton free, List.mem_singleton]
    | cons c rest =>
        rw [split_append_cons free (stop c rfl)]
        exact List.mem_cons_self ..
  rw [List.append_assoc]
  rcases List.eq_nil_or_concat before with rfl | ⟨earlier, c, rfl⟩
  · exact first
  · have apart : separates c = true := start c (by simp)
    rw [List.concat_eq_append, List.append_assoc, List.singleton_append,
      split_append_separator apart]
    exact List.mem_append_right _ first

/-- A list is refused for a piece that is neither blank nor a numeral of 64 bits. -/
theorem exists_tagIds_eq_error {list : String} {piece : List Char}
    (isPiece : IsPiece list.toList piece) (visible : trim piece ≠ [])
    (noEntry : ∀ id, ¬ IsEntry (trim piece) id) : ∃ e, tagIds list = .error e := by
  have listed : trim piece ∈ entries list.toList := by
    rw [entries, List.mem_filter]
    exact ⟨List.mem_map_of_mem (mem_split_of_isPiece isPiece), by simpa using visible⟩
  cases read : tagIds list with
  | error e => exact ⟨e, rfl⟩
  | ok ids =>
      obtain ⟨id, hid⟩ := exists_mapM_eq_ok_iff.mp ⟨ids, read⟩ _ listed
      exact absurd (tagId_eq_ok_iff.mp hid) (noEntry id)

end Input

end Tagboard
