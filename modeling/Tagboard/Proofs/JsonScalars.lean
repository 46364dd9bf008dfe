import Mathlib.Data.List.TakeWhile
import Tagboard.Json.Parser
import Tagboard.Proofs.Numerals

/-!
# Scalars of JSON are read back

A text in quotes is read up to its last quote, each escape as one step that stands for the character. A
number of 64 bits is read up to where no digit, no point and no exponent goes on with it.
-/

namespace Tagboard

namespace Json

open Text

/-- A step of a quoted text stands for a character, as itself or by its number. -/
inductive TextUnit.StandsFor : TextUnit → Char → Prop where
  | char (c : Char) : StandsFor (.char c) c
  | code {c : Char} (small : c.toNat < 0xd800) : StandsFor (.code c.toNat) c

/-- Numbers that are no halves of a pair are read one by one. -/
theorem textOfUnits?_code {n : Nat} (small : n < 0xd800) (units : List TextUnit) :
    textOfUnits? (.code n :: units) = (textOfUnits? units).map (Char.ofNat n :: ·) := by
  have noHalf : ¬ 0xd800 ≤ n := by omega
  cases units with
  | nil => simp [textOfUnits?, noHalf]
  | cons unit rest => cases unit <;> simp [textOfUnits?, noHalf]

theorem textOfUnits?_of_standsFor {units : List TextUnit} {s : List Char}
    (stands : List.Forall₂ TextUnit.StandsFor units s) : textOfUnits? units = some s := by
  induction stands with
  | nil => rfl
  | cons stands _ ih =>
      cases stands with
      | char c => rw [textOfUnits?, ih, Option.map_some]
      | code small => rw [textOfUnits?_code small, ih, Option.map_some, Char.ofNat_toNat]

/-- The character of a short escape is one step. -/
theorem quotedUnits?_short {letter c : Char} (short : shortEscape? letter = some c) (rest : List Char) :
    quotedUnits? ('\\' :: letter :: rest) =
      (quotedUnits? rest).map fun (units, after) => (.char c :: units, after) := by
  have notU : letter ≠ 'u' := by
    rintro rfl
    cases short
  rw [quotedUnits?]
  · rw [short]
    cases quotedUnits? rest <;> rfl
  · intro a b c d rest same
    simp_all

theorem quotedUnits?_code {a b c d : Char} {n : Nat} (value : hexValue4? a b c d = some n)
    (rest : List Char) :
    quotedUnits? ('\\' :: 'u' :: a :: b :: c :: d :: rest) =
      (quotedUnits? rest).map fun (units, after) => (.code n :: units, after) := by
  rw [quotedUnits?, value]
  cases quotedUnits? rest <;> rfl

theorem quotedUnits?_self {c : Char} (noQuote : c ≠ '"') (noBackslash : c ≠ '\\')
    (visible : ¬ c.toNat < 0x20) (rest : List Char) :
    quotedUnits? (c :: rest) =
      (quotedUnits? rest).map fun (units, after) => (.char c :: units, after) := by
  rw [quotedUnits?]
  · rw [if_neg visible]
    cases quotedUnits? rest <;> rfl
  all_goals
    intros
    simp_all

/-- The number of a character that is written by its number has four digits. -/
theorem escape_eq_of_small : ∀ n < 32,
    (if n < 16 then "\\u000".toList ++ hexNumeral n else "\\u00".toList ++ hexNumeral n) =
        ['\\', 'u', '0', '0', Nat.digitChar (n / 16), Nat.digitChar (n % 16)] ∧
      hexValue4? '0' '0' (Nat.digitChar (n / 16)) (Nat.digitChar (n % 16)) = some n := by
  decide

/-- The escape of a character is read as one step that stands for the character. -/
theorem exists_quotedUnits?_escapeChar (c : Char) :
    ∃ unit : TextUnit, unit.StandsFor c ∧ ∀ rest, quotedUnits? (escapeChar c ++ rest) =
      (quotedUnits? rest).map fun (units, after) => (unit :: units, after) := by
  have short {letter d : Char} (means : shortEscape? letter = some d) :
      ∃ unit : TextUnit, unit.StandsFor d ∧ ∀ rest, quotedUnits? (['\\', letter] ++ rest) =
        (quotedUnits? rest).map fun (units, after) => (unit :: units, after) :=
    ⟨.char d, .char d, quotedUnits?_short means⟩
  unfold escapeChar
  split
  · next marked =>
    refine short ?_
    rcases (by simpa using marked : c = '"' ∨ c = '\\') with rfl | rfl <;> rfl
  split
  · next same => exact eq_of_beq same ▸ short rfl
  split
  · next same => exact eq_of_beq same ▸ short rfl
  split
  · next same => exact eq_of_beq same ▸ short rfl
  split
  · next same => exact eq_of_beq same ▸ short rfl
  split
  · next same => exact eq_of_beq same ▸ short rfl
  next plain _ _ _ _ _ =>
  by_cases small : c.toNat < 0x20
  · obtain ⟨digits, value⟩ := escape_eq_of_small c.toNat small
    rw [if_pos small, digits]
    exact ⟨.code c.toNat, .code (by omega), quotedUnits?_code value⟩
  · rw [if_neg (by omega), if_neg small]
    obtain ⟨noQuote, noBackslash⟩ : c ≠ '"' ∧ c ≠ '\\' := by simpa using plain
    exact ⟨.char c, .char c, quotedUnits?_self noQuote noBackslash small⟩

/-- A text in quotes is read back, up to its last quote. -/
theorem exists_quotedUnits?_flatMap (s rest : List Char) :
    ∃ units, quotedUnits? (s.flatMap escapeChar ++ '"' :: rest) = some (units, rest) ∧
      List.Forall₂ TextUnit.StandsFor units s := by
  induction s with
  | nil => exact ⟨[], rfl, .nil⟩
  | cons c s ih =>
      obtain ⟨units, read, stand⟩ := ih
      obtain ⟨unit, stands, step⟩ := exists_quotedUnits?_escapeChar c
      rw [List.flatMap_cons, List.append_assoc, step, read]
      exact ⟨unit :: units, rfl, .cons stands stand⟩

theorem toList_quote (s : String) : (quote s).toList = '"' :: (s.toList.flatMap escapeChar ++ ['"']) := by
  rw [quote, String.toList_ofList, List.cons_append]

theorem scalar?_quote (s : String) (rest : List Char) :
    scalar? ((quote s).toList ++ rest) = some (text s, rest) := by
  obtain ⟨units, read, stand⟩ := exists_quotedUnits?_flatMap s.toList rest
  rw [toList_quote, List.cons_append, List.append_assoc, List.singleton_append, scalar?, read]
  simp [textOfUnits?_of_standsFor stand]

/-- A text that does not go on with the number before it. -/
def EndsNumber (s : List Char) : Prop :=
  ∀ c ∈ s.head?, isDigit c = false ∧ c ∉ ['.', 'e', 'E']

theorem spanDigits_numeral (n : Nat) {rest : List Char} (ends : EndsNumber rest) :
    spanDigits (numeral n ++ rest) = (numeral n, rest) := by
  have digits : ∀ c ∈ numeral n, isDigit c = true := fun _ => isDigit_of_mem_numeral
  have stop : rest.takeWhile isDigit = [] ∧ rest.dropWhile isDigit = rest := by
    cases rest with
    | nil => exact ⟨rfl, rfl⟩
    | cons c rest =>
        have noDigit := (ends c rfl).1
        exact ⟨List.takeWhile_cons_of_neg (by simp [noDigit]), List.dropWhile_cons_of_neg (by simp [noDigit])⟩
  rw [spanDigits, List.takeWhile_append_of_pos digits, List.dropWhile_append_of_pos digits, stop.1,
    stop.2, List.append_nil]

theorem fraction?_of_endsNumber {rest : List Char} (ends : EndsNumber rest) :
    fraction? rest = some ([], rest) := by
  unfold fraction?
  split
  · exact absurd (ends '.' rfl).2 (by decide)
  · rfl

theorem exponent?_of_endsNumber {rest : List Char} (ends : EndsNumber rest) :
    exponent? rest = some (none, rest) := by
  unfold exponent?
  split
  · exact absurd (ends 'e' rfl).2 (by decide)
  · exact absurd (ends 'E' rfl).2 (by decide)
  · rfl

/-- A number of 64 bits is read back, if what follows does not go on with it. -/
theorem number?_signedNumeral {v : Int} (low : Int64.minValue.toInt ≤ v) (high : v < UInt64.size)
    {rest : List Char} (ends : EndsNumber rest) :
    number? (signedNumeral v ++ rest) = some (int v, rest) := by
  unfold signedNumeral
  generalize isSize : v.natAbs = n
  have digits : digitsValue 0 (numeral n) = n := by
    rw [digitsValue_eq_ofDigitChars, numeral, Nat.ofDigitChars_ten_toDigits]
  have nonempty : (numeral n).isEmpty = false := by simp [numeral]
  have noZero : ((numeral n).head? == some '0' && (numeral n).length != 1) = false := by
    rcases n.eq_zero_or_pos with zero | positive
    · rw [zero]
      decide
    · simp [head?_numeral positive]
  have parts := spanDigits_numeral n ends
  have noFraction := fraction?_of_endsNumber ends
  have noExponent := exponent?_of_endsNumber ends
  have within : -9223372036854775808 ≤ v ∧ v < 18446744073709551616 := ⟨low, high⟩
  split
  · next negative =>
    have value : -(n : Int) = v := by omega
    have proper : n ≠ 0 := by omega
    rw [List.cons_append, number?]
    simp [parts, noFraction, noExponent, nonempty, noZero, digits, value, proper, within]
  · next positive =>
    have value : (n : Int) = v := by omega
    rw [number?]
    · simp [parts, noFraction, noExponent, nonempty, noZero, digits, value, within]
    · intro after same
      have minus : '-' ∈ (numeral n ++ rest).head? := by rw [same]; rfl
      rw [List.head?_append_of_ne_nil _ (by simpa using nonempty)] at minus
      exact absurd (isDigit_of_mem_numeral (List.mem_of_head? minus)) (by decide)

/-- Every character that is no mark starts a scalar. -/
theorem lexeme_of_scalar? {c : Char} {rest after : List Char} {value : Json}
    (noMark : c ∉ ['[', ']', '\x7b', '\x7d', ',', ':'])
    (read : scalar? (c :: rest) = some (value, after)) :
    lexeme c rest = (.scalar value, after) := by
  simp only [List.mem_cons, List.not_mem_nil, or_false, not_or] at noMark
  unfold lexeme
  split <;> simp_all

/-- A number starts with its sign or with a digit. -/
theorem exists_signedNumeral_eq (v : Int) :
    ∃ c digits, signedNumeral v = c :: digits ∧ (c = '-' ∨ isDigit c = true) := by
  rw [signedNumeral]
  split
  · exact ⟨_, _, rfl, .inl rfl⟩
  · obtain ⟨c, digits, whole⟩ := List.exists_cons_of_ne_nil
      (by simp [numeral] : numeral v.natAbs ≠ [])
    exact ⟨c, digits, whole, .inr (isDigit_of_mem_numeral (n := v.natAbs) (by simp [whole]))⟩

end Json

end Tagboard
