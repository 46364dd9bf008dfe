import Mathlib.Data.List.Basic
import Tagboard.Yaml

/-!
# Numerals are read back

A number is written digit by digit, without leading zeros. Reading the digits in the same base gives
the number again, in base ten as in base sixteen.
-/

namespace Tagboard

namespace Text

/-- What holds of the digits of a base holds of the characters of its numerals. -/
theorem forall_mem_toDigits {base : Nat} (large : 1 < base) {P : Char → Prop}
    (digit : ∀ d < base, P (Nat.digitChar d)) (n : Nat) : ∀ c ∈ Nat.toDigits base n, P c := by
  induction n using Nat.strongRecOn with
  | ind n ih =>
  rw [Nat.toDigits_eq_if large]
  split
  · next small => simpa using digit n small
  · next carries =>
    have positive : 0 < base := by omega
    intro c member
    rcases List.mem_append.mp member with upper | last
    · exact ih (n / base) (Nat.div_lt_self (by omega) large) c upper
    · rw [List.mem_singleton.mp last]
      exact digit _ (Nat.mod_lt n positive)

theorem digitsValue_eq_ofDigitChars (start : Nat) (s : List Char) :
    digitsValue start s = Nat.ofDigitChars 10 s start := by
  rw [Nat.ofDigitChars_eq_foldl]
  induction s generalizing start with
  | nil => rfl
  | cons c rest ih => exact ih _

theorem isDigit_of_mem_numeral {n : Nat} {c : Char} (member : c ∈ numeral n) : isDigit c = true :=
  forall_mem_toDigits (P := fun c => isDigit c = true) (by decide) (by decide) n c member

/-- A numeral is read back. -/
theorem natOfNumeral?_numeral (n : Nat) : natOfNumeral? (numeral n) = some n := by
  have digits : (numeral n).all isDigit = true :=
    List.all_eq_true.mpr fun _ member => isDigit_of_mem_numeral member
  have nonempty : (numeral n).isEmpty = false := by simp [numeral]
  rw [natOfNumeral?, nonempty, digits, digitsValue_eq_ofDigitChars, numeral,
    Nat.ofDigitChars_ten_toDigits]
  rfl

/-- The hexadecimal digit of either case is read as its value. -/
theorem hexDigit?_toUpper_digitChar : ∀ d < 16, hexDigit? (Nat.digitChar d).toUpper = some d := by
  decide

/-- The last digit of a numeral is read last. -/
theorem valueInBase?_append (base : Nat) (digits : List Char) (c : Char) :
    valueInBase? base (digits ++ [c]) = (valueInBase? base digits).bind fun value =>
      (hexDigit? c).bind fun digit => if digit < base then some (base * value + digit) else none := by
  rw [valueInBase?, List.foldlM_append]
  simp only [List.foldlM_cons, List.foldlM_nil, bind_pure]
  rfl

theorem valueInBase?_hexNumeral (n : Nat) :
    valueInBase? 16 ((hexNumeral n).map Char.toUpper) = some n := by
  induction n using Nat.strongRecOn with
  | ind n ih =>
  rw [hexNumeral, Nat.toDigits_eq_if (by decide)]
  split
  · next small =>
    simp [valueInBase?, hexDigit?_toUpper_digitChar n small, small]
  · next large =>
    have upper := ih (n / 16) (by omega)
    rw [hexNumeral] at upper
    rw [List.map_append, List.map_singleton, valueInBase?_append, upper, Option.bind_some,
      hexDigit?_toUpper_digitChar _ (by omega), Option.bind_some, if_pos (by omega), Nat.div_add_mod]

/-- A numeral starts with a zero only where it is zero. -/
theorem head?_numeral {n : Nat} (positive : 0 < n) : (numeral n).head? ≠ some '0' := by
  rw [numeral]
  induction n using Nat.strongRecOn with
  | ind n ih =>
  rw [Nat.toDigits_eq_if (by decide)]
  split
  · simp [Nat.ne_of_gt positive]
  · rw [List.head?_append_of_ne_nil _ Nat.toDigits_ne_nil]
    exact ih (n / 10) (by omega) (by omega)

end Text

namespace Yaml

open Text

theorem natOfText?_numeral (n : Nat) : natOfText? (numeral n) = some n := by
  rcases n.eq_zero_or_pos with rfl | positive
  · decide
  have start := head?_numeral positive
  cases digits : numeral n with
  | nil => exact absurd digits (by simp [numeral])
  | cons c rest =>
      have noSign : c ≠ '+' := by
        rintro rfl
        exact absurd (isDigit_of_mem_numeral (n := n) (c := '+') (by simp [digits])) (by decide)
      have value := natOfNumeral?_numeral n
      rw [digits] at start value
      have noZero : c ≠ '0' := by simpa using start
      simp [natOfText?, splitBase, noSign, noZero, value]

/-- A number is read back. -/
theorem uint64?_toString (n : UInt64) : Scalar.uint64? ⟨toString n, true⟩ = some n := by
  have digits : (toString n).toList = numeral n.toNat := String.toList_ofList
  rw [Scalar.uint64?, if_pos rfl, digits, natOfText?_numeral]
  simp only [if_pos n.toNat_lt, UInt64.ofNat_toNat]

end Yaml

end Tagboard
