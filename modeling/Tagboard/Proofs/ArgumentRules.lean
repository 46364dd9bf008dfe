import Tagboard.Argument
import Tagboard.Pattern.Glob
import Tagboard.Proofs.Traverse

/-!
# What the rules of arguments promise

An argument that satisfies the rule of its kind can be used for what the kind is for: a number is
read as the integer that it denotes, the label of a rating has no blanks around it, and a text that
may hold wildcards has no character that a glob would take for a gap.
-/

namespace Tagboard

namespace Text

theorem natOfNumeral?_eq_some_iff {s : List Char} {n : Nat} :
    natOfNumeral? s = some n ↔ s ≠ [] ∧ s.all isDigit = true ∧ digitsValue 0 s = n := by
  unfold natOfNumeral?
  cases s with
  | nil => simp
  | cons c rest => by_cases digits : (c :: rest).all isDigit = true <;> simp [digits]

/-- A numeral starts with a digit, and so with no sign. -/
theorem exists_cons_of_natOfNumeral? {s : List Char} {n : Nat} (numeral : natOfNumeral? s = some n) :
    ∃ c rest, s = c :: rest ∧ c ≠ '+' ∧ c ≠ '-' := by
  obtain ⟨nonempty, digits, -⟩ := natOfNumeral?_eq_some_iff.mp numeral
  obtain ⟨c, rest, rfl⟩ := List.exists_cons_of_ne_nil nonempty
  have digit : isDigit c = true := List.all_eq_true.mp digits c (List.mem_cons_self ..)
  refine ⟨c, rest, rfl, ?_, ?_⟩ <;> rintro rfl <;> exact absurd digit (by decide)

/-- A number as one of 64 bits without sign, if it is one. -/
def uint64? (n : Nat) : Option UInt64 :=
  if n < UInt64.size then some (UInt64.ofNat n) else none

theorem uint64?_eq_some_iff {n : Nat} {value : UInt64} : uint64? n = some value ↔ value.toNat = n := by
  constructor
  · intro read
    by_cases bound : n < UInt64.size
    · rw [uint64?, if_pos bound, Option.some.injEq] at read
      rw [← read, UInt64.toNat_ofNat_of_lt' bound]
    · rw [uint64?, if_neg bound] at read
      cases read
  · rintro rfl
    rw [uint64?, if_pos value.toNat_lt_size, UInt64.ofNat_toNat]

/-- Without a plus sign in front, a text is read as the number that it denotes, if 64 bits hold it. -/
theorem readUInt64?_eq_bind {s : List Char} (noPlus : s.head? ≠ some '+') :
    readUInt64? s = (natOfNumeral? s).bind uint64? := by
  unfold readUInt64?
  split
  · simp at noPlus
  · rfl

theorem readUInt64?_of_natOfNumeral? {s : List Char} {value : UInt64}
    (numeral : natOfNumeral? s = some value.toNat) : readUInt64? s = some value := by
  obtain ⟨c, rest, rfl, notPlus, -⟩ := exists_cons_of_natOfNumeral? numeral
  rw [readUInt64?_eq_bind (by simpa using notPlus), numeral, Option.bind_some]
  exact uint64?_eq_some_iff.mpr rfl

/-- An integer as one of 64 bits with sign, if it is one. -/
def int64? (i : Int) : Option Int64 :=
  if Int64.minValue.toInt ≤ i ∧ i ≤ Int64.maxValue.toInt then some (Int64.ofInt i) else none

theorem int64?_eq_some_iff {i : Int} {value : Int64} : int64? i = some value ↔ value.toInt = i := by
  constructor
  · intro read
    by_cases bound : Int64.minValue.toInt ≤ i ∧ i ≤ Int64.maxValue.toInt
    · rw [int64?, if_pos bound, Option.some.injEq] at read
      rw [← read, ← Int64.ofIntLE_eq_ofInt bound.1 bound.2, Int64.toInt_ofIntLE]
    · rw [int64?, if_neg bound] at read
      cases read
  · rintro rfl
    rw [int64?, if_pos ⟨value.minValue_le_toInt, value.toInt_le⟩, Int64.ofInt_toInt]

/-- The integer that a numeral denotes, perhaps with a minus sign in front. -/
def integerOfNumeral? : List Char → Option Int
  | '-' :: digits => (natOfNumeral? digits).map fun (n : Nat) => -(n : Int)
  | digits => (natOfNumeral? digits).map fun (n : Nat) => (n : Int)

theorem integerOfNumeral?_of_ne_minus {s : List Char} (noMinus : s.head? ≠ some '-') :
    integerOfNumeral? s = (natOfNumeral? s).map fun (n : Nat) => (n : Int) := by
  unfold integerOfNumeral?
  split
  · simp at noMinus
  · rfl

theorem integerOfNumeral?_of_natOfNumeral? {s : List Char} {n : Nat}
    (numeral : natOfNumeral? s = some n) : integerOfNumeral? s = some (n : Int) := by
  obtain ⟨c, rest, rfl, -, notMinus⟩ := exists_cons_of_natOfNumeral? numeral
  rw [integerOfNumeral?_of_ne_minus (by simpa using notMinus), numeral, Option.map_some]

/-- Without a plus sign in front, a text is read as the integer that it denotes, if 64 bits hold it. -/
theorem readInt64?_eq_bind {s : List Char} (noPlus : s.head? ≠ some '+') :
    readInt64? s = (integerOfNumeral? s).bind int64? := by
  by_cases minus : s.head? = some '-'
  · obtain ⟨digits, rfl⟩ := List.head?_eq_some_iff.mp minus
    rw [integerOfNumeral?, Option.bind_map]
    rfl
  · rw [integerOfNumeral?_of_ne_minus minus, Option.bind_map]
    unfold readInt64?
    split
    rename_i heq
    split at heq
    · simp at minus
    · simp at noPlus
    · cases heq
      rfl

theorem head?_ne_plus_of_integerOfNumeral? {s : List Char} {i : Int}
    (numeral : integerOfNumeral? s = some i) : s.head? ≠ some '+' := by
  intro plus
  obtain ⟨rest, rfl⟩ := List.head?_eq_some_iff.mp plus
  rw [integerOfNumeral?_of_ne_minus (by simp)] at numeral
  obtain ⟨n, hn, -⟩ := Option.map_eq_some_iff.mp numeral
  obtain ⟨c, digits, heq, notPlus, -⟩ := exists_cons_of_natOfNumeral? hn
  exact notPlus (List.cons.inj heq).1.symm

theorem readInt64?_of_integerOfNumeral? {s : List Char} {value : Int64}
    (numeral : integerOfNumeral? s = some value.toInt) : readInt64? s = some value := by
  rw [readInt64?_eq_bind (head?_ne_plus_of_integerOfNumeral? numeral), numeral, Option.bind_some]
  exact int64?_eq_some_iff.mpr rfl

end Text

namespace Argument

open Text

theorem checkCharacters_eq_ok_iff {test : Char → Bool} {s : List Char} :
    checkCharacters test s = .ok () ↔ ∀ c ∈ s, test c = true := by
  unfold checkCharacters
  cases found : s.find? fun c => !test c with
  | some c =>
      have member := List.mem_of_find?_eq_some found
      have fails := List.find?_some found
      simp only [reduceCtorEq, false_iff]
      intro all
      simp [all c member] at fails
  | none => simpa using found

/-- The test of characters that the rule of a kind of argument ends with, if it does. -/
def characterTest? : ArgumentKind → Option (Char → Bool)
  | .tagName => some isTagNameChar
  | .username => some isUsernameChar
  | .ratingLabel => some isLabelChar
  | .addressPart => some isAddressChar
  | .unsigned | .signed | .address | .mimetype => none

/-- The characters of an accepted argument pass the test of its kind. -/
theorem forall_mem_of_check {kind : ArgumentKind} {test : Char → Bool} {s : List Char}
    (tested : characterTest? kind = some test) (accepted : check kind s = .ok ()) :
    ∀ c ∈ s, test c = true := by
  rw [← checkCharacters_eq_ok_iff]
  cases kind with
  | tagName | username =>
      cases tested
      obtain ⟨_, -, rest⟩ := bind_eq_ok_iff.mp accepted
      obtain ⟨_, -, characters⟩ := bind_eq_ok_iff.mp rest
      exact characters
  | ratingLabel | addressPart =>
      cases tested
      obtain ⟨_, -, characters⟩ := bind_eq_ok_iff.mp accepted
      exact characters
  | unsigned | signed | address | mimetype => cases tested

/-- No rule with a test of characters accepts the character of gaps. -/
theorem gap_not_mem_of_check {kind : ArgumentKind} {test : Char → Bool} {s : List Char}
    (tested : characterTest? kind = some test) (accepted : check kind s = .ok ()) :
    Glob.gap ∉ s := by
  intro member
  have passes := forall_mem_of_check tested accepted Glob.gap member
  cases kind <;> cases tested <;> exact absurd passes (by decide)

/-- The label of a rating has no blanks, so that it is looked up as it is. -/
theorem trim_of_check_ratingLabel {s : List Char} (accepted : check .ratingLabel s = .ok ()) :
    trim s = s := by
  apply trim_eq_self
  intro c hc
  have letter : isLabelChar c = true := forall_mem_of_check rfl accepted c hc
  rcases Bool.or_eq_true_iff.mp letter with alpha | underscore
  · exact isBlank_of_isAlpha alpha
  · rw [eq_of_beq underscore]
    rfl

/-- The rule of unsigned numbers accepts exactly the numerals of 64 bits. -/
theorem check_unsigned_eq_ok_iff {s : List Char} :
    check .unsigned s = .ok () ↔ ∃ value : UInt64, natOfNumeral? s = some value.toNat := by
  have rule : check .unsigned s = .ok () ↔
      s.all isDigit = true ∧ (readUInt64? s).isSome = true := by
    rw [check, ← Bool.and_eq_true]
    split <;> simp_all
  rw [rule]
  constructor
  · rintro ⟨digits, read⟩
    have noPlus : s.head? ≠ some '+' := by
      intro plus
      obtain ⟨rest, rfl⟩ := List.head?_eq_some_iff.mp plus
      simp [isDigit] at digits
    rw [readUInt64?_eq_bind noPlus, Option.isSome_iff_exists] at read
    obtain ⟨value, hvalue⟩ := read
    obtain ⟨n, numeral, bound⟩ := Option.bind_eq_some_iff.mp hvalue
    exact ⟨value, by rw [numeral, uint64?_eq_some_iff.mp bound]⟩
  · rintro ⟨value, numeral⟩
    rw [readUInt64?_of_natOfNumeral? numeral]
    exact ⟨(natOfNumeral?_eq_some_iff.mp numeral).2.1, rfl⟩

/-- The rule of signed numbers accepts exactly the texts of integers of 64 bits. -/
theorem check_signed_eq_ok_iff {s : List Char} :
    check .signed s = .ok () ↔ ∃ value : Int64, integerOfNumeral? s = some value.toInt := by
  have rule : check .signed s = .ok () ↔
      s.head? ≠ some '+' ∧ (readInt64? s).isSome = true := by
    rw [check, ← bne_iff_ne, ← Bool.and_eq_true]
    split <;> simp_all
  rw [rule]
  constructor
  · rintro ⟨noPlus, read⟩
    rw [readInt64?_eq_bind noPlus, Option.isSome_iff_exists] at read
    obtain ⟨value, hvalue⟩ := read
    obtain ⟨i, numeral, bound⟩ := Option.bind_eq_some_iff.mp hvalue
    exact ⟨value, by rw [numeral, int64?_eq_some_iff.mp bound]⟩
  · rintro ⟨value, numeral⟩
    rw [readInt64?_of_integerOfNumeral? numeral]
    exact ⟨head?_ne_plus_of_integerOfNumeral? numeral, rfl⟩

end Argument

end Tagboard
