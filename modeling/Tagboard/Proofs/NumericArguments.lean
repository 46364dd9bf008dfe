import Mathlib.Algebra.Group.Int.Defs
import Mathlib.Algebra.Group.Nat.Defs
import Tagboard.Proofs.ArgumentFaults
import Tagboard.Proofs.Compilation
import Tagboard.Proofs.TagLists

/-!
# Numbers as arguments

The argument of a category of numbers is a decimal numeral whose number fits 64 bits, with a minus sign in
front where the category takes signed numbers. Nothing else is an argument of such a category, and the
clause of the token compares with exactly the integer that the numeral denotes.
-/

namespace Tagboard

open Text Input

namespace Text

variable {s : List Char} {i : Int}

theorem integerOfNumeral?_eq_some_iff :
    integerOfNumeral? s = some i ↔
      (∃ n : Nat, IsDecimal s n ∧ i = n) ∨ ∃ digits, ∃ n : Nat, s = '-' :: digits ∧
        IsDecimal digits n ∧ i = -n := by
  simp only [← natOfNumeral?_eq_some_iff_isDecimal]
  constructor
  · intro denotes
    unfold integerOfNumeral? at denotes
    split at denotes
    · obtain ⟨n, numeral, rfl⟩ := Option.map_eq_some_iff.mp denotes
      exact .inr ⟨_, n, rfl, numeral, rfl⟩
    · obtain ⟨n, numeral, rfl⟩ := Option.map_eq_some_iff.mp denotes
      exact .inl ⟨n, numeral, rfl⟩
  · rintro (⟨n, numeral, rfl⟩ | ⟨digits, n, rfl, numeral, rfl⟩)
    · exact integerOfNumeral?_of_natOfNumeral? numeral
    · rw [integerOfNumeral?, numeral]
      rfl

/-- Each number up to the limit of 64 bits is one of 64 bits. -/
theorem exists_toNat_eq {n : Nat} (upper : n ≤ 2 ^ 64 - 1) : ∃ value : UInt64, value.toNat = n :=
  ⟨UInt64.ofNat n, UInt64.toNat_ofNat_of_lt' (Nat.lt_of_le_pred (by decide) upper)⟩

/-- Each integer between the limits of 64 bits is one of 64 bits. -/
theorem exists_toInt_eq (lower : -2 ^ 63 ≤ i) (upper : i ≤ 2 ^ 63 - 1) :
    ∃ value : Int64, value.toInt = i :=
  ⟨Int64.ofInt i, int64?_eq_some_iff.mp (by rw [int64?, if_pos ⟨lower, upper⟩])⟩

end Text

namespace Category

/-- The categories whose argument is a number without sign. -/
def unsigned : List Category := [tagId, postId, tagCount, commentCount, favoriteCount]

/-- The categories whose argument may be a negative number. -/
def signed : List Category := [height, width, ratingNumber]

/-- Whether a text is a number that a category takes, and which integer it denotes. -/
inductive TakesNumber : Category → List Char → Int → Prop where
  | unsigned {k : Category} {digits : List Char} {n : Nat} (category : k ∈ unsigned)
      (decimal : IsDecimal digits n) (fits : n ≤ 2 ^ 64 - 1) : TakesNumber k digits n
  | nonnegative {k : Category} {digits : List Char} {n : Nat} (category : k ∈ signed)
      (decimal : IsDecimal digits n) (fits : n ≤ 2 ^ 63 - 1) : TakesNumber k digits n
  | negative {k : Category} {digits : List Char} {n : Nat} (category : k ∈ signed)
      (decimal : IsDecimal digits n) (fits : n ≤ 2 ^ 63) : TakesNumber k ('-' :: digits) (-n)

variable {k : Category} {s : List Char} {i : Int}

theorem argumentKind_of_mem_unsigned (category : k ∈ unsigned) : k.argumentKind false = .unsigned := by
  revert category
  cases k <;> decide

theorem argumentKind_of_mem_signed (category : k ∈ signed) : k.argumentKind false = .signed := by
  revert category
  cases k <;> decide

/-- A number without sign is taken if it is one of 64 bits. -/
theorem takesNumber_unsigned_iff (category : k ∈ unsigned) :
    k.TakesNumber s i ↔ ∃ value : UInt64, natOfNumeral? s = some value.toNat ∧ i = value.toNat := by
  constructor
  · intro takes
    cases takes with
    | unsigned _ decimal fits =>
        obtain ⟨value, same⟩ := exists_toNat_eq fits
        rw [← same] at decimal ⊢
        exact ⟨value, decimal.natOfNumeral?_eq, rfl⟩
    | nonnegative other | negative other =>
        have kind := argumentKind_of_mem_signed other
        rw [argumentKind_of_mem_unsigned category] at kind
        cases kind
  · rintro ⟨value, numeral, rfl⟩
    have bound := value.toNat_lt
    exact .unsigned category (natOfNumeral?_eq_some_iff_isDecimal.mp numeral) (by omega)

/-- A number with a sign is taken if it is one of 64 bits. -/
theorem takesNumber_signed_iff (category : k ∈ signed) :
    k.TakesNumber s i ↔
      ∃ value : Int64, integerOfNumeral? s = some value.toInt ∧ i = value.toInt := by
  constructor
  · intro takes
    cases takes with
    | unsigned other =>
        have kind := argumentKind_of_mem_unsigned other
        rw [argumentKind_of_mem_signed category] at kind
        cases kind
    | nonnegative _ decimal fits =>
        obtain ⟨value, same⟩ := exists_toInt_eq (by omega) (Int.ofNat_le.mpr fits)
        exact ⟨value, integerOfNumeral?_eq_some_iff.mpr (.inl ⟨_, decimal, same⟩), same.symm⟩
    | negative _ decimal fits =>
        obtain ⟨value, same⟩ := exists_toInt_eq (Int.neg_le_neg (Int.ofNat_le.mpr fits)) (by omega)
        exact ⟨value, integerOfNumeral?_eq_some_iff.mpr (.inr ⟨_, _, rfl, decimal, same⟩), same.symm⟩
  · rintro ⟨value, denotes, rfl⟩
    have lower : -2 ^ 63 ≤ value.toInt := value.minValue_le_toInt
    have upper : value.toInt ≤ 2 ^ 63 - 1 := value.toInt_le
    rcases integerOfNumeral?_eq_some_iff.mp denotes with
      ⟨n, decimal, same⟩ | ⟨digits, n, rfl, decimal, same⟩
    · rw [same] at upper ⊢
      exact .nonnegative category decimal (by omega)
    · rw [same] at lower ⊢
      exact .negative category decimal (by omega)

/-- A number is typed without wildcards. -/
theorem TakesNumber.wildcard_not_mem (takes : k.TakesNumber s i) : Pattern.wildcard ∉ s := by
  have noDigit : isDigit Pattern.wildcard = false := rfl
  have free {digits : List Char} {n : Nat} (decimal : IsDecimal digits n) :
      Pattern.wildcard ∉ digits := fun member => by
    rw [decimal.allDigits _ member] at noDigit
    cases noDigit
  cases takes with
  | unsigned _ decimal | nonnegative _ decimal => exact free decimal
  | negative _ decimal =>
      rw [List.mem_cons, not_or]
      exact ⟨by decide, free decimal⟩

/-- A category of numbers takes the arguments that are numbers of its kind. -/
theorem takes_iff_exists_takesNumber (numeric : k ∈ unsigned ∨ k ∈ signed) :
    k.Takes s ↔ ∃ i, k.TakesNumber s i := by
  have kind : k.argumentKind false = .unsigned ∨ k.argumentKind false = .signed :=
    numeric.imp argumentKind_of_mem_unsigned argumentKind_of_mem_signed
  have checked : Argument.check (k.argumentKind false) s = .ok () ↔ ∃ i, k.TakesNumber s i := by
    rcases numeric with category | category
    · rw [argumentKind_of_mem_unsigned category, Argument.check_unsigned_eq_ok_iff]
      simp [takesNumber_unsigned_iff category]
    · rw [argumentKind_of_mem_signed category, Argument.check_signed_eq_ok_iff]
      simp [takesNumber_signed_iff category]
  rw [Takes, allowsWildcards_of_numeric kind, checked]
  constructor
  · rintro (⟨-, takes⟩ | ⟨-, ⟨⟩, -⟩)
    exact takes
  · rintro ⟨i, takes⟩
    exact .inl ⟨takes.wildcard_not_mem, i, takes⟩

end Category

/-- What a clause compares with a number: the category that reads it, the relation and the number. -/
def Clause.comparison? : Clause → Option (Category × Relation × Int)
  | tagId id => some (.tagId, .equal, id.toNat)
  | postId c => some (.postId, c.relation, c.value.toNat)
  | aggregate .tagCount c => some (.tagCount, c.relation, c.value.toNat)
  | aggregate .commentCount c => some (.commentCount, c.relation, c.value.toNat)
  | aggregate .favoriteCount c => some (.favoriteCount, c.relation, c.value.toNat)
  | ratingLevel c => some (.ratingNumber, c.relation, c.value.toInt)
  | height c => some (.height, c.relation, c.value.toInt)
  | width c => some (.width, c.relation, c.value.toInt)
  | tagName _ | tagAlias _ | taggedWithAny _ | commentBy _ | uploadedBy _ | source _ | mediaType _ =>
      none

namespace Token

variable {t : Token}

/-- The clause of a category of numbers without sign compares with the number of the argument. -/
theorem exists_clause_unsigned (category : t.category ∈ Category.unsigned) {value : UInt64}
    (numeral : natOfNumeral? t.argument.text.toList = some value.toNat)
    (allowed : t.category.allows t.relationOrDefault = true) :
    ∃ c, t.clause = .ok c ∧
      c.comparison? = some (t.category, t.relationOrDefault, (value.toNat : Int)) := by
  have read : t.unsignedValue = .ok value := by
    rw [unsignedValue, readUInt64?_of_natOfNumeral? numeral]
    rfl
  have compared : t.unsignedComparison = .ok ⟨t.relationOrDefault, value⟩ := by
    rw [unsignedComparison, read]
    rfl
  unfold clause
  cases given : t.category with
  | tagId =>
      have equal : t.relationOrDefault = .equal := by
        rw [given] at allowed
        simpa [Category.allows, Category.relations, Category.isComparable] using allowed
      have required : t.requireEqual = .ok () := by rw [requireEqual, if_pos equal]
      dsimp only
      rw [required, read, equal]
      exact ⟨.tagId value, rfl, rfl⟩
  | postId | tagCount | commentCount | favoriteCount =>
      dsimp only
      rw [compared]
      exact ⟨_, rfl, rfl⟩
  | _ =>
      rw [given] at category
      exact absurd category (by decide)

/-- The clause of a category of signed numbers compares with the integer of the argument. -/
theorem exists_clause_signed (category : t.category ∈ Category.signed) {value : Int64}
    (numeral : integerOfNumeral? t.argument.text.toList = some value.toInt) :
    ∃ c, t.clause = .ok c ∧
      c.comparison? = some (t.category, t.relationOrDefault, value.toInt) := by
  have compared : t.signedComparison = .ok ⟨t.relationOrDefault, value⟩ := by
    rw [signedComparison, signedValue, readInt64?_of_integerOfNumeral? numeral]
    rfl
  unfold clause
  cases given : t.category with
  | height | width | ratingNumber =>
      dsimp only
      rw [compared]
      exact ⟨_, rfl, rfl⟩
  | _ =>
      rw [given] at category
      exact absurd category (by decide)

/--
An argument of a category of numbers is taken exactly if, without the blanks around it, it is a numeral that
fits 64 bits, with a minus sign in front only where numbers may be negative. Under each relation that the
category accepts the token then compares with exactly this number.
-/
theorem numeric_arguments_are_exact {k : Category} (numeric : k ∈ Category.unsigned ∨ k ∈ Category.signed)
    (name typed : String) (relation : Option Relation) (negated : Bool) :
    ((∃ t, build k name typed.toList relation negated = .ok t) ↔
        ∃ i, k.TakesNumber (trim typed.toList) i) ∧
      ∀ t, build k name typed.toList relation negated = .ok t →
        ∀ i, k.TakesNumber (trim typed.toList) i → k.allows (relation.getD .equal) = true →
          ∃ c, t.predicate = .ok (if negated then .not (.clause c) else .clause c) ∧
            c.comparison? = some (k, relation.getD .equal, i) := by
  have faultless_iff : argumentFault? k (Pattern.ofText (trim typed.toList)) = none ↔
      ∃ i, k.TakesNumber (trim typed.toList) i := by
    rw [Category.argumentFault?_ofText_eq_none_iff, Category.takes_iff_exists_takesNumber numeric]
  constructor
  · constructor
    · rintro ⟨t, built⟩
      exact faultless_iff.mp (build_eq_ok_iff.mp built).2.1
    · rintro ⟨i, takes⟩
      have few : (trim typed.toList).count Pattern.wildcard ≤ Pattern.maxWildcards := by
        rw [List.count_eq_zero_of_not_mem takes.wildcard_not_mem]
        exact Nat.zero_le _
      exact ⟨_, build_eq_ok_iff.mpr ⟨few, faultless_iff.mpr ⟨i, takes⟩, rfl⟩⟩
  · intro t built i takes allowed
    obtain ⟨-, -, same⟩ := build_eq_ok_iff.mp built
    have category : t.category = k := by rw [same]
    have text : t.argument.text.toList = trim typed.toList := by
      rw [same, Pattern.toList_text_ofText, Pattern.plain_eq_self takes.wildcard_not_mem]
    have related : t.relationOrDefault = relation.getD .equal := by
      rw [same, relationOrDefault, Category.defaultRelation_eq]
    have sign : t.negated = negated := by rw [same]
    rw [← category] at numeric
    rw [← category, ← text] at takes
    rw [← category, ← related] at allowed ⊢
    have compiled : ∃ c, t.clause = .ok c ∧
        c.comparison? = some (t.category, t.relationOrDefault, i) := by
      rcases numeric with unsigned | signed
      · obtain ⟨value, numeral, rfl⟩ := (Category.takesNumber_unsigned_iff unsigned).mp takes
        exact exists_clause_unsigned unsigned numeral allowed
      · obtain ⟨value, numeral, rfl⟩ := (Category.takesNumber_signed_iff signed).mp takes
        exact exists_clause_signed signed numeral
    obtain ⟨c, success, compares⟩ := compiled
    exact ⟨c, predicate_eq_ok_iff.mpr ⟨c, success, by rw [sign]⟩, compares⟩

/-- The least number of 64 bits with zeros in front, and the number below it, which is refused. -/
theorem numeric_arguments_are_exact_least :
    let t : Token := ⟨.width, "w", ⟨"-009223372036854775808", []⟩, some .less, true⟩
    Category.width ∈ Category.signed ∧
      Category.width.TakesNumber (trim " -009223372036854775808".toList) (-9223372036854775808) ∧
      build .width "w" " -009223372036854775808".toList (some .less) true = .ok t ∧
      (∃ c, t.predicate = .ok (.not (.clause c)) ∧
        c.comparison? = some (.width, .less, -9223372036854775808)) ∧
      ¬ ∃ i, Category.width.TakesNumber (trim "-9223372036854775809".toList) i := by
  intro t
  have signed : Category.width ∈ Category.signed := by decide
  have takes : Category.width.TakesNumber (trim " -009223372036854775808".toList)
      (-9223372036854775808) :=
    (Category.takesNumber_signed_iff signed).mpr
      ⟨-9223372036854775808, by decide +kernel, by decide +kernel⟩
  have built : build .width "w" " -009223372036854775808".toList (some .less) true = .ok t := by
    decide +kernel
  have compares := numeric_arguments_are_exact (.inr signed) "w" " -009223372036854775808" (some .less) true
  have refused := (numeric_arguments_are_exact (.inr signed) "w" "-9223372036854775809" none false).1
  refine ⟨signed, takes, built, compares.2 t built _ takes rfl, fun number => ?_⟩
  obtain ⟨other, success⟩ := refused.mpr number
  have failed : (build .width "w" "-9223372036854775809".toList none false).isOk = false := by
    decide +kernel
  rw [success] at failed
  cases failed

end Token

end Tagboard
