import Tagboard.Proofs.ReadTokens

/-!
# What categories refuse

A category takes a typed argument if it satisfies the rule of the category; with wildcards, that the
category must allow, the rule for the text without them. Each other argument is refused for one reason.
-/

namespace Tagboard

namespace Argument

/-- What makes a text the name of a tag. -/
structure IsTagName (s : List Char) : Prop where
  nonempty : s ≠ []
  short : s.length ≤ maxTagName
  characters : ∀ c ∈ s, isTagNameChar c = true

theorem check_tagName_eq_ok_iff {s : List Char} : check .tagName s = .ok () ↔ IsTagName s := by
  have nonempty : checkNonempty s = .ok () ↔ s ≠ [] := by
    rw [checkNonempty]
    cases s <;> simp
  have short : checkLength maxTagName s = .ok () ↔ s.length ≤ maxTagName := by
    rw [checkLength]
    split <;> simp <;> omega
  simp only [check, bind_eq_ok_iff, exists_const, checkCharacters_eq_ok_iff, nonempty, short]
  constructor
  · rintro ⟨hnonempty, hshort, characters⟩
    exact ⟨hnonempty, hshort, characters⟩
  · intro isName
    exact ⟨isName.nonempty, isName.short, isName.characters⟩

/-- No rule accepts the empty text. -/
theorem check_nil_ne_ok (kind : ArgumentKind) : check kind [] ≠ .ok () := by
  intro accepted
  cases kind <;> cases accepted

end Argument

namespace Pattern

/-- A typed text without its wildcards. -/
def plain (typed : List Char) : List Char := typed.filter (· != wildcard)

theorem plain_eq_self {typed : List Char} (noWildcard : wildcard ∉ typed) : plain typed = typed := by
  rw [plain, List.filter_eq_self]
  intro c member
  have different : c ≠ wildcard := fun same => noWildcard (same ▸ member)
  simpa using different

theorem toList_text_ofText (typed : List Char) : (ofText typed).text.toList = plain typed :=
  text_ofText typed

theorem text_ofText_eq_empty_iff {typed : List Char} : (ofText typed).text = "" ↔ plain typed = [] := by
  rw [← String.toList_eq_nil_iff, toList_text_ofText]

/-- The pattern of a typed text has wildcards exactly if the text has. -/
theorem hasWildcards_ofText (typed : List Char) :
    (ofText typed).hasWildcards = true ↔ wildcard ∈ typed := by
  have length := length_wildcardPositions 0 typed
  rw [hasWildcards, ofText, Bool.not_eq_true', List.isEmpty_eq_false_iff, ← List.count_pos_iff,
    ← length, List.length_pos_iff]

theorem hasWildcards_ofText_of_not_mem {typed : List Char} (tame : wildcard ∉ typed) :
    (ofText typed).hasWildcards = false := by
  rw [← Bool.not_eq_true, hasWildcards_ofText]
  exact tame

end Pattern

namespace Category

/-- What a category takes as an argument: its rule, or with wildcards the rule for the plain text. -/
def Takes (k : Category) (typed : List Char) : Prop :=
  Pattern.wildcard ∉ typed ∧ Argument.check (k.argumentKind false) typed = .ok () ∨
    Pattern.wildcard ∈ typed ∧ k.allowsWildcards = true ∧
      (Pattern.plain typed = [] ∨
        Argument.check (k.argumentKind true) (Pattern.plain typed) = .ok ())

/-- What a category finds wrong with an argument. -/
inductive Refuses (k : Category) : List Char → ArgumentFault → Prop where
  | empty : Refuses k [] .empty
  | wildcard {typed : List Char} (wild : Pattern.wildcard ∈ typed)
      (plainOnly : k.allowsWildcards = false) : Refuses k typed .wildcardNotAllowed
  | plain {typed : List Char} {fault : ArgumentFault} (nonempty : typed ≠ [])
      (tame : Pattern.wildcard ∉ typed)
      (broken : Argument.check (k.argumentKind false) typed = .error fault) : Refuses k typed fault
  | wild {typed : List Char} {fault : ArgumentFault} (wild : Pattern.wildcard ∈ typed)
      (allowed : k.allowsWildcards = true) (nonempty : Pattern.plain typed ≠ [])
      (broken : Argument.check (k.argumentKind true) (Pattern.plain typed) = .error fault) :
      Refuses k typed fault

variable {k : Category} {typed : List Char} {fault : ArgumentFault}

/-- A category finds no fault with exactly the arguments that it takes. -/
theorem argumentFault?_ofText_eq_none_iff :
    Token.argumentFault? k (Pattern.ofText typed) = none ↔ k.Takes typed := by
  rw [Token.argumentFault?_eq_none_iff, ne_eq, Pattern.text_ofText_eq_empty_iff,
    Pattern.toList_text_ofText, Takes]
  by_cases wild : Pattern.wildcard ∈ typed
  · have has : (Pattern.ofText typed).hasWildcards = true :=
      (Pattern.hasWildcards_ofText typed).mpr wild
    simp only [has, wild, forall_const, implies_true, true_and, not_true, false_and, false_or]
    exact and_congr_right fun _ => or_iff_not_imp_left.symm
  · have has := Pattern.hasWildcards_ofText_of_not_mem wild
    simp only [has, wild, Pattern.plain_eq_self wild, Bool.false_eq_true, false_implies, true_and,
      not_false_eq_true, false_and, or_false, imp_false]
    constructor
    · rintro ⟨nonempty, checked⟩
      exact checked nonempty
    · intro checked
      refine ⟨?_, fun _ => checked⟩
      rintro rfl
      exact Argument.check_nil_ne_ok _ checked

/-- The fault that is found with an argument is the one for which it is refused. -/
theorem argumentFault?_ofText_eq_some_iff :
    Token.argumentFault? k (Pattern.ofText typed) = some fault ↔ k.Refuses typed fault := by
  constructor
  · intro found
    unfold Token.argumentFault? at found
    split at found
    · rename_i refused
      rw [Bool.and_eq_true, Pattern.hasWildcards_ofText, Bool.not_eq_true'] at refused
      cases found
      exact .wildcard refused.1 refused.2
    · rename_i accepted
      rw [Bool.and_eq_true, Pattern.hasWildcards_ofText, Bool.not_eq_true', not_and,
        Bool.not_eq_false] at accepted
      split at found
      · rename_i blank
        rw [String.isEmpty_iff, Pattern.text_ofText_eq_empty_iff] at blank
        split at found
        · cases found
        · rename_i tame
          rw [Pattern.hasWildcards_ofText] at tame
          rw [Pattern.plain_eq_self tame] at blank
          cases found
          cases blank
          exact .empty
      · rename_i nonempty
        rw [String.isEmpty_iff, Pattern.text_ofText_eq_empty_iff] at nonempty
        rw [Pattern.toList_text_ofText] at found
        split at found
        · cases found
        · rename_i broken
          cases found
          by_cases wild : Pattern.wildcard ∈ typed
          · rw [(Pattern.hasWildcards_ofText typed).mpr wild] at broken
            exact .wild wild (accepted wild) nonempty broken
          · rw [Pattern.hasWildcards_ofText_of_not_mem wild, Pattern.plain_eq_self wild] at broken
            rw [Pattern.plain_eq_self wild] at nonempty
            exact .plain nonempty wild broken
  · intro refused
    cases refused with
    | empty => rfl
    | wildcard wild plainOnly =>
        have has := (Pattern.hasWildcards_ofText typed).mpr wild
        simp [Token.argumentFault?, has, plainOnly]
    | plain nonempty tame broken =>
        have has := Pattern.hasWildcards_ofText_of_not_mem tame
        have text : (Pattern.ofText typed).text ≠ "" := by
          rw [ne_eq, Pattern.text_ofText_eq_empty_iff, Pattern.plain_eq_self tame]
          exact nonempty
        simp [Token.argumentFault?, has, text, Pattern.toList_text_ofText,
          Pattern.plain_eq_self tame, broken]
    | wild wild allowed nonempty broken =>
        have has := (Pattern.hasWildcards_ofText typed).mpr wild
        have text : (Pattern.ofText typed).text ≠ "" := by
          rw [ne_eq, Pattern.text_ofText_eq_empty_iff]
          exact nonempty
        simp [Token.argumentFault?, has, allowed, text, Pattern.toList_text_ofText, broken]

/-- A category refuses an argument for one reason. -/
theorem Refuses.unique {other : ArgumentFault} (refused : k.Refuses typed fault)
    (again : k.Refuses typed other) : fault = other := by
  rw [← argumentFault?_ofText_eq_some_iff] at refused again
  exact Option.some.inj (refused.symm.trans again)

end Category

end Tagboard
