import Mathlib.Data.List.TakeWhile
import Tagboard.Text.Lowercase

/-!
# Lower case of the parts of a text

Every character has its lower case wherever it stands, but for a capital sigma, which asks whether it ends
a word. The lower case of a part is found again in the lower case of every text with that part exactly if
the part settles the form of each of its capital sigmas: no letter that stands farther out changes it.
-/

namespace Tagboard.Text

/-- A text occurs in another one where it is a run of its characters. -/
theorem occursIn_iff_isInfix {part whole : List Char} :
    occursIn part whole = true ↔ part <:+: whole := by
  induction whole with
  | nil => rw [occursIn, Bool.or_false, List.isPrefixOf_iff_prefix, List.infix_nil, List.prefix_nil]
  | cons c rest ih =>
      rw [occursIn, Bool.or_eq_true, List.isPrefixOf_iff_prefix, ih, List.infix_cons_iff]

/-- Whether the first character that counts has case, if any character counts. -/
def caseMet? (s : List Char) : Option Bool := (s.find? fun c => !isCaseIgnorable c).map isCased

theorem meetsCased_eq (s : List Char) : meetsCased s = (caseMet? s).getD false := by
  rw [meetsCased, caseMet?, List.find?_not_eq_head?_dropWhile]
  cases (s.dropWhile isCaseIgnorable).head? <;> rfl

/-- What stands farther out matters only where nothing nearer counts. -/
theorem caseMet?_append (s t : List Char) : caseMet? (s ++ t) = (caseMet? s).or (caseMet? t) := by
  rw [caseMet?, List.find?_append, Option.map_or]
  rfl

/-- A capital sigma has case. -/
theorem caseMet?_sigma_cons (s : List Char) : caseMet? ('Σ' :: s) = some true := by
  have counts : isCaseIgnorable 'Σ' = false := by decide +kernel
  have cased : isCased 'Σ' = true := by decide +kernel
  rw [caseMet?, List.find?_cons_of_pos (by simp [counts]), Option.map_some, cased]

/-- A text in which nothing counts has no capital sigma. -/
theorem sigma_not_mem_of_caseMet?_eq_none {s : List Char} (nothing : caseMet? s = none) : 'Σ' ∉ s := by
  intro member
  obtain ⟨before, after, rfl⟩ := List.append_of_mem member
  rw [caseMet?_append, caseMet?_sigma_cons] at nothing
  cases met : caseMet? before <;> simp [met] at nothing

/-- Whether a capital sigma between two texts, the first of them in reverse, ends a word. -/
def endsWord (before after : List Char) : Bool :=
  (caseMet? before).getD false && !(caseMet? after).getD false

/-- The small form of a character between two texts, the first of them in reverse. -/
def lowerBetween (before : List Char) (c : Char) (after : List Char) : List Char :=
  if c = 'Σ' then if endsWord before after then ['ς'] else ['σ'] else lowerChar c

/-- The lower case of a part between two texts, the first of them in reverse. -/
def lowercaseBetween (before : List Char) : List Char → List Char → List Char
  | [], _ => []
  | c :: rest, after => lowerBetween before c (rest ++ after) ++ lowercaseBetween (c :: before) rest after

theorem lowercaseAfter_eq (before s : List Char) :
    lowercaseAfter before s = lowercaseBetween before s [] := by
  induction s generalizing before with
  | nil => rfl
  | cons c rest ih =>
      rw [lowercaseAfter, lowercaseBetween, ih, List.append_nil, lowerBetween, endsWord,
        meetsCased_eq, meetsCased_eq]
      simp only [beq_iff_eq]

theorem lowercase_eq (s : List Char) : lowercase s = lowercaseBetween [] s [] := lowercaseAfter_eq [] s

/-- The lower case of a text is that of its parts, each where it stands. -/
theorem lowercaseBetween_append (before s t after : List Char) :
    lowercaseBetween before (s ++ t) after =
      lowercaseBetween before s (t ++ after) ++ lowercaseBetween (s.reverse ++ before) t after := by
  induction s generalizing before with
  | nil => rfl
  | cons c rest ih =>
      rw [List.cons_append, lowercaseBetween, lowercaseBetween, ih, List.reverse_cons,
        List.append_assoc, List.append_assoc, List.append_assoc, List.singleton_append]

/-- A part has the same lower case in two places if each of its capital sigmas has the same form. -/
theorem lowercaseBetween_congr {before after before' after' part : List Char}
    (same : ∀ left right, part = left ++ 'Σ' :: right →
      endsWord (left.reverse ++ before) (right ++ after) =
        endsWord (left.reverse ++ before') (right ++ after')) :
    lowercaseBetween before part after = lowercaseBetween before' part after' := by
  -- Each character that is passed moves to what stands before the rest, and so `same` moves along with it.
  induction part generalizing before before' with
  | nil => rfl
  | cons c rest ih =>
      have first : lowerBetween before c (rest ++ after) = lowerBetween before' c (rest ++ after') := by
        unfold lowerBetween
        split
        · rename_i sigma
          have form : endsWord before (rest ++ after) = endsWord before' (rest ++ after') :=
            same [] rest (by rw [sigma, List.nil_append])
          rw [form]
        · rfl
      rw [lowercaseBetween, lowercaseBetween, first, ih]
      intro left right split
      have form := same (c :: left) right (by rw [split, List.cons_append])
      simpa using form

theorem lowercaseBetween_of_sigma_not_mem {part : List Char} (free : 'Σ' ∉ part)
    (before after before' after' : List Char) :
    lowercaseBetween before part after = lowercaseBetween before' part after' := by
  apply lowercaseBetween_congr
  rintro left right rfl
  exact absurd (List.mem_append_right left (List.mem_cons_self ..)) free

/-- What stands behind a capital sigma does not matter to what stands before it. -/
theorem lowercaseBetween_sigma_after (before part after after' : List Char) :
    lowercaseBetween before part ('Σ' :: after) = lowercaseBetween before part ('Σ' :: after') := by
  apply lowercaseBetween_congr
  intro left right _
  simp only [endsWord, caseMet?_append, caseMet?_sigma_cons]

/-- What stands before a capital sigma does not matter to what stands behind it. -/
theorem lowercaseBetween_sigma_before (before before' part after : List Char) :
    lowercaseBetween ('Σ' :: before) part after = lowercaseBetween ('Σ' :: before') part after := by
  apply lowercaseBetween_congr
  intro left right _
  simp only [endsWord, caseMet?_append, caseMet?_sigma_cons]

/--
Whether two texts around a capital sigma, the first of them in reverse, settle its form: it is followed by
a cased letter, or preceded by none, or it ends a word beyond doubt.
-/
def SettlesForm (before after : List Char) : Prop :=
  caseMet? after = some true ∨ caseMet? before = some false ∨
    caseMet? before = some true ∧ caseMet? after = some false

/-- Whether a part settles the form of each of its capital sigmas. -/
def SettlesSigmas (part : List Char) : Prop :=
  ∀ left right, part = left ++ 'Σ' :: right → SettlesForm left.reverse right

theorem SettlesSigmas.of_sigma_not_mem {part : List Char} (free : 'Σ' ∉ part) : SettlesSigmas part := by
  rintro left right rfl
  exact absurd (List.mem_append_right left (List.mem_cons_self ..)) free

/-- A settled form is the form in every text. -/
theorem SettlesForm.endsWord_append {before after : List Char} (settled : SettlesForm before after)
    (farBefore farAfter : List Char) :
    endsWord (before ++ farBefore) (after ++ farAfter) = endsWord before after := by
  rw [endsWord, endsWord, caseMet?_append, caseMet?_append]
  rcases settled with cased | uncased | ⟨cased, uncased⟩
  · simp [cased]
  · simp [uncased]
  · simp [cased, uncased]

/-- A part that settles its capital sigmas has its own lower case wherever it stands. -/
theorem SettlesSigmas.lowercaseBetween_eq {part : List Char} (settled : SettlesSigmas part)
    (before after : List Char) : lowercaseBetween before part after = lowercase part := by
  rw [lowercase_eq]
  apply lowercaseBetween_congr
  intro left right split
  rw [List.append_nil, List.append_nil]
  exact (settled left right split).endsWord_append before after

/-- The lower case of such a part occurs in that of every text with the part. -/
theorem SettlesSigmas.isInfix_lowercase {part whole : List Char} (settled : SettlesSigmas part)
    (occurs : part <:+: whole) : lowercase part <:+: lowercase whole := by
  obtain ⟨before, after, rfl⟩ := occurs
  rw [lowercase_eq (before ++ part ++ after), lowercaseBetween_append, lowercaseBetween_append,
    settled.lowercaseBetween_eq]
  exact ⟨_, _, rfl⟩

/-- The lower case around one capital sigma: that of what stands on its two sides does not see past it. -/
theorem lowercaseBetween_split (before left right after : List Char) :
    lowercaseBetween before (left ++ 'Σ' :: right) after =
      lowercaseBetween before left ['Σ'] ++
        (if endsWord (left.reverse ++ before) (right ++ after) then 'ς' else 'σ') ::
          lowercaseBetween ['Σ'] right after := by
  have sigma : lowerBetween (left.reverse ++ before) 'Σ' (right ++ after) =
      [if endsWord (left.reverse ++ before) (right ++ after) then 'ς' else 'σ'] := by
    rw [lowerBetween, if_pos rfl]
    split <;> rfl
  rw [lowercaseBetween_append, lowercaseBetween, sigma, List.cons_append,
    lowercaseBetween_sigma_after before left _ [], lowercaseBetween_sigma_before _ []]
  rfl

/-- A cased letter in front of a capital sigma can make it end a word if nothing before it counts. -/
theorem not_isInfix_lowercase_cons {left right : List Char} (before : caseMet? left.reverse = none)
    (after : caseMet? right ≠ some true) :
    ¬ lowercase (left ++ 'Σ' :: right) <:+: lowercase ('a' :: (left ++ 'Σ' :: right)) := by
  have letter : caseMet? ['a'] = some true := by decide +kernel
  have free : 'Σ' ∉ left := fun member =>
    sigma_not_mem_of_caseMet?_eq_none before (List.mem_reverse.mpr member)
  have uncased : (caseMet? right).getD false = false := by
    cases met : caseMet? right with
    | none => rfl
    | some cased => cases cased <;> simp_all
  have alone : lowercase (left ++ 'Σ' :: right) =
      lowercaseBetween [] left ['Σ'] ++ 'σ' :: lowercaseBetween ['Σ'] right [] := by
    rw [lowercase_eq, lowercaseBetween_split, List.append_nil, endsWord, before]
    rfl
  have inside : lowercase ('a' :: (left ++ 'Σ' :: right)) =
      'a' :: (lowercaseBetween [] left ['Σ'] ++ 'ς' :: lowercaseBetween ['Σ'] right []) := by
    have final : endsWord (left.reverse ++ ['a']) (right ++ []) = true := by
      rw [endsWord, caseMet?_append, before, letter, List.append_nil, uncased]
      rfl
    rw [lowercase_eq, lowercaseBetween, lowercaseBetween_split, final,
      lowercaseBetween_of_sigma_not_mem free ['a'] ['Σ'] [] ['Σ']]
    rfl
  -- The small sigma has become a final one, so that there is one less of them.
  intro occurs
  have fewer := occurs.count_le 'σ'
  rw [alone, inside] at fewer
  simp only [List.count_append, List.count_cons_self,
    List.count_cons_of_ne (show 'a' ≠ 'σ' by decide),
    List.count_cons_of_ne (show 'ς' ≠ 'σ' by decide)] at fewer
  omega

/-- A cased letter behind a final sigma makes it end no word if nothing behind it counts. -/
theorem not_isInfix_lowercase_concat {left right : List Char}
    (before : caseMet? left.reverse = some true) (after : caseMet? right = none) :
    ¬ lowercase (left ++ 'Σ' :: right) <:+: lowercase (left ++ 'Σ' :: right ++ ['a']) := by
  have letter : caseMet? ['a'] = some true := by decide +kernel
  have free : 'Σ' ∉ right := sigma_not_mem_of_caseMet?_eq_none after
  have alone : lowercase (left ++ 'Σ' :: right) =
      lowercaseBetween [] left ['Σ'] ++ 'ς' :: lowercaseBetween ['Σ'] right [] := by
    rw [lowercase_eq, lowercaseBetween_split, List.append_nil, List.append_nil, endsWord, before, after]
    rfl
  have inside : lowercase (left ++ 'Σ' :: right ++ ['a']) =
      lowercaseBetween [] left ['Σ'] ++ 'σ' :: (lowercaseBetween ['Σ'] right [] ++ ['a']) := by
    have plain : endsWord (left.reverse ++ []) (right ++ ['a']) = false := by
      rw [endsWord, caseMet?_append right, after, letter]
      simp
    have last (far : List Char) : lowercaseBetween far ['a'] [] = ['a'] := rfl
    rw [lowercase_eq, lowercaseBetween_append, List.append_nil, lowercaseBetween_split, plain, last,
      lowercaseBetween_of_sigma_not_mem free ['Σ'] ['a'] ['Σ'] [], List.append_assoc]
    rfl
  -- The final sigma has become a plain one, so that there is one less of them.
  intro occurs
  have fewer := occurs.count_le 'ς'
  rw [alone, inside] at fewer
  simp only [List.count_append, List.count_cons_self, List.count_nil,
    List.count_cons_of_ne (show 'a' ≠ 'ς' by decide),
    List.count_cons_of_ne (show 'σ' ≠ 'ς' by decide)] at fewer
  omega

/-- The lower case of a part occurs in that of every text with the part exactly if it settles its sigmas. -/
theorem forall_isInfix_lowercase_iff {part : List Char} :
    (∀ whole, part <:+: whole → lowercase part <:+: lowercase whole) ↔ SettlesSigmas part := by
  constructor
  · rintro found left right rfl
    cases before : caseMet? left.reverse with
    | none =>
        refine .inl (Decidable.byContradiction fun after => ?_)
        exact not_isInfix_lowercase_cons before after (found _ (List.suffix_cons ..).isInfix)
    | some cased =>
        cases cased with
        | false => exact .inr (.inl before)
        | true =>
            cases after : caseMet? right with
            | none =>
                have occurs := found _ (List.prefix_append (left ++ 'Σ' :: right) ['a']).isInfix
                exact absurd occurs (not_isInfix_lowercase_concat before after)
            | some cased =>
                cases cased with
                | false => exact .inr (.inr ⟨before, after⟩)
                | true => exact .inl after
  · intro settled whole
    exact settled.isInfix_lowercase

end Tagboard.Text
