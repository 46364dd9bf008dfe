import Tagboard.Store

/-!
# What a pattern matches

`Glob.Fits` says which values a glob fits, item by item. The matcher, which keeps one answer for
every suffix of the value, accepts exactly these values. A pattern whose plain text holds neither the
character of a wildcard nor the one that carries a gap matches the values that its typed form fits.
-/

namespace Tagboard

namespace Glob

/-- A glob fits a value: characters stand for themselves, and a gap for any run of characters. -/
inductive Fits : List GlobItem → List Char → Prop where
  | nil : Fits [] []
  | char {glob : List GlobItem} {value : List Char} (c : Char) (rest : Fits glob value) :
      Fits (some c :: glob) (c :: value)
  | gap {glob : List GlobItem} {value : List Char} (run : List Char) (rest : Fits glob value) :
      Fits (none :: glob) (run ++ value)

@[simp] theorem fits_nil_iff {value : List Char} : Fits [] value ↔ value = [] := by
  constructor
  · rintro ⟨⟩
    rfl
  · rintro rfl
    exact .nil

@[simp] theorem not_fits_char_nil {c : Char} {glob : List GlobItem} : ¬ Fits (some c :: glob) [] := by
  rintro ⟨⟩

@[simp] theorem fits_char_cons_iff {c d : Char} {glob : List GlobItem} {value : List Char} :
    Fits (some c :: glob) (d :: value) ↔ c = d ∧ Fits glob value := by
  constructor
  · rintro (_ | ⟨_, rest⟩)
    exact ⟨rfl, rest⟩
  · rintro ⟨rfl, rest⟩
    exact .char c rest

theorem fits_gap_iff {glob : List GlobItem} {value : List Char} :
    Fits (none :: glob) value ↔ ∃ run rest, value = run ++ rest ∧ Fits glob rest := by
  constructor
  · rintro (_ | _ | ⟨run, rest⟩)
    exact ⟨run, _, rfl, rest⟩
  · rintro ⟨run, rest, rfl, fits⟩
    exact .gap run fits

@[simp] theorem fits_gap_nil_iff {glob : List GlobItem} : Fits (none :: glob) [] ↔ Fits glob [] := by
  rw [fits_gap_iff]
  constructor
  · rintro ⟨run, rest, hvalue, fits⟩
    rwa [(List.append_eq_nil_iff.mp hvalue.symm).2] at fits
  · intro fits
    exact ⟨[], [], rfl, fits⟩

/-- A gap in front of a value takes nothing, or the first character and then some. -/
theorem fits_gap_cons_iff {glob : List GlobItem} {c : Char} {value : List Char} :
    Fits (none :: glob) (c :: value) ↔ Fits glob (c :: value) ∨ Fits (none :: glob) value := by
  simp only [fits_gap_iff]
  constructor
  · rintro ⟨run, rest, hvalue, fits⟩
    cases run with
    | nil => exact .inl (by rwa [hvalue])
    | cons first run =>
        obtain ⟨rfl, rfl⟩ := List.cons.inj hvalue
        exact .inr ⟨run, rest, rfl, fits⟩
  · rintro (fits | ⟨run, rest, rfl, fits⟩)
    · exact ⟨[], c :: value, rfl, fits⟩
    · exact ⟨c :: run, rest, rfl, fits⟩

/-- The answers for a value are those for its tail with one more in front. -/
theorem answers_cons (glob : List GlobItem) (c : Char) (value : List Char) :
    answers glob (c :: value) = accepts glob (c :: value) :: answers glob value := by
  have tail : ∃ first, answers glob (c :: value) = first :: answers glob value := by
    induction glob with
    | nil => exact ⟨false, rfl⟩
    | cons item rest ih =>
        obtain ⟨first, hfirst⟩ := ih
        cases item <;> simp only [answers, hfirst, anyFrom, backOver] <;> exact ⟨_, rfl⟩
  obtain ⟨first, hfirst⟩ := tail
  rw [accepts, hfirst]
  rfl

/-- The empty value has one answer. -/
theorem answers_nil (glob : List GlobItem) : answers glob [] = [accepts glob []] := by
  have single : ∃ only, answers glob [] = [only] := by
    induction glob with
    | nil => exact ⟨true, rfl⟩
    | cons item rest ih =>
        obtain ⟨only, honly⟩ := ih
        cases item <;> simp only [answers, honly, anyFrom, backOver] <;> exact ⟨_, rfl⟩
  obtain ⟨only, honly⟩ := single
  rw [accepts, honly]
  rfl

@[simp] theorem accepts_nil_glob (value : List Char) : accepts [] value = value.isEmpty := by
  cases value <;> rfl

theorem accepts_gap_nil (glob : List GlobItem) : accepts (none :: glob) [] = accepts glob [] := by
  rw [accepts, answers, answers_nil]
  simp [anyFrom]

theorem accepts_gap_cons (glob : List GlobItem) (c : Char) (value : List Char) :
    accepts (none :: glob) (c :: value) =
      (accepts glob (c :: value) || accepts (none :: glob) value) := by
  rw [accepts, answers, answers_cons]
  rfl

theorem accepts_char_nil (c : Char) (glob : List GlobItem) :
    accepts (some c :: glob) [] = false := rfl

theorem accepts_char_cons (c d : Char) (glob : List GlobItem) (value : List Char) :
    accepts (some c :: glob) (d :: value) = (c == d && accepts glob value) := by
  rw [accepts, answers, answers_cons]
  rfl

/-- The matcher accepts exactly the values that the glob fits. -/
theorem accepts_iff_fits (glob : List GlobItem) (value : List Char) :
    accepts glob value = true ↔ Fits glob value := by
  induction glob generalizing value with
  | nil => simp
  | cons item rest ih =>
      cases item with
      | none =>
          -- A gap is moved over the value one character at a time.
          induction value with
          | nil => rw [accepts_gap_nil, fits_gap_nil_iff, ih]
          | cons c value ihvalue =>
              rw [accepts_gap_cons, Bool.or_eq_true, fits_gap_cons_iff, ih, ihvalue]
      | some d =>
          cases value with
          | nil => simp [accepts_char_nil]
          | cons c value =>
              rw [accepts_char_cons, Bool.and_eq_true, beq_iff_eq, fits_char_cons_iff, ih]

/-- The glob of a typed text, in which a wildcard stands for a gap. -/
def ofTyped (typed : List Char) : List GlobItem :=
  typed.map fun c => if c == Pattern.wildcard then none else some c

end Glob

namespace Pattern

/-- Whether a value is the text of a pattern with some run of characters at each wildcard. -/
def Matches (p : Pattern) (value : String) : Prop :=
  Glob.Fits (Glob.ofTyped p.typed.toList) value.toList

/-- A marker that does not occur in the text is read back from the woven text whatever it is. -/
theorem map_weave_congr {α : Type} (f g : Char → α) (m n : Char) (index : Nat) (text : List Char)
    (positions : List Nat) (marker : f m = g n) (plain : ∀ c ∈ text, f c = g c) :
    (weave [m] (fun c => [c]) index text positions).map f =
      (weave [n] (fun c => [c]) index text positions).map g := by
  have markers (passed : List Nat) :
      (passed.flatMap fun _ => [m]).map f = (passed.flatMap fun _ => [n]).map g := by
    simp only [List.map_flatMap, List.map_cons, List.map_nil, marker]
  induction text generalizing index positions with
  | nil => exact markers positions
  | cons c rest ih =>
      rw [List.forall_mem_cons] at plain
      simp only [weave, List.map_append, markers, List.map_cons, List.map_nil, plain.1,
        ih (index + 1) _ plain.2]

/-- Where the plain text holds no character with a meaning, the glob is that of the typed form. -/
theorem glob_eq_ofTyped {p : Pattern} (noWildcard : wildcard ∉ p.text.toList)
    (noGap : Glob.gap ∉ p.text.toList) : p.glob = Glob.ofTyped p.typed.toList := by
  unfold glob Glob.ofCarried Glob.ofTyped typed marked
  rw [String.toList_ofList]
  apply map_weave_congr
  · simp
  · intro c hc
    have notGap : c ≠ Glob.gap := fun h => noGap (h ▸ hc)
    have notWildcard : c ≠ wildcard := fun h => noWildcard (h ▸ hc)
    simp [notGap, notWildcard]

/-- A typed text without wildcards fits only itself. -/
theorem fits_ofTyped_iff_eq {typed value : List Char} (plain : wildcard ∉ typed) :
    Glob.Fits (Glob.ofTyped typed) value ↔ typed = value := by
  induction typed generalizing value with
  | nil => rw [Glob.ofTyped, List.map_nil, Glob.fits_nil_iff, eq_comm]
  | cons c rest ih =>
      rw [List.mem_cons, not_or] at plain
      have item : Glob.ofTyped (c :: rest) = some c :: Glob.ofTyped rest := by
        simp [Glob.ofTyped, Ne.symm plain.1]
      rw [item]
      cases value with
      | nil => simp
      | cons d value => rw [Glob.fits_char_cons_iff, ih plain.2, List.cons.injEq]

/-- Without wildcards only the text itself matches. -/
theorem matches_iff_eq {p : Pattern} (noWildcard : wildcard ∉ p.text.toList)
    (plain : p.hasWildcards = false) (value : String) : p.Matches value ↔ p.text = value := by
  have positions : p.positions = [] := by simpa [hasWildcards] using plain
  have typed : p.typed.toList = p.text.toList := by simp [Pattern.typed, marked, positions]
  rw [Matches, typed, fits_ofTyped_iff_eq noWildcard, String.toList_inj]

end Pattern

/-- The comparison with an argument accepts exactly the values that match the argument. -/
theorem TextMatch.accepts_ofPattern_iff {p : Pattern} (noWildcard : Pattern.wildcard ∉ p.text.toList)
    (noGap : p.hasWildcards = true → Glob.gap ∉ p.text.toList) (value : String) :
    (TextMatch.ofPattern p).accepts value = true ↔ p.Matches value := by
  cases has : p.hasWildcards with
  | false => simp [ofPattern, has, accepts, Pattern.matches_iff_eq noWildcard has]
  | true =>
      simp [ofPattern, has, accepts, Pattern.accepts, Glob.accepts_iff_fits,
        Pattern.glob_eq_ofTyped noWildcard (noGap has), Pattern.Matches]

end Tagboard
