import Tagboard.Proofs.EffectiveOffsets
import Tagboard.Proofs.PatternTranslations

/-!
# A pattern matches its text with runs put in

A wildcard takes effect at an offset of the text: at the greatest of the positions up to its own, but not
behind the end of the text. A pattern matches exactly the values that come from its text by putting in one
run of characters at the offset of each wildcard, in order. A run may be empty.
-/

namespace Tagboard

namespace Pattern

/--
A text of which `passed` characters have been written already, with a run put in at each offset. Offsets
count the characters of the whole text and ascend.
-/
def insertRuns (passed : Nat) (text : List Char) : List (Nat × List Char) → List Char
  | [] => text
  | (offset, run) :: rest =>
      text.take (offset - passed) ++ run ++ insertRuns offset (text.drop (offset - passed)) rest

/-- Whether a value is the text with some run of characters at the offset of each wildcard. -/
def IsTextWithRuns (p : Pattern) (value : String) : Prop :=
  ∃ runs : List (List Char), runs.length = p.positions.length ∧
    value.toList = insertRuns 0 p.text.toList (p.effectiveOffsets.zip runs)

/-- A run at the offset that has been reached comes next. -/
theorem insertRuns_here (passed : Nat) (text run : List Char) (rest : List (Nat × List Char)) :
    insertRuns passed text ((passed, run) :: rest) = run ++ insertRuns passed text rest := by
  rw [insertRuns, Nat.sub_self, List.take_zero, List.nil_append, List.drop_zero]

/-- Before the next offset is reached, a character of the text comes next. -/
theorem insertRuns_ahead {passed : Nat} {cuts : List (Nat × List Char)}
    (ahead : ∀ cut ∈ cuts.head?, passed < cut.1) (c : Char) (text : List Char) :
    insertRuns passed (c :: text) cuts = c :: insertRuns (passed + 1) text cuts := by
  cases cuts with
  | nil => rfl
  | cons cut rest =>
      obtain ⟨offset, run⟩ := cut
      have later : passed < offset := ahead (offset, run) rfl
      have step : offset - passed = offset - (passed + 1) + 1 := by omega
      rw [insertRuns, insertRuns, step, List.take_succ_cons, List.drop_succ_cons]
      rfl

theorem lt_of_mem_head?_offsetsFrom {stop index : Nat} {positions : List Nat} (inside : index < stop)
    (ahead : ∀ position ∈ positions.head?, index < position) {runs : List (List Char)} :
    ∀ cut ∈ ((offsetsFrom stop index positions).zip runs).head?, index < cut.1 := by
  intro cut first
  cases positions with
  | nil => cases first
  | cons position rest =>
      cases runs with
      | nil => cases first
      | cons run runs =>
          have later : index < position := ahead position rfl
          cases first
          show index < min stop (max index position)
          omega

/-- Woven gaps fit the values in which a run stands at the offset of each of them. -/
def WeavesRuns (index : Nat) (text : List Char) (positions : List Nat) : Prop :=
  ∀ value, Glob.Fits (Glob.ofCarried (weave [Glob.gap] (fun c => [c]) index text positions)) value ↔
    ∃ runs : List (List Char), runs.length = positions.length ∧
      value = insertRuns index text ((offsetsFrom (index + text.length) index positions).zip runs)

/-- A gap at the offset that has been reached adds one run. -/
theorem WeavesRuns.marker {index position : Nat} {text : List Char} {positions : List Nat}
    (later : WeavesRuns index text positions) (due : text = [] ∨ position ≤ index) :
    WeavesRuns index text (position :: positions) := by
  intro value
  rw [weave_cons_of_due due, List.singleton_append, Glob.ofCarried_gap_cons, Glob.fits_gap_iff,
    offsetsFrom_of_due due]
  constructor
  · rintro ⟨run, rest, rfl, fits⟩
    obtain ⟨runs, number, rfl⟩ := (later rest).mp fits
    refine ⟨run :: runs, by rw [List.length_cons, List.length_cons, number], ?_⟩
    rw [List.zip_cons_cons, insertRuns_here]
  · rintro ⟨runs, number, rfl⟩
    cases runs with
    | nil => cases number
    | cons run runs =>
        rw [List.zip_cons_cons, insertRuns_here]
        exact ⟨run, _, rfl, (later _).mpr ⟨runs, Nat.succ.inj number, rfl⟩⟩

/-- A character before the next gap stands for itself. -/
theorem WeavesRuns.character {index : Nat} {c : Char} {text : List Char} {positions : List Nat}
    (later : WeavesRuns (index + 1) text positions) (notGap : Glob.gap ∉ [c])
    (ahead : ∀ position ∈ positions.head?, index < position) :
    WeavesRuns index (c :: text) positions := by
  intro value
  have stop : index + (c :: text).length = index + 1 + text.length := by
    rw [List.length_cons]
    omega
  have written (runs : List (List Char)) :
      insertRuns index (c :: text)
          ((offsetsFrom (index + 1 + text.length) index positions).zip runs) =
        c :: insertRuns (index + 1) text
          ((offsetsFrom (index + 1 + text.length) (index + 1) positions).zip runs) := by
    rw [offsetsFrom_ahead ahead]
    exact insertRuns_ahead (lt_of_mem_head?_offsetsFrom (by omega) ahead) c text
  rw [weave_cons_of_lt ahead, Glob.ofCarried_append notGap, Glob.fits_map_some_append, stop]
  simp only [written, later _]
  constructor
  · rintro ⟨after, rfl, runs, number, rfl⟩
    exact ⟨runs, number, rfl⟩
  · rintro ⟨runs, number, rfl⟩
    exact ⟨_, rfl, runs, number, rfl⟩

/-- Every weaving of gaps into a text without gaps fits the text with runs. -/
theorem weavesRuns {text : List Char} (noGap : Glob.gap ∉ text) (index : Nat)
    (positions : List Nat) : WeavesRuns index text positions := by
  induction index, text, positions using weave_induction with
  | done index =>
      intro value
      simp [weave, Glob.ofCarried, offsetsFrom, insertRuns]
  | marker index text position positions due ih => exact (ih noGap).marker due
  | character index c rest positions ahead ih =>
      rw [List.mem_cons, not_or] at noGap
      exact (ih noGap.2).character (by simpa using noGap.1) ahead

/-- A pattern matches the values that are its text with a run for each wildcard. -/
theorem accepts_iff_isTextWithRuns {p : Pattern} (noGap : Glob.gap ∉ p.text.toList) (value : String) :
    p.accepts value = true ↔ p.IsTextWithRuns value := by
  have woven := weavesRuns noGap 0 p.positions value.toList
  rw [Nat.zero_add, String.length_toList, ← effectiveOffsets_eq] at woven
  rw [accepts, Glob.accepts_iff_fits, glob, marked, woven]
  rfl

/--
A pattern whose text does not hold the character of gaps matches exactly the values that are its text with
a run of characters at the effective offset of each wildcard. So does its expression under every engine
that keeps the promises of its description.
-/
theorem matches_text_with_runs (p : Pattern) (noGap : Glob.gap ∉ p.text.toList) (value : String) :
    (p.accepts value = true ↔ p.IsTextWithRuns value) ∧
      ∀ (e : ExpressionEngine) (spans : List Char → List Char → Prop), e.IsDocumented spans →
        (e.finds (p.expression e.quote) value.toList = true ↔ p.IsTextWithRuns value) := by
  have accepted := accepts_iff_isTextWithRuns noGap value
  refine ⟨accepted, fun e spans documented => ?_⟩
  rw [documented.finds_expression_iff, accepted]

/-- Positions out of order, twice at one offset and past the end, and a run with a line break. -/
theorem matches_text_with_runs_line_break :
    let p : Pattern := ⟨"a.b", [2, 1, 9]⟩
    let engine := ExpressionEngine.backslashes
    Glob.gap ∉ p.text.toList ∧ p.effectiveOffsets = [2, 2, 3] ∧
      engine.finds (p.expression engine.quote) "a.x\nb".toList = true ∧ p.IsTextWithRuns "a.x\nb" ∧
        p.accepts "axxb" = false ∧ ¬ p.IsTextWithRuns "axxb" ∧
          p.accepts "A.b" = false ∧ ¬ p.IsTextWithRuns "A.b" := by
  intro p engine
  have noGap : Glob.gap ∉ p.text.toList := by decide +kernel
  have accepted : p.accepts "a.x\nb" = true := by decide +kernel
  have literal : p.accepts "axxb" = false := by decide +kernel
  have cased : p.accepts "A.b" = false := by decide +kernel
  obtain ⟨own, engines⟩ := matches_text_with_runs p noGap "a.x\nb"
  have found := (engines engine _ ExpressionEngine.isDocumented_backslashes).mpr (own.mp accepted)
  refine ⟨noGap, by decide +kernel, found, own.mp accepted, literal, fun runs => ?_, cased,
    fun runs => ?_⟩
  · exact absurd ((matches_text_with_runs p noGap "axxb").1.mpr runs) (by simp [literal])
  · exact absurd ((matches_text_with_runs p noGap "A.b").1.mpr runs) (by simp [cased])

end Pattern

end Tagboard
