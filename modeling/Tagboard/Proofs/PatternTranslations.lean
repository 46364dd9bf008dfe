import Tagboard.Pattern.Expression
import Tagboard.Pattern.Like
import Tagboard.Proofs.GlobMatching
import Tagboard.Proofs.TypedText

/-!
# The two translations of a pattern

A pattern is written for the operator `LIKE` and as a regular expression, each with its own way to put
wildcards in place and to take special meanings away. Both forms match what the glob of the pattern
fits, and so the same values, as long as the text does not hold the character that carries a gap.
-/

namespace Tagboard

open Text

namespace Like

theorem someSuffix_eq_true_iff {test : List Char → Bool} {value : List Char} :
    someSuffix test value = true ↔ ∃ run rest, value = run ++ rest ∧ test rest = true := by
  induction value with
  | nil =>
      rw [someSuffix]
      constructor
      · intro empty
        exact ⟨[], [], rfl, empty⟩
      · rintro ⟨run, rest, parts, passes⟩
        rwa [(List.append_eq_nil_iff.mp parts.symm).2] at passes
  | cons c value ih =>
      rw [someSuffix, Bool.or_eq_true, ih]
      constructor
      · rintro (whole | ⟨run, rest, rfl, passes⟩)
        · exact ⟨[], c :: value, rfl, whole⟩
        · exact ⟨c :: run, rest, rfl, passes⟩
      · rintro ⟨run, rest, parts, passes⟩
        cases run with
        | nil => exact .inl (by rwa [parts])
        | cons first run =>
            obtain ⟨rfl, rfl⟩ := List.cons.inj parts
            exact .inr ⟨run, rest, rfl, passes⟩

/-! A row of the operator's table applies where no earlier row does. -/

theorem accepts_percent (pattern value : List Char) :
    accepts ('%' :: pattern) value = someSuffix (accepts pattern) value := rfl

theorem accepts_escaped_nil (c : Char) (pattern : List Char) :
    accepts ('\\' :: c :: pattern) [] = false := rfl

theorem accepts_escaped_cons (c d : Char) (pattern value : List Char) :
    accepts ('\\' :: c :: pattern) (d :: value) = (c == d && accepts pattern value) := rfl

theorem accepts_plain_nil {c : Char} (plain : isSpecial c = false) (pattern : List Char) :
    accepts (c :: pattern) [] = false := by
  conv => lhs; unfold accepts
  split <;> simp_all [isSpecial]

theorem accepts_plain_cons {c : Char} (plain : isSpecial c = false) (d : Char)
    (pattern value : List Char) :
    accepts (c :: pattern) (d :: value) = (c == d && accepts pattern value) := by
  conv => lhs; unfold accepts
  split <;> simp_all [isSpecial]

theorem accepts_escape_nil (c : Char) (pattern : List Char) :
    accepts (escape c ++ pattern) [] = false := by
  unfold escape
  cases special : isSpecial c with
  | true => exact accepts_escaped_nil c pattern
  | false => exact accepts_plain_nil special pattern

theorem accepts_escape_cons (c d : Char) (pattern value : List Char) :
    accepts (escape c ++ pattern) (d :: value) = (c == d && accepts pattern value) := by
  unfold escape
  cases special : isSpecial c with
  | true => exact accepts_escaped_cons c d pattern value
  | false => exact accepts_plain_cons special d pattern value

/-- A pattern of the operator accepts the values that a glob fits. -/
def Means (pattern : List Char) (glob : List GlobItem) : Prop :=
  ∀ value, accepts pattern value = true ↔ Glob.Fits glob value

theorem means_nil : Means [] [] := by
  intro value
  rw [Glob.fits_nil_iff]
  exact List.isEmpty_iff

/-- A percent sign is a gap. -/
theorem Means.percent {pattern : List Char} {glob : List GlobItem} (means : Means pattern glob) :
    Means ('%' :: pattern) (none :: glob) := by
  intro value
  rw [accepts_percent, someSuffix_eq_true_iff, Glob.fits_gap_iff]
  simp only [means _]

/-- An escaped character stands for itself, whatever it is. -/
theorem Means.escape {pattern : List Char} {glob : List GlobItem} (means : Means pattern glob)
    (c : Char) : Means (escape c ++ pattern) (some c :: glob) := by
  intro value
  cases value with
  | nil => simp [accepts_escape_nil]
  | cons d value =>
      rw [accepts_escape_cons, Bool.and_eq_true, beq_iff_eq, means value, Glob.fits_char_cons_iff]

theorem Means.percents {pattern : List Char} {glob : List GlobItem} (means : Means pattern glob)
    (passed : List Nat) :
    Means ((passed.flatMap fun _ => ['%']) ++ pattern) ((passed.map fun _ => none) ++ glob) := by
  induction passed with
  | nil => exact means
  | cons _ _ ih => exact ih.percent

end Like

namespace Glob

@[simp] theorem ofCarried_gap_cons (s : List Char) : ofCarried (gap :: s) = none :: ofCarried s := rfl

/-- Markers of gaps are carried as gaps. -/
theorem ofCarried_gaps_append (passed : List Nat) (s : List Char) :
    ofCarried ((passed.flatMap fun _ => [gap]) ++ s) = (passed.map fun _ => none) ++ ofCarried s := by
  induction passed with
  | nil => rfl
  | cons _ _ ih => exact congrArg (none :: ·) ih

/-- A text without gaps is carried character by character. -/
theorem ofCarried_append {text : List Char} (noGap : gap ∉ text) (s : List Char) :
    ofCarried (text ++ s) = text.map some ++ ofCarried s := by
  induction text with
  | nil => rfl
  | cons c rest ih =>
      rw [List.mem_cons, not_or] at noGap
      have item : ofCarried (c :: (rest ++ s)) = some c :: ofCarried (rest ++ s) := by
        simp [ofCarried, Ne.symm noGap.1]
      rw [List.cons_append, item, ih noGap.2]
      rfl

/-- The characters of a text fit the start of a value. -/
theorem fits_map_some_append {text : List Char} {glob : List GlobItem} {value : List Char} :
    Fits (text.map some ++ glob) value ↔ ∃ after, value = text ++ after ∧ Fits glob after := by
  induction text generalizing value with
  | nil => simp
  | cons c rest ih =>
      rw [List.map_cons, List.cons_append]
      cases value with
      | nil => simp
      | cons d value =>
          rw [fits_char_cons_iff, ih]
          constructor
          · rintro ⟨rfl, after, rfl, fits⟩
            exact ⟨after, rfl, fits⟩
          · rintro ⟨after, parts, fits⟩
            obtain ⟨rfl, rfl⟩ := List.cons.inj parts
            exact ⟨rfl, after, rfl, fits⟩

end Glob

namespace Pattern

/-- Both ways to put markers in place pass the same wildcards before the same characters. -/
theorem means_weave {text : List Char} (noGap : Glob.gap ∉ text) (index : Nat)
    (positions : List Nat) :
    Like.Means (weave ['%'] Like.escape index text positions)
      (Glob.ofCarried (weave [Glob.gap] (fun c => [c]) index text positions)) := by
  induction text generalizing index positions with
  | nil =>
      have markers : Like.Means ((positions.flatMap fun _ => ['%']) ++ [])
          (Glob.ofCarried ((positions.flatMap fun _ => [Glob.gap]) ++ [])) := by
        rw [Glob.ofCarried_gaps_append]
        exact Like.means_nil.percents positions
      rwa [List.append_nil, List.append_nil] at markers
  | cons c rest ih =>
      rw [List.mem_cons, not_or] at noGap
      have later := ih noGap.2 (index + 1) (positions.dropWhile (· ≤ index))
      have single : Glob.gap ∉ [c] := by simpa using noGap.1
      rw [weave, weave, List.append_assoc, List.append_assoc, Glob.ofCarried_gaps_append,
        Glob.ofCarried_append single]
      exact (later.escape c).percents _

/-- The operator accepts what the pattern matches. -/
theorem accepts_like_iff {p : Pattern} (noGap : Glob.gap ∉ p.text.toList) (value : String) :
    Like.accepts p.like.toList value.toList = true ↔ p.accepts value = true := by
  rw [like, String.toList_ofList, means_weave noGap, accepts, Glob.accepts_iff_fits]
  rfl

end Pattern

namespace ExpressionEngine

variable {e : ExpressionEngine} {spans : List Char → List Char → Prop}

/-- Quoted texts with runs between them are a sequence. -/
theorem isSequence_join (e : ExpressionEngine) (pieces : List (List Char)) :
    e.IsSequence (join anyRun (pieces.map e.quote)) := by
  induction pieces with
  | nil => exact .nil
  | cons piece rest ih =>
      cases rest with
      | nil =>
          have single := IsSequence.quoted piece (IsSequence.nil (e := e))
          rwa [List.append_nil] at single
      | cons next pieces =>
          have sequence := (ih.run).quoted piece
          simpa only [List.map_cons, join, List.append_assoc] using sequence

/-- Quoted texts with runs between them span what the texts with gaps between them fit. -/
theorem IsDocumented.spans_join_iff (documented : e.IsDocumented spans) {pieces : List (List Char)}
    (noGap : ∀ piece ∈ pieces, Glob.gap ∉ piece) (value : List Char) :
    spans (join anyRun (pieces.map e.quote)) value ↔
      Glob.Fits (Glob.ofCarried (join [Glob.gap] pieces)) value := by
  induction pieces generalizing value with
  | nil =>
      rw [List.map_nil, join, documented.nothing]
      exact Glob.fits_nil_iff.symm
  | cons piece rest ih =>
      rw [List.forall_mem_cons] at noGap
      cases rest with
      | nil =>
          have quoted := documented.quotes piece .nil value
          have carried := Glob.ofCarried_append noGap.1 []
          rw [List.append_nil] at quoted carried
          rw [List.map_singleton, join, join, quoted, carried, Glob.fits_map_some_append]
          simp only [documented.nothing]
          exact exists_congr fun after => and_congr_right fun _ => Glob.fits_nil_iff.symm
      | cons next pieces =>
          have sequence := e.isSequence_join (next :: pieces)
          rw [List.map_cons, List.map_cons, join, ← List.map_cons, List.append_assoc,
            documented.quotes piece sequence.run, join, List.append_assoc,
            Glob.ofCarried_append noGap.1, List.singleton_append, Glob.ofCarried_gap_cons,
            Glob.fits_map_some_append]
          refine exists_congr fun after => and_congr_right fun _ => ?_
          rw [documented.runs sequence, Glob.fits_gap_iff]
          simp only [ih noGap.2]

/-- An engine finds the expression of a pattern in the values that the pattern matches. -/
theorem IsDocumented.finds_expression_iff (documented : e.IsDocumented spans) (p : Pattern)
    (value : String) :
    e.finds (p.expression e.quote) value.toList = true ↔ p.accepts value = true := by
  have noGap : ∀ piece ∈ split (· == Glob.gap) (p.marked Glob.gap), Glob.gap ∉ piece := by
    intro piece member inside
    have separates := isSeparator_of_mem_split member Glob.gap inside
    cases separates
  rw [Pattern.expression, documented.anchors (e.isSequence_join _), documented.spans_join_iff noGap,
    join_split, Pattern.accepts, Glob.accepts_iff_fits]
  rfl

end ExpressionEngine

/--
A pattern whose text does not hold the character of gaps matches the same values in both of its
translations: under the operator `LIKE`, and as an expression of every engine that keeps the promises
of its description. These are the values that the pattern itself matches.
-/
theorem Pattern.translations_agree (p : Pattern) (noGap : Glob.gap ∉ p.text.toList) (value : String) :
    (Like.accepts p.like.toList value.toList = true ↔ p.accepts value = true) ∧
      ∀ (e : ExpressionEngine) (spans : List Char → List Char → Prop), e.IsDocumented spans →
        (Like.accepts p.like.toList value.toList = true ↔
          e.finds (p.expression e.quote) value.toList = true) := by
  have accepted : Like.accepts p.like.toList value.toList = true ↔ p.accepts value = true :=
    accepts_like_iff noGap value
  refine ⟨accepted, fun e spans documented => ?_⟩
  rw [accepted, documented.finds_expression_iff]

namespace ExpressionEngine

/-- Whether a character has a meaning of its own in an expression. -/
def isOperator (c : Char) : Bool := "\\.+*?()|[]\x7b\x7d^$#&-~".toList.contains c

/-- One character, with a backslash before it where it has a meaning of its own. -/
def quoteChar (c : Char) : List Char := if isOperator c then ['\\', c] else [c]

/-- Reads a sequence of characters, quoted where they must be, and of runs. -/
def readSequence : List Char → List GlobItem
  | [] => []
  | '\\' :: c :: rest => some c :: readSequence rest
  | '.' :: '*' :: rest => none :: readSequence rest
  | c :: rest => some c :: readSequence rest

/-- The engine that knows anchored sequences only, and quotes with backslashes. -/
def backslashes : ExpressionEngine where
  quote text := text.flatMap quoteChar
  finds expression value := Glob.accepts (readSequence ((expression.drop 5).dropLast.dropLast)) value

theorem readSequence_quote_append (text rest : List Char) :
    readSequence (backslashes.quote text ++ rest) = text.map some ++ readSequence rest := by
  have quoted : backslashes.quote text = text.flatMap quoteChar := rfl
  rw [quoted]
  clear quoted
  induction text with
  | nil => rfl
  | cons c text ih =>
      rw [List.flatMap_cons, List.append_assoc, List.map_cons, List.cons_append, ← ih, quoteChar]
      cases operator : isOperator c with
      | true => rfl
      | false =>
          have notBackslash : c ≠ '\\' := by
            rintro rfl
            exact absurd operator (by decide)
          have notDot : c ≠ '.' := by
            rintro rfl
            exact absurd operator (by decide)
          rw [if_neg Bool.false_ne_true, List.singleton_append]
          simp [readSequence, notBackslash, notDot]

/-- The engine keeps the promises: its expressions span what they are read as. -/
theorem isDocumented_backslashes :
    backslashes.IsDocumented fun expression => Glob.Fits (readSequence expression) where
  anchors := by
    intro expression _ value
    have opened : (anchored expression).drop 5 = expression ++ [')', '$'] := by
      rw [anchored, List.append_assoc]
      exact List.drop_left' rfl
    have closed : expression ++ [')', '$'] = expression ++ [')'] ++ ['$'] := by
      rw [List.append_assoc]
      rfl
    show Glob.accepts (readSequence ((anchored expression).drop 5).dropLast.dropLast) value = true ↔ _
    rw [opened, closed, List.dropLast_concat, List.dropLast_concat, Glob.accepts_iff_fits]
  nothing := fun value => Glob.fits_nil_iff
  quotes := by
    intro text rest _ value
    rw [readSequence_quote_append, Glob.fits_map_some_append]
  runs := by
    intro rest _ value
    exact Glob.fits_gap_iff

end ExpressionEngine

/-- Special characters of both forms, and positions out of order and past the end of the text. -/
theorem Pattern.translations_agree_special :
    let p : Pattern := ⟨"5%_\\.", [9, 0, 2]⟩
    let engine := ExpressionEngine.backslashes
    p.like = "5\\%\\_\\\\.%%%" ∧ p.expression engine.quote = "^(?s:5%_\\\\\\..*.*.*)$".toList ∧
      Glob.gap ∉ p.text.toList ∧ Like.accepts p.like.toList "5%_\\.\n".toList = true ∧
        p.accepts "5%_\\.\n" = true ∧
          engine.finds (p.expression engine.quote) "5%_\\.\n".toList = true := by
  intro p engine
  have noGap : Glob.gap ∉ p.text.toList := by decide +kernel
  obtain ⟨own, engines⟩ := translations_agree p noGap "5%_\\.\n"
  have accepted : Like.accepts p.like.toList "5%_\\.\n".toList = true := by decide +kernel
  have found := (engines engine _ ExpressionEngine.isDocumented_backslashes).mp accepted
  exact ⟨by decide +kernel, by decide +kernel, noGap, accepted, own.mp accepted, found⟩

end Tagboard
