import Mathlib.Data.List.Forall2
import Tagboard.Proofs.JsonScalars

/-!
# Documents are read back

A document whose numbers have 64 bits is written as lexemes with blanks between them, on one line or on
indented lines. Cutting the text gives these lexemes, and putting them together gives the document.
-/

namespace Tagboard

namespace Json

open Text

/-- A document without damage, all of whose numbers have 64 bits. -/
inductive IsPlain : Json → Prop where
  | null : IsPlain null
  | bool (value : Bool) : IsPlain (bool value)
  | int {value : Int} (low : Int64.minValue.toInt ≤ value) (high : value < UInt64.size) :
      IsPlain (int value)
  | text (value : String) : IsPlain (text value)
  | list {items : List Json} (each : ∀ item ∈ items, IsPlain item) : IsPlain (list items)
  | object {fields : List (String × Json)} (each : ∀ field ∈ fields, IsPlain field.2) :
      IsPlain (object fields)

mutual

/-- The lexemes of a document. -/
def lexemesOf : Json → List Lexeme
  | list items => .openList :: ([Lexeme.comma].intercalate (lexemesOfItems items) ++ [.closeList])
  | object fields => .openObject :: ([Lexeme.comma].intercalate (lexemesOfFields fields) ++ [.closeObject])
  | scalar => [.scalar scalar]

/-- The lexemes of each item. -/
def lexemesOfItems : List Json → List (List Lexeme)
  | [] => []
  | item :: rest => lexemesOf item :: lexemesOfItems rest

/-- The lexemes of each field. -/
def lexemesOfFields : List (String × Json) → List (List Lexeme)
  | [] => []
  | (name, value) :: rest => (.scalar (.text name) :: .colon :: lexemesOf value) :: lexemesOfFields rest

end

/-- The lexemes of a field. -/
def lexemesOfField (field : String × Json) : List Lexeme :=
  .scalar (.text field.1) :: .colon :: lexemesOf field.2

theorem lexemesOfItems_eq_map (items : List Json) : lexemesOfItems items = items.map lexemesOf := by
  induction items with
  | nil => rfl
  | cons item rest ih => rw [lexemesOfItems, ih, List.map_cons]

theorem lexemesOfFields_eq_map (fields : List (String × Json)) :
    lexemesOfFields fields = fields.map lexemesOfField := by
  induction fields with
  | nil => rfl
  | cons field rest ih =>
      rw [lexemesOfFields, ih, List.map_cons]
      rfl

theorem lexemesOf_list (items : List Json) :
    lexemesOf (list items) =
      .openList :: ([Lexeme.comma].intercalate (items.map lexemesOf) ++ [.closeList]) := by
  rw [lexemesOf, lexemesOfItems_eq_map]

theorem lexemesOf_object (fields : List (String × Json)) :
    lexemesOf (object fields) =
      .openObject :: ([Lexeme.comma].intercalate (fields.map lexemesOfField) ++ [.closeObject]) := by
  rw [lexemesOf, lexemesOfFields_eq_map]

/-! ## From texts to lexemes -/

/-- A text is cut into lexemes, with blanks before each of them and behind the last. -/
inductive Spells : List Char → List Lexeme → Prop where
  | nil : Spells [] []
  | blank {c : Char} {s : List Char} {lexemes : List Lexeme} (blank : isSpace c = true)
      (later : Spells s lexemes) : Spells (c :: s) lexemes
  | lexeme {c : Char} {w s : List Char} {first : Lexeme} {lexemes : List Lexeme}
      (visible : isSpace c = false) (cut : Json.lexeme c (w ++ s) = (first, s))
      (later : Spells s lexemes) : Spells (c :: (w ++ s)) (first :: lexemes)

theorem Spells.lexemesUpTo_eq {s : List Char} {lexemes : List Lexeme} (spells : Spells s lexemes)
    {count : Nat} (enough : s.length ≤ count) : lexemesUpTo count s = lexemes := by
  induction spells generalizing count with
  | nil => cases count <;> rfl
  | @blank c s lexemes blank later ih =>
      cases count with
      | zero => simp at enough
      | succ count =>
          rw [← ih (Nat.le_of_succ_le enough), lexemesUpTo, lexemesUpTo,
            List.dropWhile_cons_of_pos blank]
  | @lexeme c w s first lexemes visible cut later ih =>
      cases count with
      | zero => simp at enough
      | succ count =>
          have shorter : s.length ≤ count := by
            simp only [List.length_cons, List.length_append] at enough
            omega
          rw [lexemesUpTo, List.dropWhile_cons_of_neg (by simp [visible])]
          simp only [cut, ih shorter]

/-- A text is cut as it is spelled. -/
theorem lexemes_eq_of_spells {s : List Char} {lexemes : List Lexeme} (spells : Spells s lexemes) :
    Json.lexemes s = lexemes := spells.lexemesUpTo_eq (Nat.le_refl _)

/-- A text that may stand between lexemes. -/
def IsGap (s : List Char) : Prop := ∀ c ∈ s, isSpace c = true

instance (s : List Char) : Decidable (IsGap s) := List.decidableBAll _ s

theorem isGap_nil : IsGap [] := by decide

theorem isGap_indent {margin : String} (isGap : IsGap margin.toList) :
    IsGap (margin ++ "  ").toList := by
  rw [String.toList_append]
  have blanks : IsGap "  ".toList := by decide
  exact List.forall_mem_append.mpr ⟨isGap, blanks⟩

theorem Spells.gap {gap s : List Char} {lexemes : List Lexeme} (isGap : IsGap gap)
    (spells : Spells s lexemes) : Spells (gap ++ s) lexemes := by
  induction gap with
  | nil => exact spells
  | cons c gap ih =>
      obtain ⟨blank, later⟩ := List.forall_mem_cons.mp isGap
      exact .blank blank (ih later)

theorem endsNumber_cons {c : Char} (ends : isDigit c = false ∧ c ∉ ['.', 'e', 'E']) (s : List Char) :
    EndsNumber (c :: s) := by
  rintro d same
  cases same
  exact ends

theorem endsNumber_gap {gap s : List Char} (isGap : IsGap gap) (ends : EndsNumber s) :
    EndsNumber (gap ++ s) := by
  cases gap with
  | nil => exact ends
  | cons c gap =>
      have blank := isGap c (List.mem_cons_self ..)
      simp only [isSpace, Bool.or_eq_true, beq_iff_eq] at blank
      rcases blank with ((rfl | rfl) | rfl) | rfl <;> exact endsNumber_cons (by decide) _

/-- A text stands for lexemes, before whatever does not go on with a number. -/
def Writes (w : List Char) (lexemes : List Lexeme) : Prop :=
  ∀ (s : List Char) (more : List Lexeme), EndsNumber s → Spells s more → Spells (w ++ s) (lexemes ++ more)

/-- A mark is a lexeme before anything, and goes on with no number. -/
structure IsMark (c : Char) (lexeme : Lexeme) : Prop where
  visible : isSpace c = false
  ends : isDigit c = false ∧ c ∉ ['.', 'e', 'E']
  cut : ∀ s, Json.lexeme c s = (lexeme, s)

theorem IsMark.spells {c : Char} {mark : Lexeme} (isMark : IsMark c mark) {s : List Char}
    {lexemes : List Lexeme} (spells : Spells s lexemes) : Spells (c :: s) (mark :: lexemes) :=
  .lexeme (w := []) isMark.visible (isMark.cut s) spells

theorem IsMark.endsNumber {c : Char} {mark : Lexeme} (isMark : IsMark c mark) (s : List Char) :
    EndsNumber (c :: s) := endsNumber_cons isMark.ends s

theorem isMark_comma : IsMark ',' .comma := ⟨rfl, by decide, fun _ => rfl⟩

theorem isMark_colon : IsMark ':' .colon := ⟨rfl, by decide, fun _ => rfl⟩

theorem isMark_openList : IsMark '[' .openList := ⟨rfl, by decide, fun _ => rfl⟩

theorem isMark_closeList : IsMark ']' .closeList := ⟨rfl, by decide, fun _ => rfl⟩

theorem isMark_openObject : IsMark '\x7b' .openObject := ⟨rfl, by decide, fun _ => rfl⟩

theorem isMark_closeObject : IsMark '\x7d' .closeObject := ⟨rfl, by decide, fun _ => rfl⟩

theorem writes_gap_append {gap w : List Char} {lexemes : List Lexeme} (isGap : IsGap gap)
    (writes : Writes w lexemes) : Writes (gap ++ w) lexemes := by
  intro s more ends spells
  rw [List.append_assoc]
  exact (writes s more ends spells).gap isGap

/-- Parts between commas stand for their lexemes between commas. -/
theorem writes_intercalate {gap : List Char} (isGap : IsGap gap) {parts : List (List Char)}
    {lists : List (List Lexeme)} (each : List.Forall₂ Writes parts lists) :
    Writes ((',' :: gap).intercalate parts) ([Lexeme.comma].intercalate lists) := by
  induction each with
  | nil => exact fun s more _ spells => spells
  | @cons w lexemes parts lists writes later ih =>
      cases later with
      | nil => simpa using writes
      | @cons next _ parts lists _ _ =>
          intro s more ends spells
          rw [List.intercalate_cons_cons, List.intercalate_cons_cons]
          simp only [List.append_assoc, List.cons_append, List.nil_append]
          exact writes _ _ (isMark_comma.endsNumber _)
            (isMark_comma.spells ((ih s more ends spells).gap isGap))

/-- Brackets around a text, with gaps inside them. -/
theorem writes_brackets {opening closing : Char} {first last : Lexeme} (opens : IsMark opening first)
    (closes : IsMark closing last) {before after w : List Char} (gapBefore : IsGap before)
    (gapAfter : IsGap after) {lexemes : List Lexeme} (writes : Writes w lexemes) :
    Writes (opening :: (before ++ w ++ (after ++ [closing]))) (first :: (lexemes ++ [last])) := by
  intro s more ends spells
  have closed : Spells (closing :: s) (last :: more) := closes.spells spells
  have inside := writes _ _ (endsNumber_gap gapAfter (closes.endsNumber s)) (closed.gap gapAfter)
  have opened := opens.spells (inside.gap gapBefore)
  simpa using opened

/-- A text that starts with no blank and is cut as one lexeme. -/
theorem writes_lexeme {c : Char} {w : List Char} {lexeme : Lexeme} (visible : isSpace c = false)
    (cut : ∀ s, EndsNumber s → Json.lexeme c (w ++ s) = (lexeme, s)) : Writes (c :: w) [lexeme] :=
  fun s _ ends spells => .lexeme visible (cut s ends) spells

theorem writes_quote (s : String) : Writes (quote s).toList [.scalar (text s)] := by
  rw [toList_quote]
  refine writes_lexeme (by decide) fun rest _ => lexeme_of_scalar? (by decide) ?_
  rw [← List.cons_append, ← toList_quote]
  exact scalar?_quote s rest

theorem writes_number {v : Int} (low : Int64.minValue.toInt ≤ v) (high : v < UInt64.size) :
    Writes (signedNumeral v) [.scalar (int v)] := by
  obtain ⟨c, digits, whole, start⟩ := exists_signedNumeral_eq v
  have apart : ∀ d ∈ [' ', '\n', '\t', '\r', '[', ']', '\x7b', '\x7d', ',', ':', '"', 'n', 't', 'f'],
      c ≠ d := by
    simp only [List.forall_mem_cons, List.not_mem_nil, false_implies, implies_true, and_true]
    and_intros <;> rintro rfl <;> exact absurd start (by decide)
  simp only [List.forall_mem_cons, List.not_mem_nil, false_implies, implies_true, and_true] at apart
  rw [whole]
  refine writes_lexeme (by simp [isSpace, apart]) fun rest ends => lexeme_of_scalar? (by simp [apart]) ?_
  have read := number?_signedNumeral low high ends
  rw [whole, List.cons_append] at read
  rw [scalar?]
  · exact read
  all_goals simp [apart]

/-- A name and a document with a colon between them. -/
theorem writes_field {gap w : List Char} (isGap : IsGap gap) (name : String) {lexemes : List Lexeme}
    (writes : Writes w lexemes) :
    Writes ((quote name).toList ++ ':' :: (gap ++ w)) (.scalar (text name) :: .colon :: lexemes) := by
  intro s more ends spells
  have value := isMark_colon.spells ((writes s more ends spells).gap isGap)
  have named := writes_quote name _ _ (isMark_colon.endsNumber _) value
  simpa using named

theorem compactItems_eq_map (items : List Json) : compactItems items = items.map compact := by
  induction items with
  | nil => rfl
  | cons item rest ih => rw [compactItems, ih, List.map_cons]

theorem compactFields_eq_map (fields : List (String × Json)) :
    compactFields fields = fields.map fun (name, value) => quote name ++ ":" ++ compact value := by
  induction fields with
  | nil => rfl
  | cons field rest ih => rw [compactFields, ih, List.map_cons]

theorem prettyItems_eq_map (margin : String) (items : List Json) :
    prettyItems margin items = items.map (prettyAt margin) := by
  induction items with
  | nil => rfl
  | cons item rest ih => rw [prettyItems, ih, List.map_cons]

theorem prettyFields_eq_map (margin : String) (fields : List (String × Json)) :
    prettyFields margin fields =
      fields.map fun (name, value) => quote name ++ ": " ++ prettyAt margin value := by
  induction fields with
  | nil => rfl
  | cons field rest ih => rw [prettyFields, ih, List.map_cons]

/-- Parts between commas, one for each member of a list. -/
theorem writes_parts {α : Type} {gap : List Char} (isGap : IsGap gap) {members : List α}
    {part : α → List Char} {lexemes : α → List Lexeme}
    (each : ∀ x ∈ members, Writes (part x) (lexemes x)) :
    Writes ((',' :: gap).intercalate (members.map part))
      ([Lexeme.comma].intercalate (members.map lexemes)) := by
  refine writes_intercalate isGap ?_
  rw [List.forall₂_map_left_iff, List.forall₂_map_right_iff, List.forall₂_same]
  exact each

/-- A plain document without any space stands for its lexemes. -/
theorem writes_compact {j : Json} (plain : j.IsPlain) : Writes j.compact.toList (lexemesOf j) := by
  induction plain with
  | null => exact writes_lexeme (by decide) fun _ _ => rfl
  | bool value => cases value <;> exact writes_lexeme (by decide) fun _ _ => rfl
  | int low high =>
      rw [compact, String.toList_ofList]
      exact writes_number low high
  | text value => exact writes_quote value
  | @list items each ih =>
      have inside := writes_brackets isMark_openList isMark_closeList isGap_nil isGap_nil
        (writes_parts isGap_nil ih)
      rw [lexemesOf_list]
      simpa [compact, compactItems_eq_map, Function.comp_def] using inside
  | @object fields each ih =>
      have named : ∀ field ∈ fields, Writes ((quote field.1).toList ++ ':' :: field.2.compact.toList)
          (lexemesOfField field) := fun field member => writes_field isGap_nil field.1 (ih field member)
      have inside := writes_brackets isMark_openObject isMark_closeObject isGap_nil isGap_nil
        (writes_parts isGap_nil named)
      rw [lexemesOf_object]
      simpa [compact, compactFields_eq_map, Function.comp_def] using inside

/-- Parts on lines of their own between brackets. -/
theorem writes_indented {α : Type} {opening closing : Char} {first last : Lexeme}
    (opens : IsMark opening first) (closes : IsMark closing last) {margin : String}
    (isGap : IsGap margin.toList) {members : List α} {part : α → String} {lexemes : α → List Lexeme}
    (each : ∀ x ∈ members, Writes (part x).toList (lexemes x)) :
    Writes (indented (String.singleton opening) (String.singleton closing) margin (members.map part)).toList
      (first :: ([Lexeme.comma].intercalate (members.map lexemes) ++ [last])) := by
  have lineEnd : IsGap ['\n'] := by decide
  rw [indented]
  split
  · next none =>
    have empty : members = [] := by simpa using none
    have nothing : Writes [] [] := fun _ _ _ spells => spells
    simpa [empty] using writes_brackets opens closes isGap_nil isGap_nil nothing
  · have lines := writes_parts lineEnd fun x member => writes_gap_append (isGap_indent isGap) (each x member)
    have after : IsGap ('\n' :: margin.toList) := List.forall_mem_cons.mpr ⟨rfl, isGap⟩
    simpa [Function.comp_def] using writes_brackets opens closes lineEnd after lines

/-- A plain document on indented lines stands for its lexemes. -/
theorem writes_prettyAt {j : Json} (plain : j.IsPlain) {margin : String} (isGap : IsGap margin.toList) :
    Writes (prettyAt margin j).toList (lexemesOf j) := by
  induction plain generalizing margin with
  | null => exact writes_compact .null
  | bool value => exact writes_compact (.bool value)
  | int low high => exact writes_compact (.int low high)
  | text value => exact writes_compact (.text value)
  | @list items each ih =>
      rw [prettyAt, prettyItems_eq_map, lexemesOf_list]
      exact writes_indented isMark_openList isMark_closeList isGap fun item member =>
        ih item member (isGap_indent isGap)
  | @object fields each ih =>
      rw [prettyAt, prettyFields_eq_map, lexemesOf_object]
      refine writes_indented isMark_openObject isMark_closeObject isGap fun field member => ?_
      have space : IsGap [' '] := by decide
      have value := ih field member (isGap_indent isGap)
      simpa [lexemesOfField] using writes_field space field.1 value

/-! ## From lexemes to documents -/

/-- What a complete value leaves to do: nothing, or to go on with what is open. -/
def resume (value : Json) (stack : List Frame) (rest : List Lexeme) : Json × List Lexeme :=
  match stack with
  | [] => (value, rest)
  | frame :: stack => assemble (frame.put value :: stack) .separator rest

variable {stack : List Frame} {place : Place}

theorem assemble_of_next {lexeme : Lexeme} {stack' : List Frame} {place' : Place}
    (goesOn : move stack place lexeme = .next stack' place') (rest : List Lexeme) :
    assemble stack place (lexeme :: rest) = assemble stack' place' rest := by
  rw [assemble, goesOn]

theorem assemble_of_afterValue {lexeme : Lexeme} {value : Json} {stack' : List Frame}
    (completes : move stack place lexeme = afterValue value stack') (rest : List Lexeme) :
    assemble stack place (lexeme :: rest) = resume value stack' rest := by
  rw [assemble, completes]
  cases stack' <;> rfl

section Group

variable {α : Type} {frame : List α → Frame} {part : α → List Lexeme} {whole : List α → Json}
  {start again : Place} {close : Lexeme}

/-- The members that are left of a list or of an object are put into it, and then it is closed. -/
theorem assemble_from
    (goesOn : ∀ done, move (frame done :: stack) .separator .comma = .next (frame done :: stack) again)
    (closes : ∀ done, move (frame done :: stack) .separator close = afterValue (whole done.reverse) stack)
    (rest : List Lexeme) {x : α} {members : List α}
    (puts : ∀ y ∈ x :: members, ∀ place, place = start ∨ place = again → ∀ done rest,
      assemble (frame done :: stack) place (part y ++ rest) =
        assemble (frame (y :: done) :: stack) .separator rest)
    (here : place = start ∨ place = again) (done : List α) :
    assemble (frame done :: stack) place
        ([Lexeme.comma].intercalate ((x :: members).map part) ++ close :: rest) =
      resume (whole (done.reverse ++ x :: members)) stack rest := by
  induction members generalizing x place done with
  | nil =>
      rw [List.map_singleton, List.intercalate_singleton, puts x (List.mem_cons_self ..) place here,
        assemble_of_afterValue (closes _), List.reverse_cons]
  | cons y members ih =>
      have later := ih (x := y) (fun z member => puts z (List.mem_cons_of_mem _ member)) (.inr rfl) (x :: done)
      rw [List.map_cons] at later
      rw [List.map_cons, List.map_cons, List.intercalate_cons_cons, List.append_assoc, List.append_assoc,
        puts x (List.mem_cons_self ..) place here, List.singleton_append, assemble_of_next (goesOn _),
        later, List.reverse_cons, List.append_assoc, List.singleton_append]

/-- The members of a list or of an object are put into it one after the other, and then it is closed. -/
theorem assemble_members {members : List α}
    (goesOn : ∀ done, move (frame done :: stack) .separator .comma = .next (frame done :: stack) again)
    (closes : ∀ place, place = start ∨ place = .separator → ∀ done,
      move (frame done :: stack) place close = afterValue (whole done.reverse) stack)
    (rest : List Lexeme)
    (puts : ∀ x ∈ members, ∀ place, place = start ∨ place = again → ∀ done rest,
      assemble (frame done :: stack) place (part x ++ rest) =
        assemble (frame (x :: done) :: stack) .separator rest) :
    assemble (frame [] :: stack) start ([Lexeme.comma].intercalate (members.map part) ++ close :: rest) =
      resume (whole members) stack rest := by
  cases members with
  | nil => exact assemble_of_afterValue (closes start (.inl rfl) []) rest
  | cons x members => exact assemble_from goesOn (closes .separator (.inr rfl)) rest puts (.inl rfl) []

end Group

/-- The lexemes of a plain document are put together to the document, wherever a value may stand. -/
theorem assemble_lexemesOf {j : Json} (plain : j.IsPlain)
    (start : place = .value ∨ place = .valueOrClose) (rest : List Lexeme) :
    assemble stack place (lexemesOf j ++ rest) = resume j stack rest := by
  induction plain generalizing stack place rest with
  | null | bool _ | int _ _ | text _ =>
      rcases start with rfl | rfl <;> exact assemble_of_afterValue rfl rest
  | @list items each ih =>
      have opens : move stack place .openList = .next (.list [] :: stack) .valueOrClose := by
        rcases start with rfl | rfl <;> rfl
      have goesOn (done : List Json) : move (.list done :: stack) .separator .comma =
          .next (.list done :: stack) .value := rfl
      rw [lexemesOf_list, List.cons_append, assemble_of_next opens, List.append_assoc]
      refine assemble_members goesOn (fun place closes done => ?_) rest
        fun item member place start done rest => ih item member start.symm rest
      rcases closes with rfl | rfl <;> rfl
  | @object fields each ih =>
      have opens : move stack place .openObject = .next (.object [] :: stack) .nameOrClose := by
        rcases start with rfl | rfl <;> rfl
      have goesOn (done : List (String × Json)) : move (.object done :: stack) .separator .comma =
          .next (.object done :: stack) .name := rfl
      rw [lexemesOf_object, List.cons_append, assemble_of_next opens, List.append_assoc]
      refine assemble_members goesOn (fun place closes done => ?_) rest
        fun field member place start done rest => ?_
      · rcases closes with rfl | rfl <;> rfl
      · have named : move (.object done :: stack) place (.scalar (.text field.1)) =
            .next (.field done field.1 :: stack) .colon := by
          rcases start with rfl | rfl <;> rfl
        rw [lexemesOfField, List.cons_append, List.cons_append, assemble_of_next named,
          assemble_of_next (by rfl), ih field member (.inl rfl)]
        rfl

/-- A text that stands for the lexemes of a plain document is read as the document. -/
theorem read_of_writes {j : Json} (plain : j.IsPlain) {s : String}
    (writes : Writes s.toList (lexemesOf j)) : read s = j := by
  have nothing : EndsNumber [] := fun _ impossible => nomatch impossible
  have spells := writes [] [] nothing .nil
  rw [List.append_nil, List.append_nil] at spells
  have whole : assemble [] .value (lexemesOf j ++ []) = resume j [] [] :=
    assemble_lexemesOf plain (.inl rfl) []
  rw [List.append_nil] at whole
  rw [read, lexemes_eq_of_spells spells, whole]
  rfl

/-- A plain document is read back from its text without any space. -/
theorem read_compact {j : Json} (plain : j.IsPlain) : read j.compact = j :=
  read_of_writes plain (writes_compact plain)

/-- A plain document is read back from its text on indented lines. -/
theorem read_pretty {j : Json} (plain : j.IsPlain) : read j.pretty = j :=
  read_of_writes plain (writes_prettyAt plain isGap_nil)

end Json

end Tagboard
