import Tagboard.Proofs.LineScalars
import Tagboard.Proofs.TypedText

/-!
# Scalars of several lines are read back

A text of several lines is written line by line behind a bar, at an indentation of two. The mark at
the bar keeps what the lines alone do not tell: blanks at the start of the text, and how many line
ends stand at its end.
-/

namespace Tagboard.Yaml

open Text

variable {s : List Char}

/-- The lines of a text, without an empty last one. -/
def blockLines (s : List Char) : List (List Char) :=
  let lines := split (· == '\n') s
  if lines.getLast? == some [] then lines.dropLast else lines

/-- A line inside a block. -/
def margined (line : List Char) : List Char := if line.isEmpty then [] else ' ' :: ' ' :: line

theorem writeBlock_eq (s : List Char) :
    writeBlock s = writeBlockMark s ++ (blockLines s).flatMap fun line => '\n' :: margined line := by
  have piece (line : List Char) :
      (if line.isEmpty then ['\n'] else ['\n', ' ', ' '] ++ line) = '\n' :: margined line := by
    cases line <;> rfl
  rw [writeBlock]
  simp only [piece]
  rfl

theorem mem_split_of_mem_blockLines {line : List Char} (member : line ∈ blockLines s) :
    line ∈ split (· == '\n') s := by
  simp only [blockLines] at member
  split at member
  · exact (List.dropLast_sublist _).subset member
  · exact member

theorem split_append_flatMap {head : List Char} {lines : List (List Char)}
    (head_free : ∀ c ∈ head, (c == '\n') = false)
    (free : ∀ line ∈ lines, ∀ c ∈ line, (c == '\n') = false) :
    split (· == '\n') (head ++ lines.flatMap fun line => '\n' :: line) = head :: lines := by
  induction lines generalizing head with
  | nil => rw [List.flatMap_nil, List.append_nil, split_eq_singleton head_free]
  | cons line lines ih =>
      rw [List.forall_mem_cons] at free
      rw [List.flatMap_cons, List.cons_append, split_append_cons head_free rfl, ih free.1 free.2]

theorem flatMap_split (s : List Char) :
    (split (· == '\n') s).flatMap (· ++ ['\n']) = s ++ ['\n'] := by
  induction s with
  | nil => rfl
  | cons c rest ih =>
      rw [split]
      cases feed : c == '\n' with
      | true =>
          rw [if_pos rfl, List.flatMap_cons, ih, eq_of_beq feed]
          rfl
      | false =>
          rw [if_neg Bool.false_ne_true]
          cases pieces : split (· == '\n') rest with
          | nil => exact absurd pieces (split_ne_nil _ rest)
          | cons piece pieces' =>
              rw [pieces] at ih
              rw [List.cons_append, ← ih]
              rfl

theorem mem_of_mem_split {piece : List Char} {c : Char} (member : piece ∈ split (· == '\n') s)
    (inside : c ∈ piece) : c ∈ s := by
  have free := isSeparator_of_mem_split member c inside
  have whole : c ∈ s ++ ['\n'] := by
    rw [← flatMap_split]
    exact List.mem_flatMap.mpr ⟨piece, member, List.mem_append_left _ inside⟩
  rcases List.mem_append.mp whole with early | last
  · exact early
  · rw [List.mem_singleton.mp last] at free
    exact absurd free (by decide)

/-- What the lines of a text are together: the text, with a line feed at its end. -/
theorem flatMap_blockLines (nonempty : s ≠ []) :
    (blockLines s).flatMap (· ++ ['\n']) = if s.getLast? = some '\n' then s else s ++ ['\n'] := by
  obtain ⟨init, last, parts⟩ : ∃ init last, split (· == '\n') s = init ++ [last] :=
    ⟨_, _, (List.dropLast_append_getLast (split_ne_nil _ s)).symm⟩
  have whole : init.flatMap (· ++ ['\n']) ++ last = s := by
    have together := flatMap_split s
    rw [parts, List.flatMap_append, List.flatMap_singleton, ← List.append_assoc] at together
    exact List.append_cancel_right together
  cases last with
  | nil =>
      rw [List.append_nil] at whole
      have fed : s.getLast? = some '\n' := by
        rw [← whole] at nonempty ⊢
        rcases init.eq_nil_or_concat with rfl | ⟨init, line, rfl⟩
        · exact absurd rfl nonempty
        · simp
      simp [blockLines, parts, fed, whole]
  | cons c rest =>
      have unfed : s.getLast? ≠ some '\n' := by
        have listed : c :: rest ∈ split (· == '\n') s := by simp [parts]
        have free := isSeparator_of_mem_split listed
        rw [← whole, List.getLast?_append_of_ne_nil _ (List.cons_ne_nil c rest)]
        intro last
        exact absurd (free '\n' (List.mem_of_getLast? last)) (by decide)
      have lines : blockLines s = init ++ [c :: rest] := by simp [blockLines, parts]
      rw [if_neg unfed, lines, ← whole]
      simp

/-- What happens to the line ends at the end of a text that is written line by line. -/
def chompingOf (s : List Char) : Chomping :=
  match s.reverse with
  | '\n' :: '\n' :: _ | ['\n'] => .keep
  | '\n' :: _ => .clip
  | _ => .strip

/-- The lines of a text, chomped as the text asks for, are the text. -/
theorem chomp_blockLines (nonempty : s ≠ []) : chomp (chompingOf s) (blockLines s) = s := by
  have text := flatMap_blockLines nonempty
  rw [List.getLast?_eq_head?_reverse] at text
  have whole : s.reverse.reverse = s := s.reverse_reverse
  simp only [chomp, text, chompingOf]
  cases reversed : s.reverse with
  | nil => exact absurd (List.reverse_eq_nil_iff.mp reversed) nonempty
  | cons c before =>
      rw [reversed] at whole
      by_cases fed : c = '\n'
      · subst fed
        cases before with
        | nil => simp [← whole]
        | cons d before => by_cases twice : d = '\n' <;> simp [← whole, twice]
      · simp [fed, ← whole]

theorem replicate_append_dropWhile (line : List Char) :
    List.replicate (line.takeWhile (· == ' ')).length ' ' ++ line.dropWhile (· == ' ') = line := by
  have spaces : line.takeWhile (· == ' ') = List.replicate (line.takeWhile (· == ' ')).length ' ' :=
    List.eq_replicate_of_mem fun c member => by
      simpa using List.all_eq_true.mp List.all_takeWhile c member
  rw [← spaces, List.takeWhile_append_dropWhile]

/-- A line inside a block is read as a line at an indentation of two. -/
theorem ofText_margined (line : List Char) :
    let read := Line.ofText (margined line)
    (read.text.isEmpty = true ∨ 2 ≤ read.indent) ∧
      List.replicate (read.indent - 2) ' ' ++ read.text = line := by
  cases line with
  | nil => exact ⟨.inl rfl, rfl⟩
  | cons c rest =>
      refine ⟨.inr ?_, replicate_append_dropWhile (c :: rest)⟩
      exact Nat.le_add_left 2 ((c :: rest).takeWhile (· == ' ')).length

theorem belongs_margined (line : List Char) : (Line.ofText (margined line)).belongs 0 = true := by
  rw [Line.belongs, Bool.or_assoc]
  rcases (ofText_margined line).1 with empty | deep
  · have void : (Line.ofText (margined line)).isVoid = true := by
      rw [Line.isVoid, List.isEmpty_iff.mp empty]
      rfl
    rw [void, Bool.true_or]
  · have deeper : decide (0 < (Line.ofText (margined line)).indent) = true := by
      rw [decide_eq_true_eq]
      omega
    rw [deeper, Bool.true_or, Bool.or_true]

/-- The extra indentation that stands behind the bar of a text. -/
def extraOf (s : List Char) : Option Nat :=
  if s.head?.any fun c => c == ' ' || c == '\n' then some 2 else none

/-- How the line ends at the end of a text are marked. -/
def Chomping.mark : Chomping → List Char
  | strip => ['-']
  | clip => []
  | keep => ['+']

theorem writeBlockMark_eq (s : List Char) :
    writeBlockMark s =
      '|' :: ((if (extraOf s).isSome then ['2'] else []) ++ (chompingOf s).mark) := by
  refine congrArg ('|' :: ·) (congrArg₂ List.append ?_ ?_)
  · rw [extraOf]
    split <;> rfl
  · rw [chompingOf]
    rcases s.reverse with _ | ⟨c, _ | ⟨d, before⟩⟩
    · rfl
    · by_cases fed : c = '\n'
      · subst fed
        rfl
      · simp [fed, Chomping.mark]
    · by_cases fed : c = '\n'
      · subst fed
        by_cases twice : d = '\n' <;> simp [twice, Chomping.mark]
      · simp [fed, Chomping.mark]

/-- The mark of a text is read as it was written. -/
theorem exists_mark (s : List Char) :
    ∃ mark, writeBlockMark s = '|' :: mark ∧ (∀ c ∈ mark, isInLine c = true) ∧
      blockMark? (trimGaps (beforeComment true mark)) = some (extraOf s, chompingOf s) := by
  refine ⟨_, writeBlockMark_eq s, ?_⟩
  rw [extraOf]
  split <;> cases chompingOf s <;> exact ⟨List.all_eq_true.mp (by decide), rfl⟩

/-- Lines of a block, of which the mark or the first line gives the margin, are read back. -/
theorem block?_margined {mark : List Char} {extra? : Option Nat} {chomping : Chomping}
    {lines : List (List Char)}
    (marked : blockMark? (trimGaps (beforeComment true mark)) = some (extra?, chomping))
    (margin : extra? = some 2 ∨ extra? = none ∧
      ∃ first rest, lines = first :: rest ∧ (first.head?.any fun c => c != ' ') = true) :
    block? 0 mark (lines.map fun line => Line.ofText (margined line)) =
      some (.scalar ⟨String.ofList (chomp chomping lines), false⟩) := by
  have inside : ∀ read ∈ lines.map fun line => Line.ofText (margined line),
      (read.text.isEmpty || (decide (2 ≤ read.indent) && decide (0 < 2))) = true := by
    intro read member
    obtain ⟨line, -, rfl⟩ := List.mem_map.mp member
    rcases (ofText_margined line).1 with empty | deep
    · rw [empty, Bool.true_or]
    · simp [deep]
  have texts : (lines.map fun line => Line.ofText (margined line)).map (fun read =>
      List.replicate (read.indent - 2) ' ' ++ read.text) = lines := by
    rw [List.map_map]
    exact (List.map_congr_left fun line _ => (ofText_margined line).2).trans lines.map_id
  rw [block?, marked]
  rcases margin with rfl | ⟨rfl, first, rest, rfl, start⟩
  · simp only [Option.bind_eq_bind, Option.bind_some, Nat.zero_add,
      List.dropWhile_eq_nil_iff.mpr inside, List.takeWhile_eq_self_iff.mpr inside, texts]
    rfl
  · have indent : (((first :: rest).map fun line => Line.ofText (margined line)).find?
        (!·.text.isEmpty)).map Line.indent = some 2 := by
      cases first with
      | nil => exact absurd start Bool.false_ne_true
      | cons c first =>
        have noSpace : c ≠ ' ' := by simpa using start
        simp [margined, Line.ofText, noSpace]
    simp only [Option.bind_eq_bind, Option.bind_some, indent, Option.getD_some,
      List.dropWhile_eq_nil_iff.mpr inside, List.takeWhile_eq_self_iff.mpr inside, texts]
    rfl

theorem margin_blockLines (s : List Char) (nonempty : s ≠ []) :
    extraOf s = some 2 ∨ extraOf s = none ∧
      ∃ first rest, blockLines s = first :: rest ∧ (first.head?.any fun c => c != ' ') = true := by
  rw [extraOf]
  cases s with
  | nil => exact absurd rfl nonempty
  | cons c s =>
    by_cases edge : c = ' ' ∨ c = '\n'
    · left
      rw [if_pos (by simpa using edge)]
    · right
      refine ⟨if_neg (by simpa using edge), ?_⟩
      rw [not_or] at edge
      have pieces : ∃ first rest, split (· == '\n') (c :: s) = (c :: first) :: rest := by
        rw [split, if_neg (by simpa using edge.2)]
        cases split (· == '\n') s with
        | nil => exact ⟨[], [], rfl⟩
        | cons piece pieces => exact ⟨piece, pieces, rfl⟩
      obtain ⟨first, rest, pieces⟩ := pieces
      refine ⟨c :: first, if rest.getLast? == some [] then rest.dropLast else rest, ?_,
        by simpa using edge.1⟩
      rw [blockLines, pieces]
      cases rest with
      | nil => rfl
      | cons piece rest =>
        rw [List.getLast?_cons_cons, List.dropLast_cons_cons]
        split <;> rfl

end Tagboard.Yaml
