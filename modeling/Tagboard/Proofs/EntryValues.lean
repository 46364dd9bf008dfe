import Tagboard.Proofs.BlockScalars
import Tagboard.Proofs.Traverse

/-!
# Values of entries are read back

What stands behind the colon of a key is read as a value, whatever entries follow: a text in each of
the four ways in which it may be written, a number, a truth value, and a list of numbers with one item
a line.
-/

namespace Tagboard.Yaml

open Text

variable {s : List Char}

/-- A text behind the colon of a key that is read as a value: it starts with a gap, unless it starts
with a line end, and its other lines belong to the entry of the key. -/
structure IsBody (body : List Char) (value : Value) : Prop where
  readable : ∀ c ∈ body, isInLine c = true ∨ c = '\n'
  parts : ∃ head lines, split (· == '\n') body = head :: lines ∧
    (head.isEmpty || head.head?.any isGap) = true ∧
    (∀ line ∈ lines, (Line.ofText line).belongs 0 = true) ∧
    entryValue? 0 (head.dropWhile isGap) (lines.map Line.ofText) = some value

theorem ne_lineFeed_of_isInLine {c : Char} (inner : isInLine c = true) : (c == '\n') = false := by
  simp only [isInLine, Bool.and_eq_true, bne_iff_ne] at inner
  simpa using inner.2

/-- A line that is a value stands behind a key as it is. -/
theorem IsBody.of_line {c : Char} {rest : List Char} {value : Value}
    (inner : ∀ x ∈ c :: rest, isInLine x = true) (noGap : isGap c = false)
    (noMark : c ≠ '|' ∧ c ≠ '#') (ends : trimGaps (c :: rest) = c :: rest)
    (read : value? (c :: rest) = some value) : IsBody (' ' :: c :: rest) value where
  readable x member := by
    rcases List.mem_cons.mp member with rfl | inside
    · exact .inl (by decide)
    · exact .inl (inner x inside)
  parts := by
    have free : ∀ x ∈ ' ' :: c :: rest, (x == '\n') = false := by
      rw [List.forall_mem_cons]
      exact ⟨by decide, fun x inside => ne_lineFeed_of_isInLine (inner x inside)⟩
    refine ⟨_, [], split_eq_singleton free, rfl, nofun, ?_⟩
    rw [List.dropWhile_cons_of_pos (by decide), List.dropWhile_cons_of_neg (by simp [noGap]),
      List.map_nil, entryValue?_line ends (by simpa using noMark.1) (by simpa using noMark.2)
        (List.cons_ne_nil c rest), read]

theorem IsBody.of_isPlain (plain : isPlain s = true) (visible : ∀ c ∈ s, isHidden c = false)
    (oneLine : '\n' ∉ s) : IsBody (' ' :: s) (.scalar ⟨String.ofList s, true⟩) := by
  have read := value?_of_isPlain plain visible
  have ends := trimGaps_of_isPlain plain visible
  simp only [isPlain, Bool.and_eq_true] at plain
  obtain ⟨c, rest, rfl, noGap, unindicated⟩ := exists_cons_of_startsPlain plain.1.1
  refine .of_line (fun x member => isInLine_of_isHidden (visible x member) ?_) noGap ?_ ends read
  · rintro rfl
    exact oneLine member
  · constructor <;> rintro rfl <;> exact absurd unindicated (by decide)

theorem IsBody.writeDouble (s : List Char) :
    IsBody (' ' :: writeDouble s) (.scalar ⟨String.ofList s, false⟩) := by
  exact .of_line (fun x => isInLine_of_mem_writeDouble) (by decide) (by decide)
    (trimGaps_concat (s := '"' :: s.flatMap escapeDouble) (by decide)) (value?_writeDouble s)

theorem IsBody.writeSingle (visible : ∀ c ∈ s, isHidden c = false) (oneLine : '\n' ∉ s) :
    IsBody (' ' :: writeSingle s) (.scalar ⟨String.ofList s, false⟩) := by
  refine .of_line (fun x member => ?_) (by decide) (by decide)
    (trimGaps_concat (s := '\'' :: s.flatMap _) (by decide)) (value?_writeSingle s)
  rcases mem_of_mem_writeSingle member with rfl | inside
  · decide
  · refine isInLine_of_isHidden (visible x inside) ?_
    rintro rfl
    exact oneLine inside

theorem IsBody.writeBlock (visible : ∀ c ∈ s, isHidden c = false) (nonempty : s ≠ []) :
    IsBody (' ' :: writeBlock s) (.scalar ⟨String.ofList s, false⟩) := by
  obtain ⟨mark, written, mark_inner, marked⟩ := exists_mark s
  have head_inner : ∀ c ∈ ' ' :: '|' :: mark, isInLine c = true := by
    simp only [List.forall_mem_cons]
    exact ⟨by decide, by decide, mark_inner⟩
  have line_inner : ∀ line ∈ (blockLines s).map margined, ∀ c ∈ line, isInLine c = true := by
    intro line member c inside
    obtain ⟨inner, listed, rfl⟩ := List.mem_map.mp member
    have piece := mem_split_of_mem_blockLines listed
    rw [margined] at inside
    split at inside
    · exact absurd inside List.not_mem_nil
    · rcases List.mem_cons.mp inside with rfl | inside
      · decide
      rcases List.mem_cons.mp inside with rfl | inside
      · decide
      have member := mem_of_mem_split piece inside
      refine isInLine_of_isHidden (visible c member) ?_
      simpa using isSeparator_of_mem_split piece c inside
  have body : ' ' :: Yaml.writeBlock s = (' ' :: '|' :: mark) ++
      ((blockLines s).map margined).flatMap fun line => '\n' :: line := by
    rw [writeBlock_eq, written, List.flatMap_map]
    rfl
  rw [body]
  constructor
  · intro c member
    rcases List.mem_append.mp member with inside | inside
    · exact .inl (head_inner c inside)
    · obtain ⟨line, listed, inside⟩ := List.mem_flatMap.mp inside
      rcases List.mem_cons.mp inside with rfl | inside
      · exact .inr rfl
      · exact .inl (line_inner line listed c inside)
  · refine ⟨_, _, split_append_flatMap (fun c inside => ne_lineFeed_of_isInLine (head_inner c inside))
      (fun line listed c inside => ne_lineFeed_of_isInLine (line_inner line listed c inside)),
      rfl, ?_, ?_⟩
    · intro line member
      obtain ⟨inner, -, rfl⟩ := List.mem_map.mp member
      exact belongs_margined inner
    · rw [List.map_map, List.dropWhile_cons_of_pos (by decide), List.dropWhile_cons_of_neg (by decide)]
      exact (block?_margined marked (margin_blockLines s nonempty)).trans
        (by rw [chomp_blockLines nonempty])

/-- A text is read back from what is written of it. -/
theorem isBody_writeText (text : String) :
    ∃ plain, IsBody (' ' :: (writeText text).toList) (.scalar ⟨text, plain⟩) := by
  obtain ⟨s, rfl⟩ : ∃ s, text = String.ofList s := ⟨text.toList, String.ofList_toList.symm⟩
  rw [writeText, String.toList_ofList, String.toList_ofList]
  split
  · exact ⟨_, .writeDouble s⟩
  next visible =>
  have visible : ∀ c ∈ s, isHidden c = false := by simpa using visible
  split
  · next several =>
    split
    · exact ⟨_, .writeDouble s⟩
    · refine ⟨_, .writeBlock visible ?_⟩
      rintro rfl
      exact absurd several (by decide)
  · next oneLine =>
    have oneLine : '\n' ∉ s := by simpa using oneLine
    split
    · exact ⟨_, .writeSingle visible oneLine⟩
    · next plain =>
      rw [Bool.or_eq_true, not_or, Bool.not_eq_true', Bool.not_eq_false] at plain
      exact ⟨_, .of_isPlain plain.2 visible oneLine⟩

/-- Whether a character stands for nothing but itself, wherever it is. -/
def isSimple (c : Char) : Bool :=
  !isHidden c && c != '\n' && !isGap c && !isIndicator c &&
    !(['-', '?', ':'].contains c)

/-- A text that needs no quotes, neither as a key nor as a value. -/
structure IsSimple (s : List Char) : Prop where
  nonempty : s ≠ []
  simple : ∀ c ∈ s, isSimple c = true

namespace IsSimple

theorem of_all (nonempty : s ≠ []) (simple : s.all isSimple = true) : IsSimple s :=
  ⟨nonempty, List.all_eq_true.mp simple⟩

variable (isSimple : IsSimple s)

include isSimple

theorem exists_cons : ∃ c rest, s = c :: rest ∧ Yaml.isSimple c = true := by
  obtain ⟨c, rest, rfl⟩ := List.exists_cons_of_ne_nil isSimple.nonempty
  exact ⟨c, rest, rfl, isSimple.simple c (List.mem_cons_self ..)⟩

theorem visible : ∀ c ∈ s, isHidden c = false := fun c member => by
  have simple := isSimple.simple c member
  simp only [Yaml.isSimple, Bool.and_eq_true, Bool.not_eq_true'] at simple
  exact simple.1.1.1.1

theorem oneLine : '\n' ∉ s := fun member =>
  absurd (isSimple.simple '\n' member) (by decide)

theorem isInLine : ∀ c ∈ s, isInLine c = true := fun c member =>
  isInLine_of_isHidden (isSimple.visible c member) fun same => isSimple.oneLine (same ▸ member)

theorem hasMark_eq_false (afterGap : Bool) : hasMark afterGap s = false := by
  have free : ∀ c ∈ s, c ≠ '#' ∧ c ≠ ':' := fun c member => by
    have simple := isSimple.simple c member
    constructor <;> rintro rfl <;> exact absurd simple (by decide)
  clear isSimple
  induction s generalizing afterGap with
  | nil => rfl
  | cons c rest ih =>
      rw [List.forall_mem_cons] at free
      simp [hasMark, free.1, ih _ free.2]

theorem startsPlain_append (behind : List Char) : startsPlain (s ++ behind) = true := by
  obtain ⟨c, rest, rfl, simple⟩ := isSimple.exists_cons
  simp only [Yaml.isSimple, Bool.and_eq_true, Bool.not_eq_true'] at simple
  rw [List.cons_append, startsPlain, simple.2, if_neg Bool.false_ne_true, simple.1.1.2, simple.1.2]
  rfl

theorem isPlain : isPlain s = true := by
  have starts := isSimple.startsPlain_append []
  rw [List.append_nil] at starts
  have last : s.getLast? ≠ some ' ' := fun last =>
    absurd (isSimple.simple ' ' (List.mem_of_getLast? last)) (by decide)
  simpa [Yaml.isPlain, starts, isSimple.hasMark_eq_false] using last

theorem dropWhile_isGap : s.dropWhile isGap = s := by
  obtain ⟨c, rest, rfl, simple⟩ := isSimple.exists_cons
  simp only [Yaml.isSimple, Bool.and_eq_true, Bool.not_eq_true'] at simple
  exact List.dropWhile_cons_of_neg (by simp [simple.1.1.2])

/-- A simple text is read as it stands. -/
theorem value?_eq : value? s = some (.scalar ⟨String.ofList s, true⟩) :=
  value?_of_isPlain isSimple.isPlain isSimple.visible

theorem isBody : IsBody (' ' :: s) (.scalar ⟨String.ofList s, true⟩) :=
  .of_isPlain isSimple.isPlain isSimple.visible isSimple.oneLine

/-- A simple key in front of a colon is read. -/
theorem key?_append {head : List Char} (gap : (head.isEmpty || head.head?.any isGap) = true) :
    key? (s ++ ':' :: head) = some (String.ofList s, head) := by
  have cut : cutKey? (s ++ ':' :: head) = some (s, head) := by
    have noColon : ∀ c ∈ s, c ≠ ':' := fun c member => by
      rintro rfl
      exact absurd (isSimple.simple ':' member) (by decide)
    clear isSimple
    induction s with
    | nil => rw [List.nil_append, cutKey?, gap]; rfl
    | cons c rest ih =>
        rw [List.forall_mem_cons] at noColon
        rw [List.cons_append, cutKey?, beq_false_of_ne noColon.1, Bool.false_and,
          if_neg Bool.false_ne_true, ih noColon.2]
        rfl
  have unquoted : startsQuoted (s ++ ':' :: head) = false := by
    obtain ⟨c, rest, rfl, simple⟩ := isSimple.exists_cons
    have noQuote : c ≠ '\'' ∧ c ≠ '"' := by
      constructor <;> rintro rfl <;> exact absurd simple (by decide)
    simp [startsQuoted, noQuote]
  rw [key?, unquoted, if_neg Bool.false_ne_true, cut]
  simp only [Option.bind_eq_bind, Option.bind_some, plain?_of_isPlain isSimple.isPlain isSimple.visible,
    isSimple.startsPlain_append, if_true]

/-- A line that starts with a simple text starts an entry. -/
theorem ofText_append (behind : List Char) : Line.ofText (s ++ behind) = ⟨0, s ++ behind⟩ := by
  obtain ⟨c, rest, rfl, simple⟩ := isSimple.exists_cons
  have noSpace : c ≠ ' ' := by
    rintro rfl
    exact absurd simple (by decide)
  simp [Line.ofText, noSpace]

theorem belongs_append (behind : List Char) : (Line.mk 0 (s ++ behind)).belongs 0 = false := by
  obtain ⟨c, rest, rfl, simple⟩ := isSimple.exists_cons
  have noMark : c ≠ '-' ∧ c ≠ '#' := by
    constructor <;> rintro rfl <;> exact absurd simple (by decide)
  simp only [Yaml.isSimple, Bool.and_eq_true, Bool.not_eq_true'] at simple
  simp [Line.belongs, Line.isVoid, Line.isItem, simple.1.1.2, noMark]

end IsSimple

/-- A numeral is a simple text. -/
theorem isSimple_numeral (n : Nat) : IsSimple (numeral n) where
  nonempty := Nat.toDigits_ne_nil
  simple := forall_mem_toDigits (by decide) (by decide) n

theorem isBody_toString (n : UInt64) :
    IsBody (' ' :: (toString n).toList) (.scalar ⟨toString n, true⟩) := by
  have digits : toString n = String.ofList (numeral n.toNat) := rfl
  rw [digits, String.toList_ofList]
  exact (isSimple_numeral _).isBody

theorem isBody_bool (b : Bool) :
    IsBody (' ' :: (if b then "true" else "false").toList)
      (.scalar ⟨if b then "true" else "false", true⟩) := by
  cases b
  · exact (IsSimple.of_all (s := "false".toList) (by decide) (by decide)).isBody
  · exact (IsSimple.of_all (s := "true".toList) (by decide) (by decide)).isBody

theorem toList_writeNumbers {numbers : List UInt64} (nonempty : numbers ≠ []) :
    (writeNumbers numbers).toList =
      (numbers.map fun n => '-' :: ' ' :: numeral n.toNat).flatMap fun line => '\n' :: line := by
  have item (n : UInt64) : ("\n- " ++ toString n).toList = '\n' :: '-' :: ' ' :: numeral n.toNat := by
    rw [String.toList_append]
    exact congrArg (['\n', '-', ' '] ++ ·) String.toList_ofList
  rw [writeNumbers, if_neg (by simpa using nonempty), String.toList_join, List.flatMap_map,
    List.flatMap_map]
  simp only [item]

/-- The line of an item is read as its number. -/
theorem item?_numeral (n : UInt64) :
    (Line.ofText ('-' :: ' ' :: numeral n.toNat)).item? 0 = some ⟨toString n, true⟩ := by
  have behind : List.dropWhile isGap ((Line.ofText ('-' :: ' ' :: numeral n.toNat)).text.drop 1) =
      numeral n.toNat := (isSimple_numeral n.toNat).dropWhile_isGap
  rw [Line.item?, behind, (isSimple_numeral n.toNat).value?_eq]
  rfl

theorem entryValue?_items {numbers : List UInt64} (nonempty : numbers ≠ []) :
    entryValue? 0 [] ((numbers.map fun n => '-' :: ' ' :: numeral n.toNat).map Line.ofText) =
      some (.list (numbers.map fun n => ⟨toString n, true⟩)) := by
  have filled : ((numbers.map fun n => '-' :: ' ' :: numeral n.toNat).map Line.ofText).filter
      (!·.isVoid) = numbers.map fun n => Line.ofText ('-' :: ' ' :: numeral n.toNat) := by
    rw [List.map_map]
    refine List.filter_eq_self.mpr fun line member => ?_
    obtain ⟨n, -, rfl⟩ := List.mem_map.mp member
    rfl
  have items : (numbers.map fun n => Line.ofText ('-' :: ' ' :: numeral n.toNat)).mapM (Line.item? 0) =
      some (numbers.map fun n => ⟨toString n, true⟩) := by
    rw [List.mapM_map]
    exact mapM_eq_some_map fun n _ => item?_numeral n
  rw [entryValue?]
  · simp only [filled, List.isEmpty_nil, Bool.true_or, if_true]
    cases numbers with
    | nil => exact absurd rfl nonempty
    | cons n numbers =>
      have deep : (Line.ofText ('-' :: ' ' :: numeral n.toNat)).isItem = true ∧
          (Line.ofText ('-' :: ' ' :: numeral n.toNat)).indent = 0 := ⟨rfl, rfl⟩
      rw [List.map_cons] at items ⊢
      simp only [deep, if_true]
      rw [items]
      rfl
  · exact nofun

theorem isBody_writeNumbers (numbers : List UInt64) :
    ∃ value, IsBody (writeNumbers numbers).toList value ∧ value.uint64s? = some numbers := by
  have emptyList : IsBody [' ', '[', ']'] (.list []) :=
    .of_line (List.all_eq_true.mp (by decide)) (by decide) (by decide) rfl rfl
  by_cases none : numbers = []
  · subst none
    exact ⟨.list [], emptyList, rfl⟩
  refine ⟨.list (numbers.map fun n => ⟨toString n, true⟩), ?_, ?_⟩
  · have inner : ∀ line ∈ numbers.map fun n => '-' :: ' ' :: numeral n.toNat,
        ∀ c ∈ line, isInLine c = true := by
      intro line member
      obtain ⟨n, -, rfl⟩ := List.mem_map.mp member
      simp only [List.forall_mem_cons]
      exact ⟨by decide, by decide, fun c digit => (isSimple_numeral _).isInLine c digit⟩
    rw [toList_writeNumbers none]
    constructor
    · intro c member
      obtain ⟨line, listed, inside⟩ := List.mem_flatMap.mp member
      rcases List.mem_cons.mp inside with rfl | inside
      · exact .inr rfl
      · exact .inl (inner line listed c inside)
    · have empty : ∀ c ∈ ([] : List Char), (c == '\n') = false := nofun
      refine ⟨[], _, split_append_flatMap empty fun line listed c inside =>
        ne_lineFeed_of_isInLine (inner line listed c inside), rfl, ?_, ?_⟩
      · intro line member
        obtain ⟨n, -, rfl⟩ := List.mem_map.mp member
        rfl
      · exact entryValue?_items none
  · rw [Value.uint64s?, List.mapM_map]
    exact (mapM_eq_some_map (f := id) fun n _ => uint64?_toString n).trans (by rw [List.map_id])

end Tagboard.Yaml
