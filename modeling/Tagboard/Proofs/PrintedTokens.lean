import Tagboard.Proofs.FormWords
import Tagboard.Proofs.TypedText

/-!
# Tokens as they are printed

A token is printed as its sign, its name and relation if it has a relation, and its argument with the
wildcards put back. Reading loses nothing: the words of a query are the prints of its tokens. And a
token whose parts can be told apart again in its print is read from its print.
-/

namespace Tagboard

open Text

namespace Token

/-- A word is its sign and what is left of it. -/
theorem sign_append_splitNegation (word : List Char) :
    sign (splitNegation word).1 ++ (splitNegation word).2 = word := by
  unfold splitNegation
  split <;> rfl

theorem mem_of_mem_splitNegation {word : List Char} {c : Char}
    (member : c ∈ (splitNegation word).2) : c ∈ word := by
  rw [← sign_append_splitNegation word]
  exact List.mem_append_right _ member

/-- What stands in front of an argument: nothing for a bare tag, else the name and the relation. -/
def label (name : String) : Option Relation → List Char
  | none => []
  | some relation => name.toList ++ [relation.symbol]

/-- A token as it is printed: its sign, its label and its argument with the wildcards put back. -/
def print (t : Token) : List Char :=
  sign t.negated ++ (label t.name t.relation ++ t.argument.typed.toList)

@[simp] theorem label_none_append (name : String) (argument : List Char) :
    label name none ++ argument = argument := rfl

@[simp] theorem label_some_append (name : String) (relation : Relation) (argument : List Char) :
    label name (some relation) ++ argument = name.toList ++ relation.symbol :: argument := by
  rw [label, List.append_assoc, List.singleton_append]

/-- A token that is built from a typed text is printed with that text. -/
theorem print_of_build {category : Category} {name : String} {typed : List Char}
    {relation : Option Relation} {negated : Bool} {t : Token} (trimmed : trim typed = typed)
    (built : build category name typed relation negated = .ok t) :
    t.print = sign negated ++ (label name relation ++ typed) := by
  obtain ⟨-, -, rfl⟩ := build_eq_ok_iff.mp built
  rw [print, trimmed, Pattern.typed_ofText, String.toList_ofList]

/-- A token is printed as the word that it is read from. -/
theorem print_of_ofWord {word : List Char} {t : Token} (noBlank : ∀ c ∈ word, isBlank c = false)
    (read : ofWord word = .ok t) : t.print = word := by
  have parts : sign (splitNegation word).1 ++ (splitNegation word).2 = word :=
    sign_append_splitNegation word
  have restNoBlank : ∀ c ∈ (splitNegation word).2, isBlank c = false :=
    fun c member => noBlank c (mem_of_mem_splitNegation member)
  rcases cases_of_ofWord read with
    built | ⟨name, relation, argument, category, found, -, -, -, -, built⟩
  · rw [print_of_build (trim_eq_self restNoBlank) built, label_none_append]
    exact parts
  · obtain ⟨rest, -⟩ := splitRelation?_eq_some_iff.mp found
    have argumentNoBlank : ∀ c ∈ argument, isBlank c = false := by
      intro c member
      apply restNoBlank
      rw [rest]
      exact List.mem_append_right _ (List.mem_cons_of_mem _ member)
    rw [print_of_build (trim_eq_self argumentNoBlank) built, label_some_append,
      String.toList_ofList, ← rest]
    exact parts

/-- The words of a query are the prints of its tokens, in order. -/
theorem words_eq_map_print {query : String} {tokens : List Token}
    (read : ofQuery query = .ok tokens) : words query.toList = tokens.map print := by
  have each : List.Forall₂ (fun word t => ofWord word = .ok t) (words query.toList) tokens :=
    mapM_eq_ok_iff.mp read
  have noBlank : ∀ word ∈ words query.toList, ∀ c ∈ word, isBlank c = false :=
    fun _ => isBlank_of_mem_words
  clear read
  generalize words query.toList = pieces at each noBlank
  induction each with
  | nil => rfl
  | cons head _ ih =>
      rw [List.forall_mem_cons] at noBlank
      rw [List.map_cons, print_of_ofWord noBlank.1 head, ih noBlank.2]

/-- What makes a print readable: the parts of the token can be told apart in it. -/
structure IsPrintable (t : Token) : Prop where
  /-- The plain argument holds no wildcard. -/
  noWildcard : Pattern.wildcard ∉ t.argument.text.toList
  /-- The plain argument holds no symbol of a relation. -/
  noRelation : t.argument.text.toList.any Relation.isSymbol = false
  /-- There are not too many wildcards. -/
  few : t.argument.positions.length ≤ Pattern.maxWildcards
  /-- The wildcards are in order. -/
  ascending : t.argument.positions.Pairwise (· ≤ ·)
  /-- No wildcard is past the end of the plain argument. -/
  inside : ∀ position ∈ t.argument.positions, position ≤ t.argument.text.length
  /-- The argument as it is typed starts with no blank. -/
  start : ∀ c ∈ t.argument.typed.toList.head?, isBlank c = false
  /-- The argument as it is typed ends with no blank. -/
  stop : ∀ c ∈ t.argument.typed.toList.getLast?, isBlank c = false
  /-- The argument satisfies the rule of the category. -/
  valid : t.checkArgument = .ok ()
  /-- A tag is named by its argument, and a filter by one of the names of its category. -/
  named : t.category = .tag ∧ t.relation = none ∧ t.name = t.argument.typed ∧
      (t.negated = true ∨ t.name.toList.head? ≠ some '-') ∨
    t.category ≠ .tag ∧ t.name ∈ t.category.names ∧
      ∃ relation, t.relation = some relation ∧ t.category.allows relation = true

theorem checkArgument_eq_ok_iff {t : Token} :
    t.checkArgument = .ok () ↔ argumentFault? t.category t.argument = none := by
  unfold checkArgument
  cases argumentFault? t.category t.argument <;> simp

namespace IsPrintable

variable {t : Token}

/-- The argument is what is left of its typed form. -/
theorem ofText_typed (printable : t.IsPrintable) :
    Pattern.ofText t.argument.typed.toList = t.argument :=
  Pattern.ofText_typed printable.noWildcard printable.ascending printable.inside

theorem trim_typed (printable : t.IsPrintable) :
    trim t.argument.typed.toList = t.argument.typed.toList :=
  trim_of_ends printable.start printable.stop

/-- The argument as it is typed holds no symbol of a relation. -/
theorem any_isSymbol_typed (printable : t.IsPrintable) :
    t.argument.typed.toList.any Relation.isSymbol = false := by
  rw [List.any_eq_false]
  intro c member
  rw [Pattern.typed, Pattern.marked, String.toList_ofList] at member
  rcases Pattern.mem_weave member with rfl | plain
  · decide
  · exact List.any_eq_false.mp printable.noRelation c plain

/-- The argument as it is typed is not empty. -/
theorem typed_ne_nil (printable : t.IsPrintable) : t.argument.typed.toList ≠ [] := by
  intro empty
  have left : Pattern.ofText [] = t.argument := empty ▸ printable.ofText_typed
  obtain ⟨-, nonempty, -⟩ := argumentFault?_eq_none_iff.mp
    (checkArgument_eq_ok_iff.mp printable.valid)
  rw [← left] at nonempty
  exact absurd (nonempty rfl) (by decide)

/-- The token is built from its argument as it is typed. -/
theorem build_typed (printable : t.IsPrintable) :
    build t.category t.name t.argument.typed.toList t.relation t.negated = .ok t := by
  rw [build_eq_ok_iff, printable.trim_typed, printable.ofText_typed,
    Pattern.count_wildcard_typed printable.noWildcard]
  exact ⟨printable.few, checkArgument_eq_ok_iff.mp printable.valid, rfl⟩

/-- The token is read from its print. -/
theorem ofWord_print (printable : t.IsPrintable) : ofWord t.print = .ok t := by
  have built := printable.build_typed
  rcases printable.named with ⟨tag, bare, name, unsigned⟩ | ⟨notTag, listed, relation, given, allowed⟩
  · have word : t.print = sign t.negated ++ t.argument.typed.toList := by
      rw [print, bare, label_none_append]
    have split : splitNegation t.print = (t.negated, t.argument.typed.toList) := by
      rw [word]
      rcases unsigned with negated | noHyphen
      · rw [negated]
        rfl
      · exact splitNegation_sign_append (name ▸ noHyphen)
    rw [tag, bare, name] at built
    simp only [ofWord, split, splitRelation?_eq_none_iff.mpr printable.any_isSymbol_typed,
      String.ofList_toList, built]
  · have word : t.print =
        sign t.negated ++ (t.name.toList ++ relation.symbol :: t.argument.typed.toList) := by
      rw [print, given, label_some_append]
    obtain ⟨nonempty, unsigned, plain⟩ := Category.readable_of_mem_names listed notTag
    have refused : ¬ t.category.allows relation = false := by simp [allowed]
    rw [word, ofWord_append relation nonempty unsigned plain,
      ofFilter_eq_of_free (Category.ofName?_of_mem_names listed) nonempty printable.typed_ne_nil
        printable.any_isSymbol_typed, if_neg refused, ← given]
    exact built

end IsPrintable

/--
The words of a query are the prints of its tokens, so that the prints are read as the same tokens
again. Conversely each token whose parts can be told apart in its print is read from its print.
-/
theorem print_inverts_reading :
    (∀ (query : String) (tokens : List Token), ofQuery query = .ok tokens →
        words query.toList = tokens.map print ∧
          ofQuery (String.ofList (join [' '] (tokens.map print))) = .ok tokens) ∧
      ∀ t : Token, t.IsPrintable → ofWord t.print = .ok t := by
  refine ⟨fun query tokens read => ?_, fun t printable => printable.ofWord_print⟩
  have prints : words query.toList = tokens.map print := words_eq_map_print read
  refine ⟨prints, ?_⟩
  rw [ofQuery, String.toList_ofList, ← prints, words_join_words]
  exact read

/-- A second hyphen belongs to the tag, and an address may hold a blank that no query can give it. -/
theorem print_inverts_reading_hyphens :
    let tokens : List Token := [⟨.tag, "-c**", ⟨"-c", [2, 2]⟩, none, true⟩,
      ⟨.uploadedBy, "up", ⟨"bó", [0, 2]⟩, some .equal, false⟩,
      ⟨.commentCount, "cc", ⟨"007", []⟩, some .greater, true⟩]
    let t : Token := ⟨.source, "src", ⟨"http://a.b/c d", []⟩, some .equal, true⟩
    ofQuery " --c**\tup=*bó*  -cc>007" = .ok tokens ∧
      words " --c**\tup=*bó*  -cc>007".toList = tokens.map print ∧
        ofQuery (String.ofList (join [' '] (tokens.map print))) = .ok tokens ∧
          t.IsPrintable ∧ ofWord t.print = .ok t := by
  intro tokens t
  have read : ofQuery " --c**\tup=*bó*  -cc>007" = .ok tokens := by rfl
  have first : t.argument.typed.toList.head? = some 'h' := by decide +kernel
  have last : t.argument.typed.toList.getLast? = some 'd' := by decide +kernel
  have printable : t.IsPrintable := {
    noWildcard := by decide +kernel
    noRelation := by decide +kernel
    few := by decide
    ascending := .nil
    inside := by simp [t]
    start := by simpa [first] using (by decide : isBlank 'h' = false)
    stop := by simpa [last] using (by decide : isBlank 'd' = false)
    valid := checkArgument_eq_ok_iff.mpr (by decide +kernel)
    named := .inr ⟨by decide, by decide +kernel, .equal, rfl, rfl⟩ }
  obtain ⟨prints, again⟩ := print_inverts_reading.1 _ tokens read
  exact ⟨read, prints, again, printable, print_inverts_reading.2 t printable⟩

end Token

end Tagboard
