import Tagboard.Config.Format
import Tagboard.Proofs.EntryValues

/-!
# Settings are read back from their text

The lines of a mapping are grouped into entries again as they were written. The entries of the
settings have plain keys and values that are read back, for all texts, numbers and lists that the
settings can have, so their text stands for the settings that were written and for no others.
-/

namespace Tagboard

namespace Yaml

open Text

/-- Lines that belong to an entry above them stand before the entries that follow. -/
theorem groups_append {depth : Nat} {lines : List Line}
    (belong : ∀ line ∈ lines, line.belongs depth = true) (more : List Line) :
    groups depth (lines ++ more) = (lines ++ (groups depth more).1, (groups depth more).2) := by
  induction lines with
  | nil => rfl
  | cons line lines ih =>
      rw [List.forall_mem_cons] at belong
      rw [List.cons_append, groups, ih belong.2]
      simp [belong.1]

/-- An entry is grouped with the lines that belong to it. -/
theorem groups_cons {depth : Nat} {first : Line} {lines more : List Line}
    {found : List (Line × List Line)} (starts : first.belongs depth = false)
    (belong : ∀ line ∈ lines, line.belongs depth = true) (rest : groups depth more = ([], found)) :
    groups depth (first :: (lines ++ more)) = ([], (first, lines) :: found) := by
  rw [groups, groups_append belong, rest, List.append_nil]
  simp [starts]

/-- A text for each key, with the value that it is meant to be. -/
abbrev Entries := List (List Char × List Char × Value)

/-- The text of a mapping. -/
def writeEntries (entries : Entries) : List Char :=
  entries.flatMap fun (key, body, _) => key ++ ':' :: body ++ ['\n']

/-- The lines of a text that ends with a line feed. -/
def entryLines (entries : Entries) : List Line :=
  (split (· == '\n') (writeEntries entries)).dropLast.map Line.ofText

theorem writeEntries_cons (key body : List Char) (value : Value) (entries : Entries) :
    writeEntries ((key, body, value) :: entries) =
      (key ++ ':' :: body) ++ '\n' :: writeEntries entries := by
  simp [writeEntries]

theorem entryLines_cons {key body : List Char} {value : Value} (isSimple : IsSimple key)
    (isBody : IsBody body value) (entries : Entries) :
    ∃ (head : List Char) (lines : List (List Char)), entryLines ((key, body, value) :: entries) =
        ⟨0, key ++ ':' :: head⟩ :: (lines.map Line.ofText ++ entryLines entries) ∧
      (∀ line ∈ lines.map Line.ofText, line.belongs 0 = true) ∧
      entryOf? 0 (⟨0, key ++ ':' :: head⟩, lines.map Line.ofText) =
        some (String.ofList key, value) := by
  obtain ⟨head, lines, pieces, gap, belong, read⟩ := isBody.parts
  have free : ∀ c ∈ key ++ [':'], (c == '\n') = false := by
    intro c member
    rcases List.mem_append.mp member with inside | last
    · exact ne_lineFeed_of_isInLine (isSimple.isInLine c inside)
    · rw [List.mem_singleton.mp last]; rfl
  have cut := split_append_of_free free pieces
  rw [List.append_assoc, List.singleton_append, List.append_assoc, List.singleton_append] at cut
  refine ⟨head, lines, ?_, ?_, ?_⟩
  · rw [entryLines, writeEntries_cons, split_append_separator rfl, cut,
      List.dropLast_append_of_ne_nil (split_ne_nil _ _), List.map_append, List.map_cons,
      isSimple.ofText_append]
    rfl
  · simpa using belong
  · simp [entryOf?, isSimple.key?_append gap, read]

/-- The entries of a text are read as they were written. -/
theorem groups_entryLines {entries : Entries}
    (wellFormed : ∀ entry ∈ entries, IsSimple entry.1 ∧ IsBody entry.2.1 entry.2.2) :
    ∃ found, groups 0 (entryLines entries) = ([], found) ∧
      found.mapM (entryOf? 0) =
        some (entries.map fun (key, _, value) => (String.ofList key, value)) := by
  induction entries with
  | nil => exact ⟨[], rfl, rfl⟩
  | cons entry entries ih =>
      obtain ⟨key, body, value⟩ := entry
      rw [List.forall_mem_cons] at wellFormed
      obtain ⟨⟨isSimple, isBody⟩, rest⟩ := wellFormed
      obtain ⟨found, grouped, read⟩ := ih rest
      obtain ⟨head, lines, cut, belong, entry⟩ := entryLines_cons isSimple isBody entries
      refine ⟨_, by rw [cut, groups_cons (isSimple.belongs_append _) belong grouped], ?_⟩
      rw [List.mapM_cons, entry, read]
      rfl

theorem unifyLineEnds_eq_self {s : List Char} (free : '\r' ∉ s) : unifyLineEnds s = s := by
  induction s with
  | nil => rfl
  | cons c rest ih =>
      rw [List.mem_cons, not_or] at free
      rw [unifyLineEnds, ih free.2]
      · exact fun _ same => absurd same.symm free.1
      · exact fun same => free.1 same.symm

/-- Every character of the text of a mapping may stand in a file. -/
theorem mem_writeEntries {entries : Entries}
    (wellFormed : ∀ entry ∈ entries, IsSimple entry.1 ∧ IsBody entry.2.1 entry.2.2) {c : Char}
    (member : c ∈ writeEntries entries) : isAllowed c = true ∧ c ≠ '\r' := by
  have readable : isInLine c = true ∨ c = '\n' := by
    obtain ⟨⟨key, body, value⟩, listed, inside⟩ := List.mem_flatMap.mp member
    obtain ⟨isSimple, isBody⟩ := wellFormed _ listed
    simp only [List.append_assoc, List.mem_append, List.mem_cons, List.cons_append] at inside
    rcases inside with inside | rfl | inside | rfl | none
    · exact .inl (isSimple.isInLine c inside)
    · exact .inl (by decide)
    · exact isBody.readable c inside
    · exact .inr rfl
    · exact absurd none List.not_mem_nil
  rcases readable with inner | rfl
  · simp only [isInLine, Bool.and_eq_true, bne_iff_ne] at inner
    exact inner.1
  · decide

theorem getLast?_split_writeEntries (entries : Entries) :
    (split (· == '\n') (writeEntries entries)).getLast? = some [] := by
  induction entries with
  | nil => rfl
  | cons entry entries ih =>
      obtain ⟨key, body, value⟩ := entry
      rw [writeEntries_cons, split_append_separator rfl,
        List.getLast?_append_of_ne_nil _ (split_ne_nil _ _), ih]

theorem linesOf_writeEntries {entries : Entries}
    (wellFormed : ∀ entry ∈ entries, IsSimple entry.1 ∧ IsBody entry.2.1 entry.2.2) :
    linesOf (writeEntries entries) = entryLines entries := by
  have unified := unifyLineEnds_eq_self fun member => (mem_writeEntries wellFormed member).2 rfl
  simp [linesOf, unified, getLast?_split_writeEntries, entryLines]

theorem trimGaps_isPrefix (s : List Char) : List.IsPrefix (trimGaps s) s := by
  rw [trimGaps, ← List.reverse_suffix, List.reverse_reverse]
  exact List.dropWhile_suffix _

/-- A line that starts an entry of a simple key is the first line of the content. -/
theorem IsSimple.content_cons {key : List Char} (isSimple : IsSimple key) (behind : List Char)
    (lines : List Line) :
    content (⟨0, key ++ behind⟩ :: lines) = ⟨0, key ++ behind⟩ :: lines := by
  have filled : (Line.mk 0 (key ++ behind)).isVoid = false := by
    have starts := isSimple.belongs_append behind
    rw [Line.belongs, Bool.or_assoc, Bool.or_eq_false_iff] at starts
    exact starts.1
  have unmarked : trimGaps (key ++ behind) ≠ ['-', '-', '-'] := by
    intro mark
    have start := trimGaps_isPrefix (key ++ behind)
    obtain ⟨c, rest, rfl, simple⟩ := isSimple.exists_cons
    rw [mark, List.cons_append, List.cons_prefix_cons] at start
    rw [← start.1] at simple
    exact absurd simple (by decide)
  rw [content, List.dropWhile_cons_of_neg (by simp [filled])]
  simp [unmarked]

/-- The text of a mapping is read as the mapping. -/
theorem read?_writeEntries {entries : Entries} (nonempty : entries ≠ [])
    (wellFormed : ∀ entry ∈ entries, IsSimple entry.1 ∧ IsBody entry.2.1 entry.2.2) :
    read? (String.ofList (writeEntries entries)) =
      some (entries.map fun (key, _, value) => (String.ofList key, value)) := by
  have allowed : (writeEntries entries).all isAllowed = true :=
    List.all_eq_true.mpr fun c member => (mem_writeEntries wellFormed member).1
  obtain ⟨found, grouped, values⟩ := groups_entryLines wellFormed
  have lines := linesOf_writeEntries wellFormed
  cases entries with
  | nil => exact absurd rfl nonempty
  | cons entry entries =>
    obtain ⟨key, body, value⟩ := entry
    obtain ⟨isSimple, isBody⟩ := (List.forall_mem_cons.mp wellFormed).1
    obtain ⟨head, rest, cut, -⟩ := entryLines_cons isSimple isBody entries
    have noMark : ∀ behind, writeEntries ((key, body, value) :: entries) ≠ '\ufeff' :: behind := by
      intro behind same
      obtain ⟨c, keyRest, rfl, simple⟩ := isSimple.exists_cons
      rw [writeEntries_cons] at same
      rw [(List.cons.inj same).1] at simple
      exact absurd simple (by decide)
    rw [cut] at lines grouped
    rw [read?, String.toList_ofList]
    split
    · next behind same => exact absurd same (noMark behind)
    · rw [allowed, lines, isSimple.content_cons]
      simp only [Bool.not_true, Bool.false_eq_true, if_false, grouped]
      exact values

end Yaml

namespace Config

open Yaml

/-- The entries of settings, with the values that the texts and the list are read as. -/
def entries (c : Config) (board address tags : Value) : Entries :=
  [("board_path".toList, ' ' :: (writeText c.boardPath).toList, board),
    ("listen_addr".toList, ' ' :: (writeText c.listenAddress).toList, address),
    ("max_tag_suggestions".toList, ' ' :: (toString c.maxTagSuggestions).toList,
      .scalar ⟨toString c.maxTagSuggestions, true⟩),
    ("max_alias_suggestions".toList, ' ' :: (toString c.maxAliasSuggestions).toList,
      .scalar ⟨toString c.maxAliasSuggestions, true⟩),
    ("show_filters".toList, ' ' :: (if c.showFilters then "true" else "false").toList,
      .scalar ⟨if c.showFilters then "true" else "false", true⟩),
    ("filter_tags".toList, (writeNumbers c.hiddenTags).toList, tags)]

/-- The text of settings is the text of their entries. -/
theorem toList_render (c : Config) (board address tags : Value) :
    c.render.toList = writeEntries (c.entries board address tags) := by
  have board : "board_path: ".toList = "board_path".toList ++ [':', ' '] := rfl
  have address : "\nlisten_addr: ".toList = '\n' :: ("listen_addr".toList ++ [':', ' ']) := rfl
  have maxTags : "\nmax_tag_suggestions: ".toList =
      '\n' :: ("max_tag_suggestions".toList ++ [':', ' ']) := rfl
  have maxAliases : "\nmax_alias_suggestions: ".toList =
      '\n' :: ("max_alias_suggestions".toList ++ [':', ' ']) := rfl
  have filters : "\nshow_filters: ".toList = '\n' :: ("show_filters".toList ++ [':', ' ']) := rfl
  have hidden : "\nfilter_tags:".toList = '\n' :: ("filter_tags".toList ++ [':']) := rfl
  have feed : "\n".toList = ['\n'] := rfl
  -- the values are made variables, since matching a literal against a numeral would evaluate it
  delta render entries
  generalize writeText c.boardPath = boardText, writeText c.listenAddress = addressText,
    toString c.maxTagSuggestions = maxTagsText, toString c.maxAliasSuggestions = maxAliasesText,
    (if c.showFilters then "true" else "false") = filtersText, writeNumbers c.hiddenTags = tagsText
  simp only [writeEntries, List.flatMap_cons, List.flatMap_nil, List.append_nil,
    String.toList_append, board, address, maxTags, maxAliases, filters, hidden, feed,
    List.append_assoc, List.cons_append, List.nil_append]

/-- Values that stand for the settings give the settings. -/
theorem ofEntries?_entries {c : Config} {board address tags : Value}
    (board_read : board.text? = some c.boardPath) (address_read : address.text? = some c.listenAddress)
    (tags_read : tags.uint64s? = some c.hiddenTags) :
    ofEntries? ((c.entries board address tags).map fun (key, _, value) => (String.ofList key, value)) =
      some c := by
  have maxTags := uint64?_toString c.maxTagSuggestions
  have maxAliases := uint64?_toString c.maxAliasSuggestions
  have filters : Scalar.bool? ⟨if c.showFilters then "true" else "false", true⟩ =
      some c.showFilters := by
    cases c.showFilters <;> decide
  simp only [entries, List.map_cons, List.map_nil, String.ofList_toList]
  simp [ofEntries?, setting?, Value.uint64?, Value.bool?, board_read, address_read, maxTags,
    maxAliases, filters, tags_read]

/-- Settings are read back from their text. -/
theorem parse?_render (c : Config) : parse? c.render = some c := by
  obtain ⟨boardPlain, board⟩ := isBody_writeText c.boardPath
  obtain ⟨addressPlain, address⟩ := isBody_writeText c.listenAddress
  obtain ⟨numbers, tags, tags_read⟩ := isBody_writeNumbers c.hiddenTags
  have wellFormed : ∀ entry ∈ c.entries (.scalar ⟨c.boardPath, boardPlain⟩)
      (.scalar ⟨c.listenAddress, addressPlain⟩) numbers,
      IsSimple entry.1 ∧ IsBody entry.2.1 entry.2.2 := by
    simp only [entries, List.forall_mem_cons]
    exact ⟨⟨.of_all (by decide) (by decide), board⟩, ⟨.of_all (by decide) (by decide), address⟩,
      ⟨.of_all (by decide) (by decide), isBody_toString _⟩,
      ⟨.of_all (by decide) (by decide), isBody_toString _⟩,
      ⟨.of_all (by decide) (by decide), isBody_bool _⟩, ⟨.of_all (by decide) (by decide), tags⟩, nofun⟩
  have written : c.render = String.ofList (writeEntries (c.entries (.scalar ⟨c.boardPath, boardPlain⟩)
      (.scalar ⟨c.listenAddress, addressPlain⟩) numbers)) := by
    rw [← toList_render, String.ofList_toList]
  have nonempty : c.entries (.scalar ⟨c.boardPath, boardPlain⟩)
      (.scalar ⟨c.listenAddress, addressPlain⟩) numbers ≠ [] := List.cons_ne_nil _ _
  rw [parse?, written, read?_writeEntries nonempty wellFormed]
  exact ofEntries?_entries rfl rfl tags_read

end Config

end Tagboard
