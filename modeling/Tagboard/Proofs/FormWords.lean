import Tagboard.Proofs.ReadTokens

/-!
# Forms as words of a query

A form says what a query can say as well. Each entry of the tagset and each filter that counts has a
word, put together from its sign, its name, its relation and its value. Where these parts hold no
further relation, reading the form is reading its words one after another, with the same tokens or
the same error.
-/

namespace Tagboard

open Text

namespace Category

/-- What makes a name readable in front of a relation. -/
theorem readable_of_mem_names {category : Category} {name : String} (listed : name ∈ category.names)
    (notTag : category ≠ .tag) :
    name.toList ≠ [] ∧ name.toList.head? ≠ some '-' ∧ name.toList.any Relation.isSymbol = false := by
  have each : ∀ c ∈ all, c ≠ .tag → ∀ name ∈ c.names, name.toList ≠ [] ∧
      name.toList.head? ≠ some '-' ∧ name.toList.any Relation.isSymbol = false := by
    decide +kernel
  exact each category (mem_all category) notTag name listed

end Category

namespace Token

/-- The hyphen in front of a word, if there is one. -/
def sign (negated : Bool) : List Char := if negated then ['-'] else []

theorem splitNegation_sign_append {negated : Bool} {word : List Char}
    (unsigned : word.head? ≠ some '-') : splitNegation (sign negated ++ word) = (negated, word) := by
  cases negated with
  | true => rfl
  | false =>
      rw [sign, if_neg Bool.false_ne_true, List.nil_append]
      unfold splitNegation
      split
      · simp at unsigned
      · rfl

/-- A word is split at the relation behind its name. -/
theorem splitRelation?_append {name argument : List Char} (relation : Relation)
    (free : name.any Relation.isSymbol = false) :
    splitRelation? (name ++ relation.symbol :: argument) = some (name, relation, argument) := by
  induction name with
  | nil => rw [List.nil_append, splitRelation?, Relation.ofSymbol?_symbol]
  | cons c rest ih =>
      rw [List.any_cons, Bool.or_eq_false_iff] at free
      have noSymbol : Relation.ofSymbol? c = none := by
        simpa [Relation.isSymbol] using free.1
      rw [List.cons_append, splitRelation?, noSymbol, ih free.2]
      rfl

/-- A word without a relation holds no symbol of one. -/
theorem splitRelation?_eq_none_iff {word : List Char} :
    splitRelation? word = none ↔ word.any Relation.isSymbol = false := by
  induction word with
  | nil => simp [splitRelation?]
  | cons c rest ih =>
      rw [splitRelation?, List.any_cons, Relation.isSymbol, Bool.or_eq_false_iff, ← ih]
      cases Relation.ofSymbol? c <;> simp

/-- A word is split at its first symbol of a relation. -/
theorem splitRelation?_eq_some_iff {word name argument : List Char} {relation : Relation} :
    splitRelation? word = some (name, relation, argument) ↔
      word = name ++ relation.symbol :: argument ∧ name.any Relation.isSymbol = false := by
  constructor
  · intro found
    induction word generalizing name with
    | nil => cases found
    | cons c rest ih =>
        rw [splitRelation?] at found
        cases symbol : Relation.ofSymbol? c with
        | some first =>
            simp only [symbol, Option.some.injEq, Prod.mk.injEq] at found
            obtain ⟨rfl, rfl, rfl⟩ := found
            rw [Relation.symbol_of_ofSymbol? symbol]
            exact ⟨rfl, rfl⟩
        | none =>
            simp only [symbol, Option.map_eq_some_iff] at found
            obtain ⟨⟨before, parts⟩, later, same⟩ := found
            cases same
            obtain ⟨rfl, free⟩ := ih later
            refine ⟨rfl, ?_⟩
            rw [List.any_cons, free, Relation.isSymbol, symbol]
            rfl
  · rintro ⟨rfl, free⟩
    exact splitRelation?_append relation free

/-- The word of a filter is read as the filter with these parts. -/
theorem ofWord_append {negated : Bool} {name argument : List Char} (relation : Relation)
    (nonempty : name ≠ []) (unsigned : name.head? ≠ some '-')
    (free : name.any Relation.isSymbol = false) :
    ofWord (sign negated ++ (name ++ relation.symbol :: argument)) =
      ofFilter (String.ofList (sign negated ++ (name ++ relation.symbol :: argument))) negated name
        relation argument := by
  have head : (name ++ relation.symbol :: argument).head? ≠ some '-' := by
    rwa [List.head?_append_of_ne_nil _ nonempty]
  rw [ofWord, splitNegation_sign_append head]
  simp only [splitRelation?_append relation free]

/-- A filter with a known name and a value free of relations is built if its relation is accepted. -/
theorem ofFilter_eq_of_free {word : String} {negated : Bool} {name : String} {relation : Relation}
    {argument : List Char} {category : Category} (named : Category.ofName? name = some category)
    (nonempty : name.toList ≠ []) (given : argument ≠ [])
    (free : argument.any Relation.isSymbol = false) :
    ofFilter word negated name.toList relation argument =
      if category.allows relation = false then .error (.relationNotAllowed category relation.text)
      else build category name argument (some relation) negated := by
  have single : ¬ argument.any Relation.isSymbol = true := by simp [free]
  rw [ofFilter_eq, if_neg (not_or.mpr ⟨nonempty, given⟩), String.ofList_toList]
  simp only [named, if_neg single]

end Token

namespace Form

/-- The word of an entry of the tagset. -/
def tagWord (entry : String) : List Char := "tag_id=".toList ++ entry.toList

/-- The relation of a filter as its word has it: as it was given, or the default of its category. -/
def relationWord (category : Category) (filter : FormFilter) : List Char :=
  match filter.relation with
  | none => [category.defaultRelation.symbol]
  | some typed => trim typed.toList

/-- The word of a filter with a category. -/
def filterWord (category : Category) (name : String) (filter : FormFilter) : List Char :=
  Token.sign filter.negated ++
    (name.toList ++ (relationWord category filter ++ filter.value.toList))

/-- The word of a filter, if its name is known and its value is not blank. -/
def filterWord? (name : String) (filter : FormFilter) : Option (List Char) :=
  match Category.ofName? name with
  | none | some .tag => none
  | some category =>
      if filter.value.toList.all isBlank then none else some (filterWord category name filter)

/-- The words of a form: those of the tagset, then those of the filters that count. -/
def words (form : Form) : List (List Char) :=
  form.tagset.map tagWord ++ form.filters.filterMap fun (name, filter) => filterWord? name filter

/-- Whether a filter is one of a form that counts: its name is known and its value is not blank. -/
def Counts (form : Form) (name : String) (filter : FormFilter) : Prop :=
  (name, filter) ∈ form.filters ∧ (∃ category ≠ Category.tag, name ∈ category.names) ∧
    filter.value.toList.all isBlank = false

/-- What makes the words of a form readable: no part of a word holds a further relation. -/
structure IsWritable (form : Form) : Prop where
  /-- The entries of the tagset are not empty and hold no relation. -/
  tagset : ∀ entry ∈ form.tagset, entry ≠ "" ∧ entry.toList.any Relation.isSymbol = false
  /-- The values of the filters that count hold no relation. -/
  values : ∀ name filter, form.Counts name filter → filter.value.toList.any Relation.isSymbol = false
  /-- The relations of the filters that count are relations, blanks around them aside. -/
  relations : ∀ name filter, form.Counts name filter → ∀ typed, filter.relation = some typed →
    ∃ relation : Relation, trim typed.toList = [relation.symbol]

/-- An entry of the tagset is read as its word is. -/
theorem tagToken_eq_ofWord {entry : String} (nonempty : entry ≠ "")
    (free : entry.toList.any Relation.isSymbol = false) :
    tagToken entry = Token.ofWord (tagWord entry) := by
  have parts : tagWord entry =
      Token.sign false ++ ("tag_id".toList ++ Relation.equal.symbol :: entry.toList) := rfl
  have listed : "tag_id" ∈ Category.tagId.names := List.mem_singleton.mpr rfl
  obtain ⟨named, unsigned, plain⟩ := Category.readable_of_mem_names listed (by decide)
  rw [parts, Token.ofWord_append .equal named unsigned plain,
    Token.ofFilter_eq_of_free (Category.ofName?_of_mem_names listed) named (by simpa using nonempty)
      free]
  rfl

/-- A relation of a form is a relation of a word, and is refused in the same way. -/
theorem relationOf_eq {category : Category} {filter : FormFilter} {relation : Relation}
    (given : relationWord category filter = [relation.symbol]) :
    relationOf category filter =
      if category.allows relation = false then .error (.relationNotAllowed category relation.text)
      else .ok relation := by
  rw [relationWord] at given
  rw [relationOf]
  cases relationGiven : filter.relation with
  | none =>
      simp only [relationGiven, List.cons.injEq] at given
      have same : category.defaultRelation = relation := by
        have symbols := congrArg Relation.ofSymbol? given.1
        rwa [Relation.ofSymbol?_symbol, Relation.ofSymbol?_symbol, Option.some.injEq] at symbols
      have allowed : category.allows relation = true := by
        rw [← same]
        cases category <;> rfl
      simp only [same, allowed, Bool.true_eq_false, if_false]
  | some typed =>
      simp only [relationGiven] at given
      simp only [given, Relation.ofText?, Relation.ofSymbol?_symbol, Relation.text,
        String.singleton_eq_ofList]
      cases category.allows relation <;> rfl

theorem exists_relationWord_eq (category : Category) {filter : FormFilter}
    (relations : ∀ typed, filter.relation = some typed →
      ∃ relation : Relation, trim typed.toList = [relation.symbol]) :
    ∃ relation : Relation, relationWord category filter = [relation.symbol] := by
  unfold relationWord
  cases given : filter.relation with
  | none => exact ⟨category.defaultRelation, rfl⟩
  | some typed => exact relations typed given

/-- The filters that count are those that have a word. -/
theorem filterWord?_eq_map (name : String) (filter : FormFilter) :
    filterWord? name filter =
      (countingCategory? name filter).map fun category => filterWord category name filter := by
  rw [filterWord?, countingCategory?, isEmpty_trim]
  cases Category.ofName? name with
  | none => rfl
  | some category => cases category <;> cases filter.value.toList.all isBlank <;> rfl

/-- A filter that counts is read as its word is. -/
theorem ofWord_filterWord {form : Form} (writable : form.IsWritable) {name : String}
    {filter : FormFilter} (listed : (name, filter) ∈ form.filters) {category : Category}
    (counting : countingCategory? name filter = some category) :
    Token.ofWord (filterWord category name filter) =
      relationOf category filter >>= fun relation =>
        Token.build category name filter.value.toList (some relation) filter.negated := by
  obtain ⟨named, notTag, given⟩ := countingCategory?_eq_some_iff.mp counting
  have member := Category.ofName?_eq_some_iff.mp named
  have counts : form.Counts name filter := ⟨listed, ⟨category, notTag, member⟩, given⟩
  obtain ⟨nonempty, unsigned, plain⟩ := Category.readable_of_mem_names member notTag
  obtain ⟨relation, hrelation⟩ := exists_relationWord_eq category
    (writable.relations name filter counts)
  have value : filter.value.toList ≠ [] := by
    intro empty
    simp [empty] at given
  rw [filterWord, hrelation, List.singleton_append,
    Token.ofWord_append relation nonempty unsigned plain,
    Token.ofFilter_eq_of_free named nonempty value (writable.values name filter counts),
    relationOf_eq hrelation]
  cases category.allows relation <;> rfl

/-- A filter is read as its word is, and without a word it is dropped. -/
theorem filterToken?_eq_mapM_ofWord {form : Form} (writable : form.IsWritable) {name : String}
    {filter : FormFilter} (listed : (name, filter) ∈ form.filters) :
    filterToken? name filter = (filterWord? name filter).mapM Token.ofWord := by
  rw [filterWord?_eq_map, filterToken?]
  cases counting : countingCategory? name filter with
  | none => rfl
  | some category =>
      rw [Option.map_some, Option.mapM_some, ofWord_filterWord writable listed counting, map_bind]
      rfl

/-- Reading a form is reading its words in order, with the same tokens or the same first error. -/
theorem tokens_eq_mapM_words (form : Form) (writable : form.IsWritable) :
    form.tokens = form.words.mapM Token.ofWord := by
  have tags : form.tagset.mapM tagToken = (form.tagset.map tagWord).mapM Token.ofWord := by
    rw [List.mapM_map]
    refine mapM_congr fun entry member => ?_
    exact tagToken_eq_ofWord (writable.tagset entry member).1 (writable.tagset entry member).2
  have filters : (form.filters.mapM fun (name, filter) => filterToken? name filter) =
      form.filters.mapM fun (name, filter) => (filterWord? name filter).mapM Token.ofWord :=
    mapM_congr fun (name, filter) member => filterToken?_eq_mapM_ofWord writable member
  rw [tokens, words, List.mapM_append, mapM_filterMap_eq, tags, filters]
  simp

/-- Blank filters and filters with unknown names have no word, whatever else they hold. -/
theorem tokens_eq_mapM_words_comments :
    let form : Form :=
      ⟨["3", "x"], [("cc", ⟨"2", some " > ", true⟩), ("mime", ⟨" ", some "?", false⟩),
        ("size", ⟨"a=b", none, false⟩), ("up", ⟨" ann* ", none, false⟩)]⟩
    form.words = ["tag_id=3".toList, "tag_id=x".toList, "-cc>2".toList, "up= ann* ".toList] ∧
      form.tokens = ["tag_id=3".toList, "tag_id=x".toList, "-cc>2".toList,
        "up= ann* ".toList].mapM Token.ofWord ∧
        form.tokens = .error (.invalidArgument .tagId "x" .notUnsigned) := by
  refine ⟨by rfl, tokens_eq_mapM_words _ ⟨?_, ?_, ?_⟩, by rfl⟩
  · decide +kernel
  · rintro name filter ⟨listed, ⟨category, -, named⟩, -⟩
    simp only [List.mem_cons, Prod.mk.injEq, List.not_mem_nil, or_false] at listed
    obtain ⟨rfl, rfl⟩ | ⟨rfl, rfl⟩ | ⟨rfl, rfl⟩ | ⟨rfl, rfl⟩ := listed
    · rfl
    · rfl
    · cases category <;> exact absurd named (by decide +kernel)
    · rfl
  · rintro name filter ⟨listed, -, given⟩ typed htyped
    simp only [List.mem_cons, Prod.mk.injEq, List.not_mem_nil, or_false] at listed
    obtain ⟨rfl, rfl⟩ | ⟨rfl, rfl⟩ | ⟨rfl, rfl⟩ | ⟨rfl, rfl⟩ := listed
    · cases htyped
      exact ⟨.greater, rfl⟩
    · exact absurd given (by decide +kernel)
    · cases htyped
    · cases htyped

end Form

end Tagboard
