import Tagboard.Proofs.ReadTokens
import Tagboard.Query.Compile

/-!
# What compiling tokens can find

Reading a token leaves only two questions open: whether a label names a level of rating, and whether
a MIME type is one of a media type. A list of tokens that were read compiles exactly if both are
settled for each of them, and otherwise fails at the first token for which they are not. The counts
that a compiled query has annotated are those that its predicate reads, however its tokens came
about.
-/

namespace Tagboard

open Text

/-- Numbers are typed without wildcards. -/
theorem Category.allowsWildcards_of_numeric {category : Category}
    (numeric : category.argumentKind false = .unsigned ∨ category.argumentKind false = .signed) :
    category.allowsWildcards = false := by
  revert numeric
  cases category <;> decide

namespace Token

section Read

variable {t : Token}

theorem IsRead.requireEqual_eq (read : t.IsRead) (simple : t.category.isComparable = false) :
    t.requireEqual = .ok () := by
  rw [requireEqual, if_pos (read.relationOrDefault_eq simple)]

theorem IsRead.textMatch_eq (read : t.IsRead) (simple : t.category.isComparable = false) :
    t.textMatch = .ok (.ofPattern t.argument) := by
  rw [textMatch, read.requireEqual_eq simple]
  rfl

/-- The argument of a category of unsigned numbers is read as the number that it denotes. -/
theorem IsRead.exists_unsignedValue (read : t.IsRead)
    (kind : t.category.argumentKind false = .unsigned) :
    ∃ value, t.unsignedValue = .ok value ∧
      integerOfNumeral? t.argument.text.toList = some (value.toNat : Int) := by
  have checked := read.check_argument (Category.allowsWildcards_of_numeric (.inl kind))
  rw [kind] at checked
  obtain ⟨value, numeral⟩ := Argument.check_unsigned_eq_ok_iff.mp checked
  refine ⟨value, ?_, integerOfNumeral?_of_natOfNumeral? numeral⟩
  rw [unsignedValue, readUInt64?_of_natOfNumeral? numeral]
  rfl

/-- The argument of a category of signed numbers is read as the integer that it denotes. -/
theorem IsRead.exists_signedValue (read : t.IsRead)
    (kind : t.category.argumentKind false = .signed) :
    ∃ value, t.signedValue = .ok value ∧
      integerOfNumeral? t.argument.text.toList = some value.toInt := by
  have checked := read.check_argument (Category.allowsWildcards_of_numeric (.inr kind))
  rw [kind] at checked
  obtain ⟨value, numeral⟩ := Argument.check_signed_eq_ok_iff.mp checked
  refine ⟨value, ?_, numeral⟩
  rw [signedValue, readInt64?_of_integerOfNumeral? numeral]
  rfl

/-- The label of a read token is looked up as it is, since no blanks stand around it. -/
theorem IsRead.ofLabel?_eq_some_iff (read : t.IsRead) (category : t.category = .ratingLabel)
    {rating : Rating} :
    Rating.ofLabel? t.argument.text = some rating ↔
      Rating.agreeIgnoringCase rating.label.toList t.argument.text.toList = true := by
  have checked := read.check_argument (by rw [category]; rfl)
  rw [category] at checked
  rw [Rating.ofLabel?_eq_some_iff, Argument.trim_of_check_ratingLabel checked]

/-- Whether the label or the MIME type of a token, if it has one, names something. -/
def Resolves (t : Token) : Prop :=
  match t.category with
  | .ratingLabel =>
      ∃ rating : Rating,
        Rating.agreeIgnoringCase rating.label.toList t.argument.text.toList = true
  | .mimetype => ∃ type : MediaType, type.mimetype = t.argument.text
  | _ => True

/-- The error of a label or a MIME type that names nothing. -/
def lookupError (t : Token) : SearchError :=
  if t.category = .ratingLabel then .unknownRating t.argument.text
  else .unknownMimetype t.argument.text

/-- A read token has no clause exactly if its label or its MIME type names nothing. -/
theorem IsRead.clause_eq_error_iff (read : t.IsRead) {e : SearchError} :
    t.clause = .error e ↔ ¬ t.Resolves ∧ e = t.lookupError := by
  cases category : t.category with
  | tag => simp [clause, Resolves, category]
  | tagAlias | commentBy | uploadedBy | source =>
      have matched := read.textMatch_eq (by rw [category]; rfl)
      simp [clause, Resolves, category, matched, Except.map]
  | tagId =>
      obtain ⟨value, numeral, -⟩ := read.exists_unsignedValue (by rw [category]; rfl)
      have equal := read.requireEqual_eq (by rw [category]; rfl)
      simp [clause, Resolves, category, equal, numeral]
  | postId | tagCount | commentCount | favoriteCount =>
      obtain ⟨value, numeral, -⟩ := read.exists_unsignedValue (by rw [category]; rfl)
      simp [clause, Resolves, category, unsignedComparison, numeral, Except.map]
  | ratingNumber | height | width =>
      obtain ⟨value, numeral, -⟩ := read.exists_signedValue (by rw [category]; rfl)
      simp [clause, Resolves, category, signedComparison, numeral, Except.map]
  | ratingLabel =>
      have equal := read.requireEqual_eq (by rw [category]; rfl)
      simp only [clause, Resolves, lookupError, category, equal,
        ← read.ofLabel?_eq_some_iff category]
      cases Rating.ofLabel? t.argument.text <;> simp [eq_comm]
  | mimetype =>
      have equal := read.requireEqual_eq (by rw [category]; rfl)
      simp only [clause, Resolves, lookupError, category, equal,
        ← MediaType.ofMimetype?_eq_some_iff]
      cases MediaType.ofMimetype? t.argument.text <;>
        simp [eq_comm]

/-- The label or the MIME type that names nothing decides which error a token gives. -/
theorem lookupError_of_not_resolves (unresolved : ¬ t.Resolves) :
    t.category = .ratingLabel ∧ t.lookupError = .unknownRating t.argument.text ∨
      t.category = .mimetype ∧ t.lookupError = .unknownMimetype t.argument.text := by
  revert unresolved
  unfold Resolves lookupError
  cases t.category <;> simp

theorem predicate_eq_ok_iff {p : Predicate} :
    t.predicate = .ok p ↔
      ∃ c, t.clause = .ok c ∧ (if t.negated then .not (.clause c) else .clause c) = p :=
  map_eq_ok_iff

theorem predicate_eq_error_iff {e : SearchError} : t.predicate = .error e ↔ t.clause = .error e :=
  map_eq_error_iff

/-- A read token is compiled exactly if its label or its MIME type, if it has one, names something. -/
theorem IsRead.exists_predicate_iff (read : t.IsRead) :
    (∃ p, t.predicate = .ok p) ↔ t.Resolves := by
  cases compiled : t.predicate with
  | ok p =>
      have resolves : t.Resolves := by
        by_contra unresolved
        have failed := read.clause_eq_error_iff.mpr ⟨unresolved, rfl⟩
        rw [← predicate_eq_error_iff, compiled] at failed
        cases failed
      exact ⟨fun _ => resolves, fun _ => ⟨p, rfl⟩⟩
  | error e =>
      have unresolved := (read.clause_eq_error_iff.mp (predicate_eq_error_iff.mp compiled)).1
      constructor
      · rintro ⟨p, impossible⟩
        cases impossible
      · exact fun resolves => absurd resolves unresolved

/-- The clause of a token reads the count that its category reads. -/
theorem aggregate?_of_clause {c : Clause} (compiled : t.clause = .ok c) :
    c.aggregate? = t.category.aggregate? := by
  unfold clause at compiled
  cases category : t.category with
  | tag =>
      simp only [category, Except.ok.injEq] at compiled
      rw [← compiled]
      rfl
  | tagAlias | commentBy | uploadedBy | source | postId | tagCount | commentCount | favoriteCount
  | ratingNumber | height | width =>
      simp only [category, map_eq_ok_iff] at compiled
      obtain ⟨value, -, rfl⟩ := compiled
      rfl
  | tagId =>
      simp only [category, bind_eq_ok_iff] at compiled
      obtain ⟨_, -, value, -, same⟩ := compiled
      cases same
      rfl
  | ratingLabel | mimetype =>
      simp only [category, bind_eq_ok_iff] at compiled
      obtain ⟨_, -, found⟩ := compiled
      split at found <;> cases found
      rfl

end Read

end Token

namespace Predicate

theorem clausesOfAll_eq_flatMap (conditions : List Predicate) :
    clausesOfAll conditions = conditions.flatMap clauses := by
  induction conditions with
  | nil => rfl
  | cons condition rest ih => rw [clausesOfAll, ih, List.flatMap_cons]

end Predicate

theorem compile_eq_ok_iff {tokens : List Token} {excluded : List TagId} {query : CompiledQuery} :
    compile tokens excluded = .ok query ↔
      ∃ conditions, tokens.mapM Token.predicate = .ok conditions ∧
        ⟨requiredAggregates tokens, .all (exclusion excluded ++ conditions)⟩ = query := by
  simp only [compile, bind_eq_ok_iff, pure_eq_ok, Except.ok.injEq]

theorem compile_eq_error_iff {tokens : List Token} {excluded : List TagId} {e : SearchError} :
    compile tokens excluded = .error e ↔ tokens.mapM Token.predicate = .error e := by
  simp [compile, bind_eq_error_iff]

/-- A query compiles exactly if each of its tokens does. -/
theorem exists_compile_iff {tokens : List Token} {excluded : List TagId} :
    (∃ query, compile tokens excluded = .ok query) ↔ ∀ t ∈ tokens, ∃ p, t.predicate = .ok p := by
  rw [← exists_mapM_eq_ok_iff]
  simp only [compile_eq_ok_iff]
  constructor
  · rintro ⟨query, conditions, success, -⟩
    exact ⟨conditions, success⟩
  · rintro ⟨conditions, success⟩
    exact ⟨_, conditions, success, rfl⟩

/-- Tokens as they are read compile exactly if each of their labels and MIME types names something. -/
theorem exists_compile_iff_resolves {tokens : List Token} (read : ∀ t ∈ tokens, t.IsRead)
    {excluded : List TagId} :
    (∃ query, compile tokens excluded = .ok query) ↔ ∀ t ∈ tokens, t.Resolves := by
  rw [exists_compile_iff]
  exact forall₂_congr fun t member => (read t member).exists_predicate_iff

/-- Tokens as they are read fail to compile as the first one whose label or MIME type names nothing. -/
theorem compile_eq_error_iff_resolves {tokens : List Token} (read : ∀ t ∈ tokens, t.IsRead)
    {excluded : List TagId} {e : SearchError} :
    compile tokens excluded = .error e ↔
      ∃ before t after, tokens = before ++ t :: after ∧ (∀ s ∈ before, s.Resolves) ∧
        ¬ t.Resolves ∧ e = t.lookupError := by
  rw [compile_eq_error_iff, mapM_eq_error_iff]
  constructor
  · rintro ⟨before, t, after, rfl, resolved, failed⟩
    have readBefore : ∀ s ∈ before, s.IsRead := fun s member => read s (by simp [member])
    obtain ⟨unresolved, same⟩ := (read t (by simp)).clause_eq_error_iff.mp
      (Token.predicate_eq_error_iff.mp failed)
    refine ⟨before, t, after, rfl, fun s member => ?_, unresolved, same⟩
    exact (readBefore s member).exists_predicate_iff.mp (resolved s member)
  · rintro ⟨before, t, after, rfl, resolved, unresolved, same⟩
    have readBefore : ∀ s ∈ before, s.IsRead := fun s member => read s (by simp [member])
    refine ⟨before, t, after, rfl, fun s member => ?_, ?_⟩
    · exact (readBefore s member).exists_predicate_iff.mpr (resolved s member)
    · exact Token.predicate_eq_error_iff.mpr
        ((read t (by simp)).clause_eq_error_iff.mpr ⟨unresolved, same⟩)

/--
The tokens of a query or of a form compile exactly if each label and each MIME type among them names
something. Otherwise the error is that of the first one that does not, and no other error occurs.
-/
theorem compile_read_tokens {tokens : List Token}
    (read : (∃ query, Token.ofQuery query = .ok tokens) ∨ ∃ form : Form, form.tokens = .ok tokens)
    (excluded : List TagId) :
    ((∃ query, compile tokens excluded = .ok query) ↔ ∀ t ∈ tokens, t.Resolves) ∧
      ∀ e, compile tokens excluded = .error e ↔
        ∃ before t after, tokens = before ++ t :: after ∧ (∀ s ∈ before, s.Resolves) ∧
          ¬ t.Resolves ∧
            (t.category = .ratingLabel ∧ e = .unknownRating t.argument.text ∨
              t.category = .mimetype ∧ e = .unknownMimetype t.argument.text) := by
  have allRead : ∀ t ∈ tokens, t.IsRead := by
    rcases read with ⟨query, read⟩ | ⟨form, read⟩
    · exact .of_ofQuery read
    · exact .of_form read
  refine ⟨exists_compile_iff_resolves allRead, fun e => ?_⟩
  rw [compile_eq_error_iff_resolves allRead]
  constructor
  · rintro ⟨before, t, after, rfl, resolved, unresolved, rfl⟩
    exact ⟨before, t, after, rfl, resolved, unresolved, by
      simpa [eq_comm] using Token.lookupError_of_not_resolves unresolved⟩
  · rintro ⟨before, t, after, rfl, resolved, unresolved, same⟩
    refine ⟨before, t, after, rfl, resolved, unresolved, ?_⟩
    rcases same with ⟨category, rfl⟩ | ⟨category, rfl⟩ <;> simp [Token.lookupError, category]

/-- A known label before an unknown MIME type: the MIME type is the one that is reported. -/
theorem compile_read_tokens_mimetype :
    Token.ofQuery "rate=Safe -mime=image/x r=none" =
        .ok [⟨.ratingLabel, "rate", ⟨"Safe", []⟩, some .equal, false⟩,
          ⟨.mimetype, "mime", ⟨"image/x", []⟩, some .equal, true⟩,
          ⟨.ratingLabel, "r", ⟨"none", []⟩, some .equal, false⟩] ∧
      compile [⟨.ratingLabel, "rate", ⟨"Safe", []⟩, some .equal, false⟩,
          ⟨.mimetype, "mime", ⟨"image/x", []⟩, some .equal, true⟩,
          ⟨.ratingLabel, "r", ⟨"none", []⟩, some .equal, false⟩] [7] =
        .error (.unknownMimetype "image/x") := by
  refine ⟨by rfl, ((compile_read_tokens (.inl ⟨"rate=Safe -mime=image/x r=none", by rfl⟩) [7]).2 _).mpr
    ⟨[⟨.ratingLabel, "rate", ⟨"Safe", []⟩, some .equal, false⟩],
      ⟨.mimetype, "mime", ⟨"image/x", []⟩, some .equal, true⟩, _, rfl, ?_, ?_, .inr ⟨rfl, rfl⟩⟩⟩
  · rintro _ (_ | ⟨_, ⟨⟩⟩)
    exact ⟨.safe, by decide +kernel⟩
  · rintro ⟨type, same⟩
    revert same
    cases type <;> decide +kernel

/-- The counts that are annotated for a query are those that its predicate reads. -/
theorem aggregates_of_compile {tokens : List Token} {excluded : List TagId} {query : CompiledQuery}
    (compiled : compile tokens excluded = .ok query) :
    query.aggregates = query.predicate.aggregates := by
  obtain ⟨conditions, hconditions, rfl⟩ := compile_eq_ok_iff.mp compiled
  have excludedReads : ((exclusion excluded).flatMap Predicate.clauses).filterMap
      Clause.aggregate? = [] := by
    unfold exclusion
    split <;> rfl
  -- Token by token, the clause reads what the category reads.
  have tokensRead : (conditions.flatMap Predicate.clauses).filterMap Clause.aggregate? =
      tokens.filterMap (·.category.aggregate?) := by
    clear compiled
    rw [mapM_eq_ok_iff] at hconditions
    induction hconditions with
    | nil => rfl
    | @cons t p _ _ hpredicate _ ih =>
        obtain ⟨c, hclause, rfl⟩ := Token.predicate_eq_ok_iff.mp hpredicate
        have single : (if t.negated = true then Predicate.not (.clause c) else .clause c).clauses =
            [c] := by
          split <;> rfl
        rw [List.flatMap_cons, single, List.filterMap_append, ih, List.filterMap_cons,
          List.filterMap_cons, Token.aggregate?_of_clause hclause]
        cases t.category.aggregate? <;> rfl
  simp only [requiredAggregates, Predicate.aggregates, Predicate.clauses,
    Predicate.clausesOfAll_eq_flatMap, List.flatMap_append, List.filterMap_append, excludedReads,
    tokensRead, List.nil_append]

end Tagboard
