import Mathlib.Data.List.Sort
import Tagboard.Form
import Tagboard.Proofs.OrderedSets

/-!
# Forms and their fields

The name of a field says what the field is, and nothing is said by two names. So the fields of a form can
be given in any order that keeps the entries of the tagset in sequence, beside fields that belong to no
filter, and make up the form again. Neighbouring fields of different names may change places, and of the
fields of one name, unless it is that of the tagset, only the last one counts.
-/

namespace Tagboard

namespace Form

section Ending

variable {ending filter : String} {s : List Char}

theorem take_length_sub_length (before : List Char) :
    (before ++ ending.toList).take ((before ++ ending.toList).length - ending.length) = before := by
  rw [List.length_append, String.length_toList, Nat.add_sub_cancel, List.take_left]

theorem withoutEnding?_eq_some_iff :
    withoutEnding? ending s = some filter ↔ s = filter.toList ++ ending.toList := by
  unfold withoutEnding?
  constructor
  · intro found
    split at found
    · next ends =>
      obtain ⟨before, rfl⟩ := List.isSuffixOf_iff_suffix.mp ends
      rw [take_length_sub_length, Option.some.injEq] at found
      rw [← found, String.toList_ofList]
    · cases found
  · rintro rfl
    rw [if_pos (List.isSuffixOf_iff_suffix.mpr (List.suffix_append ..)), take_length_sub_length,
      String.ofList_toList]

theorem withoutEnding?_eq_none_iff : withoutEnding? ending s = none ↔ ¬ ending.toList <:+ s := by
  unfold withoutEnding?
  simp [List.isSuffixOf_iff_suffix]

end Ending

/-- Whether a text can name a filter: as the name of a field it says nothing else. -/
structure IsFilterName (name : String) : Prop where
  notTagset : name ≠ "tagset"
  notRelation : ¬ "_relation".toList <:+ name.toList
  notNegation : ¬ "_negate".toList <:+ name.toList

instance (name : String) : Decidable (IsFilterName name) :=
  decidable_of_iff (name ≠ "tagset" ∧ ¬ "_relation".toList <:+ name.toList ∧
    ¬ "_negate".toList <:+ name.toList)
    ⟨fun ⟨tagset, relation, negation⟩ => ⟨tagset, relation, negation⟩,
      fun isName => ⟨isName.notTagset, isName.notRelation, isName.notNegation⟩⟩

/-- The name of the field of a role. -/
def fieldName : FieldRole → String
  | .tag => "tagset"
  | .relation filter => filter ++ "_relation"
  | .negation filter => filter ++ "_negate"
  | .value filter => filter

/-- The role of a field determines its name. -/
theorem fieldName_role (name : String) : fieldName (role name) = name := by
  unfold role
  split
  · next tagset => exact (eq_of_beq tagset).symm
  split
  · next filter found =>
    rw [fieldName, ← String.toList_inj, String.toList_append, withoutEnding?_eq_some_iff.mp found]
  split
  · next filter found =>
    rw [fieldName, ← String.toList_inj, String.toList_append, withoutEnding?_eq_some_iff.mp found]
  · rfl

theorem role_injective {name other : String} (same : role name = role other) : name = other := by
  rw [← fieldName_role name, same, fieldName_role]

theorem role_tagset : role "tagset" = .tag := rfl

theorem role_eq_tag_iff {name : String} : role name = .tag ↔ name = "tagset" := by
  constructor
  · exact fun tag => role_injective (tag.trans role_tagset.symm)
  · rintro rfl
    exact role_tagset

theorem getLast?_append_ending (filter : String) {ending : String} (nonempty : ending.toList ≠ []) :
    (filter ++ ending).toList.getLast? = ending.toList.getLast? := by
  rw [String.toList_append, List.getLast?_append_of_ne_nil _ nonempty]

/-- A name with an ending is told from that of the tagset by its last letter. -/
theorem append_ne_tagset (filter : String) {ending : String} (nonempty : ending.toList ≠ [])
    (letter : ending.toList.getLast? ≠ some 't') : ¬ (filter ++ ending == "tagset") = true := by
  intro same
  rw [← getLast?_append_ending filter nonempty, eq_of_beq same] at letter
  exact letter rfl

@[simp] theorem role_relation (filter : String) : role (filter ++ "_relation") = .relation filter := by
  rw [role, if_neg (append_ne_tagset filter (by decide) (by decide)),
    withoutEnding?_eq_some_iff.mpr (String.toList_append ..)]

@[simp] theorem role_negation (filter : String) : role (filter ++ "_negate") = .negation filter := by
  have noRelation : withoutEnding? "_relation" (filter ++ "_negate").toList = none := by
    rw [withoutEnding?_eq_none_iff]
    rintro ⟨before, same⟩
    have last : (filter ++ "_negate").toList.getLast? = some 'e' :=
      getLast?_append_ending filter (by decide)
    rw [← same, List.getLast?_append_of_ne_nil _ (by decide)] at last
    exact absurd last (by decide)
  rw [role, if_neg (append_ne_tagset filter (by decide) (by decide)), noRelation]
  dsimp only
  rw [withoutEnding?_eq_some_iff.mpr (String.toList_append ..)]

theorem role_value {name : String} (isName : IsFilterName name) : role name = .value name := by
  rw [role, if_neg (by simpa using isName.notTagset),
    withoutEnding?_eq_none_iff.mpr isName.notRelation]
  dsimp only
  rw [withoutEnding?_eq_none_iff.mpr isName.notNegation]

/-- Whether a field of a role has a value. -/
def Gives (pairs : List (String × String)) (wanted : FieldRole) (value : String) : Prop :=
  ∃ pair ∈ pairs, role pair.1 = wanted ∧ pair.2 = value

section Last

variable {pairs pairs' later : List (String × String)} {wanted : FieldRole} {value : String}

theorem last?_append : last? (pairs ++ later) wanted = (last? later wanted).or (last? pairs wanted) := by
  rw [last?, List.reverse_append, List.find?_append, Option.map_or]
  rfl

theorem last?_cons (name value : String) :
    last? ((name, value) :: later) wanted =
      (last? later wanted).or (if role name = wanted then some value else none) := by
  rw [← List.singleton_append, last?_append]
  by_cases same : role name = wanted <;> simp [last?, same]

theorem last?_eq_none_iff : last? pairs wanted = none ↔ ∀ pair ∈ pairs, role pair.1 ≠ wanted := by
  simp [last?]

theorem gives_of_last? (found : last? pairs wanted = some value) : Gives pairs wanted value := by
  obtain ⟨pair, first, rfl⟩ := Option.map_eq_some_iff.mp found
  have member := List.mem_of_find?_eq_some first
  have same := List.find?_some first
  exact ⟨pair, List.mem_reverse.mp member, eq_of_beq same, rfl⟩

/-- Where a role has at most one value, its last value is this one. -/
theorem last?_eq_of_gives_iff {value? : Option String}
    (gives : ∀ value, Gives pairs wanted value ↔ value? = some value) :
    last? pairs wanted = value? := by
  cases found : last? pairs wanted with
  | some value => exact ((gives value).mp (gives_of_last? found)).symm
  | none =>
      cases value? with
      | none => rfl
      | some value =>
          obtain ⟨pair, member, same, -⟩ := (gives value).mpr rfl
          exact absurd same (last?_eq_none_iff.mp found pair member)

/-- Fields of other roles do not matter for the last value of a role. -/
theorem last?_filter {keep : String × String → Bool}
    (kept : ∀ pair ∈ pairs, role pair.1 = wanted → keep pair = true) :
    last? (pairs.filter keep) wanted = last? pairs wanted := by
  induction pairs with
  | nil => rfl
  | cons pair rest ih =>
      obtain ⟨name, value⟩ := pair
      rw [List.forall_mem_cons] at kept
      rw [last?_cons, ← ih kept.2, List.filter_cons]
      split
      · rw [last?_cons]
      · next dropped =>
        rw [if_neg fun same => dropped (kept.1 same), Option.or_none]

/-- The filters of a form are those that have a value. -/
theorem mem_filterNames_iff {name : String} :
    name ∈ filterNames pairs ↔ ∃ value, Gives pairs (.value name) value := by
  rw [filterNames, mem_orderedSet_iff, List.mem_filterMap]
  constructor
  · rintro ⟨pair, member, found⟩
    cases same : role pair.1 <;> simp only [same, Option.some.injEq, reduceCtorEq] at found
    subst found
    exact ⟨pair.2, pair, member, same, rfl⟩
  · rintro ⟨value, pair, member, same, -⟩
    exact ⟨pair, member, by simp only [same]⟩

theorem pairwise_filterNames (pairs : List (String × String)) : (filterNames pairs).Pairwise (· < ·) :=
  pairwise_orderedSet _

theorem exists_gives_iff : (∃ value, Gives pairs wanted value) ↔ last? pairs wanted ≠ none := by
  rw [Ne, last?_eq_none_iff]
  constructor
  · rintro ⟨value, pair, member, same, -⟩ none
    exact none pair member same
  · intro some
    by_contra nothing
    exact some fun pair member same => nothing ⟨pair.2, pair, member, same, rfl⟩

theorem tagset_ofPairs (pairs : List (String × String)) :
    (ofPairs pairs).tagset = (pairs.filter (·.1 == "tagset")).map (·.2) := by
  dsimp only [ofPairs]
  induction pairs with
  | nil => rfl
  | cons pair rest ih =>
      obtain ⟨name, value⟩ := pair
      rw [List.filterMap_cons, List.filter_cons, ih]
      by_cases same : name = "tagset"
      · simp [same, role_tagset]
      · have other : role name ≠ .tag := fun tag => same (role_eq_tag_iff.mp tag)
        simp [same, other]

theorem ofPairs_eq (pairs : List (String × String)) :
    ofPairs pairs = ⟨(pairs.filter (·.1 == "tagset")).map (·.2),
      (filterNames pairs).map fun name => (name, filterOf pairs name)⟩ := by
  rw [← tagset_ofPairs, ofPairs]

/-- A form depends on the entries of the tagset and on the last value of each other role. -/
theorem ofPairs_congr
    (tagset : pairs.filter (·.1 == "tagset") = pairs'.filter (·.1 == "tagset"))
    (last : ∀ wanted, wanted ≠ .tag → last? pairs wanted = last? pairs' wanted) :
    ofPairs pairs = ofPairs pairs' := by
  have names : filterNames pairs = filterNames pairs' := by
    refine (pairwise_filterNames pairs).eq_of_mem_iff (pairwise_filterNames pairs') fun name => ?_
    rw [mem_filterNames_iff, mem_filterNames_iff, exists_gives_iff, exists_gives_iff,
      last (.value name) nofun]
  have filters : filterOf pairs = filterOf pairs' := by
    funext name
    rw [filterOf, filterOf, last (.value name) nofun, last (.relation name) nofun,
      last (.negation name) nofun]
  rw [ofPairs_eq, ofPairs_eq, tagset, names, filters]

end Last

/-- Neighbouring fields of different names may change places. -/
theorem ofPairs_swap (before after : List (String × String)) {first second : String × String}
    (different : first.1 ≠ second.1) :
    ofPairs (before ++ first :: second :: after) = ofPairs (before ++ second :: first :: after) := by
  obtain ⟨name, value⟩ := first
  obtain ⟨other, otherValue⟩ := second
  refine ofPairs_congr ?_ fun wanted _ => ?_
  · have atMostOne : ¬(name = "tagset" ∧ other = "tagset") := fun both =>
      different (both.1.trans both.2.symm)
    by_cases tagset : name = "tagset" <;> by_cases otherTagset : other = "tagset" <;>
      simp_all
  · have atMostOne : ¬(role name = wanted ∧ role other = wanted) := fun both =>
      different (role_injective (both.1.trans both.2.symm))
    simp only [last?_append, last?_cons]
    by_cases same : role name = wanted
    · have otherRole : role other ≠ wanted := fun otherSame => atMostOne ⟨same, otherSame⟩
      simp [same, otherRole]
    · simp [same]

/-- Of the fields of one name, unless it is that of the tagset, those before another one do not count. -/
theorem ofPairs_filter (before after : List (String × String)) {name : String}
    (notTagset : name ≠ "tagset") (value : String) :
    ofPairs (before ++ (name, value) :: after) =
      ofPairs (before.filter (·.1 != name) ++ (name, value) :: after) := by
  refine ofPairs_congr ?_ fun wanted _ => ?_
  · rw [List.filter_append, List.filter_append, List.filter_filter]
    congr 1
    refine List.filter_congr fun pair _ => ?_
    by_cases tagset : pair.1 = "tagset"
    · simp [tagset, Ne.symm notTagset]
    · simp [tagset]
  · rw [last?_append, last?_append, last?_cons]
    by_cases same : role name = wanted
    · cases last? after wanted <;> simp [same]
    · have kept : ∀ pair ∈ before, role pair.1 = wanted → (pair.1 != name) = true := by
        intro pair _ wantedRole
        rw [bne_iff_ne]
        rintro rfl
        exact same wantedRole
      rw [last?_filter kept]

/-- The fields of a filter, given what its field of negation says, if there is one. -/
def filterFields (name : String) (filter : FormFilter) (negation : Option String) :
    List (String × String) :=
  (name, filter.value) :: (filter.relation.map (name ++ "_relation", ·)).toList ++
    (negation.map (name ++ "_negate", ·)).toList

/-- Whether the filters of a form have names of filters, in strictly ascending order. -/
structure IsKeyed (form : Form) : Prop where
  names : ∀ field ∈ form.filters, IsFilterName field.1
  ascending : (form.filters.map (·.1)).Pairwise (· < ·)

/-- Whether fields write a form, given what the fields of negation say and which fields belong to no
filter. -/
structure Writes (negation : String → Option String) (strays pairs : List (String × String))
    (form : Form) : Prop where
  /-- The fields are those of the tagset, those of the filters and the strays, in any order. -/
  fields : pairs.Perm (form.tagset.map ("tagset", ·) ++
    form.filters.flatMap (fun field => filterFields field.1 field.2 (negation field.1)) ++ strays)
  /-- The entries of the tagset are in sequence. -/
  sequence : pairs.filter (·.1 == "tagset") = form.tagset.map ("tagset", ·)
  /-- A field of negation is there for each filter that is negated, and switches it on; for another
  filter it is missing or switches it off. -/
  negated : ∀ field ∈ form.filters, (negation field.1).any isTruthy = field.2.negated
  /-- A stray says something about a filter that has no value. -/
  stray : ∀ pair ∈ strays, ∃ key, key ∉ form.filters.map (·.1) ∧
    (pair.1 = key ++ "_relation" ∨ pair.1 = key ++ "_negate")

theorem gives_append {pairs later : List (String × String)} {wanted : FieldRole} {value : String} :
    Gives (pairs ++ later) wanted value ↔ Gives pairs wanted value ∨ Gives later wanted value := by
  simp only [Gives, List.mem_append, or_and_right, exists_or]

/-- The fields of a filter say its value, its relation and its negation. -/
theorem gives_filterFields_iff {name : String} (isName : IsFilterName name) {filter : FormFilter}
    {negation : Option String} {wanted : FieldRole} {value : String} :
    Gives (filterFields name filter negation) wanted value ↔
      wanted = .value name ∧ filter.value = value ∨
        wanted = .relation name ∧ filter.relation = some value ∨
          wanted = .negation name ∧ negation = some value := by
  rw [filterFields, List.cons_append, ← List.singleton_append, gives_append, gives_append]
  simp [Gives, role_value isName, @eq_comm _ wanted, and_comm]

/-- The filter that a field says something about. -/
def FieldRole.filter? : FieldRole → Option String
  | .tag => none
  | .relation filter | .negation filter | .value filter => some filter

namespace Writes

variable {negation : String → Option String} {strays pairs : List (String × String)} {form : Form}
  {wanted : FieldRole} {value : String}

/-- A field is of the tagset, of a filter or a stray. -/
theorem cases_of_gives (writes : Writes negation strays pairs form) (gives : Gives pairs wanted value) :
    wanted = .tag ∨
      (∃ field ∈ form.filters,
        Gives (filterFields field.1 field.2 (negation field.1)) wanted value) ∨
      ∃ key, key ∉ form.filters.map (·.1) ∧ (wanted = .relation key ∨ wanted = .negation key) := by
  obtain ⟨pair, member, rfl, rfl⟩ := gives
  rw [writes.fields.mem_iff, List.mem_append, List.mem_append] at member
  rcases member with (tagset | ofFilter) | stray
  · obtain ⟨entry, -, rfl⟩ := List.mem_map.mp tagset
    exact .inl role_tagset
  · obtain ⟨field, listed, inside⟩ := List.mem_flatMap.mp ofFilter
    exact .inr (.inl ⟨field, listed, pair, inside, rfl, rfl⟩)
  · obtain ⟨key, missing, relation | negation⟩ := writes.stray pair stray
    · exact .inr (.inr ⟨key, missing, .inl (by rw [relation, role_relation])⟩)
    · exact .inr (.inr ⟨key, missing, .inr (by rw [negation, role_negation])⟩)

variable (writes : Writes negation strays pairs form) (keyed : form.IsKeyed)

include writes keyed

/-- What is said about a filter is what its own fields say. -/
theorem gives_iff_of_filter? {field : String × FormFilter} (listed : field ∈ form.filters)
    (about : wanted.filter? = some field.1) :
    Gives pairs wanted value ↔
      Gives (filterFields field.1 field.2 (negation field.1)) wanted value := by
  constructor
  · intro gives
    rcases writes.cases_of_gives gives with rfl | ⟨other, otherListed, given⟩ | ⟨key, missing, said⟩
    · cases about
    · have said : wanted.filter? = some other.1 := by
        rcases (gives_filterFields_iff (keyed.names other otherListed)).mp given with
          ⟨rfl, -⟩ | ⟨rfl, -⟩ | ⟨rfl, -⟩ <;> rfl
      have distinct : (form.filters.map (·.1)).Nodup := by
        refine keyed.ascending.imp ?_
        rintro name _ less rfl
        exact String.lt_irrefl name less
      have same : other = field :=
        List.inj_on_of_nodup_map distinct otherListed listed (Option.some.inj (said.symm.trans about))
      rwa [same] at given
    · have key_eq : key = field.1 := by
        rcases said with rfl | rfl <;> exact Option.some.inj about
      rw [key_eq] at missing
      exact absurd (List.mem_map_of_mem listed) missing
  · rintro ⟨pair, inside, same⟩
    refine ⟨pair, ?_, same⟩
    rw [writes.fields.mem_iff, List.mem_append, List.mem_append]
    exact .inl (.inr (List.mem_flatMap.mpr ⟨field, listed, inside⟩))

/-- A filter is put together again from the fields. -/
theorem filterOf_eq {field : String × FormFilter} (listed : field ∈ form.filters) :
    filterOf pairs field.1 = field.2 := by
  have isName := keyed.names field listed
  have last {wanted : FieldRole} {value? : Option String} (about : wanted.filter? = some field.1)
      (given : ∀ value, Gives (filterFields field.1 field.2 (negation field.1)) wanted value ↔
        value? = some value) : last? pairs wanted = value? :=
    last?_eq_of_gives_iff fun value =>
      (writes.gives_iff_of_filter? keyed listed about).trans (given value)
  have value : last? pairs (.value field.1) = some field.2.value :=
    last rfl fun _ => by simp [gives_filterFields_iff isName]
  have relation : last? pairs (.relation field.1) = field.2.relation :=
    last rfl fun _ => by simp [gives_filterFields_iff isName]
  have negation : last? pairs (.negation field.1) = negation field.1 :=
    last rfl fun _ => by simp [gives_filterFields_iff isName]
  rw [filterOf, value, relation, negation, writes.negated field listed]
  rfl

theorem filterNames_eq : filterNames pairs = form.filters.map (·.1) := by
  refine (pairwise_filterNames pairs).eq_of_mem_iff keyed.ascending fun name => ?_
  rw [mem_filterNames_iff]
  constructor
  · rintro ⟨value, gives⟩
    rcases writes.cases_of_gives gives with tag | ⟨field, listed, given⟩ | ⟨key, -, said⟩
    · cases tag
    · rcases (gives_filterFields_iff (keyed.names field listed)).mp given with
        ⟨same, -⟩ | ⟨other, -⟩ | ⟨other, -⟩
      · cases same
        exact List.mem_map_of_mem listed
      · cases other
      · cases other
    · rcases said with said | said <;> cases said
  · intro named
    obtain ⟨field, listed, rfl⟩ := List.mem_map.mp named
    refine ⟨field.2.value, (writes.gives_iff_of_filter? keyed listed rfl).mpr ?_⟩
    exact (gives_filterFields_iff (keyed.names field listed)).mpr (.inl ⟨rfl, rfl⟩)

/-- Fields that write a form are read as this form. -/
theorem ofPairs_eq : ofPairs pairs = form := by
  have tagset : (pairs.filter (·.1 == "tagset")).map (·.2) = form.tagset := by
    rw [writes.sequence, List.map_map]
    exact List.map_id form.tagset
  have filters : ((filterNames pairs).map fun name => (name, filterOf pairs name)) = form.filters := by
    rw [writes.filterNames_eq keyed, List.map_map]
    refine (List.map_congr_left fun field listed => ?_).trans (List.map_id form.filters)
    exact Prod.ext rfl (writes.filterOf_eq keyed listed)
  rw [Form.ofPairs_eq, tagset, filters]

end Writes

/--
Fields that write a form are read as this form, in whatever order they are, as long as the entries of the
tagset keep their sequence, and whatever else they say about filters without a value. Any two neighbouring
fields of different names may change places, and of the fields of one name, unless it is that of the
tagset, the last one alone counts.
-/
theorem fields_write_forms :
    (∀ (form : Form) (negation : String → Option String) (strays pairs : List (String × String)),
      form.IsKeyed → Writes negation strays pairs form → ofPairs pairs = form) ∧
    (∀ (before after : List (String × String)) (first second : String × String),
      first.1 ≠ second.1 →
      ofPairs (before ++ first :: second :: after) = ofPairs (before ++ second :: first :: after)) ∧
    ∀ (before after : List (String × String)) (name value : String), name ≠ "tagset" →
      ofPairs (before ++ (name, value) :: after) =
        ofPairs (before.filter (·.1 != name) ++ (name, value) :: after) :=
  ⟨fun _ _ _ _ keyed writes => writes.ofPairs_eq keyed,
    fun before after _ _ different => ofPairs_swap before after different,
    fun before after _ value notTagset => ofPairs_filter before after notTagset value⟩

/-- The fields of a form in disorder, beside a stray that speaks of the tagset. -/
theorem fields_write_forms_disorder :
    let form : Form := ⟨["7", "5"], [("", ⟨"x", none, false⟩), ("cc", ⟨"3", some ">", false⟩),
      ("up", ⟨"bob", none, true⟩)]⟩
    let negation : String → Option String := fun name =>
      if name = "up" then some "on" else if name = "cc" then some " Off" else none
    let strays := [("tagset_relation", "<"), ("up_relation_negate", "1")]
    let pairs := [("up_negate", "on"), ("tagset", "7"), ("cc_relation", ">"), ("tagset_relation", "<"),
      ("cc", "3"), ("tagset", "5"), ("", "x"), ("up_relation_negate", "1"), ("cc_negate", " Off"),
      ("up", "bob")]
    form.IsKeyed ∧ Writes negation strays pairs form ∧ ofPairs pairs = form ∧
      ofPairs ([("h", "9")] ++ ("h_negate", "1") :: ("h", "8") :: [("_negate", "0")]) =
        ⟨[], [("h", ⟨"8", none, true⟩)]⟩ := by
  intro form negation strays pairs
  have keyed : form.IsKeyed := ⟨by decide +kernel, by decide +kernel⟩
  have writes : Writes negation strays pairs form := {
    fields := by decide +kernel
    sequence := by decide +kernel
    negated := by decide +kernel
    stray := by
      intro pair member
      rcases List.mem_pair.mp member with rfl | rfl
      · exact ⟨"tagset", by decide +kernel, .inl rfl⟩
      · exact ⟨"up_relation", by decide +kernel, .inr rfl⟩ }
  obtain ⟨written, swapped, last⟩ := fields_write_forms
  refine ⟨keyed, writes, written form negation strays pairs keyed writes, ?_⟩
  rw [swapped [("h", "9")] [("_negate", "0")] ("h_negate", "1") ("h", "8") (by decide),
    last [("h", "9")] [("h_negate", "1"), ("_negate", "0")] "h" "8" (by decide)]
  decide +kernel

end Form

end Tagboard
