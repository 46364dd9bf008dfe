import Tagboard.OrderedSet
import Tagboard.Token

/-!
# Forms

A search that is submitted field by field. The field `tagset` may be given several times, each time
with the number of a tag. Any other field is a filter; a field of the same name with the ending
`_relation` or `_negate` belongs to it and is dropped where the filter itself is missing.
-/

namespace Tagboard

open Text

/-- One filter of a form. -/
structure FormFilter where
  value : String
  /-- The relation as it was given, if it was. -/
  relation : Option String
  negated : Bool
deriving DecidableEq, Repr

/-- A search as a form gives it. -/
structure Form where
  tagset : List String
  /-- The filters by name, in ascending order of their names. -/
  filters : List (String × FormFilter)
deriving DecidableEq, Repr

namespace Form

/-- Whether a value switches something on. -/
def isTruthy (value : String) : Bool :=
  let trimmed := (trim value.toList).map Char.toLower
  !(trimmed.isEmpty || trimmed == ['0'] || trimmed == "false".toList || trimmed == "off".toList)

/-- What the name of a field says about it. -/
inductive FieldRole where
  | tag
  | relation (filter : String)
  | negation (filter : String)
  | value (filter : String)
deriving DecidableEq, Repr

/-- A text without an ending, if it has that ending. -/
def withoutEnding? (ending : String) (s : List Char) : Option String :=
  if ending.toList.isSuffixOf s then some (String.ofList (s.take (s.length - ending.length)))
  else none

/-- What the name of a field says about it. -/
def role (name : String) : FieldRole :=
  if name == "tagset" then .tag
  else
    match withoutEnding? "_relation" name.toList with
    | some filter => .relation filter
    | none =>
        match withoutEnding? "_negate" name.toList with
        | some filter => .negation filter
        | none => .value name

/-- The value of the last field of a role. -/
def last? (pairs : List (String × String)) (wanted : FieldRole) : Option String :=
  (pairs.reverse.find? fun (name, _) => role name == wanted).map (·.2)

/-- The filters that have a value. -/
def filterNames (pairs : List (String × String)) : List String :=
  orderedSet (pairs.filterMap fun (name, _) =>
    match role name with
    | .value filter => some filter
    | _ => none)

/-- The filter of a name, put together from its fields. -/
def filterOf (pairs : List (String × String)) (name : String) : FormFilter where
  value := (last? pairs (.value name)).getD ""
  relation := last? pairs (.relation name)
  negated := (last? pairs (.negation name)).any isTruthy

/-- The form of some fields, of which later ones replace earlier ones. -/
def ofPairs (pairs : List (String × String)) : Form where
  tagset := pairs.filterMap fun (name, value) => if role name == .tag then some value else none
  filters := (filterNames pairs).map fun name => (name, filterOf pairs name)

/-- The relation of a filter, which its category must accept. -/
def relationOf (category : Category) (filter : FormFilter) : Except SearchError Relation :=
  match filter.relation with
  | none => .ok category.defaultRelation
  | some typed =>
      let trimmed := trim typed.toList
      match Relation.ofText? trimmed with
      | some relation =>
          if category.allows relation then .ok relation
          else .error (.relationNotAllowed category (String.ofList trimmed))
      | none => .error (.relationNotAllowed category (String.ofList trimmed))

/-- The category of a filter that counts: its name is known and its value is not blank. -/
def countingCategory? (name : String) (filter : FormFilter) : Option Category :=
  match Category.ofName? name with
  | none | some .tag => none
  | some category => if (trim filter.value.toList).isEmpty then none else some category

/-- The token of a filter, if the filter counts. -/
def filterToken? (name : String) (filter : FormFilter) : Except SearchError (Option Token) :=
  match countingCategory? name filter with
  | none => .ok none
  | some category => do
      let relation ← relationOf category filter
      let token ← Token.build category name filter.value.toList (some relation) filter.negated
      return some token

/-- The token of one entry of the tagset. -/
def tagToken (entry : String) : Except SearchError Token :=
  Token.build .tagId Category.tagId.name entry.toList (some .equal) false

/-- The tokens of a form: those of the tagset, then those of the filters. -/
def tokens (form : Form) : Except SearchError (List Token) := do
  let tags ← form.tagset.mapM tagToken
  let filters ← form.filters.mapM fun (name, filter) => filterToken? name filter
  return tags ++ filters.filterMap id

end Form

end Tagboard
