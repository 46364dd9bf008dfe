import Tagboard.Argument
import Tagboard.Board.Media
import Tagboard.Pattern

/-!
# Errors of a search

What can go wrong between a query and its answer. All errors of a search but one are faults of the
query; the last one is a fault of the store that is asked. A name of which a category is asked on its
own has an error of its own.
-/

namespace Tagboard

open Text

/-- A name that is the name of no category. -/
structure UnknownCategory where
  name : String
deriving DecidableEq, Repr

/-- The description of an unknown name. -/
def UnknownCategory.message (e : UnknownCategory) : String :=
  "the name " ++ quoted e.name ++ " does not match an existing token category"

/-- The category of a name. -/
def Category.named (name : String) : Except UnknownCategory Category :=
  match ofName? name with
  | some category => .ok category
  | none => .error ⟨name⟩

/-- A name is refused exactly if no category has it, and with the name as it is. -/
theorem Category.named_eq_error_iff {name : String} {e : UnknownCategory} :
    named name = .error e ↔ ofName? name = none ∧ e = ⟨name⟩ := by
  unfold named
  cases ofName? name <;> simp [eq_comm]

/-- Why a store could not answer. -/
inductive StoreError where
  | notAnnotated (post : UInt64) (kind : Aggregate)
  | strayAlias (name : String)
  | unavailable (reason : String)
deriving DecidableEq, Repr

/-- The description of a store's error. -/
def StoreError.message : StoreError → String
  | notAnnotated post kind =>
      "post " ++ toString post ++ " was not annotated with " ++ kind.title
  | strayAlias name => "alias " ++ quoted name ++ " points to unknown tag"
  | unavailable reason => reason

/-- Why a query has no answer. -/
inductive SearchError where
  | unknownFilter (name : String)
  | malformedToken (token : String)
  | severalRelations (token : String)
  | tooManyWildcards (argument : String) (count : Nat)
  | relationNotAllowed (category : Category) (relation : String)
  | invalidArgument (category : Category) (argument : String) (fault : ArgumentFault)
  | unsupportedRelation (relation : Relation) (name : String)
  | unknownRating (label : String)
  | unknownMimetype (mimetype : String)
  | store (error : StoreError)
deriving DecidableEq, Repr

namespace SearchError

/-- The name of the kind of an error, by which callers tell errors apart. -/
def kind : SearchError → String
  | unknownFilter _ => "unknown_filter_name"
  | malformedToken _ => "malformed_token"
  | severalRelations _ => "multiple_operators"
  | tooManyWildcards _ _ => "too_many_wildcards"
  | relationNotAllowed _ _ => "operator_not_allowed"
  | invalidArgument _ _ _ => "argument_validation"
  | unsupportedRelation _ _ => "unsupported_search_operator"
  | unknownRating _ => "invalid_rating_label"
  | unknownMimetype _ => "invalid_mimetype"
  | store _ => "store"

/-- The description of an error. -/
def message : SearchError → String
  | unknownFilter name => "the name " ++ quoted name ++ " is not a valid filter"
  | malformedToken token => "the query token " ++ quoted token ++ " is invalid"
  | severalRelations token =>
      "search query filters may only have one operator: " ++ quoted token
  | tooManyWildcards argument count =>
      "the argument " ++ quoted argument ++ " has " ++ toString count ++
        " wildcards, at most " ++ toString Pattern.maxWildcards ++ " are allowed"
  | relationNotAllowed category relation =>
      "the " ++ category.display ++ " filter does not accept the " ++ quoted relation ++
        " operator"
  | invalidArgument category argument fault =>
      "invalid " ++ category.display ++ " argument " ++ quoted argument ++ ": " ++ fault.message
  | unsupportedRelation relation name =>
      "the search operator \"" ++ relation.text ++ "\" is not supported for the token " ++
        quoted name
  | unknownRating label =>
      "the rating label " ++ quoted label ++ " does not match an existing rating level"
  | unknownMimetype mimetype =>
      "the mimetype " ++ quoted mimetype ++ " does not match any of the supported mimetypes: " ++
        MediaType.supportedMimetypes
  | store error => "store error: " ++ error.message

/-- Whether the query is at fault and not the store. -/
def isValidation : SearchError → Bool
  | store _ => false
  | _ => true

@[simp] theorem isValidation_store (error : StoreError) : (store error).isValidation = false := rfl

/-- The kind tells a fault of the store from the faults of a query. -/
theorem kind_eq_store_iff (error : SearchError) :
    error.kind = "store" ↔ error.isValidation = false := by
  cases error <;> simp [kind, isValidation]

end SearchError

end Tagboard
