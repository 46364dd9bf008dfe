import Tagboard.Form
import Tagboard.Query.Compile
import Tagboard.Suggestion
import Tagboard.Token.Parser

/-!
# Searches

One search from start to end: the tokens of a query or of a form, the tags whose posts are never
shown, and the word that is being typed. A search asks a store for its posts or for suggestions.
-/

namespace Tagboard

/-- A search. -/
structure Search where
  tokens : List Token
  /-- The tags whose posts and suggestions are never shown, in ascending order. -/
  excluded : List TagId := []
  /-- The word at the end of the query; a form has none. -/
  word : String := ""
  limits : SuggestionLimits := {}
deriving DecidableEq, Repr

namespace Search

/-- The search of a query. -/
def ofQuery (query : String) : Except SearchError Search := do
  let tokens ← Token.ofQuery query
  return { tokens, word := String.ofList (trailingWord query.toList) }

/-- The search of a form. -/
def ofForm (form : Form) : Except SearchError Search := do
  let tokens ← form.tokens
  return { tokens }

/-- The search that never shows posts with one of some tags. -/
def exclude (s : Search) (tags : List TagId) : Search := { s with excluded := orderedSet tags }

/-- The search with other limits for suggestions. -/
def withLimits (s : Search) (limits : SuggestionLimits) : Search := { s with limits }

/-- The query in the form in which a store answers it. -/
def compile (s : Search) : Except SearchError CompiledQuery := Tagboard.compile s.tokens s.excluded

/-- Turns the error of a store into the error of a search. -/
def asking {α : Type} (answer : Except StoreError α) : Except SearchError α :=
  answer.mapError .store

/-- The posts that satisfy every token, in ascending order. -/
def posts (s : Search) (store : Store) : Except SearchError (List Post) := do
  let query ← s.compile
  let posts ← asking (store.annotate query.aggregates)
  asking (store.filterPosts posts query.predicate)

/-- Suggestions for a word, or for the word at the end of the query. -/
def suggestions (s : Search) (store : Store) (word : Option String) (excluded : List TagId)
    (withFilters : Bool) : Except SearchError (List Suggestion) :=
  asking (suggest store s.tokens (word.getD s.word) (orderedSet (s.excluded ++ excluded))
    withFilters s.limits)

end Search

end Tagboard
