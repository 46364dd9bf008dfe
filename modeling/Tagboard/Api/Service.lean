import Tagboard.Config
import Tagboard.Search

/-!
# The service

The answers of a store under given settings. Posts and suggestions of hidden tags are never shown,
whatever a request asks for.
-/

namespace Tagboard

/-- A store and the settings under which it is asked. -/
structure Service where
  store : Store
  config : Config

namespace Service

/-- The posts of a query, without those that carry one of some further tags. -/
def search (s : Service) (query : String) (excluded : List TagId) :
    Except SearchError (List Post) := do
  let search ← Search.ofQuery query
  (search.exclude (s.config.hiddenTags ++ excluded)).posts s.store

/-- The posts of the fields of a form. -/
def searchForm (s : Service) (fields : List (String × String)) : Except SearchError (List Post) := do
  let search ← Search.ofForm (Form.ofPairs fields)
  (search.exclude s.config.hiddenTags).posts s.store

/-- The suggestions for a word, or for the word at the end of a query. -/
def suggest (s : Service) (query : String) (word : Option String) (withFilters : Bool) :
    Except SearchError (List Suggestion) := do
  let search ← Search.ofQuery query
  ((search.exclude s.config.hiddenTags).withLimits s.config.limits).suggestions s.store word []
    withFilters

end Service

end Tagboard
