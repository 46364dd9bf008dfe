import Tagboard.Api.Request
import Tagboard.Api.Service
import Tagboard.Board.Format
import Tagboard.Suggestion.Format

/-!
# The interface for programs

Requests to the service and its responses. Each path has a method; the answer to a question that is
asked correctly is a JSON document, and so is the error of a search. A faulty query is the fault of
the request, a store that does not answer is the fault of the service.
-/

namespace Tagboard.Api

/-- The methods that make a difference. -/
inductive Method where
  | get
  /-- As `get`, but only the status is wanted. -/
  | head
  | post
  | other
deriving DecidableEq, Repr

/-- A request. -/
structure Request where
  method : Method
  /-- The path, perhaps with parameters behind a question mark. -/
  target : String
  contentType : Option String
  body : String
deriving DecidableEq, Repr

/-- A response. -/
structure Response where
  status : Nat
  /-- The document, if there is one. -/
  body : Option Json

/-- What a path leads to. -/
inductive Route where
  | search
  | searchForm
  | suggestions
  | filters
deriving DecidableEq, Repr

/-- The route of a path. -/
def route? : String → Option Route
  | "/api/posts/search" => some .search
  | "/api/posts/search_form" => some .searchForm
  | "/api/posts/autocomplete" => some .suggestions
  | "/api/search/filters" => some .filters
  | _ => none

/-- Whether a route is asked with a method. -/
def Route.allows : Route → Method → Bool
  | search, .post | searchForm, .post => true
  | suggestions, .get | suggestions, .head | filters, .get | filters, .head => true
  | _, _ => false

/-- The target of a request without a fragment, cut at its question mark. -/
def splitTarget (target : String) : String × List Char :=
  let chars := target.toList.takeWhile (· != '#')
  match Text.cut? (· == '?') chars with
  | some (path, parameters) => (String.ofList path, parameters)
  | none => (String.ofList chars, [])

/-- The response of an error. -/
def ofError (error : SearchError) : Response where
  status := if error.isValidation then 400 else 500
  body := some (.object [("error", .text error.message), ("kind", .text error.kind)])

/-- The response of an answer. -/
def ofAnswer {α : Type} (encode : α → Json) : Except SearchError α → Response
  | .ok answer => ⟨200, some (encode answer)⟩
  | .error error => ofError error

/-- The response of a refusal. -/
def ofRefusal (refusal : Refusal) : Response := ⟨refusal.status, none⟩

/-- Answers a request that could be read. -/
def answering {α : Type} (read : Except Refusal α) (answer : α → Response) : Response :=
  match read with
  | .ok request => answer request
  | .error refusal => ofRefusal refusal

/-- The answer of a route. -/
def answer (s : Service) (route : Route) (parameters : List Char) (r : Request) : Response :=
  match route with
  | .search =>
      answering (SearchRequest.read r.contentType r.body) fun request =>
        ofAnswer (.ofList Post.encode) (s.search request.query request.excluded)
  | .searchForm =>
      answering (readForm r.contentType r.body) fun fields =>
        ofAnswer (.ofList Post.encode) (s.searchForm fields)
  | .suggestions =>
      answering (SuggestionRequest.read parameters) fun request =>
        ofAnswer (.ofList Suggestion.encode)
          (s.suggest request.query request.word (request.withFilters.getD s.config.showFilters))
  | .filters => ⟨200, some Category.listings⟩

/-- Responds to a request. -/
def respond (s : Service) (r : Request) : Response :=
  let (path, parameters) := splitTarget r.target
  match route? path with
  | none => ofRefusal .noSuchPath
  | some route =>
      if route.allows r.method then
        let response := answer s route parameters r
        if r.method = .head then { response with body := none } else response
      else ofRefusal .methodNotAllowed

end Tagboard.Api
