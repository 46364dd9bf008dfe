import Tagboard.Json.Decode
import Tagboard.Json.Parser
import Tagboard.Query.Predicate
import Tagboard.Web.ContentType
import Tagboard.Web.Percent

/-!
# Requests

What a request may ask for, and how it is read from the content of the request. A request that
cannot be read is refused with a status that tells what is wrong: the type of the content, its
notation or its meaning.
-/

namespace Tagboard

/-- Why a request is refused before the store is asked. -/
inductive Refusal where
  | noSuchPath
  | methodNotAllowed
  | badRequest
  | contentType
  | unprocessable
deriving DecidableEq, Repr

/-- The status of a refusal. -/
def Refusal.status : Refusal → Nat
  | badRequest => 400
  | noSuchPath => 404
  | methodNotAllowed => 405
  | contentType => 415
  | unprocessable => 422

/-- A request for posts. -/
structure SearchRequest where
  query : String
  excluded : List TagId
deriving DecidableEq, Repr

namespace SearchRequest

/-- Decodes a request for posts. -/
def decode : Json.Decoder SearchRequest :=
  ((Json.Record.const SearchRequest.mk).and (.withDefault "query" "" Json.Decode.text)).and
    (.withDefault "exclude_tags" [] (Json.Decode.list Json.Decode.uint64)) |>.decode

/-- Reads a request for posts; what follows its document does not matter. -/
def read (contentType : Option String) (body : String) : Except Refusal SearchRequest :=
  if contentType.any (ContentType.isJson ·.toList) then
    match decode (Json.readFirst body) with
    | .ok request => .ok request
    | .error .damaged => .error .badRequest
    | .error .mismatch => .error .unprocessable
  else .error .contentType

end SearchRequest

/-- Reads the fields of a form. -/
def readForm (contentType : Option String) (body : String) :
    Except Refusal (List (String × String)) :=
  if contentType.any (ContentType.isForm ·.toList) then .ok (Percent.formFields body.toList)
  else .error .contentType

/-- A request for suggestions. -/
structure SuggestionRequest where
  query : String
  /-- What is completed in place of the word at the end of the query. -/
  word : Option String
  /-- Whether filters are suggested; the settings decide where this is missing. -/
  withFilters : Option Bool
deriving DecidableEq, Repr

namespace SuggestionRequest

/-- The value of a field, which must not be given twice. -/
def field (fields : List (String × String)) (name : String) : Except Refusal (Option String) :=
  match fields.filter (·.1 == name) with
  | [] => .ok none
  | [(_, value)] => .ok (some value)
  | _ => .error .badRequest

/-- Reads a truth value. -/
def readBool : String → Except Refusal Bool
  | "true" => .ok true
  | "false" => .ok false
  | _ => .error .badRequest

/-- Reads a request for suggestions from the part of the address behind the question mark. -/
def read (parameters : List Char) : Except Refusal SuggestionRequest := do
  let fields := Percent.formFields parameters
  let query ← field fields "q"
  let word ← field fields "partial"
  let withFilters ← (← field fields "filters").mapM readBool
  return ⟨query.getD "", word, withFilters⟩

end SuggestionRequest

end Tagboard
