import Tagboard.Form
import Tagboard.Json.Decode

/-!
# Forms as JSON

The form in which a search by fields is kept: the entries of the tagset, and the filters by name.
-/

namespace Tagboard

open Json

/-- The document of a filter of a form. -/
def FormFilter.encode (f : FormFilter) : Json :=
  .object [("value", .text f.value), ("relation", .ofOption .text f.relation),
    ("negate", .bool f.negated)]

/-- Decodes a filter of a form. -/
def FormFilter.decode : Decoder FormFilter :=
  (((Record.const FormFilter.mk).and (.required "value" Decode.text)).and
    (.withDefault "relation" none (Decode.option Decode.text))).and
    (.withDefault "negate" false Decode.bool) |>.decode

namespace Form

/-- The document of a form. -/
def encode (f : Form) : Json :=
  .object [("tagset", .ofList .text f.tagset),
    ("filters", .object (f.filters.map fun (name, filter) => (name, filter.encode)))]

/-- Puts named filters into ascending order; of several with one name the last counts. -/
def arrange (filters : List (String × FormFilter)) : List (String × FormFilter) :=
  (orderedSet (filters.map (·.1))).filterMap fun name => filters.reverse.find? (·.1 == name)

/-- Decodes the filters of a form. -/
def decodeFilters : Decoder (List (String × FormFilter))
  | .object fields =>
      (fields.mapM fun (field : String × Json) =>
        (FormFilter.decode field.2).map fun filter => (field.1, filter)).map arrange
  | other => refuse other

/-- Decodes a form. -/
def decode : Decoder Form :=
  ((Record.const Form.mk).and (.withDefault "tagset" [] (Decode.list Decode.text))).and
    (.withDefault "filters" [] decodeFilters) |>.decode

end Form

end Tagboard
