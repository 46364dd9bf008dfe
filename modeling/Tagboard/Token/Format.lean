import Tagboard.Json.Decode
import Tagboard.Token

/-!
# Tokens as JSON

The form in which tokens are listed, and the listing of the filters that tokens can be.
-/

namespace Tagboard

open Json

/-- The document of a relation. -/
def Relation.encode (r : Relation) : Json := .text r.text

/-- Decodes a relation. -/
def Relation.decode : Decoder Relation := Decode.oneOf (Relation.all.map fun r => (r.text, r))

/-- The document of a category. -/
def Category.encode (c : Category) : Json := .text c.code

/-- Decodes a category. -/
def Category.decode : Decoder Category := Decode.oneOf (Category.all.map fun c => (c.code, c))

/-- Decodes a count of a post. -/
def Aggregate.decode : Decoder Aggregate := Decode.oneOf (Aggregate.all.map fun a => (a.name, a))

/-- The fields of the document of a token. -/
def Token.encodeFields (t : Token) : List (String × Json) :=
  [("category", t.category.encode), ("name", .text t.name), ("arg", .text t.argument.text),
    ("relation", .ofOption Relation.encode t.relation),
    ("wildcard_positions", .ofList (fun (n : Nat) => .int n) t.argument.positions),
    ("negate", .bool t.negated)]

/-- The document of a token. -/
def Token.encode (t : Token) : Json := .object t.encodeFields

/-- Puts a token together from its fields in the order of its document. -/
def Token.ofParts (category : Category) (name text : String) (relation : Option Relation)
    (positions : List UInt64) (negated : Bool) : Token where
  category := category
  name := name
  argument := ⟨text, positions.map (·.toNat)⟩
  relation := relation
  negated := negated

/-- The field of a relation, without which there is none. -/
def Relation.optionalField : Record (Option Relation) :=
  .withDefault "relation" none (Decode.option Relation.decode)

/-- Decodes a token. -/
def Token.decode : Decoder Token :=
  ((((((Record.const Token.ofParts).and (.required "category" Category.decode)).and
    (.required "name" Decode.text)).and
    (.required "arg" Decode.text)).and
    Relation.optionalField).and
    (.required "wildcard_positions" (Decode.list Decode.uint64))).and
    (.required "negate" Decode.bool) |>.decode

/-- The entry of a category in the listing of filters. -/
def Category.listing (c : Category) : Json :=
  .object [("category", c.encode), ("name", .text c.name), ("aliases", .ofList .text c.aliases),
    ("relations", .ofList Relation.encode c.relations), ("wildcards", .bool c.allowsWildcards),
    ("desc", .text c.description)]

/-- The listing of the filters. -/
def Category.listings : Json := .ofList Category.listing Category.all

end Tagboard
