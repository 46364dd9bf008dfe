import Tagboard.Board.Rating
import Tagboard.OrderedSet
import Tagboard.Query.Predicate
import Tagboard.Token

/-!
# From tokens to predicates

Each token stands for a clause, or for its opposite, and a query stands for the conjunction of its
tokens. Labels of ratings and MIME types are looked up here; all other faults of a token have been
found when it was read, but a token that was put together otherwise is checked once more.
-/

namespace Tagboard

open Text

namespace Token

/-- Refuses a relation other than equality. -/
def requireEqual (t : Token) : Except SearchError Unit :=
  if t.relationOrDefault = .equal then .ok ()
  else .error (.unsupportedRelation t.relationOrDefault t.name)

/-- The value of an argument, or an error with the fault. -/
def valueOr {α : Type} (t : Token) (fault : ArgumentFault) (value? : Option α) :
    Except SearchError α :=
  match value? with
  | some value => .ok value
  | none => .error (.invalidArgument t.category t.argument.text fault)

/-- The argument as a number without sign. -/
def unsignedValue (t : Token) : Except SearchError UInt64 :=
  t.valueOr .notUnsigned (readUInt64? t.argument.text.toList)

/-- The argument as a number with sign. -/
def signedValue (t : Token) : Except SearchError Int64 :=
  t.valueOr .notSigned (readInt64? t.argument.text.toList)

/-- The comparison with an argument without sign. -/
def unsignedComparison (t : Token) : Except SearchError (Comparison UInt64) :=
  t.unsignedValue.map fun value => ⟨t.relationOrDefault, value⟩

/-- The comparison with an argument with sign. -/
def signedComparison (t : Token) : Except SearchError (Comparison Int64) :=
  t.signedValue.map fun value => ⟨t.relationOrDefault, value⟩

/-- The comparison of a text with the argument, which must be for equality. -/
def textMatch (t : Token) : Except SearchError TextMatch :=
  t.requireEqual.map fun _ => .ofPattern t.argument

/-- The clause that a token stands for, its opposite aside. -/
def clause (t : Token) : Except SearchError Clause :=
  match t.category with
  | .tag => .ok (.tagName (.ofPattern t.argument))
  | .tagAlias => t.textMatch.map .tagAlias
  | .commentBy => t.textMatch.map .commentBy
  | .uploadedBy => t.textMatch.map .uploadedBy
  | .source => t.textMatch.map .source
  | .tagId => do
      t.requireEqual
      return .tagId (← t.unsignedValue)
  | .postId => t.unsignedComparison.map .postId
  | .tagCount => t.unsignedComparison.map (.aggregate .tagCount)
  | .commentCount => t.unsignedComparison.map (.aggregate .commentCount)
  | .favoriteCount => t.unsignedComparison.map (.aggregate .favoriteCount)
  | .ratingNumber => t.signedComparison.map .ratingLevel
  | .height => t.signedComparison.map .height
  | .width => t.signedComparison.map .width
  | .ratingLabel => do
      t.requireEqual
      match Rating.ofLabel? t.argument.text with
      | some rating => return .ratingLevel ⟨.equal, Int64.ofNat rating.level⟩
      | none => throw (.unknownRating t.argument.text)
  | .mimetype => do
      t.requireEqual
      match MediaType.ofMimetype? t.argument.text with
      | some type => return .mediaType type
      | none => throw (.unknownMimetype t.argument.text)

/-- The predicate that a token stands for. -/
def predicate (t : Token) : Except SearchError Predicate :=
  t.clause.map fun c => if t.negated then (Predicate.clause c).negate else .clause c

end Token

/-- A query in the form in which a store answers it. -/
structure CompiledQuery where
  /-- The counts with which posts must be annotated. -/
  aggregates : List Aggregate
  /-- What the posts must satisfy. -/
  predicate : Predicate

/-- The counts that the categories of tokens read. -/
def requiredAggregates (tokens : List Token) : List Aggregate :=
  Aggregate.among (tokens.filterMap (·.category.aggregate?))

/-- The condition that a post has none of the excluded tags, if there are any. -/
def exclusion (excluded : List TagId) : List Predicate :=
  if excluded.isEmpty then [] else [(Predicate.clause (.taggedWithAny excluded)).negate]

/-- The query that asks for every token and for none of the excluded tags. -/
def compile (tokens : List Token) (excluded : List TagId) : Except SearchError CompiledQuery := do
  let conditions ← tokens.mapM Token.predicate
  return ⟨requiredAggregates tokens, .all (exclusion excluded ++ conditions)⟩

end Tagboard
