import Tagboard.Token

/-!
# Reading queries

A query is a list of words. A word without a relation is a tag; any other word is a filter, a name
and an argument around its first relation. A hyphen in front turns a token into its opposite. The
first word that is no token makes the whole query invalid.
-/

namespace Tagboard

open Text

namespace Token

/-- A word without one hyphen in front, and whether there was one. -/
def splitNegation : List Char → Bool × List Char
  | '-' :: rest => (true, rest)
  | word => (false, word)

/-- The text before the first relation, that relation and the text behind it. -/
def splitRelation? : List Char → Option (List Char × Relation × List Char)
  | [] => none
  | c :: rest =>
      match Relation.ofSymbol? c with
      | some relation => some ([], relation, rest)
      | none => (splitRelation? rest).map fun (name, found) => (c :: name, found)

/-- Reads a filter, given its parts; `word` is the whole word, for messages. -/
def ofFilter (word : String) (negated : Bool) (name : List Char) (relation : Relation)
    (argument : List Char) : Except SearchError Token := do
  if name.isEmpty || argument.isEmpty then throw (.malformedToken word)
  match Category.ofName? (String.ofList name) with
  | none => throw (.unknownFilter (String.ofList name))
  | some category =>
      if argument.any Relation.isSymbol then throw (.severalRelations word)
      if !category.allows relation then throw (.relationNotAllowed category relation.text)
      build category (String.ofList name) argument (some relation) negated

/-- Reads one word of a query. -/
def ofWord (word : List Char) : Except SearchError Token :=
  let (negated, rest) := splitNegation word
  match splitRelation? rest with
  | none => build .tag (String.ofList rest) rest none negated
  | some (name, relation, argument) =>
      ofFilter (String.ofList word) negated name relation argument

/-- Reads every word of a query. -/
def ofQuery (query : String) : Except SearchError (List Token) := (words query.toList).mapM ofWord

end Token

/-- The word at the end of a query that is still being typed; a blank at the end completes it. -/
def trailingWord (query : List Char) : List Char :=
  if endsBlank query then [] else (words query).getLast?.getD []

end Tagboard
