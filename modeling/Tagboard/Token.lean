import Tagboard.SearchError

/-!
# Tokens of a query

A token is a condition on posts: a category, a relation and an argument, perhaps turned into its
opposite. A token is built from the argument as it is typed; blanks around it are dropped, its
wildcards are taken out, and what is left must satisfy the rule of the category.
-/

namespace Tagboard

open Text

/-- One condition of a query. -/
structure Token where
  category : Category
  /-- The name as it is typed, which for a tag is the whole text of the token. -/
  name : String
  /-- The argument with its wildcards taken out. -/
  argument : Pattern
  /-- The relation as it is typed, if any is. -/
  relation : Option Relation
  /-- Whether the condition is turned into its opposite. -/
  negated : Bool
deriving DecidableEq, Repr

namespace Token

/-- The relation that applies. -/
def relationOrDefault (t : Token) : Relation := t.relation.getD t.category.defaultRelation

/-- The fault that the category finds with an argument, if any. -/
def argumentFault? (category : Category) (argument : Pattern) : Option ArgumentFault :=
  if argument.hasWildcards && !category.allowsWildcards then some .wildcardNotAllowed
  else if argument.text.isEmpty then if argument.hasWildcards then none else some .empty
  else
    match Argument.check (category.argumentKind argument.hasWildcards) argument.text.toList with
    | .ok () => none
    | .error fault => some fault

/-- Checks the argument of a token against the rule of its category. -/
def checkArgument (t : Token) : Except SearchError Unit :=
  match argumentFault? t.category t.argument with
  | none => .ok ()
  | some fault => .error (.invalidArgument t.category t.argument.typed fault)

/-- Takes the wildcards out of an argument as it is typed, unless there are too many. -/
def readArgument (typed : List Char) : Except SearchError Pattern := do
  let argument := Pattern.ofText typed
  if Pattern.maxWildcards < argument.positions.length then
    throw (.tooManyWildcards (String.ofList typed) argument.positions.length)
  return argument

/-- Builds a token from the argument as it is typed. -/
def build (category : Category) (name : String) (typed : List Char) (relation : Option Relation)
    (negated : Bool) : Except SearchError Token := do
  let argument ← readArgument (trim typed)
  let token : Token := { category, name, argument, relation, negated }
  token.checkArgument
  return token

end Token

end Tagboard
