import Tagboard.OrderedSet
import Tagboard.Store
import Tagboard.Token

/-!
# Suggestions

What may complete the word that is being typed: the names of filters, tags and further names of
tags in which the word occurs. What the query mentions already is left out, but a word does not
hide its own completion unless it repeats another token.
-/

namespace Tagboard

/-- One suggestion. -/
structure Suggestion where
  category : Category
  /-- The name of the filter or of the tag. -/
  name : String
  tagCategory : Option String
  tagId : Option TagId
  /-- The further name of the tag, if that is what the word occurs in. -/
  aliasName : Option String
  /-- How often posts carry the tag. -/
  postCount : Option UInt64
deriving DecidableEq, Repr

/-- The greatest numbers of suggested tags and of suggested further names. -/
structure SuggestionLimits where
  tags : Nat := 20
  aliases : Nat := 20
deriving DecidableEq, Repr

namespace Suggestion

/-- The suggestion of a filter. -/
def ofCategory (c : Category) : Suggestion := ⟨c, c.name, none, none, none, none⟩

/-- The suggestion of a tag. -/
def ofTag (t : Tag) : Suggestion := ⟨.tag, t.name, t.category, some t.id, none, some t.postCount⟩

/-- The suggestion of a further name of a tag. -/
def ofAlias (a : Alias) (t : Tag) : Suggestion :=
  ⟨.tagAlias, t.name, t.category, some t.id, some a.name, some t.postCount⟩

end Suggestion

/-- The name of a tag, or of an alias, that a token mentions. -/
def Token.mentionedName? (t : Token) : Option String :=
  match t.category with
  | .tag => some t.name
  | .tagAlias => some t.argument.text
  | _ => none

/-- The names that tokens mention; the word being typed counts only if several tokens have it. -/
def mentionedNames (tokens : List Token) (word : String) : List String :=
  let isRepeated := 1 < (tokens.filter (·.name == word)).length
  orderedSet ((tokens.filterMap Token.mentionedName?).filter fun name => isRepeated || name != word)

/-- The filters in whose names a word occurs. -/
def filterSuggestions (word : String) : List Suggestion :=
  (Category.all.filter fun c => Text.occursIn word.toList c.name.toList).map .ofCategory

/-- A word without one hyphen in front. -/
def withoutNegation (word : String) : String :=
  match word.toList with
  | '-' :: rest => String.ofList rest
  | _ => word

/-- The suggestions for a word: filters if they are asked for, then tags, then further names. -/
def suggest (store : Store) (tokens : List Token) (word : String) (excluded : List TagId)
    (withFilters : Bool) (limits : SuggestionLimits) : Except StoreError (List Suggestion) := do
  let word := withoutNegation word
  let mentioned := mentionedNames tokens word
  let tags ← store.tagsByName word mentioned excluded
  let aliases ← store.aliasesByName word mentioned excluded
  let filters := if withFilters then filterSuggestions word else []
  return filters ++ (tags.take limits.tags).map .ofTag ++
    (aliases.take limits.aliases).map fun (a, t) => .ofAlias a t

end Tagboard
