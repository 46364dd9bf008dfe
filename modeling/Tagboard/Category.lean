import Tagboard.Relation

/-!
# Categories of query tokens

A query is a list of tokens, each of a category. A bare token is a tag; a token of any other
category is a filter, written as the name of the category, a relation and an argument. This module
holds what is fixed for each category: its names, the relations and wildcards that it accepts, the
kind of argument it takes and the count of a post that it reads, if it reads one.
-/

namespace Tagboard

/-- The counts of a post that a filter may read. -/
inductive Aggregate where
  | commentCount
  | favoriteCount
  | tagCount
deriving DecidableEq, Repr

namespace Aggregate

/-- Every count, in the order in which they are listed. -/
def all : List Aggregate := [commentCount, favoriteCount, tagCount]

/-- The name of a count in data. -/
def name : Aggregate → String
  | commentCount => "comment_count"
  | favoriteCount => "favorite_count"
  | tagCount => "tag_count"

/-- The name of a count in messages. -/
def title : Aggregate → String
  | commentCount => "CommentCount"
  | favoriteCount => "FavoriteCount"
  | tagCount => "TagCount"

/-- The counts that occur in a list, each once and in the listed order. -/
def among (kinds : List Aggregate) : List Aggregate := all.filter (kinds.contains ·)

end Aggregate

/-- The categories of query tokens. -/
inductive Category where
  | tag
  | tagId
  | postId
  | tagAlias
  | tagCount
  | commentBy
  | commentCount
  | favoriteCount
  | height
  | width
  | ratingLabel
  | ratingNumber
  | source
  | uploadedBy
  | mimetype
deriving DecidableEq, Repr

/-- The kinds of argument, each with a rule of its own. -/
inductive ArgumentKind where
  | tagName
  | unsigned
  | signed
  | username
  | ratingLabel
  | address
  | addressPart
  | mimetype
deriving DecidableEq, Repr

namespace Category

/-- Every category, in the order in which they are listed. -/
def all : List Category :=
  [tag, tagId, postId, tagAlias, tagCount, commentBy, commentCount, favoriteCount, height, width,
    ratingLabel, ratingNumber, source, uploadedBy, mimetype]

/-- The name that is typed before the relation; tags have none. -/
def name : Category → String
  | tag => ""
  | tagId => "tag_id"
  | postId => "id"
  | tagAlias => "alias"
  | tagCount => "tag_count"
  | commentBy => "comment_by"
  | commentCount => "comment_count"
  | favoriteCount => "favorite_count"
  | height => "height"
  | width => "width"
  | ratingLabel => "rating_label"
  | ratingNumber => "rating_num"
  | source => "source"
  | uploadedBy => "uploaded_by"
  | mimetype => "mimetype"

/-- Further names that may be typed in place of the name. -/
def aliases : Category → List String
  | tagAlias => ["tag_alias"]
  | tagCount => ["tc"]
  | commentBy => ["comment", "cb"]
  | commentCount => ["cc"]
  | favoriteCount => ["fav_count", "fc"]
  | height => ["h"]
  | width => ["w"]
  | ratingLabel => ["rate", "r"]
  | source => ["src"]
  | uploadedBy => ["up"]
  | mimetype => ["mime"]
  | tag | tagId | postId | ratingNumber => []

/-- The name and then the further names. -/
def names (c : Category) : List String := c.name :: c.aliases

/-- The name under which a category appears in data. -/
def code : Category → String
  | tag => "TAG"
  | tagId => "TAG_ID"
  | postId => "POST_ID"
  | tagAlias => "TAG_ALIAS"
  | tagCount => "TAG_COUNT"
  | commentBy => "COMMENT_BY"
  | commentCount => "COMMENT_COUNT"
  | favoriteCount => "FAV_COUNT"
  | height => "HEIGHT"
  | width => "WIDTH"
  | ratingLabel => "RATING_LABEL"
  | ratingNumber => "RATING_NUM"
  | source => "SOURCE"
  | uploadedBy => "UPLOADED_BY"
  | mimetype => "MIMETYPE"

/-- The name under which a category appears in messages. -/
def display (c : Category) : String := if c = tag then "tag" else c.name

/-- One sentence about a category, for listings. -/
def description : Category → String
  | tag => "The default (un-named) token. Used for searching tags."
  | tagId => "The ID of a tag."
  | postId => "The ID of a post. Accepts comparison operators =, <, >"
  | tagAlias => "The name of a tag alias. Allows wildcards."
  | tagCount => "The number of tags on a post. Accepts comparison operators =, <, >"
  | commentBy => "The username of a commenter. Allows wildcards."
  | commentCount => "The number of comments on a post. Accepts comparison operators =, <, >"
  | favoriteCount =>
      "The number of favorites received by a post. Accepts comparison operators =, <, >"
  | height => "The height of an image post. Accepts comparison operators =, <, >"
  | width => "The width of an image post. Accepts comparison operators =, <, >"
  | ratingLabel =>
      "The rating of a post. Accepts any rating level label (safe, unrated, questionable, explicit)"
  | ratingNumber =>
      "The numeric rating level of a post. Accepts comparison operators =, <, >"
  | source => "The source url of a post. Allows wildcards."
  | uploadedBy => "The username of the uploader of a post. Allows wildcards."
  | mimetype => "The MIME type of the post's file"

/-- Whether the argument is a number, which every relation may compare. -/
def isComparable : Category → Bool
  | postId | tagCount | commentCount | favoriteCount | height | width | ratingNumber => true
  | tag | tagId | tagAlias | commentBy | ratingLabel | source | uploadedBy | mimetype => false

/-- The relations that a category accepts, the default first. -/
def relations (c : Category) : List Relation :=
  if c.isComparable then Relation.all else [.equal]

/-- Whether a category accepts a relation. -/
def allows (c : Category) (r : Relation) : Bool := c.relations.contains r

/-- The relation of a token that names none. -/
def defaultRelation (c : Category) : Relation := c.relations.head?.getD .equal

/-- Whether the argument may hold wildcards. -/
def allowsWildcards : Category → Bool
  | tag | tagAlias | commentBy | source | uploadedBy => true
  | tagId | postId | tagCount | commentCount | favoriteCount | height | width | ratingLabel
  | ratingNumber | mimetype => false

/-- The count of a post that a category reads. -/
def aggregate? : Category → Option Aggregate
  | tagCount => some .tagCount
  | commentCount => some .commentCount
  | favoriteCount => some .favoriteCount
  | tag | tagId | postId | tagAlias | commentBy | height | width | ratingLabel | ratingNumber
  | source | uploadedBy | mimetype => none

/-- The kind of argument that a category takes; with wildcards part of an address will do. -/
def argumentKind (c : Category) (withWildcards : Bool) : ArgumentKind :=
  match c with
  | tag | tagAlias => .tagName
  | tagId | postId | tagCount | commentCount | favoriteCount => .unsigned
  | height | width | ratingNumber => .signed
  | commentBy | uploadedBy => .username
  | ratingLabel => .ratingLabel
  | source => if withWildcards then .addressPart else .address
  | mimetype => .mimetype

/-- The category with a name or a further name. -/
def ofName? (name : String) : Option Category := all.find? (·.names.contains name)

@[simp] theorem defaultRelation_eq (c : Category) : c.defaultRelation = .equal := by
  cases c <;> rfl

theorem mem_all (c : Category) : c ∈ all := by cases c <;> decide

/-- No name belongs to two categories. -/
theorem names_nodup : (all.flatMap names).Nodup := by decide +kernel

/-- A name finds its category. -/
theorem ofName?_of_mem_names {c : Category} {name : String} (h : name ∈ c.names) :
    ofName? name = some c :=
  (by decide +kernel : ∀ c ∈ all, ∀ name ∈ names c, ofName? name = some c) c (mem_all c) name h

/-- A name finds a category exactly if it is one of its names. -/
theorem ofName?_eq_some_iff {c : Category} {name : String} :
    ofName? name = some c ↔ name ∈ c.names := by
  constructor
  · intro found
    unfold ofName? at found
    have contains := List.find?_some found
    exact List.contains_iff_mem.mp contains
  · exact ofName?_of_mem_names

end Category

end Tagboard
