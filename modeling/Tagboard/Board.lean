import Tagboard.Board.Rating
import Tagboard.Query.Predicate
import Tagboard.Text.Quoted

/-!
# Boards

A board is what a search looks at: posts, the tags that they carry, and further names of the tags.
Posts refer to tags by number, and so do the further names. A board is accepted only if its numbers
are unambiguous and refer to something; an accepted board has its posts in order and knows of each
tag how often it is carried.
-/

namespace Tagboard

open Text

/-- The file of a post. -/
structure Media where
  kind : MediaType
  width : Int64
  height : Int64
deriving DecidableEq, Repr

/-- A comment on a post. -/
structure Comment where
  author : String
  body : String
deriving DecidableEq, Repr

/-- A post of a board. -/
structure Post where
  id : UInt64
  title : String
  uploader : String
  tags : List TagId
  rating : Rating
  source : Option String
  media : Option Media
  comments : List Comment
  /-- The names of the users who favour the post. -/
  favorites : List String
deriving DecidableEq, Repr

/-- A tag of a board. -/
structure Tag where
  id : TagId
  name : String
  category : Option String
  /-- How often posts carry the tag. -/
  postCount : UInt64
  rating : Rating
deriving DecidableEq, Repr

/-- A further name of a tag. -/
structure Alias where
  id : UInt64
  name : String
  tagId : TagId
deriving DecidableEq, Repr

/-- The posts, tags and further names of tags that belong together. -/
structure Board where
  posts : List Post
  tags : List Tag
  aliases : List Alias
deriving DecidableEq, Repr

/-- Why a board is not accepted. -/
inductive BoardError where
  | duplicateTag (id : TagId)
  | strayAlias (name : String) (tag : TagId)
  | duplicatePost (id : UInt64)
  | strayTag (post : UInt64) (tag : TagId)
deriving DecidableEq, Repr

/-- The description of an error. -/
def BoardError.message : BoardError → String
  | duplicateTag id => "duplicate tag id " ++ toString id
  | strayAlias name tag =>
      "alias " ++ quoted name ++ " points to unknown tag " ++ toString tag
  | duplicatePost id => "duplicate post id " ++ toString id
  | strayTag post tag =>
      "post " ++ toString post ++ " is tagged with unknown tag " ++ toString tag

/-- How many comments, favourites or tags a post has. -/
def Post.count (p : Post) : Aggregate → UInt64
  | .commentCount => UInt64.ofNat p.comments.length
  | .favoriteCount => UInt64.ofNat p.favorites.length
  | .tagCount => UInt64.ofNat p.tags.length

/-- The element at which a list first repeats itself, seeing what came before. -/
def firstRepeated? {α : Type} [BEq α] (seen : List α) : List α → Option α
  | [] => none
  | x :: rest => if seen.contains x then some x else firstRepeated? (x :: seen) rest

namespace Board

/-- The number of times that posts carry a tag. -/
def timesCarried (b : Board) (id : TagId) : Nat := (b.posts.flatMap (·.tags)).count id

/-- The first fault of a list of posts, given the numbers of the tags and of the posts before. -/
def postFault? (tagIds : List TagId) (seen : List UInt64) : List Post → Option BoardError
  | [] => none
  | post :: rest =>
      if seen.contains post.id then some (.duplicatePost post.id)
      else
        match post.tags.find? fun id => !tagIds.contains id with
        | some id => some (.strayTag post.id id)
        | none => postFault? tagIds (post.id :: seen) rest

/-- The first fault of a board: of its tags, then of its further names, then of its posts. -/
def fault? (b : Board) : Option BoardError :=
  let tagIds := b.tags.map (·.id)
  match firstRepeated? [] tagIds with
  | some id => some (.duplicateTag id)
  | none =>
      match b.aliases.find? fun a => !tagIds.contains a.tagId with
      | some a => some (.strayAlias a.name a.tagId)
      | none => postFault? tagIds [] b.posts

/-- The board with its posts in ascending order and its tags counted. -/
def settled (b : Board) : Board where
  posts := b.posts.mergeSort fun p q => p.id ≤ q.id
  tags := b.tags.map fun t => { t with postCount := UInt64.ofNat (b.timesCarried t.id) }
  aliases := b.aliases

/-- Accepts a board without fault. -/
def accept (b : Board) : Except BoardError Board :=
  match b.fault? with
  | some fault => .error fault
  | none => .ok b.settled

end Board

end Tagboard
