import Tagboard.Board
import Tagboard.Query.Preparation
import Tagboard.SearchError
import Tagboard.Text.Lowercase

/-!
# Stores

What a search asks of whoever keeps the posts: all posts with some of their counts, those that
satisfy a predicate, and the tags and further names in which a text occurs. Each question may fail.
An accepted board answers all four.
-/

namespace Tagboard

open Text

/-- A post with some of its counts. -/
structure AnnotatedPost where
  post : Post
  counts : List (Aggregate × UInt64)
deriving DecidableEq, Repr

namespace AnnotatedPost

/-- A post with the given counts. -/
def annotate (kinds : List Aggregate) (post : Post) : AnnotatedPost where
  post := post
  counts := kinds.map fun kind => (kind, post.count kind)

/-- A count of the post, if it is known. -/
def count? (p : AnnotatedPost) (kind : Aggregate) : Option UInt64 := p.counts.lookup kind

end AnnotatedPost

/-- The keeper of the posts. -/
structure Store where
  /-- Every post, with the given counts. -/
  annotate : List Aggregate → Except StoreError (List AnnotatedPost)
  /-- The posts of a list that satisfy a predicate, in ascending order. -/
  filterPosts : List AnnotatedPost → Predicate → Except StoreError (List Post)
  /-- The tags in whose names a text occurs, without those of some names and numbers. -/
  tagsByName : String → List String → List TagId → Except StoreError (List Tag)
  /-- The further names in which a text occurs, without some names and the names of some tags. -/
  aliasesByName : String → List String → List TagId → Except StoreError (List (Alias × Tag))

/-- The store that never answers. -/
def Store.failing (reason : String) : Store where
  annotate _ := .error (.unavailable reason)
  filterPosts _ _ := .error (.unavailable reason)
  tagsByName _ _ _ := .error (.unavailable reason)
  aliasesByName _ _ _ := .error (.unavailable reason)

/-- Whether a value matches. -/
def TextMatch.accepts (m : TextMatch) (value : String) : Bool :=
  match m with
  | .exact text => text == value
  | .pattern p => p.accepts value

/-- Whether a file is an image with a dimension that satisfies a test. -/
def Media.imageWith (test : Media → Bool) (m : Media) : Bool := m.kind.isImage && test m

namespace Board

/-- The tag of a number. -/
def tag? (b : Board) (id : TagId) : Option Tag := b.tags.find? (·.id == id)

/-- Whether a clause holds of a post, given which values match a text or a pattern. -/
def clauseHoldsBy (b : Board) (accepts : TextMatch → String → Bool) (p : AnnotatedPost) :
    Clause → Bool
  | .tagName text => p.post.tags.any fun id => (b.tag? id).any fun tag => accepts text tag.name
  | .tagAlias text =>
      p.post.tags.any fun id => b.aliases.any fun a => a.tagId == id && accepts text a.name
  | .tagId id => p.post.tags.contains id
  | .taggedWithAny ids => p.post.tags.any (ids.contains ·)
  | .postId comparison => comparison.holds p.post.id
  | .aggregate kind comparison => (p.count? kind).any comparison.holds
  | .commentBy text => p.post.comments.any fun comment => accepts text comment.author
  | .uploadedBy text => accepts text p.post.uploader
  | .ratingLevel comparison => comparison.holds (Int64.ofNat p.post.rating.level)
  | .height comparison => p.post.media.any (Media.imageWith fun m => comparison.holds m.height)
  | .width comparison => p.post.media.any (Media.imageWith fun m => comparison.holds m.width)
  | .source text => p.post.source.any (accepts text)
  | .mediaType type => p.post.media.any (·.kind == type)

/-- Whether a clause holds of a post, each pattern being matched by itself. -/
def clauseHolds (b : Board) (p : AnnotatedPost) (c : Clause) : Bool :=
  b.clauseHoldsBy TextMatch.accepts p c

/-- Whether a predicate holds of a post, each pattern being matched by itself. -/
def holds (b : Board) (predicate : Predicate) (p : AnnotatedPost) : Bool :=
  predicate.holds (b.clauseHolds p)

/-- Whether a predicate holds of a post as far as its patterns have been made ready. -/
def evaluate (b : Board) (ready : PreparedPatterns) (predicate : Predicate) (p : AnnotatedPost) :
    Bool :=
  predicate.holds (b.clauseHoldsBy ready.accepts p)

/-- The first post that lacks one of the counts, as an error. -/
def missingCount? (kinds : List Aggregate) (posts : List AnnotatedPost) : Option StoreError :=
  posts.findSome? fun p =>
    (kinds.find? fun kind => (p.count? kind).isNone).map (.notAnnotated p.post.id)

/-- The posts of a list that satisfy a predicate, in ascending order. -/
def filterPosts (b : Board) (posts : List AnnotatedPost) (predicate : Predicate) :
    Except StoreError (List Post) :=
  let ready := PreparedPatterns.ofPredicate predicate
  match missingCount? predicate.aggregates posts with
  | some error => .error error
  | none =>
      let matched := (posts.filter (b.evaluate ready predicate)).map (·.post)
      .ok (matched.mergeSort fun p q => p.id ≤ q.id)

/-- The order of tags in suggestions: by category, without one last, by falling count, by number. -/
def tagPrecedes (s t : Tag) : Bool :=
  match s.category, t.category with
  | some _, none => true
  | none, some _ => false
  | none, none => s.postCount > t.postCount || (s.postCount == t.postCount && s.id ≤ t.id)
  | some c, some d =>
      c < d || (c == d && (s.postCount > t.postCount || (s.postCount == t.postCount && s.id ≤ t.id)))

/-- The tags in whose names a text occurs, without those of some names and numbers. -/
def tagsByName (b : Board) (text : String) (names : List String) (ids : List TagId) : List Tag :=
  (b.tags.filter fun t =>
    occursIgnoringCase text t.name && !names.contains t.name && !ids.contains t.id).mergeSort
      tagPrecedes

/-- The order of further names in suggestions: by name, then by number. -/
def aliasPrecedes (a b : Alias) : Bool := a.name < b.name || (a.name == b.name && a.id ≤ b.id)

/-- The further names in which a text occurs, without some names and the names of some tags. -/
def aliasesByName (b : Board) (text : String) (names : List String) (ids : List TagId) :
    Except StoreError (List (Alias × Tag)) := do
  let found := b.aliases.filter fun a =>
    occursIgnoringCase text a.name && !names.contains a.name && !ids.contains a.tagId
  let pairs ← found.mapM fun a =>
    match b.tag? a.tagId with
    | some tag => .ok (a, tag)
    | none => .error (.strayAlias a.name)
  return pairs.mergeSort fun x y => aliasPrecedes x.1 y.1

/-- The store that an accepted board is. -/
def store (b : Board) : Store where
  annotate kinds := .ok (b.posts.map (.annotate kinds))
  filterPosts := b.filterPosts
  tagsByName text names ids := .ok (b.tagsByName text names ids)
  aliasesByName := b.aliasesByName

end Board

end Tagboard
