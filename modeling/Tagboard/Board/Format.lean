import Tagboard.Board
import Tagboard.Json.Decode

/-!
# Boards as JSON

The form in which boards are kept in files and posts appear in answers. Every field is written; what
may be left out when a board is read has a default.
-/

namespace Tagboard

open Json

/-- The rating levels by their labels. -/
def Rating.decode : Decoder Rating := Decode.oneOf (Rating.all.map fun r => (r.label, r))

/-- The media types by their names. -/
def MediaType.decode : Decoder MediaType := Decode.oneOf (MediaType.all.map fun m => (m.name, m))

/-- The document of a file of a post. -/
def Media.encode (m : Media) : Json :=
  .object [("kind", .text m.kind.name), ("width", .ofInt64 m.width), ("height", .ofInt64 m.height)]

/-- Decodes a file of a post. -/
def Media.decode : Decoder Media :=
  (((Record.const Media.mk).and (.required "kind" MediaType.decode)).and
    (.withDefault "width" 0 Decode.int64)).and (.withDefault "height" 0 Decode.int64) |>.decode

/-- The document of a comment. -/
def Comment.encode (c : Comment) : Json :=
  .object [("author", .text c.author), ("body", .text c.body)]

/-- Decodes a comment. -/
def Comment.decode : Decoder Comment :=
  ((Record.const Comment.mk).and (.required "author" Decode.text)).and
    (.withDefault "body" "" Decode.text) |>.decode

/-- The document of a post. -/
def Post.encode (p : Post) : Json :=
  .object [("id", .ofUInt64 p.id), ("title", .text p.title), ("uploader", .text p.uploader),
    ("tags", .ofList .ofUInt64 p.tags), ("rating_level", .text p.rating.label),
    ("src_url", .ofOption .text p.source), ("media", .ofOption Media.encode p.media),
    ("comments", .ofList Comment.encode p.comments), ("favorites", .ofList .text p.favorites)]

/-- Decodes a post. -/
def Post.decode : Decoder Post :=
  (((((((((Record.const Post.mk).and (.required "id" Decode.uint64)).and
    (.withDefault "title" "" Decode.text)).and
    (.required "uploader" Decode.text)).and
    (.withDefault "tags" [] (Decode.list Decode.uint64))).and
    (.withDefault "rating_level" .unrated Rating.decode)).and
    (.withDefault "src_url" none (Decode.option Decode.text))).and
    (.withDefault "media" none (Decode.option Media.decode))).and
    (.withDefault "comments" [] (Decode.list Comment.decode))).and
    (.withDefault "favorites" [] (Decode.list Decode.text)) |>.decode

/-- The document of a tag. -/
def Tag.encode (t : Tag) : Json :=
  .object [("id", .ofUInt64 t.id), ("name", .text t.name),
    ("category", .ofOption .text t.category), ("post_count", .ofUInt64 t.postCount),
    ("rating_level", .text t.rating.label)]

/-- Decodes a tag. -/
def Tag.decode : Decoder Tag :=
  (((((Record.const Tag.mk).and (.required "id" Decode.uint64)).and
    (.required "name" Decode.text)).and
    (.withDefault "category" none (Decode.option Decode.text))).and
    (.withDefault "post_count" 0 Decode.uint64)).and
    (.withDefault "rating_level" .unrated Rating.decode) |>.decode

/-- The document of a further name of a tag. -/
def Alias.encode (a : Alias) : Json :=
  .object [("id", .ofUInt64 a.id), ("name", .text a.name), ("tag_id", .ofUInt64 a.tagId)]

/-- Decodes a further name of a tag. -/
def Alias.decode : Decoder Alias :=
  (((Record.const Alias.mk).and (.required "id" Decode.uint64)).and
    (.required "name" Decode.text)).and (.required "tag_id" Decode.uint64) |>.decode

/-- The document of a board. -/
def Board.encode (b : Board) : Json :=
  .object [("posts", .ofList Post.encode b.posts), ("tags", .ofList Tag.encode b.tags),
    ("aliases", .ofList Alias.encode b.aliases)]

/-- Decodes a board. -/
def Board.decode : Decoder Board :=
  (((Record.const Board.mk).and (.withDefault "posts" [] (Decode.list Post.decode))).and
    (.withDefault "tags" [] (Decode.list Tag.decode))).and
    (.withDefault "aliases" [] (Decode.list Alias.decode)) |>.decode

end Tagboard
