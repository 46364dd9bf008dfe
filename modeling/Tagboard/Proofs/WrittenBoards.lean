import Tagboard.Board.File
import Tagboard.Proofs.FileChanges
import Tagboard.Proofs.NormalSettings
import Tagboard.Proofs.WrittenRecords

/-!
# Boards are read back

The document of a board has a field for everything that the board holds. Fields that hold their default may
be left out of it, at the board and in each of its parts. From any such document the same board is decoded,
and a file with its text is loaded as the board that is accepted, or refused for the fault of the board.
-/

namespace Tagboard

open Json

/-- The documents of a file of a post. -/
def Media.WrittenAs (m : Media) : Json → Prop := IsRecord
  [.required "kind" (· = .text m.kind.name),
    .optional "width" (· = .ofInt64 m.width) (m.width = 0),
    .optional "height" (· = .ofInt64 m.height) (m.height = 0)]

/-- The documents of a comment. -/
def Comment.WrittenAs (c : Comment) : Json → Prop := IsRecord
  [.required "author" (· = .text c.author), .optional "body" (· = .text c.body) (c.body = "")]

/-- The documents of a post. -/
def Post.WrittenAs (p : Post) : Json → Prop := IsRecord
  [.required "id" (· = .ofUInt64 p.id),
    .optional "title" (· = .text p.title) (p.title = ""),
    .required "uploader" (· = .text p.uploader),
    .optional "tags" (· = .ofList .ofUInt64 p.tags) (p.tags = []),
    .optional "rating_level" (· = .text p.rating.label) (p.rating = .unrated),
    .optional "src_url" (· = .ofOption .text p.source) (p.source = none),
    .optional "media" (IsOptionOf Media.WrittenAs p.media) (p.media = none),
    .optional "comments" (IsListOf Comment.WrittenAs p.comments) (p.comments = []),
    .optional "favorites" (· = .ofList .text p.favorites) (p.favorites = [])]

/-- The documents of a tag. -/
def Tag.WrittenAs (t : Tag) : Json → Prop := IsRecord
  [.required "id" (· = .ofUInt64 t.id),
    .required "name" (· = .text t.name),
    .optional "category" (· = .ofOption .text t.category) (t.category = none),
    .optional "post_count" (· = .ofUInt64 t.postCount) (t.postCount = 0),
    .optional "rating_level" (· = .text t.rating.label) (t.rating = .unrated)]

/-- The documents of a further name of a tag. -/
def Alias.WrittenAs (a : Alias) : Json → Prop := IsRecord
  [.required "id" (· = .ofUInt64 a.id), .required "name" (· = .text a.name),
    .required "tag_id" (· = .ofUInt64 a.tagId)]

/-- The documents of a board. -/
def Board.WrittenAs (b : Board) : Json → Prop := IsRecord
  [.optional "posts" (IsListOf Post.WrittenAs b.posts) (b.posts = []),
    .optional "tags" (IsListOf Tag.WrittenAs b.tags) (b.tags = []),
    .optional "aliases" (IsListOf Alias.WrittenAs b.aliases) (b.aliases = [])]

/-! ## The document with every field -/

theorem Media.writtenAs_encode (m : Media) : m.WrittenAs m.encode :=
  ⟨_, rfl, .written rfl (.written rfl (.written rfl .nil))⟩

theorem Comment.writtenAs_encode (c : Comment) : c.WrittenAs c.encode :=
  ⟨_, rfl, .written rfl (.written rfl .nil)⟩

theorem Post.writtenAs_encode (p : Post) : p.WrittenAs p.encode :=
  ⟨_, rfl, .written rfl (.written rfl (.written rfl (.written rfl (.written rfl (.written rfl
    (.written (isOptionOf_ofOption Media.writtenAs_encode p.media)
      (.written (isListOf_ofList Comment.writtenAs_encode p.comments) (.written rfl .nil))))))))⟩

theorem Tag.writtenAs_encode (t : Tag) : t.WrittenAs t.encode :=
  ⟨_, rfl, .written rfl (.written rfl (.written rfl (.written rfl (.written rfl .nil))))⟩

theorem Alias.writtenAs_encode (a : Alias) : a.WrittenAs a.encode :=
  ⟨_, rfl, .written rfl (.written rfl (.written rfl .nil))⟩

/-- The document with every field is one of the documents of a board. -/
theorem Board.writtenAs_encode (b : Board) : b.WrittenAs b.encode :=
  ⟨_, rfl, .written (isListOf_ofList Post.writtenAs_encode b.posts)
    (.written (isListOf_ofList Tag.writtenAs_encode b.tags)
      (.written (isListOf_ofList Alias.writtenAs_encode b.aliases) .nil))⟩

/-! ## Every document is decoded -/

theorem Rating.reads (r : Rating) : Reads Rating.decode r (· = .text r.label) :=
  .of_eq (.text _) (by cases r <;> rfl)

theorem MediaType.reads (m : MediaType) : Reads MediaType.decode m (· = .text m.name) :=
  .of_eq (.text _) (by cases m <;> rfl)

/-- An object is not null. -/
theorem not_isRecord_null (forms : List FieldForm) : ¬ IsRecord forms null := by
  rintro ⟨_, impossible, -⟩
  cases impossible

theorem Media.reads (m : Media) : Reads Media.decode m m.WrittenAs :=
  ((((Record.takes_const Media.mk).and (Record.takes_required m.kind.reads)).and
    (Record.takes_withDefault (reads_ofInt64 m.width) _)).and
    (Record.takes_withDefault (reads_ofInt64 m.height) _)).reads (by decide)

theorem Comment.reads (c : Comment) : Reads Comment.decode c c.WrittenAs :=
  (((Record.takes_const Comment.mk).and (Record.takes_required (reads_text c.author))).and
    (Record.takes_withDefault (reads_text c.body) _)).reads (by decide)

theorem Post.reads (p : Post) : Reads Post.decode p p.WrittenAs :=
  ((((((((((Record.takes_const Post.mk).and
    (Record.takes_required (reads_ofUInt64 p.id))).and
    (Record.takes_withDefault (reads_text p.title) _)).and
    (Record.takes_required (reads_text p.uploader))).and
    (Record.takes_withDefault (reads_ofList reads_ofUInt64 p.tags) _)).and
    (Record.takes_withDefault p.rating.reads _)).and
    (Record.takes_withDefault (reads_ofOption reads_text nofun p.source) _)).and
    (Record.takes_withDefault
      (reads_option Media.reads (fun _ => not_isRecord_null _) p.media) _)).and
    (Record.takes_withDefault (reads_list Comment.reads p.comments) _)).and
    (Record.takes_withDefault (reads_ofList reads_text p.favorites) _)).reads (by decide)

theorem Tag.reads (t : Tag) : Reads Tag.decode t t.WrittenAs :=
  ((((((Record.takes_const Tag.mk).and
    (Record.takes_required (reads_ofUInt64 t.id))).and
    (Record.takes_required (reads_text t.name))).and
    (Record.takes_withDefault (reads_ofOption reads_text nofun t.category) _)).and
    (Record.takes_withDefault (reads_ofUInt64 t.postCount) _)).and
    (Record.takes_withDefault t.rating.reads _)).reads (by decide)

theorem Alias.reads (a : Alias) : Reads Alias.decode a a.WrittenAs :=
  ((((Record.takes_const Alias.mk).and
    (Record.takes_required (reads_ofUInt64 a.id))).and
    (Record.takes_required (reads_text a.name))).and
    (Record.takes_required (reads_ofUInt64 a.tagId))).reads (by decide)

theorem Board.reads (b : Board) : Reads Board.decode b b.WrittenAs :=
  ((((Record.takes_const Board.mk).and
    (Record.takes_withDefault (reads_list Post.reads b.posts) _)).and
    (Record.takes_withDefault (reads_list Tag.reads b.tags) _)).and
    (Record.takes_withDefault (reads_list Alias.reads b.aliases) _)).reads (by decide)

/-! ## Boards in files -/

namespace Board

variable {t : FileTree} {path : String}

/-- Loading a board depends on the content of its file alone, and changes nothing. -/
theorem run_load_of_read {content : ByteArray} (kept : t.read path = .ok content) :
    t.run (load path) = (ofContent path content, t) := by
  have read : t.run ((FileSystem.read path : ExceptT FileError (StateM FileTree) ByteArray).adapt
      fun _ => BoardFileError.unreadable path) = (.ok content, t) := by
    rw [FileTree.run_adapt]
    change ((t.read path).mapError _, t) = _
    rw [kept]
    rfl
  rw [load, FileTree.run_bind_of_ok read]
  rfl

/-- The document of a board is loaded as the board, if it is accepted. -/
theorem ofContent_of_decode {text : String} {b : Board}
    (decoded : (decode (Json.read text)).toOption = some b) :
    ofContent path text.toUTF8 = b.accept.mapError .refused := by
  have isText : String.fromUTF8? text.toUTF8 = some text :=
    Config.fromUTF8?_eq_some_iff.mpr rfl
  rw [ofContent, isText]
  cases document : decode (Json.read text) with
  | error e =>
      rw [document] at decoded
      cases decoded
  | ok read =>
      rw [document] at decoded
      cases decoded
      simp only [document]

/--
A board is decoded from its document, whichever fields that hold their default are left out of it. Such a
document is read back from its text, without any space and on indented lines, and a file with a text that is
read as such a document is loaded as what the board is accepted as, or refused for the fault of the board.
-/
theorem documents_hold_boards (b : Board) :
    decode b.encode = .ok b ∧ b.WrittenAs b.encode ∧
      ∀ doc, b.WrittenAs doc →
        decode doc = .ok b ∧ Json.read doc.compact = doc ∧ Json.read doc.pretty = doc ∧
          ∀ (t : FileTree) (path text : String), Json.read text = doc → t.read path = .ok text.toUTF8 →
            t.run (load path) = (b.accept.mapError .refused, t) := by
  have whole := b.writtenAs_encode
  refine ⟨(b.reads _ whole).2, whole, fun doc written => ?_⟩
  obtain ⟨plain, decoded⟩ := b.reads doc written
  refine ⟨decoded, read_compact plain, read_pretty plain, fun t path text holds kept => ?_⟩
  rw [run_load_of_read kept, ofContent_of_decode (b := b)]
  rw [holds, decoded]
  rfl

/-- A board at both ends of the numbers, from a document that leaves out what it can, on one line. -/
theorem documents_hold_boards_shortest :
    let image : Media := ⟨.png, 0, Int64.minValue⟩
    let post : Post := ⟨UInt64.ofNat (UInt64.size - 1), "", "ann", [3], .explicit, none, some image,
      [⟨"bob", ""⟩], []⟩
    let b : Board := ⟨[post], [⟨3, "Σ\n\"", none, 0, .unrated⟩], []⟩
    let imageDoc : Json := .object [("kind", .text "PNG"), ("height", .ofInt64 Int64.minValue)]
    let postDoc : Json := .object [("id", .ofUInt64 post.id), ("uploader", .text "ann"),
      ("tags", .list [.ofUInt64 3]), ("rating_level", .text "explicit"), ("media", imageDoc),
      ("comments", .list [.object [("author", .text "bob")]])]
    let tagDoc : Json := .object [("id", .ofUInt64 3), ("name", .text "Σ\n\"")]
    let doc : Json := .object [("posts", .list [postDoc]), ("tags", .list [tagDoc])]
    let t : FileTree := ⟨[(["w"], .directory), (["w", "board.json"], .file doc.compact.toUTF8)]⟩
    b.WrittenAs doc ∧ decode doc = .ok b ∧
      t.run (load "w/board.json") =
        (.ok ⟨[post], [⟨3, "Σ\n\"", none, 1, .unrated⟩], []⟩, t) := by
  intro image post b imageDoc postDoc tagDoc doc t
  have isImage : image.WrittenAs imageDoc :=
    ⟨_, rfl, .written rfl (.leftOut rfl (.written rfl .nil))⟩
  have isComment : Comment.WrittenAs ⟨"bob", ""⟩ (.object [("author", .text "bob")]) :=
    ⟨_, rfl, .written rfl (.leftOut rfl .nil)⟩
  have isPost : post.WrittenAs postDoc :=
    ⟨_, rfl, .written rfl (.leftOut rfl (.written rfl (.written rfl (.written rfl (.leftOut rfl
      (.written isImage (.written ⟨_, rfl, .cons isComment .nil⟩ (.leftOut rfl .nil))))))))⟩
  have isTag : Tag.WrittenAs ⟨3, "Σ\n\"", none, 0, .unrated⟩ tagDoc :=
    ⟨_, rfl, .written rfl (.written rfl (.leftOut rfl (.leftOut rfl (.leftOut rfl .nil))))⟩
  have isBoard : b.WrittenAs doc :=
    ⟨_, rfl, .written ⟨_, rfl, .cons isPost .nil⟩
      (.written ⟨_, rfl, .cons isTag .nil⟩ (.leftOut rfl .nil))⟩
  obtain ⟨-, -, everyDocument⟩ := documents_hold_boards b
  obtain ⟨decoded, sameText, -, loads⟩ := everyDocument doc isBoard
  have accepts : b.accept = .ok ⟨[post], [⟨3, "Σ\n\"", none, 1, .unrated⟩], []⟩ := by
    change Except.ok (Board.mk (List.mergeSort [post] _) _ []) = _
    rw [List.mergeSort_singleton]
    rfl
  refine ⟨isBoard, decoded, ?_⟩
  rw [loads t "w/board.json" doc.compact sameText rfl, accepts]
  rfl

end Board

end Tagboard
