import Tagboard.Proofs.AcceptedBoard
import Tagboard.Proofs.Answers
import Tagboard.Proofs.GlobMatching

/-!
# What a token says about a post

`Token.Matches` says for each category what a token asks of a post, in terms of the board as it was
given, of the typed argument and of integers. The clause that a read token is compiled to holds of a
post of the accepted board exactly if the token matches the post.
-/

namespace Tagboard

open Text

/-- How integers stand in a relation. -/
def Relation.Relates (r : Relation) (actual value : Int) : Prop :=
  match r with
  | equal => actual = value
  | less => actual < value
  | greater => value < actual

theorem Relation.holds_iff_relates_toNat (r : Relation) (actual value : UInt64) :
    r.holds actual value = true ↔ r.Relates actual.toNat value.toNat := by
  cases r <;> simp only [holds, Relates, decide_eq_true_eq, UInt64.lt_iff_toNat_lt,
    ← UInt64.toNat_inj, Int.ofNat_inj, Int.ofNat_lt]

theorem Relation.holds_iff_relates_toInt (r : Relation) (actual value : Int64) :
    r.holds actual value = true ↔ r.Relates actual.toInt value.toInt := by
  cases r <;> simp only [holds, Relates, decide_eq_true_eq, Int64.lt_iff_toInt_lt,
    ← Int64.toInt_inj]

/-- A count of a post is the number of its items, unless there are too many for 64 bits. -/
theorem Post.toNat_count (p : Post) (kind : Aggregate) :
    (p.count kind).toNat =
      (match kind with
        | .commentCount => p.comments.length
        | .favoriteCount => p.favorites.length
        | .tagCount => p.tags.length) % UInt64.size := by
  cases kind <;> exact UInt64.toNat_ofNat'

/-- The level of a rating as it is compared. -/
theorem Rating.toInt_level (rating : Rating) : (Int64.ofNat rating.level).toInt = rating.level := by
  cases rating <;> decide

theorem Rating.level_inj {r s : Rating} (same : Int64.ofNat r.level = Int64.ofNat s.level) : r = s := by
  revert same
  cases r <;> cases s <;> decide

namespace Token

/-- Whether an integer stands in the relation of a token to the integer that its argument denotes. -/
def Compares (t : Token) (actual : Int) : Prop :=
  ∃ value, integerOfNumeral? t.argument.text.toList = some value ∧
    t.relationOrDefault.Relates actual value

/-- Whether a token matches a post of a board, its negation aside. -/
def Matches (t : Token) (b : Board) (p : Post) : Prop :=
  match t.category with
  | .tag => ∃ id ∈ p.tags, ∃ tag ∈ b.tags, tag.id = id ∧ t.argument.Matches tag.name
  | .tagAlias => ∃ id ∈ p.tags, ∃ a ∈ b.aliases, a.tagId = id ∧ t.argument.Matches a.name
  | .tagId => ∃ id ∈ p.tags, integerOfNumeral? t.argument.text.toList = some (id.toNat : Int)
  | .postId => t.Compares p.id.toNat
  | .commentCount => t.Compares (p.count .commentCount).toNat
  | .favoriteCount => t.Compares (p.count .favoriteCount).toNat
  | .tagCount => t.Compares (p.count .tagCount).toNat
  | .commentBy => ∃ comment ∈ p.comments, t.argument.Matches comment.author
  | .uploadedBy => t.argument.Matches p.uploader
  | .source => ∃ source, p.source = some source ∧ t.argument.Matches source
  | .ratingLabel => Rating.agreeIgnoringCase p.rating.label.toList t.argument.text.toList = true
  | .ratingNumber => t.Compares p.rating.level
  | .height => ∃ m, p.media = some m ∧ m.kind.isImage = true ∧ t.Compares m.height.toInt
  | .width => ∃ m, p.media = some m ∧ m.kind.isImage = true ∧ t.Compares m.width.toInt
  | .mimetype => ∃ m, p.media = some m ∧ m.kind.mimetype = t.argument.text

namespace IsRead

variable {t : Token}

/-- The comparison of a read token accepts the values that match its argument. -/
theorem accepts_iff_matches (read : t.IsRead) (value : String) :
    (TextMatch.ofPattern t.argument).accepts value = true ↔ t.argument.Matches value :=
  TextMatch.accepts_ofPattern_iff read.wildcard_not_mem read.gap_not_mem value

/-- A comparison without sign is one of integers. -/
theorem exists_unsignedComparison (read : t.IsRead)
    (kind : t.category.argumentKind false = .unsigned) :
    ∃ comparison, t.unsignedComparison = .ok comparison ∧
      ∀ actual : UInt64, comparison.holds actual = true ↔ t.Compares actual.toNat := by
  obtain ⟨value, numeral, denotes⟩ := read.exists_unsignedValue kind
  refine ⟨⟨t.relationOrDefault, value⟩, by rw [unsignedComparison, numeral]; rfl, fun actual => ?_⟩
  simp [Comparison.holds, Compares, denotes, Relation.holds_iff_relates_toNat]

/-- A comparison with sign is one of integers. -/
theorem exists_signedComparison (read : t.IsRead) (kind : t.category.argumentKind false = .signed) :
    ∃ comparison, t.signedComparison = .ok comparison ∧
      ∀ actual : Int64, comparison.holds actual = true ↔ t.Compares actual.toInt := by
  obtain ⟨value, numeral, denotes⟩ := read.exists_signedValue kind
  refine ⟨⟨t.relationOrDefault, value⟩, by rw [signedComparison, numeral]; rfl, fun actual => ?_⟩
  simp [Comparison.holds, Compares, denotes, Relation.holds_iff_relates_toInt]

/-- The clause of a read token holds of a post of an accepted board exactly if the token matches it. -/
theorem clauseHolds_iff_matches (read : t.IsRead) {c : Clause} (compiled : t.clause = .ok c)
    {b : Board} (consistent : b.Consistent) {kinds : List Aggregate}
    (annotated : ∀ kind, t.category.aggregate? = some kind → kind ∈ kinds) (p : Post) :
    b.settled.clauseHolds (.annotate kinds p) c = true ↔ t.Matches b p := by
  unfold clause at compiled
  cases category : t.category with
  | tag =>
      simp only [category, Except.ok.injEq] at compiled
      subst compiled
      simp [Board.clauseHolds, Board.clauseHoldsBy, Matches, category,
        Board.any_tag?_settled_iff consistent, read.accepts_iff_matches]
  | tagAlias | commentBy | uploadedBy | source =>
      simp only [category, read.textMatch_eq (by rw [category]; rfl), Except.map,
        Except.ok.injEq] at compiled
      subst compiled
      simp [Board.clauseHolds, Board.clauseHoldsBy, Matches, category, Option.any_eq_true,
        read.accepts_iff_matches]
  | tagId =>
      obtain ⟨value, numeral, denotes⟩ := read.exists_unsignedValue (by rw [category]; rfl)
      simp only [category, read.requireEqual_eq (by rw [category]; rfl), numeral, ok_bind,
        pure_eq_ok, Except.ok.injEq] at compiled
      subst compiled
      simp only [Board.clauseHolds, Board.clauseHoldsBy, AnnotatedPost.post_annotate,
        List.contains_iff_mem, Matches, category, denotes, Option.some.injEq, Int.ofNat_inj,
        UInt64.toNat_inj, exists_eq_right']
  | postId =>
      obtain ⟨comparison, compared, holds⟩ := read.exists_unsignedComparison (by rw [category]; rfl)
      simp only [category, compared, Except.map, Except.ok.injEq] at compiled
      subst compiled
      simp [Board.clauseHolds, Board.clauseHoldsBy, Matches, category, holds]
  | tagCount | commentCount | favoriteCount =>
      obtain ⟨comparison, compared, holds⟩ := read.exists_unsignedComparison (by rw [category]; rfl)
      simp only [category, compared, Except.map, Except.ok.injEq] at compiled
      subst compiled
      have known := annotated _ (by rw [category]; rfl)
      simp [Board.clauseHolds, Board.clauseHoldsBy, Matches, category, holds,
        AnnotatedPost.count?_annotate known]
  | ratingNumber =>
      obtain ⟨comparison, compared, holds⟩ := read.exists_signedComparison (by rw [category]; rfl)
      simp only [category, compared, Except.map, Except.ok.injEq] at compiled
      subst compiled
      simp only [Board.clauseHolds, Board.clauseHoldsBy, Matches, category, holds, Rating.toInt_level,
        AnnotatedPost.post_annotate]
  | height | width =>
      obtain ⟨comparison, compared, holds⟩ := read.exists_signedComparison (by rw [category]; rfl)
      simp only [category, compared, Except.map, Except.ok.injEq] at compiled
      subst compiled
      simp [Board.clauseHolds, Board.clauseHoldsBy, Matches, category, holds, Media.imageWith,
        Option.any_eq_true]
  | ratingLabel =>
      simp only [category, read.requireEqual_eq (by rw [category]; rfl), ok_bind] at compiled
      simp only [Matches, category, ← read.ofLabel?_eq_some_iff category]
      cases label : Rating.ofLabel? t.argument.text with
      | none => simp [label] at compiled
      | some rating =>
          simp only [label, pure_eq_ok, Except.ok.injEq] at compiled
          subst compiled
          have same : Int64.ofNat p.rating.level = Int64.ofNat rating.level ↔ rating = p.rating :=
            ⟨fun level => (Rating.level_inj level).symm, fun rated => by rw [rated]⟩
          simp [Board.clauseHolds, Board.clauseHoldsBy, Comparison.holds, Relation.holds, same]
  | mimetype =>
      simp only [category, read.requireEqual_eq (by rw [category]; rfl), ok_bind] at compiled
      simp only [Matches, category, ← MediaType.ofMimetype?_eq_some_iff]
      cases named : MediaType.ofMimetype? t.argument.text with
      | none => simp [named] at compiled
      | some type =>
          simp only [named, pure_eq_ok, Except.ok.injEq] at compiled
          subst compiled
          simp [Board.clauseHolds, Board.clauseHoldsBy, Option.any_eq_true, @eq_comm _ type]

end IsRead

end Token

end Tagboard
