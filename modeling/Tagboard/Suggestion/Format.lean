import Tagboard.Suggestion
import Tagboard.Token.Format

/-!
# Suggestions as JSON

The form in which suggestions appear in answers.
-/

namespace Tagboard

/-- The document of a suggestion. -/
def Suggestion.encode (s : Suggestion) : Json :=
  .object [("token_category", s.category.encode), ("name", .text s.name),
    ("tag_category", .ofOption .text s.tagCategory), ("tag_id", .ofOption .ofUInt64 s.tagId),
    ("alias", .ofOption .text s.aliasName), ("extra", .ofOption .ofUInt64 s.postCount)]

end Tagboard
