import Tagboard.Pattern.Glob
import Tagboard.Query.Predicate

/-!
# Patterns made ready for matching

A predicate is evaluated on many posts, so its patterns are made ready before, each once however often it
stands in the predicate. A pattern that has not been made ready matches nothing.
-/

namespace Tagboard

/-- The patterns that have been made ready, each with its glob. -/
structure PreparedPatterns where
  globs : List (Pattern × List GlobItem) := []

namespace PreparedPatterns

/-- The glob of a pattern, if it has been made ready. -/
def glob? (ready : PreparedPatterns) (p : Pattern) : Option (List GlobItem) := ready.globs.lookup p

/-- Makes one more pattern ready, unless it is already. -/
def add (ready : PreparedPatterns) (p : Pattern) : PreparedPatterns :=
  if (ready.glob? p).isSome then ready else ⟨(p, p.glob) :: ready.globs⟩

/-- The patterns of a predicate, made ready from left to right. -/
def ofPredicate (predicate : Predicate) : PreparedPatterns := predicate.patterns.foldl add {}

/-- Whether a value matches. -/
def accepts (ready : PreparedPatterns) : TextMatch → String → Bool
  | .exact text, value => text == value
  | .pattern p, value => (ready.glob? p).any fun glob => Glob.accepts glob value.toList

end PreparedPatterns

end Tagboard
