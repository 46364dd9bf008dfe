import Tagboard.Pattern.Glob
import Tagboard.Text.Split

/-!
# Patterns as regular expressions

A store may leave the matching of patterns to an engine for regular expressions. The expression of a
pattern is anchored at both ends, in a group in which a dot stands for every character; it consists of
the quoted texts between the wildcards, with `.*` for each wildcard.

Of the engine only two functions are used: one that quotes a text and one that searches a value.
`ExpressionEngine.IsDocumented` says what the description of such engines promises for the expressions
of patterns.
-/

namespace Tagboard

open Text

/-- An engine for regular expressions, as far as patterns use it. -/
structure ExpressionEngine where
  /-- The expression that stands for a text and for nothing else. -/
  quote : List Char → List Char
  /-- Whether an expression matches some part of a value. -/
  finds : List Char → List Char → Bool

namespace ExpressionEngine

/-- An expression anchored at both ends, in a group in which a dot stands for every character. -/
def anchored (expression : List Char) : List Char :=
  ['^', '(', '?', 's', ':'] ++ expression ++ [')', '$']

/-- The expression of any run of characters. -/
def anyRun : List Char := ['.', '*']

/-- The expressions that are sequences of quoted texts and of runs. -/
inductive IsSequence (e : ExpressionEngine) : List Char → Prop where
  | nil : IsSequence e []
  | quoted {rest : List Char} (text : List Char) (sequence : IsSequence e rest) :
      IsSequence e (e.quote text ++ rest)
  | run {rest : List Char} (sequence : IsSequence e rest) : IsSequence e (anyRun ++ rest)

/--
What is promised of an engine, where `spans` says which expressions match the whole of which values:
anchors ask for the whole value, a quoted text matches itself, `.*` matches every run of characters,
and the parts of a sequence match one after another.
-/
structure IsDocumented (e : ExpressionEngine) (spans : List Char → List Char → Prop) : Prop where
  anchors : ∀ {expression : List Char}, e.IsSequence expression →
    ∀ value, e.finds (anchored expression) value = true ↔ spans expression value
  nothing : ∀ value, spans [] value ↔ value = []
  quotes : ∀ (text : List Char) {rest : List Char}, e.IsSequence rest →
    ∀ value, spans (e.quote text ++ rest) value ↔ ∃ after, value = text ++ after ∧ spans rest after
  runs : ∀ {rest : List Char}, e.IsSequence rest →
    ∀ value, spans (anyRun ++ rest) value ↔ ∃ skipped after, value = skipped ++ after ∧ spans rest after

end ExpressionEngine

namespace Pattern

/-- The expression of a pattern, with the texts between its wildcards quoted. -/
def expression (p : Pattern) (quote : List Char → List Char) : List Char :=
  ExpressionEngine.anchored
    (join ExpressionEngine.anyRun ((split (· == Glob.gap) (p.marked Glob.gap)).map quote))

example : (⟨"ab", [2, 1]⟩ : Pattern).expression (fun text => text) = "^(?s:ab.*.*)$".toList := by
  decide +kernel

end Pattern

end Tagboard
