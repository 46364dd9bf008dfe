import Tagboard.Pattern

/-!
# Patterns of the SQL operator `LIKE`

In such a pattern `%` stands for any run of characters, `_` for any one character, and a backslash
takes the special meaning from the character after it. `Pattern.like` writes a pattern in this
form, and `Like.accepts` reads the form on its own.
-/

namespace Tagboard

namespace Like

/-- Whether a character has a special meaning. -/
def isSpecial (c : Char) : Bool := c == '\\' || c == '%' || c == '_'

/-- One character, with a backslash before it where it is special. -/
def escape (c : Char) : List Char := if isSpecial c then ['\\', c] else [c]

/-- Whether some suffix of the value, the value itself included, satisfies the test. -/
def someSuffix (test : List Char → Bool) : List Char → Bool
  | [] => test []
  | c :: rest => test (c :: rest) || someSuffix test rest

/-- Whether the operator accepts a value under a pattern. A backslash at the end stands for itself. -/
def accepts : List Char → List Char → Bool
  | [], value => value.isEmpty
  | '%' :: pattern, value => someSuffix (accepts pattern) value
  | '\\' :: c :: pattern, x :: value => c == x && accepts pattern value
  | '_' :: pattern, _ :: value => accepts pattern value
  | c :: pattern, x :: value => c == x && accepts pattern value
  | _ :: _, [] => false

end Like

namespace Pattern

/-- The pattern in the form of the operator `LIKE`. -/
def like (p : Pattern) : String :=
  String.ofList (weave ['%'] Like.escape 0 p.text.toList p.positions)

example : (⟨"10%", [0, 3]⟩ : Pattern).like = "%10\\%%" := by decide +kernel

end Pattern

end Tagboard
