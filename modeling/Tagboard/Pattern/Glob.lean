import Tagboard.Pattern

/-!
# Matching a pattern against a value

A glob is a sequence of characters and of gaps, a gap matching any run of characters. A pattern is
matched as the glob that has a gap at each wildcard. The match covers the whole value and
distinguishes upper and lower case.

Inside a glob a gap is carried by the character NUL, so a NUL of the plain text is a gap as well.
-/

namespace Tagboard

/-- One item of a glob: a character that matches itself, or `none` for any run of characters. -/
abbrev GlobItem := Option Char

namespace Glob

/-- The character that carries a gap. -/
def gap : Char := '\x00'

/-- The glob of a text in which gaps are carried by `gap`. -/
def ofCarried (s : List Char) : List GlobItem := s.map fun c => if c == gap then none else some c

/-- For each of a list's suffixes, the longest first, whether some suffix of it gave `true`. -/
def anyFrom : List Bool → List Bool
  | [] => []
  | b :: rest =>
      let later := anyFrom rest
      (b || later.head?.getD false) :: later

/-- Moves the answers for the suffixes of a value back over a character that must match. -/
def backOver (c : Char) : List Char → List Bool → List Bool
  | x :: value, _ :: answers => (c == x && answers.head?.getD false) :: backOver c value answers
  | _, _ => [false]

/-- For each suffix of the value, the longest first, whether the glob matches all of it. -/
def answers : List GlobItem → List Char → List Bool
  | [], value => value.map (fun _ => false) ++ [true]
  | none :: rest, value => anyFrom (answers rest value)
  | some c :: rest, value => backOver c value (answers rest value)

/-- Whether the glob matches the whole value. -/
def accepts (glob : List GlobItem) (value : List Char) : Bool :=
  (answers glob value).head?.getD false

end Glob

namespace Pattern

/-- The glob of a pattern. -/
def glob (p : Pattern) : List GlobItem := Glob.ofCarried (p.marked Glob.gap)

/-- Whether the pattern matches the whole value. -/
def accepts (p : Pattern) (value : String) : Bool := Glob.accepts p.glob value.toList

example : (⟨"pablo", [2, 3]⟩ : Pattern).accepts "paxbyylo" = true := by decide +kernel

example : (⟨"pablo", [2, 3]⟩ : Pattern).accepts "paxbyyloz" = false := by decide +kernel

end Pattern

end Tagboard
