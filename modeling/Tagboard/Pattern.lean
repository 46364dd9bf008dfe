import Tagboard.Text.Split

/-!
# Texts with wildcards

A wildcard stands for any run of characters and is typed as `*`. A `Pattern` keeps the plain text
and the wildcards apart: each wildcard is a position, the number of characters of the plain text
before it. `Pattern.ofText` takes the wildcards out of a typed text, and `Pattern.typed` puts them
back in.
-/

namespace Tagboard

/-- A plain text with wildcards between its characters. -/
structure Pattern where
  /-- The text without its wildcards. -/
  text : String
  /-- For each wildcard in order, the number of characters of the text before it. -/
  positions : List Nat
deriving DecidableEq, Repr

namespace Pattern

/-- The character that is typed for a wildcard. -/
def wildcard : Char := '*'

/-- The greatest number of wildcards of one argument. -/
def maxWildcards : Nat := 4

/-- The positions of the wildcards of a typed text of which `kept` plain characters have passed. -/
def wildcardPositions (kept : Nat) : List Char → List Nat
  | [] => []
  | c :: rest =>
      if c == wildcard then kept :: wildcardPositions kept rest
      else wildcardPositions (kept + 1) rest

/-- Takes the wildcards out of a typed text. -/
def ofText (typed : List Char) : Pattern where
  text := String.ofList (typed.filter (· != wildcard))
  positions := wildcardPositions 0 typed

/-- Whether there is a wildcard at all. -/
def hasWildcards (p : Pattern) : Bool := !p.positions.isEmpty

/--
Writes a text with a marker at each position. The next marker goes before the first character whose
index reaches its position, so a position behind a greater one takes effect together with it, and a
marker past the end of the text stands at its end.
-/
def weave (marker : List Char) (write : Char → List Char) (index : Nat) :
    List Char → List Nat → List Char
  | [], positions => positions.flatMap fun _ => marker
  | c :: rest, positions =>
      (positions.takeWhile (· ≤ index)).flatMap (fun _ => marker) ++ write c ++
        weave marker write (index + 1) rest (positions.dropWhile (· ≤ index))

/-- The text with a marker in place of each wildcard. -/
def marked (p : Pattern) (marker : Char) : List Char :=
  weave [marker] (fun c => [c]) 0 p.text.toList p.positions

/-- The text with its wildcards as they are typed. -/
def typed (p : Pattern) : String := String.ofList (p.marked wildcard)

@[simp] theorem wildcardPositions_nil (kept : Nat) : wildcardPositions kept [] = [] := rfl

/-- There are as many positions as wildcards. -/
theorem length_wildcardPositions (kept : Nat) (typed : List Char) :
    (wildcardPositions kept typed).length = typed.count wildcard := by
  induction typed generalizing kept with
  | nil => rfl
  | cons c rest ih =>
      by_cases h : c = wildcard <;> simp [wildcardPositions, h, ih]

@[simp] theorem weave_nil_positions (marker : List Char) (write : Char → List Char) (index : Nat)
    (text : List Char) : weave marker write index text [] = text.flatMap write := by
  induction text generalizing index with
  | nil => rfl
  | cons c rest ih => simp [weave, ih]

example : ofText "*pa*".toList = ⟨"pa", [0, 2]⟩ := by decide +kernel

example : (⟨"abc", [2, 1, 9]⟩ : Pattern).typed = "ab**c*" := by decide +kernel

end Pattern

end Tagboard
