/-!
# Relations

How the argument of a filter is compared with a value of a post: equal, less or greater. Each
relation is typed as one character.
-/

namespace Tagboard

/-- How a value stands to the argument of a filter. -/
inductive Relation where
  | equal
  | less
  | greater
deriving DecidableEq, Repr

namespace Relation

/-- Every relation, in the order in which they are listed. -/
def all : List Relation := [equal, less, greater]

/-- The character that is typed for a relation. -/
def symbol : Relation → Char
  | equal => '='
  | less => '<'
  | greater => '>'

/-- The relation that is typed as a character. -/
def ofSymbol? : Char → Option Relation
  | '=' => some equal
  | '<' => some less
  | '>' => some greater
  | _ => none

/-- Whether a character is typed for a relation. -/
def isSymbol (c : Char) : Bool := (ofSymbol? c).isSome

/-- The relation that a whole text stands for. -/
def ofText? : List Char → Option Relation
  | [c] => ofSymbol? c
  | _ => none

/-- The relation as it is typed. -/
def text (r : Relation) : String := String.singleton r.symbol

/-- Whether `actual` stands in the relation to `value`. -/
def holds {α : Type} [DecidableEq α] [LT α] [DecidableLT α] (r : Relation) (actual value : α) :
    Bool :=
  match r with
  | equal => actual = value
  | less => actual < value
  | greater => value < actual

@[simp] theorem ofSymbol?_symbol (r : Relation) : ofSymbol? r.symbol = some r := by
  cases r <;> rfl

theorem symbol_of_ofSymbol? {c : Char} {r : Relation} (h : ofSymbol? c = some r) :
    r.symbol = c := by
  unfold ofSymbol? at h
  split at h <;> cases h <;> rfl

end Relation

/-- A comparison of a number of a post with a given value. -/
structure Comparison (α : Type) where
  relation : Relation
  value : α
deriving DecidableEq, Repr

/-- Whether a number satisfies a comparison. -/
def Comparison.holds {α : Type} [DecidableEq α] [LT α] [DecidableLT α] (c : Comparison α)
    (actual : α) : Bool :=
  c.relation.holds actual c.value

end Tagboard
