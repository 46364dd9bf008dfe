import Tagboard.Text.Blank

/-!
# Rating levels

Posts and tags carry a rating level. Each level has a label and a number, and the numbers ascend
from the most harmless level to the least.
-/

namespace Tagboard

/-- How explicit a post is. -/
inductive Rating where
  | safe
  | unrated
  | questionable
  | explicit
deriving DecidableEq, Repr, Inhabited

namespace Rating

/-- Every level, in ascending order. -/
def all : List Rating := [safe, unrated, questionable, explicit]

/-- The number that comparisons use. -/
def level : Rating → Nat
  | safe => 0
  | unrated => 1
  | questionable => 50
  | explicit => 100

/-- The label by which a level is named. -/
def label : Rating → String
  | safe => "safe"
  | unrated => "unrated"
  | questionable => "questionable"
  | explicit => "explicit"

/-- Whether two texts agree when ASCII letters of either case count as equal. -/
def agreeIgnoringCase (s t : List Char) : Bool := s.map Char.toLower == t.map Char.toLower

/-- The level with a label, whatever the case of its letters and the blanks around it. -/
def ofLabel? (label : String) : Option Rating :=
  all.find? fun rating => agreeIgnoringCase rating.label.toList (Text.trim label.toList)

/-- A label finds the level whose label it is, and no other. -/
theorem ofLabel?_eq_some_iff {label : String} {rating : Rating} :
    ofLabel? label = some rating ↔
      agreeIgnoringCase rating.label.toList (Text.trim label.toList) = true := by
  have unique (r s : Rating) (h : r.label.toList.map Char.toLower = s.label.toList.map Char.toLower) :
      r = s := by
    revert h
    cases r <;> cases s <;> decide
  unfold ofLabel?
  constructor
  · intro found
    have agrees := List.find?_some found
    exact agrees
  · intro agrees
    have listed : rating ∈ all := by cases rating <;> decide
    cases found : all.find? fun r => agreeIgnoringCase r.label.toList (Text.trim label.toList) with
    | none => exact absurd agrees (List.find?_eq_none.mp found rating listed)
    | some other =>
        have otherAgrees := List.find?_some found
        rw [unique other rating ((eq_of_beq otherAgrees).trans (eq_of_beq agrees).symm)]

theorem level_lt_level_of_sorted : (all.map level).Pairwise (· < ·) := by decide

example : ofLabel? " Explicit " = some explicit := by decide +kernel

end Rating

end Tagboard
