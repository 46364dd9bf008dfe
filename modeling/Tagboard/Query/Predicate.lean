import Tagboard.Board.Media
import Tagboard.Category
import Tagboard.Pattern

/-!
# Predicates on posts

What a query asks of a post, apart from how it was written: conjunctions and negations of clauses,
each clause about one property of a post. A predicate is true or false once it is known which
clauses hold.
-/

namespace Tagboard

/-- The number by which a tag is known. -/
abbrev TagId := UInt64

/-- How a text of a post is compared: with a whole text or with a pattern. -/
inductive TextMatch where
  | exact (text : String)
  | pattern (pattern : Pattern)
deriving DecidableEq, Repr

/-- The comparison with an argument: wildcards make it a pattern. -/
def TextMatch.ofPattern (p : Pattern) : TextMatch :=
  if p.hasWildcards then .pattern p else .exact p.text

/-- A condition on one property of a post. -/
inductive Clause where
  /-- The post has a tag whose name matches. -/
  | tagName (text : TextMatch)
  /-- The post has a tag with an alias whose name matches. -/
  | tagAlias (text : TextMatch)
  | tagId (id : TagId)
  | taggedWithAny (ids : List TagId)
  | postId (comparison : Comparison UInt64)
  | aggregate (kind : Aggregate) (comparison : Comparison UInt64)
  | commentBy (text : TextMatch)
  | uploadedBy (text : TextMatch)
  | ratingLevel (comparison : Comparison Int64)
  /-- Only images have a height. -/
  | height (comparison : Comparison Int64)
  /-- Only images have a width. -/
  | width (comparison : Comparison Int64)
  | source (text : TextMatch)
  | mediaType (type : MediaType)
deriving DecidableEq, Repr

namespace Clause

/-- The pattern that a clause matches a text against, if it does. -/
def pattern? : Clause → Option Pattern
  | tagName (.pattern p) | tagAlias (.pattern p) | commentBy (.pattern p) | uploadedBy (.pattern p)
  | source (.pattern p) => some p
  | _ => none

/-- The count that a clause reads, if it reads one. -/
def aggregate? : Clause → Option Aggregate
  | aggregate kind _ => some kind
  | _ => none

end Clause

/-- A condition on posts. -/
inductive Predicate where
  /-- All of the conditions; without any, every post will do. -/
  | all (conditions : List Predicate)
  | not (condition : Predicate)
  | clause (clause : Clause)

namespace Predicate

/-- The opposite condition; the opposite of a negation is what it negates. -/
def negate : Predicate → Predicate
  | not condition => condition
  | condition => not condition

/-- Whether a condition is the empty conjunction. -/
def isTrivial : Predicate → Bool
  | all [] => true
  | _ => false

mutual

/-- Whether a condition holds, given which clauses do. -/
def holds (test : Clause → Bool) : Predicate → Bool
  | all conditions => allHold test conditions
  | not condition => !holds test condition
  | clause c => test c

/-- Whether every condition of a list holds. -/
def allHold (test : Clause → Bool) : List Predicate → Bool
  | [] => true
  | condition :: rest => holds test condition && allHold test rest

end

mutual

/-- The clauses of a condition, from left to right. -/
def clauses : Predicate → List Clause
  | all conditions => clausesOfAll conditions
  | not condition => clauses condition
  | clause c => [c]

/-- The clauses of a list of conditions. -/
def clausesOfAll : List Predicate → List Clause
  | [] => []
  | condition :: rest => clauses condition ++ clausesOfAll rest

end

/-- The counts that a condition reads. -/
def aggregates (p : Predicate) : List Aggregate := Aggregate.among (p.clauses.filterMap Clause.aggregate?)

/-- The patterns of a condition, from left to right. -/
def patterns (p : Predicate) : List Pattern := p.clauses.filterMap Clause.pattern?

@[simp] theorem holds_not (test : Clause → Bool) (p : Predicate) :
    holds test (not p) = !holds test p := rfl

@[simp] theorem holds_clause (test : Clause → Bool) (c : Clause) :
    holds test (clause c) = test c := rfl

@[simp] theorem allHold_eq_all (test : Clause → Bool) (conditions : List Predicate) :
    allHold test conditions = conditions.all (holds test) := by
  induction conditions with
  | nil => rfl
  | cons condition rest ih => simp [allHold, ih]

@[simp] theorem holds_all (test : Clause → Bool) (conditions : List Predicate) :
    holds test (all conditions) = conditions.all (holds test) :=
  allHold_eq_all test conditions

/-- The opposite condition holds exactly where the condition does not. -/
@[simp] theorem holds_negate (test : Clause → Bool) (p : Predicate) :
    holds test p.negate = !holds test p := by
  cases p <;> simp [negate]

end Predicate

end Tagboard
