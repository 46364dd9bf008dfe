import Tagboard.Text.Numeral

/-!
# YAML mappings

A file of settings is a flat mapping: each entry has a key and a scalar or a list of scalars. A
scalar is a text that may stand in quotes. Without quotes it may be taken for a number or a truth
value as well, and an empty scalar may be taken for a list without items.
-/

namespace Tagboard.Yaml

open Text

/-- A scalar. -/
structure Scalar where
  text : String
  /-- Whether the text stands without quotes. -/
  isPlain : Bool
deriving DecidableEq, Repr

/-- The value of an entry. -/
inductive Value where
  | scalar (value : Scalar)
  | list (items : List Scalar)
deriving DecidableEq, Repr

/-- The entries of a file in order; a key may stand in it more than once. -/
abbrev Mapping := List (String × Value)

/-- The digits of a number behind the mark of its base, and the base. -/
def splitBase : List Char → Option (Nat × List Char)
  | '0' :: 'x' :: digits => some (16, digits)
  | '0' :: 'o' :: digits => some (8, digits)
  | '0' :: 'b' :: digits => some (2, digits)
  | _ => none

/-- The value of a number, perhaps with a plus sign. Leading zeros make a text no number. -/
def natOfText? (s : List Char) : Option Nat :=
  let unsigned := match s with | '+' :: rest => rest | _ => s
  match splitBase unsigned with
  | some (base, digits) => if digits.isEmpty then none else valueInBase? base digits
  | none =>
      if unsigned.head? == some '0' && unsigned.length != 1 then none else natOfNumeral? unsigned

namespace Scalar

/-- The scalar as a number of 64 bits without sign. -/
def uint64? (s : Scalar) : Option UInt64 :=
  if s.isPlain then
    match natOfText? s.text.toList with
    | some value => if value < UInt64.size then some (UInt64.ofNat value) else none
    | none => none
  else none

/-- The scalar as a truth value. -/
def bool? (s : Scalar) : Option Bool :=
  if !s.isPlain then none
  else if ["true", "True", "TRUE"].contains s.text then some true
  else if ["false", "False", "FALSE"].contains s.text then some false
  else none

end Scalar

namespace Value

/-- The value as a text. -/
def text? : Value → Option String
  | scalar s => some s.text
  | list _ => none

/-- The value as a number of 64 bits without sign. -/
def uint64? : Value → Option UInt64
  | scalar s => s.uint64?
  | list _ => none

/-- The value as a truth value. -/
def bool? : Value → Option Bool
  | scalar s => s.bool?
  | list _ => none

/-- The value as a list of numbers of 64 bits without sign. -/
def uint64s? : Value → Option (List UInt64)
  | scalar s => if s.text.isEmpty then some [] else none
  | list items => items.mapM Scalar.uint64?

end Value

end Tagboard.Yaml
