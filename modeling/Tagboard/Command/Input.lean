import Tagboard.Query.Predicate
import Tagboard.Text.Blank
import Tagboard.Text.Numeral
import Tagboard.Text.Quoted

/-!
# Arguments of commands

Two kinds of argument that a command takes apart itself: lists of the numbers of tags, and fields of
a form.
-/

namespace Tagboard

open Text

/-- Why an argument of a command is refused. -/
inductive InputError where
  | tagId (value : String)
  | formField (field : String)
deriving DecidableEq, Repr

/-- The description of an error. -/
def InputError.message : InputError → String
  | tagId value => quoted value ++ " is not a tag id"
  | formField field => "form field " ++ quoted field ++ " is not a KEY=VALUE pair"

namespace Input

/-- The number of a tag. -/
def tagId (value : List Char) : Except InputError TagId :=
  match readUInt64? value with
  | some id => .ok id
  | none => .error (.tagId (String.ofList value))

/-- Whether a character stands between the entries of a list. -/
def separates (c : Char) : Bool := c == ',' || c == ' '

/-- The entries of a list, between which there are commas or spaces. -/
def entries (list : List Char) : List (List Char) :=
  ((split separates list).map trim).filter fun entry => !entry.isEmpty

/-- The numbers of tags in a list. -/
def tagIds (list : String) : Except InputError (List TagId) := (entries list.toList).mapM tagId

/-- The name and value of a field, around its first equals sign. -/
def formField (field : String) : Except InputError (String × String) :=
  match cut? (· == '=') field.toList with
  | some (name, value) => .ok (String.ofList name, String.ofList value)
  | none => .error (.formField field)

/-- The names and values of fields. -/
def formFields (fields : List String) : Except InputError (List (String × String)) :=
  fields.mapM formField

end Input

end Tagboard
