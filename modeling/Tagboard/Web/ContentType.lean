import Tagboard.Text.Split

/-!
# Content types

A content type is a type, a slash and a subtype, perhaps with parameters behind semicolons. A
subtype may name, behind its last plus sign, the format on which it is built.
-/

namespace Tagboard.ContentType

open Text

/-- Whether a character may stand in a name of a content type. -/
def isNameChar (c : Char) : Bool := c.isAlphanum || "!#$%&'*+-.^_`|~".toList.contains c

/-- Where a list of parameters is being read. -/
inductive ParameterState where
  | start
  | name
  | valueStart
  | value
  | quotes
  | afterQuotes
  | invalid

/-- Reads one character of a list of parameters. -/
def ParameterState.step (state : ParameterState) (c : Char) : ParameterState :=
  match state with
  | start => if c == ' ' || c == ';' then start else if isNameChar c then name else invalid
  | name => if c == '=' then valueStart else if isNameChar c then name else invalid
  | valueStart => if c == '"' then quotes else if isNameChar c then value else invalid
  | value => if c == ';' then start else if isNameChar c then value else invalid
  | quotes =>
      if c == '"' then afterQuotes
      else if c.toNat < 0x20 || c.toNat == 0x7f then invalid
      else quotes
  | afterQuotes => if c == ';' then start else if c == ' ' then afterQuotes else invalid
  | invalid => invalid

/-- Whether a list of parameters may end here. -/
def ParameterState.isFinal : ParameterState → Bool
  | start | valueStart | value | afterQuotes => true
  | name | quotes | invalid => false

/-- Whether what follows a subtype is a list of parameters. -/
def areParameters : List Char → Bool
  | [] => true
  | c :: rest => (c == ';' || c == ' ') && (rest.foldl ParameterState.step .start).isFinal

/-- The parts of a subtype around its last plus sign, unless nothing is before it. -/
def subtypeParts (subtype : List Char) : List (List Char) :=
  let ending := (subtype.reverse.takeWhile (· != '+')).reverse
  let before := subtype.take (subtype.length - ending.length - 1)
  if before.isEmpty then [subtype] else [before, ending]

/-- Whether a content type is JSON or a format that is built on JSON. -/
def isJson (s : List Char) : Bool :=
  match cut? (· == '/') s with
  | none => false
  | some (type, rest) =>
      let subtype := (rest.takeWhile isNameChar).map Char.toLower
      type.map Char.toLower == "application".toList &&
        (subtypeParts subtype).contains "json".toList &&
        areParameters (rest.dropWhile isNameChar)

/-- Whether a content type is that of an encoded form. -/
def isForm (s : List Char) : Bool := "application/x-www-form-urlencoded".toList.isPrefixOf s

example : isJson "application/vnd.api+json; charset=utf-8".toList = true := by decide +kernel

example : isJson "text/json".toList = false := by decide +kernel

end Tagboard.ContentType
