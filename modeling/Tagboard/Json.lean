import Tagboard.Text.Numeral

/-!
# JSON documents

The values of a JSON document and their two written forms, one compact and one on indented lines.
A document that was read from a damaged text is kept up to the damage, which stands in it as
`broken`; a text or number that is well formed but denotes nothing stands in it as `unreadable`.
Whoever takes a document apart therefore meets a wrong value and a damage in the order in which they
stand in the text.
-/

namespace Tagboard

/-- A JSON document. -/
inductive Json where
  | null
  | bool (value : Bool)
  /-- An integer that 64 bits can hold, with or without sign. -/
  | int (value : Int)
  /-- Any other number. -/
  | real
  | text (value : String)
  | list (items : List Json)
  /-- The fields in the order of the text; a name may stand in it more than once. -/
  | object (fields : List (String × Json))
  /-- A text or number that is well formed but denotes nothing. -/
  | unreadable
  /-- The place where a text stops being JSON. -/
  | broken
deriving Inhabited

namespace Json

open Text

/-- A document for a number without sign. -/
def ofUInt64 (n : UInt64) : Json := int n.toNat

/-- A document for a number with sign. -/
def ofInt64 (n : Int64) : Json := int n.toInt

/-- A document for what may be missing. -/
def ofOption {α : Type} (encode : α → Json) : Option α → Json
  | none => null
  | some value => encode value

/-- A document for a list. -/
def ofList {α : Type} (encode : α → Json) (items : List α) : Json := list (items.map encode)

mutual

/-- Whether a document is undamaged. -/
def isWhole : Json → Bool
  | list items => allWhole items
  | object fields => allWholeFields fields
  | broken => false
  | _ => true

/-- Whether every item is undamaged. -/
def allWhole : List Json → Bool
  | [] => true
  | item :: rest => isWhole item && allWhole rest

/-- Whether every field is undamaged. -/
def allWholeFields : List (String × Json) → Bool
  | [] => true
  | (_, value) :: rest => isWhole value && allWholeFields rest

end

mutual

/-- Keeps the last of several fields of one name, in every object. -/
def lastFields : Json → Json
  | list items => list (lastFieldsOfItems items)
  | object fields => object (lastFieldsOf fields)
  | other => other

/-- Keeps the last of several fields of one name, in every item. -/
def lastFieldsOfItems : List Json → List Json
  | [] => []
  | item :: rest => lastFields item :: lastFieldsOfItems rest

/-- Keeps the last of several fields of one name. -/
def lastFieldsOf : List (String × Json) → List (String × Json)
  | [] => []
  | (name, value) :: rest =>
      let later := lastFieldsOf rest
      if later.any (·.1 == name) then later else (name, lastFields value) :: later

end

/-- One character inside the quotes of a text. -/
def escapeChar (c : Char) : List Char :=
  if c == '"' || c == '\\' then ['\\', c]
  else if c == '\x08' then ['\\', 'b']
  else if c == '\t' then ['\\', 't']
  else if c == '\n' then ['\\', 'n']
  else if c == '\x0c' then ['\\', 'f']
  else if c == '\r' then ['\\', 'r']
  else if c.toNat < 0x10 then "\\u000".toList ++ hexNumeral c.toNat
  else if c.toNat < 0x20 then "\\u00".toList ++ hexNumeral c.toNat
  else [c]

/-- A text in quotes. -/
def quote (s : String) : String := String.ofList ('"' :: s.toList.flatMap escapeChar ++ ['"'])

mutual

/-- The document without any space. -/
def compact : Json → String
  | null | real | unreadable | broken => "null"
  | bool value => if value then "true" else "false"
  | int value => String.ofList (signedNumeral value)
  | text value => quote value
  | list items => "[" ++ ",".intercalate (compactItems items) ++ "]"
  | object fields => "\x7b" ++ ",".intercalate (compactFields fields) ++ "\x7d"

/-- The items of a list without any space. -/
def compactItems : List Json → List String
  | [] => []
  | item :: rest => compact item :: compactItems rest

/-- The fields of an object without any space. -/
def compactFields : List (String × Json) → List String
  | [] => []
  | (name, value) :: rest => (quote name ++ ":" ++ compact value) :: compactFields rest

end

/-- Parts between brackets, each on a line of its own; without parts the brackets stand together. -/
def indented (opening closing margin : String) (parts : List String) : String :=
  if parts.isEmpty then opening ++ closing
  else
    opening ++ "\n" ++ ",\n".intercalate (parts.map fun part => margin ++ "  " ++ part) ++ "\n" ++
      margin ++ closing

mutual

/-- The document on indented lines, behind a margin. -/
def prettyAt (margin : String) : Json → String
  | list items => indented "[" "]" margin (prettyItems (margin ++ "  ") items)
  | object fields => indented "\x7b" "\x7d" margin (prettyFields (margin ++ "  ") fields)
  | other => compact other

/-- The items of a list on indented lines. -/
def prettyItems (margin : String) : List Json → List String
  | [] => []
  | item :: rest => prettyAt margin item :: prettyItems margin rest

/-- The fields of an object on indented lines. -/
def prettyFields (margin : String) : List (String × Json) → List String
  | [] => []
  | (name, value) :: rest =>
      (quote name ++ ": " ++ prettyAt margin value) :: prettyFields margin rest

end

/-- The document on indented lines. -/
def pretty (j : Json) : String := prettyAt "" j

end Json

end Tagboard
