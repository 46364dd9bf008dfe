import Tagboard.Json

/-!
# Reading JSON

A text is cut into lexemes, and the lexemes are put together one by one on a stack of the lists and
objects that are still open. Where the text stops being JSON, what is open is closed around the
damage. What follows a complete document is handed back.
-/

namespace Tagboard

namespace Json

open Text

/-- The smallest parts of a JSON text. -/
inductive Lexeme where
  | openList
  | closeList
  | openObject
  | closeObject
  | comma
  | colon
  | scalar (value : Json)
  | damage

/-- One step of a quoted text: a character, or a number that was written as `\u`. -/
inductive TextUnit where
  | char (c : Char)
  | code (n : Nat)

/-- The value of four hexadecimal digits. -/
def hexValue4? (a b c d : Char) : Option Nat := do
  return 4096 * (← hexDigit? a) + 256 * (← hexDigit? b) + 16 * (← hexDigit? c) + (← hexDigit? d)

/-- The character of a short escape. -/
def shortEscape? : Char → Option Char
  | '"' => some '"'
  | '\\' => some '\\'
  | '/' => some '/'
  | 'b' => some '\x08'
  | 'f' => some '\x0c'
  | 'n' => some '\n'
  | 'r' => some '\r'
  | 't' => some '\t'
  | _ => none

/-- The steps of a quoted text behind its first quote, and what follows its last quote. -/
def quotedUnits? : List Char → Option (List TextUnit × List Char)
  | '"' :: rest => some ([], rest)
  | '\\' :: 'u' :: a :: b :: c :: d :: rest => do
      let code ← hexValue4? a b c d
      let (units, after) ← quotedUnits? rest
      return (.code code :: units, after)
  | '\\' :: c :: rest => do
      let escaped ← shortEscape? c
      let (units, after) ← quotedUnits? rest
      return (.char escaped :: units, after)
  | c :: rest => do
      if c.toNat < 0x20 then none
      let (units, after) ← quotedUnits? rest
      return (.char c :: units, after)
  | [] => none

/-- The text of steps, if each half of a pair of numbers has its other half. -/
def textOfUnits? : List TextUnit → Option (List Char)
  | [] => some []
  | .char c :: rest => (textOfUnits? rest).map (c :: ·)
  | .code high :: .code low :: rest =>
      if 0xd800 ≤ high && high < 0xdc00 && 0xdc00 ≤ low && low < 0xe000 then
        (textOfUnits? rest).map
          (Char.ofNat (0x10000 + 0x400 * (high - 0xd800) + (low - 0xdc00)) :: ·)
      else if 0xd800 ≤ high && high < 0xe000 then none
      else (textOfUnits? (.code low :: rest)).map (Char.ofNat high :: ·)
  | .code code :: rest =>
      if 0xd800 ≤ code && code < 0xe000 then none
      else (textOfUnits? rest).map (Char.ofNat code :: ·)

/-- The digits at the start of a text and what follows them. -/
def spanDigits (s : List Char) : List Char × List Char := (s.takeWhile isDigit, s.dropWhile isDigit)

/-- The digits behind a point, if there is one, and what follows; a point needs a digit. -/
def fraction? : List Char → Option (List Char × List Char)
  | '.' :: rest =>
      let (digits, after) := spanDigits rest
      if digits.isEmpty then none else some (digits, after)
  | s => some ([], s)

/-- The exponent, if there is one, and what follows; its sign may be missing, its digits not. -/
def exponent? (s : List Char) : Option (Option Int × List Char) :=
  match s with
  | 'e' :: rest | 'E' :: rest =>
      let (negative, unsigned) := match rest with
        | '-' :: more => (true, more)
        | '+' :: more => (false, more)
        | _ => (false, rest)
      let (digits, after) := spanDigits unsigned
      if digits.isEmpty then none
      else
        let value : Int := digitsValue 0 digits
        some (some (if negative then -value else value), after)
  | _ => some (none, s)

/-- Whether digits times a power of ten are too great for a number of double precision. -/
def isTooGreat (digits : List Char) (exponent : Int) : Bool :=
  let value := digitsValue 0 digits
  let bound := Nat.pow 2 1024 - Nat.pow 2 970
  if value == 0 then false
  else if 310 < exponent then true
  else if 0 ≤ exponent then bound ≤ value * Nat.pow 10 exponent.toNat
  else if digits.length < exponent.natAbs then false
  else bound * Nat.pow 10 exponent.natAbs ≤ value

/-- Reads a number and hands back what follows it. -/
def number? (s : List Char) : Option (Json × List Char) := do
  let (negative, unsigned) := match s with
    | '-' :: rest => (true, rest)
    | _ => (false, s)
  let (whole, afterWhole) := spanDigits unsigned
  if whole.isEmpty || (whole.head? == some '0' && whole.length != 1) then none
  let (parts, afterParts) ← fraction? afterWhole
  let (power, after) ← exponent? afterParts
  let value : Int := digitsValue 0 whole
  let signed := if negative then -value else value
  if parts.isEmpty && power.isNone && Int64.minValue.toInt ≤ signed && signed < UInt64.size &&
      !(negative && value == 0) then
    return (int signed, after)
  else if isTooGreat (whole ++ parts) (power.getD 0 - parts.length) then return (unreadable, after)
  else return (real, after)

/-- Reads a fixed word and hands back what follows it. -/
def word? (word : String) (value : Json) (s : List Char) : Option (Json × List Char) :=
  if word.toList.isPrefixOf s then some (value, s.drop word.length) else none

/-- Reads a scalar, which is a quoted text, a number or a fixed word. -/
def scalar? : List Char → Option (Json × List Char)
  | '"' :: rest => do
      let (units, after) ← quotedUnits? rest
      match textOfUnits? units with
      | some chars => return (text (String.ofList chars), after)
      | none => return (unreadable, after)
  | 'n' :: rest => word? "ull" null rest
  | 't' :: rest => word? "rue" (bool true) rest
  | 'f' :: rest => word? "alse" (bool false) rest
  | s => number? s

/-- Whether a character may stand between lexemes. -/
def isSpace (c : Char) : Bool := c == ' ' || c == '\n' || c == '\t' || c == '\r'

/-- The lexeme at the start of a text and what follows it; nothing follows a damage. -/
def lexeme (c : Char) (rest : List Char) : Lexeme × List Char :=
  match c with
  | '[' => (.openList, rest)
  | ']' => (.closeList, rest)
  | '\x7b' => (.openObject, rest)
  | '\x7d' => (.closeObject, rest)
  | ',' => (.comma, rest)
  | ':' => (.colon, rest)
  | _ =>
      match scalar? (c :: rest) with
      | some (value, after) => (.scalar value, after)
      | none => (.damage, [])

/-- The first `count` lexemes of a text at most. -/
def lexemesUpTo : Nat → List Char → List Lexeme
  | 0, _ => []
  | count + 1, s =>
      match s.dropWhile isSpace with
      | [] => []
      | c :: rest =>
          let (first, after) := lexeme c rest
          first :: lexemesUpTo count after

/-- The lexemes of a text, of which there are no more than characters. -/
def lexemes (s : List Char) : List Lexeme := lexemesUpTo s.length s

/-- A list or an object that is open, its last part first. -/
inductive Frame where
  | list (items : List Json)
  /-- An object that waits for a name or for its end. -/
  | object (fields : List (String × Json))
  /-- An object that waits for the value of a name. -/
  | field (fields : List (String × Json)) (name : String)

/-- What may come next. -/
inductive Place where
  | value
  | valueOrClose
  | name
  | nameOrClose
  | colon
  | separator

/-- Closes everything that is open around a document. -/
def closeAround (inner : Json) : List Frame → Json
  | [] => inner
  | .list items :: stack => closeAround (.list (inner :: items).reverse) stack
  | .object fields :: stack => closeAround (.object (("", inner) :: fields).reverse) stack
  | .field fields name :: stack => closeAround (.object ((name, inner) :: fields).reverse) stack

/-- Puts a complete value into the list or object that is open. -/
def Frame.put (value : Json) : Frame → Frame
  | .list items => .list (value :: items)
  | .object fields => .object (("", value) :: fields)
  | .field fields name => .object ((name, value) :: fields)

/-- What a lexeme does: it ends the document, goes on with what is open, or damages the text. -/
inductive Move where
  | finish (document : Json)
  | next (stack : List Frame) (place : Place)
  | stop

/-- Goes on after a complete value. -/
def afterValue (value : Json) : List Frame → Move
  | [] => .finish value
  | frame :: stack => .next (frame.put value :: stack) .separator

/-- Starts or completes a value. -/
def moveValue (stack : List Frame) : Lexeme → Move
  | .scalar value => afterValue value stack
  | .openList => .next (.list [] :: stack) .valueOrClose
  | .openObject => .next (.object [] :: stack) .nameOrClose
  | _ => .stop

/-- Closes the innermost list or object. -/
def moveClose : List Frame → Lexeme → Move
  | .list items :: stack, .closeList => afterValue (.list items.reverse) stack
  | .object fields :: stack, .closeObject => afterValue (.object fields.reverse) stack
  | _, _ => .stop

/-- Starts a field. -/
def moveName : List Frame → Lexeme → Move
  | .object fields :: stack, .scalar (.text name) => .next (.field fields name :: stack) .colon
  | _, _ => .stop

/-- What a lexeme does at a place. -/
def move (stack : List Frame) (place : Place) (lexeme : Lexeme) : Move :=
  match place, lexeme with
  | .valueOrClose, .closeList | .nameOrClose, .closeObject => moveClose stack lexeme
  | .value, _ | .valueOrClose, _ => moveValue stack lexeme
  | .name, _ | .nameOrClose, _ => moveName stack lexeme
  | .colon, .colon => .next stack .value
  | .colon, _ => .stop
  | .separator, .comma =>
      match stack with
      | .list _ :: _ => .next stack .value
      | _ => .next stack .name
  | .separator, _ => moveClose stack lexeme

/-- Puts lexemes together and hands back those behind a complete document. -/
def assemble (stack : List Frame) (place : Place) : List Lexeme → Json × List Lexeme
  | [] => (closeAround .broken stack, [])
  | lexeme :: rest =>
      match move stack place lexeme with
      | .finish document => (document, rest)
      | .next stack place => assemble stack place rest
      | .stop => (closeAround .broken stack, [])

/-- The document at the start of a text, whatever follows it. -/
def readFirst (s : String) : Json := (assemble [] .value (lexemes s.toList)).1

/-- The document that a whole text is; anything behind it damages it. -/
def read (s : String) : Json :=
  match assemble [] .value (lexemes s.toList) with
  | (document, []) => document
  | _ => broken

end Json

end Tagboard
