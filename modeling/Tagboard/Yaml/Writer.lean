import Tagboard.Text.Lowercase
import Tagboard.Yaml.Reader

/-!
# Writing YAML mappings

A text is written without quotes where nothing else could be read from it. Single quotes keep texts
that look like a number, a truth value or a part of the notation, a bar keeps texts of several
lines, and double quotes keep all that could not be written otherwise.
-/

namespace Tagboard.Yaml

open Text

/-- The words that stand for something other than a text. -/
def reservedWords : List String :=
  ["true", "false", "null", "~", "y", "yes", "n", "no", "on", "off", "nil", "nan"]

/-- Whether a text without quotes could be taken for a number, a truth value or nothing. -/
def isAmbiguous (s : List Char) : Bool :=
  match s with
  | [] => true
  | c :: _ =>
      isDigit c || ['-', '.', '+'].contains c ||
        reservedWords.contains (String.ofList (lowercase s))

/-- Whether a character can only be written by its number or a letter. -/
def isHidden (c : Char) : Bool :=
  c != '\n' && (!isAllowed c || ['\t', '\r', '\u0085', '\u2028', '\u2029'].contains c)

/-- Whether a text has a mark of the notation, of which `afterGap` tells whether a gap has passed. -/
def hasMark (afterGap : Bool) : List Char → Bool
  | [] => false
  | c :: rest =>
      (c == '#' && afterGap) || (c == ':' && (rest.isEmpty || rest.head? == some ' ')) ||
        hasMark (c == ' ') rest

/-- Whether a text of one line can be written without quotes. -/
def isPlain (s : List Char) : Bool :=
  startsPlain s && !hasMark true s && s.getLast? != some ' '

/-- A text in single quotes. -/
def writeSingle (s : List Char) : List Char :=
  '\'' :: s.flatMap (fun c => if c == '\'' then ['\'', '\''] else [c]) ++ ['\'']

/-- A number in hexadecimal digits of a width. -/
def hexOfWidth (width n : Nat) : List Char :=
  let digits := (hexNumeral n).map Char.toUpper
  List.replicate (width - digits.length) '0' ++ digits

/-- The letter behind the backslash that stands for a character. -/
def escapeLetter? (c : Char) : Option Char :=
  ['0', 'a', 'b', 't', 'n', 'v', 'f', 'r', 'e', '"', '\\', 'N', 'L', 'P'].find? fun letter =>
    escaped? letter == some c

/-- One character inside double quotes. -/
def escapeDouble (c : Char) : List Char :=
  match escapeLetter? c with
  | some letter => ['\\', letter]
  | none =>
      if !isHidden c then [c]
      else if c.toNat < 0x100 then ['\\', 'x'] ++ hexOfWidth 2 c.toNat
      else if c.toNat < 0x10000 then ['\\', 'u'] ++ hexOfWidth 4 c.toNat
      else ['\\', 'U'] ++ hexOfWidth 8 c.toNat

/-- A text in double quotes. -/
def writeDouble (s : List Char) : List Char := '"' :: s.flatMap escapeDouble ++ ['"']

/-- Whether a line feed follows a space. -/
def hasSpaceBeforeBreak : List Char → Bool
  | ' ' :: '\n' :: _ => true
  | _ :: rest => hasSpaceBeforeBreak rest
  | [] => false

/-- The mark of a text that is kept line by line. -/
def writeBlockMark (s : List Char) : List Char :=
  let extra := if s.head?.any fun c => c == ' ' || c == '\n' then ['2'] else []
  let chomping := match s.reverse with
    | '\n' :: '\n' :: _ | ['\n'] => ['+']
    | '\n' :: _ => []
    | _ => ['-']
  '|' :: extra ++ chomping

/-- A text line by line, each line with content at an indentation of two. -/
def writeBlock (s : List Char) : List Char :=
  let lines := split (· == '\n') s
  let lines := if lines.getLast? == some [] then lines.dropLast else lines
  writeBlockMark s ++ lines.flatMap fun line =>
    if line.isEmpty then ['\n'] else ['\n', ' ', ' '] ++ line

/-- A text as the value of an entry. -/
def writeText (text : String) : String :=
  let s := text.toList
  String.ofList <|
    if s.any isHidden then writeDouble s
    else if s.contains '\n' then
      if hasSpaceBeforeBreak s || s.getLast? == some ' ' then writeDouble s else writeBlock s
    else if isAmbiguous s || !isPlain s then writeSingle s
    else s

/-- A list of numbers as the value of an entry, behind the colon. -/
def writeNumbers (numbers : List UInt64) : String :=
  if numbers.isEmpty then " []"
  else String.join (numbers.map fun n => "\n- " ++ toString n)

example : writeText "0.0.0.0:8080" = "'0.0.0.0:8080'" := by decide +kernel

example : writeText "si'ngle" = "si'ngle" := by decide +kernel

example : writeText "a\nb" = "|-\n  a\n  b" := by decide +kernel

end Tagboard.Yaml
