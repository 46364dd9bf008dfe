import Tagboard.Text.Split
import Tagboard.Yaml

/-!
# Reading YAML mappings

A text is cut into lines, and the lines into entries: an entry starts at the indentation of the
first line, and the deeper lines below it, the items of a list and the lines without content belong
to it. Values may be plain, in quotes of either kind, in brackets, one item a line behind hyphens,
or kept line by line behind a bar. Anything else is refused.
-/

namespace Tagboard.Yaml

open Text

/-- Whether a character separates parts of a line. -/
def isGap (c : Char) : Bool := c == ' ' || c == '\t'

/-- Whether a character may stand in a file at all. -/
def isAllowed (c : Char) : Bool :=
  let n := c.toNat
  n == 0x9 || n == 0xa || n == 0xd || (0x20 ≤ n && n ≤ 0x7e) || n == 0x85 ||
    (0xa0 ≤ n && n ≤ 0xd7ff) || (0xe000 ≤ n && n ≤ 0xfffd && n != 0xfeff) || 0x10000 ≤ n

/-- Whether a text is over, apart from gaps and a comment behind a gap. -/
def isOver (s : List Char) : Bool :=
  match s.dropWhile isGap with
  | [] => true
  | c :: _ => c == '#' && s.head?.any isGap

/-- The text without gaps at its end. -/
def trimGaps (s : List Char) : List Char := (s.reverse.dropWhile isGap).reverse

/-- The text of a scalar in single quotes behind its first quote, and what follows. -/
def singleQuoted? : List Char → Option (List Char × List Char)
  | '\'' :: '\'' :: rest => (singleQuoted? rest).map fun (text, after) => ('\'' :: text, after)
  | '\'' :: rest => some ([], rest)
  | c :: rest => (singleQuoted? rest).map fun (text, after) => (c :: text, after)
  | [] => none

/-- The character of an escape of one letter. -/
def escaped? : Char → Option Char
  | '0' => some '\x00'
  | 'a' => some '\x07'
  | 'b' => some '\x08'
  | 't' | '\t' => some '\t'
  | 'n' => some '\n'
  | 'v' => some '\x0b'
  | 'f' => some '\x0c'
  | 'r' => some '\r'
  | 'e' => some '\x1b'
  | ' ' => some ' '
  | '"' => some '"'
  | '/' => some '/'
  | '\\' => some '\\'
  | 'N' => some '\u0085'
  | '_' => some '\u00a0'
  | 'L' => some '\u2028'
  | 'P' => some '\u2029'
  | _ => none

/-- The character with a number in hexadecimal digits. -/
def numbered? (digits : List Char) : Option Char := do
  let n ← valueInBase? 16 digits
  if n.isValidChar then some (Char.ofNat n) else none

/-- Puts a character before a text that was read. -/
def withChar (c? : Option Char) (read : Option (List Char × List Char)) :
    Option (List Char × List Char) := do
  let c ← c?
  let (text, after) ← read
  return (c :: text, after)

/-- The text of a scalar in double quotes behind its first quote, and what follows. -/
def doubleQuoted? : List Char → Option (List Char × List Char)
  | '"' :: rest => some ([], rest)
  | '\\' :: 'x' :: a :: b :: rest => withChar (numbered? [a, b]) (doubleQuoted? rest)
  | '\\' :: 'u' :: a :: b :: c :: d :: rest =>
      withChar (numbered? [a, b, c, d]) (doubleQuoted? rest)
  | '\\' :: 'U' :: a :: b :: c :: d :: e :: f :: g :: h :: rest =>
      withChar (numbered? [a, b, c, d, e, f, g, h]) (doubleQuoted? rest)
  | '\\' :: c :: rest => withChar (escaped? c) (doubleQuoted? rest)
  | c :: rest => withChar (some c) (doubleQuoted? rest)
  | [] => none

/-- Whether a character has a meaning of its own at the start of a value. -/
def isIndicator (c : Char) : Bool := ",[]\x7b\x7d#&*!|>'\"%@`".toList.contains c

/-- Whether a scalar without quotes may start like a text. -/
def startsPlain : List Char → Bool
  | [] => false
  | c :: rest =>
      if ['-', '?', ':'].contains c then rest.head?.any fun next => !isGap next
      else !isGap c && !isIndicator c

/-- The text before a comment, of which `afterGap` tells whether a gap has just passed. -/
def beforeComment (afterGap : Bool) : List Char → List Char
  | [] => []
  | c :: rest => if c == '#' && afterGap then [] else c :: beforeComment (isGap c) rest

/-- The text before the first colon that a gap or the end follows, and the text behind it. -/
def cutKey? : List Char → Option (List Char × List Char)
  | [] => none
  | c :: rest =>
      if c == ':' && (rest.isEmpty || rest.head?.any isGap) then some ([], rest)
      else (cutKey? rest).map fun (key, after) => (c :: key, after)

/-- The scalar that a whole text without quotes is. -/
def plain? (s : List Char) : Option Scalar :=
  let text := trimGaps (beforeComment true s)
  if text.isEmpty then some ⟨"", true⟩
  else if startsPlain text && (cutKey? text).isNone then some ⟨String.ofList text, true⟩
  else none

/-- A scalar in quotes at the start of a text, and what follows. -/
def quotedScalar? : List Char → Option (Scalar × List Char)
  | '\'' :: rest => (singleQuoted? rest).map fun (text, after) => (⟨String.ofList text, false⟩, after)
  | '"' :: rest => (doubleQuoted? rest).map fun (text, after) => (⟨String.ofList text, false⟩, after)
  | _ => none

/-- Whether a text starts with a quote. -/
def startsQuoted (s : List Char) : Bool := s.head? == some '\'' || s.head? == some '"'

/-- Whether a character ends an item in brackets. -/
def endsItem (c : Char) : Bool := ",[]\x7b\x7d".toList.contains c

/-- An item at the start of a text in brackets, and what follows. -/
def item? (s : List Char) : Option (Scalar × List Char) :=
  if startsQuoted s then quotedScalar? s
  else
    match plain? (s.takeWhile (!endsItem ·)) with
    | some scalar =>
        if scalar.text.isEmpty then none else some (scalar, s.dropWhile (!endsItem ·))
    | none => none

/-- At most `count` items behind the first bracket, and what follows the last bracket. -/
def itemsUpTo? : Nat → List Char → Option (List Scalar × List Char)
  | 0, _ => none
  | count + 1, s =>
      match s.dropWhile isGap with
      | ']' :: rest => some ([], rest)
      | s => do
          let (item, rest) ← item? s
          match rest.dropWhile isGap with
          | ',' :: rest =>
              let (items, rest) ← itemsUpTo? count rest
              return (item :: items, rest)
          | ']' :: rest => return ([item], rest)
          | _ => none

/-- The value that a whole text is. -/
def value? (s : List Char) : Option Value :=
  match s with
  | '[' :: rest => do
      let (items, after) ← itemsUpTo? (rest.length + 1) rest
      if isOver after then some (.list items) else none
  | _ =>
      if startsQuoted s then do
        let (scalar, after) ← quotedScalar? s
        if isOver after then some (.scalar scalar) else none
      else (plain? s).map .scalar

/-- A line: the number of spaces before its text, and its text. -/
structure Line where
  indent : Nat
  text : List Char

namespace Line

/-- The line of a text. -/
def ofText (s : List Char) : Line := ⟨(s.takeWhile (· == ' ')).length, s.dropWhile (· == ' ')⟩

/-- Whether a line has no content. -/
def isVoid (l : Line) : Bool :=
  match l.text.dropWhile isGap with
  | [] => true
  | c :: _ => c == '#'

/-- Whether a line is an item of a list. -/
def isItem (l : Line) : Bool :=
  match l.text with
  | '-' :: rest => rest.isEmpty || rest.head?.any isGap
  | _ => false

/-- Whether a line belongs to the entry above it. -/
def belongs (depth : Nat) (l : Line) : Bool :=
  l.isVoid || depth < l.indent || (l.indent == depth && l.isItem)

/-- The value of an item at an indentation. -/
def item? (depth : Nat) (l : Line) : Option Scalar :=
  if l.indent == depth && l.isItem then
    match value? ((l.text.drop 1).dropWhile isGap) with
    | some (.scalar scalar) => some scalar
    | _ => none
  else none

end Line

/-- The lines before the first entry, and the first line of each entry with those that belong to it. -/
def groups (depth : Nat) : List Line → List Line × List (Line × List Line)
  | [] => ([], [])
  | line :: rest =>
      let (pending, found) := groups depth rest
      if line.belongs depth then (line :: pending, found) else ([], (line, pending) :: found)

/-- The texts of lines behind a text, with a space before each. -/
def unfold (s : List Char) (lines : List Line) : List Char :=
  lines.foldl (fun text line => text ++ ' ' :: trimGaps line.text) (trimGaps s)

/-- What happens to the line ends at the end of a text that is kept line by line. -/
inductive Chomping where
  | strip
  | clip
  | keep

/-- The mark of a text that is kept line by line: the extra indentation, if given, and the end. -/
def blockMark? : List Char → Option (Option Nat × Chomping)
  | [] => some (none, .clip)
  | ['-'] => some (none, .strip)
  | ['+'] => some (none, .keep)
  | [d] => if isDigit d && d != '0' then some (some (d.toNat - 48), .clip) else none
  | ['-', d] | [d, '-'] =>
      if isDigit d && d != '0' then some (some (d.toNat - 48), .strip) else none
  | ['+', d] | [d, '+'] =>
      if isDigit d && d != '0' then some (some (d.toNat - 48), .keep) else none
  | _ => none

/-- The text of lines, each with its end, after the ends of the last lines are chomped. -/
def chomp (chomping : Chomping) (lines : List (List Char)) : List Char :=
  let text := lines.flatMap (· ++ ['\n'])
  let stripped := (text.reverse.dropWhile (· == '\n')).reverse
  match chomping with
  | .strip => stripped
  | .clip => if stripped.isEmpty then [] else stripped ++ ['\n']
  | .keep => text

/-- A text that is kept line by line, given its mark. -/
def block? (depth : Nat) (mark : List Char) (lines : List Line) : Option Value := do
  let (extra?, chomping) ← blockMark? (trimGaps (beforeComment true mark))
  let margin := match extra? with
    | some extra => depth + extra
    | none => ((lines.find? (!·.text.isEmpty)).map Line.indent).getD 0
  let isInside := fun (line : Line) => line.text.isEmpty || (margin ≤ line.indent && depth < margin)
  if !(lines.dropWhile isInside).all Line.isVoid then none
  let texts := (lines.takeWhile isInside).map fun line =>
    List.replicate (line.indent - margin) ' ' ++ line.text
  return .scalar ⟨String.ofList (chomp chomping texts), false⟩

/-- The value of an entry, given the text behind the colon and the lines that belong to it. -/
def entryValue? (depth : Nat) (head : List Char) (lines : List Line) : Option Value :=
  match head with
  | '|' :: mark => block? depth mark lines
  | _ =>
      let lines := lines.filter (!·.isVoid)
      if head.isEmpty || head.head? == some '#' then
        match lines with
        | [] => some (.scalar ⟨"", true⟩)
        | first :: rest =>
            if first.isItem then (lines.mapM (Line.item? first.indent)).map .list
            else if lines.all (depth < ·.indent) then value? (unfold first.text rest)
            else none
      else if lines.all (depth < ·.indent) then value? (unfold head lines)
      else none

/-- The key at the start of a text, and what follows the colon behind it. -/
def key? (s : List Char) : Option (String × List Char) :=
  if startsQuoted s then do
    let (scalar, after) ← quotedScalar? s
    match after.dropWhile isGap with
    | ':' :: rest => if rest.isEmpty || rest.head?.any isGap then some (scalar.text, rest) else none
    | _ => none
  else do
    let (key, rest) ← cutKey? s
    let scalar ← plain? key
    if startsPlain s then some (scalar.text, rest) else none

/-- An entry, given its first line and the lines that belong to it. -/
def entryOf? (depth : Nat) (group : Line × List Line) : Option (String × Value) := do
  if group.1.indent != depth then none
  let (key, rest) ← key? group.1.text
  let value ← entryValue? depth (rest.dropWhile isGap) group.2
  return (key, value)

/-- Writes every line end as one line feed. -/
def unifyLineEnds : List Char → List Char
  | '\r' :: '\n' :: rest => '\n' :: unifyLineEnds rest
  | '\r' :: rest => '\n' :: unifyLineEnds rest
  | c :: rest => c :: unifyLineEnds rest
  | [] => []

/-- The lines of a text. -/
def linesOf (s : List Char) : List Line :=
  let pieces := split (· == '\n') (unifyLineEnds s)
  (if pieces.getLast? == some [] then pieces.dropLast else pieces).map Line.ofText

/-- The lines from the first one with content, behind the mark of a document. -/
def content (lines : List Line) : List Line :=
  match lines.dropWhile Line.isVoid with
  | [] => []
  | first :: rest =>
      if first.indent == 0 && trimGaps first.text == ['-', '-', '-'] then rest.dropWhile Line.isVoid
      else first :: rest

/-- The mapping of a text; a text without content is a mapping without entries. -/
def read? (s : String) : Option Mapping :=
  let chars := match s.toList with | '\ufeff' :: rest => rest | chars => chars
  if !chars.all isAllowed then none
  else
    match content (linesOf chars) with
    | [] => some []
    | first :: rest =>
        match groups first.indent (first :: rest) with
        | ([], found) => found.mapM (entryOf? first.indent)
        | _ => none

example : read? "a: 1 # one\nb:\n- 'x'\n" =
    some [("a", .scalar ⟨"1", true⟩), ("b", .list [⟨"x", false⟩])] := by decide +kernel

example : read? "a: [1, 2]\n" = some [("a", .list [⟨"1", true⟩, ⟨"2", true⟩])] := by decide +kernel

example : read? "a: [\n" = none := by decide +kernel

end Tagboard.Yaml
