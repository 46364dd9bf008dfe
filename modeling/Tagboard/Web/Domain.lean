import Tagboard.Text.Split
import Tagboard.Web.Domain.Normal
import Tagboard.Web.Domain.Property
import Tagboard.Web.Punycode

/-!
# Domain names

The labels of an international domain name. The characters of the name are mapped and composed, the
name is cut at its dots, labels in Punycode are read, and each label must then be well formed.
-/

namespace Tagboard.Domain

open Text

/-- Whether a character is outside ASCII. -/
def isWide (c : Char) : Bool := 0x80 ≤ c.toNat

/-- The ASCII characters that no domain name may hold. -/
def isForbidden (c : Char) : Bool :=
  c.toNat ≤ 0x20 || c.toNat == 0x7f ||
    ['%', '#', '/', ':', '<', '>', '?', '@', '[', '\\', ']', '^', '|'].contains c

/-- The start of a label in Punycode. -/
def punycodeMark : List Char := ['x', 'n', '-', '-']

/-- Whether a character remains as it is when names are mapped. -/
def isKept (c : Char) : Bool := mapChar? c == some [c]

/-- The label that a label in Punycode stands for, if that label could not be written otherwise. -/
def decodeLabel? (label : List Char) : Option (List Char) :=
  if label.any isWide then none
  else
    match Punycode.decode? (label.drop punycodeMark.length) with
    | none => none
    | some decoded =>
        if decoded.any isWide && decoded.all isKept && normalize decoded == decoded &&
            !punycodeMark.isPrefixOf decoded then some decoded
        else none

/-- A label with Punycode read. -/
def readLabel? (label : List Char) : Option (List Char) :=
  if punycodeMark.isPrefixOf label then decodeLabel? label else some label

/-- Whether a character is a sign that suppresses the vowel of the letter before it. -/
def isVirama (c : Char) : Bool := combiningClass c.toNat == 9

/-- Whether the next character that joining does not pass over is in one of two classes. -/
def joins (one other : List CodeRange) (s : List Char) : Bool :=
  (s.dropWhile (inRanges joinTransparentRanges)).head?.any fun c =>
    inRanges one c || inRanges other c

/--
Whether the invisible joiners of a label stand where they make a difference: both may follow a
virama, and the one that keeps letters apart may stand between letters that would join.
-/
def joinersFit (before : List Char) : List Char → Bool
  | [] => true
  | c :: rest =>
      let afterVirama := before.head?.any isVirama
      (if c == '\u200d' then afterVirama
        else if c == '\u200c' then
          afterVirama ||
            (joins joinsLeftRanges joinsBothRanges before &&
              joins joinsRightRanges joinsBothRanges rest)
        else true) && joinersFit (c :: before) rest

/-- Whether a label starts with no mark and its joiners fit. -/
def isLabel (label : List Char) : Bool := !label.head?.any isMark && joinersFit [] label

/-- Whether a character is written from right to left. -/
def isRightToLeft (c : Char) : Bool :=
  match direction c with
  | .right | .arabicLetter | .arabicNumber => true
  | _ => false

/-- The directions that labels of either direction of writing may hold. -/
def sharedDirections : List Direction :=
  [.europeanNumber, .europeanSeparator, .europeanTerminator, .commonSeparator, .boundary, .attached,
    .neutral]

/-- Whether a label keeps one direction of writing. -/
def hasOneDirection (label : List Char) : Bool :=
  let directions := label.map direction
  let last := (directions.reverse.dropWhile (· == .attached)).head?
  match directions with
  | [] => true
  | .left :: _ =>
      directions.all ((Direction.left :: sharedDirections).contains ·) &&
        last.any ([Direction.left, .europeanNumber].contains ·)
  | .right :: _ | .arabicLetter :: _ =>
      directions.all (([Direction.right, .arabicLetter, .arabicNumber] ++ sharedDirections).contains ·) &&
        last.any ([Direction.right, .arabicLetter, .europeanNumber, .arabicNumber].contains ·) &&
        !(directions.contains .europeanNumber && directions.contains .arabicNumber)
  | _ => false

/-- Whether every label keeps one direction of writing, which matters once any is right to left. -/
def directionsFit (labels : List (List Char)) : Bool :=
  !labels.any (·.any isRightToLeft) || labels.all hasOneDirection

/-- The labels of a domain name, or `none` where it is not well formed. -/
def labels? (name : List Char) : Option (List (List Char)) := do
  let mapped ← name.mapM mapChar?
  let labels ← (split (· == '.') (normalize mapped.flatten)).mapM readLabel?
  if labels.all (fun label => isLabel label && !label.any isForbidden) && directionsFit labels then
    some labels
  else none

end Tagboard.Domain
