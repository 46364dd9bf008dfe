import Tagboard.Category
import Tagboard.Text.Blank
import Tagboard.Text.Quoted
import Tagboard.Text.Word
import Tagboard.Web.Address

/-!
# Arguments of tokens

Each category takes one kind of argument, and each kind has a rule. A rule looks at the argument
without its wildcards and names the first fault that it finds.
-/

namespace Tagboard

open Text

/-- Why a category refuses an argument. -/
inductive ArgumentFault where
  | empty
  | tooLong (limit : Nat)
  | invalidCharacter (c : Char)
  | wildcardNotAllowed
  | notUnsigned
  | notSigned
  | invalidAddress (fault : AddressFault)
  | invalidMimetype
deriving DecidableEq, Repr

/-- The description of a fault. -/
def ArgumentFault.message : ArgumentFault → String
  | empty => "value cannot be empty"
  | tooLong limit => "value cannot exceed " ++ toString limit ++ " characters"
  | invalidCharacter c => "value contains an invalid character " ++ quotedChar c
  | wildcardNotAllowed => "wildcards are not allowed here"
  | notUnsigned => "expected a non-negative integer"
  | notSigned => "expected an integer"
  | invalidAddress fault => "expected an http(s) url: " ++ fault.message
  | invalidMimetype => "expected a mimetype like \"image/png\""

namespace Argument

/-- The greatest length of the name of a tag. -/
def maxTagName : Nat := 100

/-- The greatest length of the name of a user. -/
def maxUsername : Nat := 150

/-- Whether a character is a control character. -/
def isControl (c : Char) : Bool := c.toNat < 0x20 || (0x7f ≤ c.toNat && c.toNat < 0xa0)

/-- Whether a character may stand in the name of a tag. -/
def isTagNameChar (c : Char) : Bool :=
  !(isBlank c || isControl c || c == '*' || Relation.isSymbol c)

/-- Whether a character may stand in the name of a user. -/
def isUsernameChar (c : Char) : Bool := isWord c || ['.', '@', '+', '-'].contains c

/-- Whether a character may stand in the label of a rating. -/
def isLabelChar (c : Char) : Bool := c.isAlpha || c == '_'

/-- Whether a character may stand in part of an address. -/
def isAddressChar (c : Char) : Bool :=
  c.isAlphanum || "-._~:/?#[]@!$&'()+,;%".toList.contains c

/-- Whether a character may stand behind the slash of a MIME type. -/
def isSubtypeChar (c : Char) : Bool := c.isLower || c.isDigit || c == '.' || c == '-'

/-- Whether a text is not empty and of characters that satisfy a test. -/
def isRun (test : Char → Bool) (s : List Char) : Bool := !s.isEmpty && s.all test

/-- Whether a text has the form of a MIME type: a type, a slash, a subtype and perhaps a suffix. -/
def isMimetype (s : List Char) : Bool :=
  match cut? (· == '/') s with
  | none => false
  | some (type, rest) =>
      isRun Char.isLower type &&
        match cut? (· == '+') rest with
        | none => isRun isSubtypeChar rest
        | some (subtype, suffix) => isRun isSubtypeChar subtype && isRun isSubtypeChar suffix

/-- Refuses the empty text. -/
def checkNonempty (s : List Char) : Except ArgumentFault Unit :=
  if s.isEmpty then .error .empty else .ok ()

/-- Refuses a text longer than the limit. -/
def checkLength (limit : Nat) (s : List Char) : Except ArgumentFault Unit :=
  if limit < s.length then .error (.tooLong limit) else .ok ()

/-- Refuses the first character that does not satisfy the test. -/
def checkCharacters (test : Char → Bool) (s : List Char) : Except ArgumentFault Unit :=
  match s.find? fun c => !test c with
  | some c => .error (.invalidCharacter c)
  | none => .ok ()

/-- The rule of each kind of argument. -/
def check (kind : ArgumentKind) (s : List Char) : Except ArgumentFault Unit :=
  match kind with
  | .tagName => do
      checkNonempty s
      checkLength maxTagName s
      checkCharacters isTagNameChar s
  | .unsigned =>
      if s.all isDigit && (readUInt64? s).isSome then .ok () else .error .notUnsigned
  | .signed =>
      if s.head? != some '+' && (readInt64? s).isSome then .ok () else .error .notSigned
  | .username => do
      checkNonempty s
      checkLength maxUsername s
      checkCharacters isUsernameChar s
  | .ratingLabel => do
      checkNonempty s
      checkCharacters isLabelChar s
  | .address => do
      checkNonempty s
      match Address.checkPage s with
      | .ok () => .ok ()
      | .error fault => .error (.invalidAddress fault)
  | .addressPart => do
      checkNonempty s
      checkCharacters isAddressChar s
  | .mimetype => if isMimetype s then .ok () else .error .invalidMimetype

end Argument

end Tagboard
