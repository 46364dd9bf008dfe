import Tagboard.Text.Numeral
import Tagboard.Text.Split
import Tagboard.Text.Utf8

/-!
# Percent-encoding

Bytes written as `%` and two hexadecimal digits, and the encoding of form fields that is built on
it: fields between ampersands, a name and a value around the first equals sign, and a plus sign for
a space.
-/

namespace Tagboard.Percent

open Text

/-- The byte of two hexadecimal digits. -/
def byte? (high low : UInt8) : Option UInt8 := do
  let h ← hexDigit? (Char.ofNat high.toNat)
  let l ← hexDigit? (Char.ofNat low.toNat)
  some (UInt8.ofNat (16 * h + l))

/-- Replaces each percent sign with two digits by its byte; any other percent sign stays. -/
def decode : List UInt8 → List UInt8
  | first :: high :: low :: rest =>
      match if first == 0x25 then byte? high low else none with
      | some byte => byte :: decode rest
      | none => first :: decode (high :: low :: rest)
  | rest => rest

/-- The text of the encoded name or value of a form field. -/
def fieldText (s : List Char) : String :=
  let bytes := Utf8.encode (s.map fun c => if c == '+' then ' ' else c)
  String.ofList (Utf8.decode (decode bytes))

/-- The name and value of one encoded form field. -/
def field (s : List Char) : String × String :=
  match cut? (· == '=') s with
  | some (name, value) => (fieldText name, fieldText value)
  | none => (fieldText s, "")

/-- The fields of an encoded form, in order; nothing between two ampersands is no field. -/
def formFields (s : List Char) : List (String × String) :=
  ((split (· == '&') s).filter fun part => !part.isEmpty).map field

end Tagboard.Percent
