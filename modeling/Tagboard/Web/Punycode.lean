/-!
# Punycode

The form in which a label of a domain name with other than ASCII characters is written in ASCII: the
ASCII characters of the label, a hyphen, and then a sequence of numbers, each saying how far the
next character lies behind the last one and where it stands.
-/

namespace Tagboard.Punycode

/-- The value of a digit of a number in base 36. -/
def digit? (c : Char) : Option Nat :=
  if 'a' ≤ c && c ≤ 'z' then some (c.toNat - 97)
  else if '0' ≤ c && c ≤ '9' then some (c.toNat - 22)
  else none

/-- The value below which a digit at a position is the last of its number. -/
def threshold (position bias : Nat) : Nat :=
  if position ≤ bias then 1 else if bias + 26 ≤ position then 26 else position - bias

/-- Divides by 35 until the value is small, and counts the divisions by 36. -/
def shrink (delta count : Nat) : Nat × Nat :=
  if 455 < delta then shrink (delta / 35) (count + 36) else (delta, count)
termination_by delta

/-- The bias after a number, which depends on the number and on how many characters there are. -/
def adapt (delta size : Nat) (isFirst : Bool) : Nat :=
  let scaled := if isFirst then delta / 700 else delta / 2
  let (small, count) := shrink (scaled + scaled / size) 0
  count + 36 * small / (small + 38)

/-- The state of reading the numbers of a label. -/
structure Reading where
  /-- The characters so far. -/
  characters : List Char
  /-- The last character that was put in, as a number. -/
  code : Nat
  /-- Where the last character was put in, plus one. -/
  place : Nat
  bias : Nat
  /-- What the digits of the present number add up to. -/
  sum : Nat
  /-- The weight of the next digit. -/
  weight : Nat
  /-- The position of the next digit in its number, times 36. -/
  position : Nat

/-- Puts in the character of a number that has been read, if it is one. -/
def Reading.finish? (r : Reading) (sum : Nat) : Option Reading :=
  let size := r.characters.length + 1
  let total := r.place + sum
  let code := r.code + total / size
  let place := total % size
  if code.isValidChar then
    some
      { characters := r.characters.insertIdx place (Char.ofNat code)
        code, place := place + 1, bias := adapt sum size (r.place == 0)
        sum := 0, weight := 1, position := 36 }
  else none

/-- Reads one digit. -/
def Reading.digit? (r : Reading) (c : Char) : Option Reading := do
  let value ← Punycode.digit? c
  let sum := r.sum + value * r.weight
  let limit := threshold r.position r.bias
  if value < limit then r.finish? sum
  else some { r with sum, weight := r.weight * (36 - limit), position := r.position + 36 }

/-- The ASCII characters before the last hyphen and the digits after it. -/
def parts (s : List Char) : List Char × List Char :=
  let digits := (s.reverse.takeWhile (· != '-')).reverse
  let before := s.take (s.length - digits.length - 1)
  if before.isEmpty then ([], s) else (before, digits)

/-- The label that is written in a text of lower-case ASCII characters. -/
def decode? (s : List Char) : Option (List Char) := do
  let (basic, digits) := parts s
  let r ← digits.foldlM Reading.digit? ⟨basic, 0x80, 0, 72, 0, 1, 36⟩
  if r.position == 36 then some r.characters else none

end Tagboard.Punycode
