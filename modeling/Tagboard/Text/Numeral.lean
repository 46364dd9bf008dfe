/-!
# Numerals

Reading and writing integers, mostly in base ten. A numeral is a run of the digits `0` to `9`;
leading zeros are allowed and other digits of Unicode are not.
-/

namespace Tagboard.Text

/-- Whether a character is one of the digits `0` to `9`. -/
def isDigit (c : Char) : Bool := 48 ≤ c.toNat && c.toNat ≤ 57

/-- The number that a run of digits denotes, read after the number `start`. -/
def digitsValue (start : Nat) : List Char → Nat
  | [] => start
  | c :: rest => digitsValue (10 * start + (c.toNat - 48)) rest

/-- The value of a numeral, or `none` where the text is empty or has another character. -/
def natOfNumeral? (s : List Char) : Option Nat :=
  if s.isEmpty || !s.all isDigit then none else some (digitsValue 0 s)

/-- Reads a numeral of 64 bits without sign; a plus sign in front is allowed. -/
def readUInt64? (s : List Char) : Option UInt64 := do
  let value ← natOfNumeral? (match s with | '+' :: rest => rest | _ => s)
  if value < UInt64.size then some (UInt64.ofNat value) else none

/-- Reads a numeral of 64 bits in two's complement; a sign in front is allowed. -/
def readInt64? (s : List Char) : Option Int64 := do
  let (negative, digits) := match s with
    | '-' :: rest => (true, rest)
    | '+' :: rest => (false, rest)
    | _ => (false, s)
  let magnitude ← natOfNumeral? digits
  let value : Int := if negative then -(magnitude : Int) else magnitude
  if Int64.minValue.toInt ≤ value ∧ value ≤ Int64.maxValue.toInt then some (Int64.ofInt value)
  else none

/-- The value of a hexadecimal digit of either case. -/
def hexDigit? (c : Char) : Option Nat :=
  if isDigit c then some (c.toNat - 48)
  else if 'a' ≤ c && c ≤ 'f' then some (c.toNat - 87)
  else if 'A' ≤ c && c ≤ 'F' then some (c.toNat - 55)
  else none

/-- The value of digits in a base of at most 16, or `none` where one is no digit of it. -/
def valueInBase? (base : Nat) (digits : List Char) : Option Nat :=
  digits.foldlM (fun value c => do
    let digit ← hexDigit? c
    if digit < base then some (base * value + digit) else none) 0

/-- The decimal numeral of a number. -/
def numeral (n : Nat) : List Char := Nat.toDigits 10 n

/-- The decimal numeral of an integer, with a minus sign where it is negative. -/
def signedNumeral (i : Int) : List Char :=
  if i < 0 then '-' :: numeral i.natAbs else numeral i.natAbs

/-- The lower-case hexadecimal numeral of a number. -/
def hexNumeral (n : Nat) : List Char := Nat.toDigits 16 n

example : readUInt64? "18446744073709551615".toList = some 18446744073709551615 := by decide +kernel

example : readUInt64? "18446744073709551616".toList = none := by decide +kernel

example : readInt64? "-9223372036854775808".toList = some (-9223372036854775808) := by decide +kernel

end Tagboard.Text
