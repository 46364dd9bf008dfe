import Tagboard.Text.Numeral
import Tagboard.Text.Split

/-!
# Numeric addresses of hosts

The two notations for the address of a host in numbers: up to four numbers between dots, each in
base 8, 10 or 16, and eight groups of hexadecimal digits between colons.
-/

namespace Tagboard

open Text

namespace NetworkAddress

/-- The value of one number of an address; its start tells the base. -/
def number? : List Char → Option Nat
  | [] => none
  | '0' :: 'x' :: digits | '0' :: 'X' :: digits => valueInBase? 16 digits
  | ['0'] => some 0
  | '0' :: digits => valueInBase? 8 digits
  | digits => valueInBase? 10 digits

/-- The parts of an address without an empty part at its end. -/
def withoutEmptyEnd (parts : List (List Char)) : List (List Char) :=
  if parts.getLast? == some [] then parts.dropLast else parts

/-- Whether the last part of a host's name makes it an address in numbers. -/
def endsInNumber (parts : List (List Char)) : Bool :=
  match (withoutEmptyEnd parts).getLast? with
  | none => false
  | some last =>
      (!last.isEmpty && last.all fun c => '0' ≤ c && c ≤ '9') || (number? last).isSome

/-- Whether parts form an address: the last number fills the bytes that the others leave. -/
def isDotted (parts : List (List Char)) : Bool :=
  let parts := withoutEmptyEnd parts
  match (parts.mapM number?).map List.reverse with
  | some (last :: others) =>
      parts.length ≤ 4 && last < Nat.pow 256 (4 - others.length) && others.all (· ≤ 255)
  | _ => false

/-- Whether a text is a number of one byte without leading zeros. -/
def isOctet (s : List Char) : Bool :=
  match valueInBase? 10 s with
  | some value => value ≤ 255 && !s.isEmpty && (s.head? != some '0' || s == ['0'])
  | none => false

/-- Whether a text is four numbers of one byte between dots. -/
def isQuad (s : List Char) : Bool :=
  let parts := split (· == '.') s
  parts.length == 4 && parts.all isOctet

/-- Whether a text is one to four hexadecimal digits. -/
def isGroup (s : List Char) : Bool :=
  !s.isEmpty && s.length ≤ 4 && s.all fun c => (hexDigit? c).isSome

/--
Whether pieces between colons complete an address of which `count` groups have passed. One empty
piece may stand for any number of groups, and the last two groups may be four numbers.
-/
def isGroups (count : Nat) (compressed : Bool) : List (List Char) → Bool
  | [] => compressed || count == 8
  | [[]] => compressed || count == 8
  | piece :: rest =>
      count != 8 &&
        (if piece.isEmpty then !compressed && isGroups (count + 1) true rest
          else if isGroup piece then
            rest != [[]] && isGroups (count + 1) compressed rest
          else rest.isEmpty && count ≤ 6 && isQuad piece && (compressed || count == 6))

/-- Whether a text is an address in groups. -/
def isGrouped (s : List Char) : Bool :=
  2 ≤ s.length &&
    match split (· == ':') s with
    | [] :: [] :: rest => isGroups 1 true rest
    | [] :: _ => false
    | pieces => isGroups 0 false pieces

example : isGrouped "1:2:3:4:5:6:1.2.3.4".toList = true := by decide +kernel

example : isGrouped "1::2::3".toList = false := by decide +kernel

end NetworkAddress

end Tagboard
