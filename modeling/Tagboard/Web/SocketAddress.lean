import Tagboard.Text.Numeral
import Tagboard.Web.NetworkAddress

/-!
# Socket addresses

A numeric address and a port, between which there is a colon. An address in groups stands in
brackets and may name a zone by its number.
-/

namespace Tagboard.NetworkAddress

open Text

/-- Whether a text is a port. -/
def isPort (s : List Char) : Bool := (natOfNumeral? s).any (· < UInt16.size)

/-- Whether a text is an address in groups, perhaps with the number of a zone behind `%`. -/
def isZoned (s : List Char) : Bool :=
  match cut? (· == '%') s with
  | some (address, zone) => isGrouped address && (natOfNumeral? zone).any (· < UInt32.size)
  | none => isGrouped s

/-- Whether a text is a socket address. -/
def isSocketAddress : List Char → Bool
  | '[' :: rest =>
      match cut? (· == ']') rest with
      | some (address, ':' :: port) => isZoned address && isPort port
      | _ => false
  | s =>
      match cut? (· == ':') s with
      | some (address, port) => isQuad address && isPort port
      | none => false

example : isSocketAddress "0.0.0.0:8080".toList = true := by decide +kernel

example : isSocketAddress "[::1]:9".toList = true := by decide +kernel

example : isSocketAddress "01.0.0.1:80".toList = false := by decide +kernel

end Tagboard.NetworkAddress
