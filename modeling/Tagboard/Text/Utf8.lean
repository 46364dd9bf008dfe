/-!
# Bytes as text

UTF-8 with a place for damaged bytes: decoding never fails, and each damaged stretch shows as the
replacement character. A stretch ends where its bytes can no longer begin a character.
-/

namespace Tagboard.Text.Utf8

/-- A character of which some bytes have been read. -/
structure Pending where
  /-- The bits of the character so far. -/
  code : Nat
  /-- How many bytes are still to come. -/
  missing : Nat
  /-- The least byte that may come next. -/
  low : Nat
  /-- The greatest byte that may come next. -/
  high : Nat

/-- The character that stands for damaged bytes. -/
def replacement : Char := '\ufffd'

/-- What a byte begins: a whole character, a character with bytes to come, or damage. -/
def start (byte : Nat) : List Char × Option Pending :=
  if byte < 0x80 then ([Char.ofNat byte], none)
  else if 0xc2 ≤ byte && byte ≤ 0xdf then ([], some ⟨byte - 0xc0, 1, 0x80, 0xbf⟩)
  else if 0xe0 ≤ byte && byte ≤ 0xef then
    let low := if byte == 0xe0 then 0xa0 else 0x80
    let high := if byte == 0xed then 0x9f else 0xbf
    ([], some ⟨byte - 0xe0, 2, low, high⟩)
  else if 0xf0 ≤ byte && byte ≤ 0xf4 then
    let low := if byte == 0xf0 then 0x90 else 0x80
    let high := if byte == 0xf4 then 0x8f else 0xbf
    ([], some ⟨byte - 0xf0, 3, low, high⟩)
  else ([replacement], none)

/-- Reads one byte: the characters that it completes, and what is pending after it. -/
def step (pending : Option Pending) (byte : Nat) : List Char × Option Pending :=
  match pending with
  | none => start byte
  | some p =>
      if p.low ≤ byte && byte ≤ p.high then
        let code := 64 * p.code + (byte - 0x80)
        if p.missing ≤ 1 then ([Char.ofNat code], none)
        else ([], some ⟨code, p.missing - 1, 0x80, 0xbf⟩)
      else
        let (characters, after) := start byte
        (replacement :: characters, after)

/-- Decodes bytes after what is pending. -/
def decodeFrom (pending : Option Pending) : List UInt8 → List Char
  | [] => if pending.isSome then [replacement] else []
  | byte :: rest =>
      let (characters, after) := step pending byte.toNat
      characters ++ decodeFrom after rest

/-- Decodes bytes, with the replacement character for each damaged stretch. -/
def decode (bytes : List UInt8) : List Char := decodeFrom none bytes

/-- The bytes of a text. -/
def encode (s : List Char) : List UInt8 := s.flatMap String.utf8EncodeChar

/-- The text of undamaged bytes. -/
def decode? (bytes : List UInt8) : Option String := String.fromUTF8? ⟨bytes.toArray⟩

example : decode [0x61, 0xc3, 0xa9, 0xe2, 0x82, 0x62] = ['a', 'é', replacement, 'b'] := by
  decide +kernel

end Tagboard.Text.Utf8
