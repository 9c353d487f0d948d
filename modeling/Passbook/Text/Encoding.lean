import Passbook.Text.Digit

/-!
Text as bytes, and text with bytes escaped behind a percent sign. `decode` reads bytes as text; every
longest part that cannot go on to a character becomes one replacement mark. `unescape` replaces escapes
and then reads the bytes, so several escapes may make one character.
-/

set_option autoImplicit false
set_option relaxedAutoImplicit false

namespace Passbook.Text

/-- The mark that stands for bytes that are no character. -/
def replacement : Char := '\uFFFD'

/-- How many bytes follow the first byte of a character, and the bounds of the first of them. -/
def following? (first : Nat) : Option (Nat × Nat × Nat) :=
  if 0xC2 ≤ first ∧ first ≤ 0xDF then some (1, 0x80, 0xBF)
  else if first = 0xE0 then some (2, 0xA0, 0xBF)
  else if first = 0xED then some (2, 0x80, 0x9F)
  else if 0xE1 ≤ first ∧ first ≤ 0xEF then some (2, 0x80, 0xBF)
  else if first = 0xF0 then some (3, 0x90, 0xBF)
  else if 0xF1 ≤ first ∧ first ≤ 0xF3 then some (3, 0x80, 0xBF)
  else if first = 0xF4 then some (3, 0x80, 0x8F)
  else none

/-- The bits that the first byte of a character contributes. -/
def leadingBits (first count : Nat) : Nat :=
  if count = 1 then first % 0x20 else if count = 2 then first % 0x10 else first % 0x08

/-- A character that has begun: how many bytes are missing, the bounds of the next, and the bits so
far. -/
structure Begun where
  missing : Nat
  low : Nat
  high : Nat
  bits : Nat
deriving DecidableEq, Repr

/-- What a first byte makes. -/
def beginWith (byte : Nat) : List Char × Option Begun :=
  if byte < 0x80 then ([Char.ofNat byte], none)
  else match following? byte with
    | some (count, low, high) => ([], some ⟨count, low, high, leadingBits byte count⟩)
    | none => ([replacement], none)

/-- Bytes read as text, behind what has begun. -/
def decodeFrom : Option Begun → List Nat → List Char
  | none, [] => []
  | some _, [] => [replacement]
  | none, byte :: rest =>
    let (chars, begun) := beginWith byte
    chars ++ decodeFrom begun rest
  | some begun, byte :: rest =>
    if begun.low ≤ byte ∧ byte ≤ begun.high then
      let bits := begun.bits * 0x40 + byte % 0x40
      if begun.missing = 1 then Char.ofNat bits :: decodeFrom none rest
      else decodeFrom (some ⟨begun.missing - 1, 0x80, 0xBF, bits⟩) rest
    else
      let (chars, begun) := beginWith byte
      replacement :: chars ++ decodeFrom begun rest

/-- Bytes read as text. -/
def decode (bytes : List Nat) : String := String.ofList (decodeFrom none bytes)

/-- The value of a digit in base sixteen. -/
def hexadecimalDigit? (c : Char) : Option Nat :=
  if '0' ≤ c ∧ c ≤ '9' then some (c.toNat - '0'.toNat)
  else if 'a' ≤ c ∧ c ≤ 'f' then some (c.toNat - 'a'.toNat + 10)
  else if 'A' ≤ c ∧ c ≤ 'F' then some (c.toNat - 'A'.toNat + 10)
  else none

/-- The bytes of a text. -/
def bytes (text : String) : List Nat := text.toUTF8.toList.map UInt8.toNat

/-- The bytes of a character. -/
def bytesOf (c : Char) : List Nat := bytes (String.singleton c)

/-- The bytes of a text with escapes; a percent sign that begins none stands for itself. -/
def unescapedBytes : List Char → List Nat
  | [] => []
  | '%' :: first :: second :: rest =>
    match hexadecimalDigit? first, hexadecimalDigit? second with
    | some high, some low => (high * 16 + low) :: unescapedBytes rest
    | _, _ => bytesOf '%' ++ unescapedBytes (first :: second :: rest)
  | c :: rest => bytesOf c ++ unescapedBytes rest

/-- A text with its escapes replaced. -/
def unescape (text : String) : String := decode (unescapedBytes text.toList)

end Passbook.Text
