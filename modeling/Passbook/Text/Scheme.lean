import Passbook.Text.Encoding

/-!
Encoding schemes: characters in one to four bytes, in pairs of bytes or in fours, with either end first.
`Scheme.ofStart` tells from the zeros among the first bytes which scheme a text has whose first character
is a plain one, and `Scheme.decode?` reads bytes in a scheme. Two units of sixteen bits may be the halves
of one character; a half without its other becomes a replacement mark.
-/

set_option autoImplicit false
set_option relaxedAutoImplicit false

namespace Passbook.Text

/-- Whether a unit of sixteen bits is the first half of a character. -/
def isHighHalf (unit : Nat) : Bool := 0xD800 ≤ unit && unit < 0xDC00

/-- Whether a unit of sixteen bits is the second half of a character. -/
def isLowHalf (unit : Nat) : Bool := 0xDC00 ≤ unit && unit < 0xE000

/-- The number of the character that two halves make. -/
def joinHalves (high low : Nat) : Nat := 0x10000 + (high - 0xD800) * 0x400 + (low - 0xDC00)

/-- Which end of a number comes first. -/
inductive ByteOrder where
  | highFirst
  | lowFirst
deriving DecidableEq, Repr

/-- The number that two parts make, each of which is below a base. -/
def ByteOrder.join (order : ByteOrder) (base first second : Nat) : Nat :=
  match order with
  | .highFirst => first * base + second
  | .lowFirst => second * base + first

/-- How characters are laid out in bytes. -/
inductive Scheme where
  /-- One to four bytes for each character; a mark of byte order may stand in front. -/
  | bytes
  /-- One or two units of two bytes for each character. -/
  | pairs (order : ByteOrder)
  /-- Four bytes for each character. -/
  | fours (order : ByteOrder)
deriving DecidableEq, Repr

namespace Scheme

/-- The scheme of a text, by the zeros among its first bytes. -/
def ofStart : List Nat → Scheme
  | [first, second] =>
    if first = 0 then .pairs .highFirst
    else if second = 0 then .pairs .lowFirst
    else .bytes
  | first :: second :: third :: fourth :: _ =>
    if first = 0 then (if second = 0 then .fours .highFirst else .pairs .highFirst)
    else if second = 0 then
      (if third = 0 ∧ fourth = 0 then .fours .lowFirst else .pairs .lowFirst)
    else .bytes
  | _ => .bytes

/-- Numbers joined two by two; none if one is left over. -/
def joined? (order : ByteOrder) (base : Nat) : List Nat → Option (List Nat)
  | [] => some []
  | [_] => none
  | first :: second :: rest => (joined? order base rest).map (order.join base first second :: ·)

/-- The character of a number; a half of one becomes a replacement mark. -/
def character (number : Nat) : Char :=
  if isHighHalf number || isLowHalf number then replacement else Char.ofNat number

/-- The characters of units of sixteen bits. -/
def ofUnits : List Nat → List Char
  | [] => []
  | [unit] => [character unit]
  | first :: second :: rest =>
    if isHighHalf first && isLowHalf second then
      Char.ofNat (joinHalves first second) :: ofUnits rest
    else character first :: ofUnits (second :: rest)

/-- The characters of numbers of thirty-two bits; none if one of them is too large for a character. -/
def ofNumbers? (numbers : List Nat) : Option (List Char) :=
  if numbers.all (· < 0x110000) then some (numbers.map character) else none

/-- Bytes read in a scheme; none if they do not fit it. -/
def decode? (scheme : Scheme) (bytes : List Nat) : Option (List Char) :=
  match scheme with
  | .bytes =>
    match decodeFrom none bytes with
    | '\uFEFF' :: rest => some rest
    | text => some text
  | .pairs order => (joined? order 0x100 bytes).map ofUnits
  | .fours order =>
    ((joined? order 0x100 bytes).bind (joined? order 0x10000)).bind ofNumbers?

end Scheme

end Passbook.Text
