import Passbook.Text.Printable

/-!
Quoted text as messages show it. A text stands between apostrophes, or between quotation marks when
it holds an apostrophe and no quotation mark; a backslash, the mark around the text and every
character that cannot be printed are written as escapes.
-/

set_option autoImplicit false
set_option relaxedAutoImplicit false

namespace Passbook.Text

/-- A number in base sixteen, padded with zeros to a width. -/
def hexadecimal (width number : Nat) : List Char :=
  let shown := Nat.toDigits 16 number
  List.replicate (width - shown.length) '0' ++ shown

/-- The mark around a text. -/
def quoteMark (text : List Char) : Char :=
  if text.contains '\'' && !text.contains '"' then '"' else '\''

/-- How one character is written between the given marks. -/
def quotedChar (mark c : Char) : List Char :=
  if c = '\\' ∨ c = mark then ['\\', c]
  else if c = '\n' then ['\\', 'n']
  else if c = '\r' then ['\\', 'r']
  else if c = '\t' then ['\\', 't']
  else if isPrintable c then [c]
  else if c.toNat < 0x100 then '\\' :: 'x' :: hexadecimal 2 c.toNat
  else if c.toNat < 0x10000 then '\\' :: 'u' :: hexadecimal 4 c.toNat
  else '\\' :: 'U' :: hexadecimal 8 c.toNat

/-- A text between marks, with escapes. -/
def quoted (text : String) : String :=
  let mark := quoteMark text.toList
  String.ofList (mark :: text.toList.flatMap (quotedChar mark) ++ [mark])

/-- The most characters of a quoted text where it is cut short. -/
def maxShown : Nat := 200

/-- A text between marks, cut short. -/
def quotedStart (text : String) : String := String.ofList ((quoted text).toList.take maxShown)

/-- How one byte is written between the given marks: bytes above `0x7E` are never shown as they are. -/
def quotedByte (mark : Char) (byte : UInt8) : List Char :=
  if byte.toNat < 0x7F then quotedChar mark (Char.ofNat byte.toNat)
  else '\\' :: 'x' :: hexadecimal 2 byte.toNat

/-- Bytes between marks, behind the letter that tells them from text. -/
def quotedBytes (bytes : List UInt8) : String :=
  let mark := quoteMark (bytes.map fun byte ↦ Char.ofNat byte.toNat)
  String.ofList ('b' :: mark :: bytes.flatMap (quotedByte mark) ++ [mark])

end Passbook.Text
