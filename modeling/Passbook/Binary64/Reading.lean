import Passbook.Binary64.Basic
import Passbook.Decimal.Reading

/-!
Reading numbers from settings: whole numbers and binary ones. Both may be surrounded by white space and use
the digits of any script; an underscore may stand between two digits and nowhere else.
-/

set_option autoImplicit false
set_option relaxedAutoImplicit false

namespace Passbook

namespace Text

/-- A character of a number in its plain form; one that has none becomes a mark that no number
holds. -/
def plainChar (c : Char) : Char :=
  if c.toNat < 0x80 then c
  else if isWhiteSpace c then ' '
  else match digitValue? c with
    | some value => Char.ofNat (0x30 + value)
    | none => '?'

/-- The text of a number in plain characters, without the white space around it. -/
def plainNumber (text : List Char) : List Char := (trim isWhiteSpace text).map plainChar

/-- A text without its underscores; none if one of them does not stand between two digits. -/
def joinDigits? (text : List Char) : Option (List Char) := go false text
where
  /-- The rest of the text, behind a digit or not. -/
  go (behindDigit : Bool) : List Char → Option (List Char)
    | [] => some []
    | '_' :: next :: rest =>
      if behindDigit ∧ next.isDigit then (go true rest).map (next :: ·) else none
    | ['_'] => none
    | c :: rest => (go c.isDigit rest).map (c :: ·)

/-- The whole number that a text denotes. -/
def wholeNumber? (text : String) : Option Int :=
  let (negative, text) := Decimal.splitSign (plainNumber text.toList)
  (joinDigits? text).bind fun text ↦
    let (digits, rest) := Decimal.splitDigits text
    if digits.isEmpty ∨ ¬ rest.isEmpty then none
    else some (if negative then -(ofDigits digits : Int) else ofDigits digits)

/-- How many digits a whole number at the start of a text has, with underscores between some of them
perhaps; none if there is an underscore where none belongs. -/
def leadingDigits (text : String) : Nat :=
  let unsigned := (Decimal.splitSign (plainNumber text.toList)).2
  ((joinDigits? (unsigned.takeWhile fun c ↦ c.isDigit || c = '_')).getD []).length

end Text

namespace Binary64

/-- The binary number closest to what a text denotes. -/
def ofText? (text : String) : Option Binary64 :=
  (Text.joinDigits? (Text.plainNumber text.toList)).bind fun text ↦
    let (negative, text) := Decimal.splitSign text
    let lower := text.map Char.toLower
    if lower = "inf".toList ∨ lower = "infinity".toList then some (.infinite negative)
    else if lower = "nan".toList then some .notNumber
    else (Decimal.magnitude? text).map fun (coefficient, exponent) ↦
      ofDecimal negative coefficient exponent

end Binary64

end Passbook
