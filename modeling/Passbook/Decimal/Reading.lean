import Passbook.Decimal.Basic
import Passbook.Text.Blank

/-!
Reading a decimal. The text may be surrounded by blanks, may hold underscores anywhere, and may use
the digits of any script; below that it is a sign, digits with at most one point, and an exponent, or
one of the words for what is not finite. A finite decimal must fit the widest exponents,
`maxExponent` and `minExponent`.
-/

set_option autoImplicit false
set_option relaxedAutoImplicit false

namespace Passbook.Decimal

/-- The largest power of ten at which a decimal may begin. -/
def maxExponent : Int := 999999999999999999

/-- The least exponent that a decimal may have. -/
def minExponent : Int := -1999999999999999997

/-- A character of a number in its plain form: a blank is a space, a digit of any script the plain
digit, and another character above ASCII has none. -/
def plainChar? (c : Char) : Option Char :=
  if 0 < c.toNat ∧ c.toNat < 0x80 then some c
  else if Text.isBlank c then some ' '
  else (Text.digitValue? c).map fun value ↦ Char.ofNat (0x30 + value)

/-- The text of a number without the blanks around it and without underscores, in plain characters;
none if a character has no plain form. -/
def plain? (text : List Char) : Option (List Char) :=
  ((Text.trim Text.isBlank text).filter (· ≠ '_')).mapM plainChar?

/-- A sign and what follows it. -/
def splitSign : List Char → Bool × List Char
  | '-' :: rest => (true, rest)
  | '+' :: rest => (false, rest)
  | text => (false, text)

/-- The leading digits and what follows them. -/
def splitDigits (text : List Char) : List Nat × List Char :=
  ((text.takeWhile Char.isDigit).filterMap Text.plainDigit?, text.dropWhile Char.isDigit)

/-- The exponent at the end of a number: nothing, or a letter, an optional sign and digits. -/
def exponent? : List Char → Option Int
  | [] => some 0
  | c :: rest =>
    if c = 'e' ∨ c = 'E' then
      let (negative, rest) := splitSign rest
      let (digits, rest) := splitDigits rest
      if digits.isEmpty ∨ ¬ rest.isEmpty then none
      else some (if negative then -(Text.ofDigits digits : Int) else Text.ofDigits digits)
    else none

/-- Digits with at most one point, and an exponent. -/
def magnitude? (text : List Char) : Option (Nat × Int) :=
  let (whole, rest) := splitDigits text
  let (fraction, rest) :=
    match rest with
    | '.' :: rest => splitDigits rest
    | rest => ([], rest)
  if whole.isEmpty ∧ fraction.isEmpty then none
  else (exponent? rest).map fun exponent ↦
    (Text.ofDigits (whole ++ fraction), exponent - fraction.length)

/-- A finite decimal whose exponent is within the widest limits. -/
def bounded? (negative : Bool) (coefficient : Nat) (exponent : Int) : Option Decimal :=
  if minExponent ≤ exponent ∧ exponent + digitCount coefficient - 1 ≤ maxExponent then
    some (.finite negative coefficient exponent)
  else none

/-- The payload behind the word for what is not a number. -/
def payload? (text : List Char) : Option Nat :=
  let (digits, rest) := splitDigits text
  if rest.isEmpty then some (Text.ofDigits digits) else none

/-- A number without its sign. -/
def unsigned? (negative : Bool) (text : List Char) : Option Decimal :=
  let lower := text.map Char.toLower
  if lower = "inf".toList ∨ lower = "infinity".toList then some (.infinite negative)
  else if lower.take 3 = "nan".toList then
    (payload? (lower.drop 3)).map (.notNumber negative false)
  else if lower.take 4 = "snan".toList then
    (payload? (lower.drop 4)).map (.notNumber negative true)
  else (magnitude? text).bind fun (coefficient, exponent) ↦ bounded? negative coefficient exponent

/-- The decimal that the characters denote. -/
def ofChars? (text : List Char) : Option Decimal :=
  (plain? text).bind fun text ↦
    let (negative, text) := splitSign text
    unsigned? negative text

/-- The decimal that a text denotes. -/
def ofText? (text : String) : Option Decimal := ofChars? text.toList

end Passbook.Decimal
