import Passbook.Decimal.Basic

/-!
The text of a decimal. The coefficient is written with a point when the exponent is not positive and
the number is not smaller than `1E-6`; all else has one digit before the point and an exponent.
`shown` is how a message quotes a decimal.
-/

set_option autoImplicit false
set_option relaxedAutoImplicit false

namespace Passbook.Decimal

/-- The sign in front of a decimal: nothing for a positive one. -/
def signText (negative : Bool) : List Char := if negative then ['-'] else []

/-- An exponent with its sign. -/
def exponentText (exponent : Int) : List Char :=
  'E' :: (if exponent < 0 then '-' else '+') :: Text.digits exponent.natAbs

/-- The digits with a point so many places after the first of them; zeros stand in where there are
no digits. -/
def pointed (shown : List Char) (place : Int) : List Char :=
  if place ≤ 0 then '0' :: '.' :: (List.replicate (-place).toNat '0' ++ shown)
  else if (shown.length : Int) ≤ place then
    shown ++ List.replicate (place.toNat - shown.length) '0'
  else shown.take place.toNat ++ '.' :: shown.drop place.toNat

/-- The characters of a decimal. -/
def chars : Decimal → List Char
  | .finite negative coefficient exponent =>
    let shown := Text.digits coefficient
    let place := exponent + shown.length
    signText negative ++
      if exponent ≤ 0 ∧ -6 < place then pointed shown place
      else pointed shown 1 ++ if place = 1 then [] else exponentText (place - 1)
  | .infinite negative => signText negative ++ "Infinity".toList
  | .notNumber negative signalling payload =>
    signText negative ++ (if signalling then ['s'] else []) ++ "NaN".toList ++
      if payload = 0 then [] else Text.digits payload

/-- The text of a decimal. -/
def text (d : Decimal) : String := String.ofList d.chars

/-- A decimal as a message quotes it. -/
def shown (d : Decimal) : String := "Decimal('" ++ d.text ++ "')"

end Passbook.Decimal
