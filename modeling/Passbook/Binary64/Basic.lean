import Passbook.Decimal.Basic

/-!
Binary floating-point numbers with a significand of 53 bits, kept as exact values: a significand times
a power of two. `nearest` rounds a fraction to the closest of them, a tie to the even significand, and
every operation rounds its exact result through it. `toDecimal` is exact and never rounds.
-/

set_option autoImplicit false
set_option relaxedAutoImplicit false

-- Powers are those of the core library, whatever else is imported.
attribute [local instance (high)] instPowNat

namespace Passbook

/-- A binary number: `significand * 2 ^ exponent` with a sign, an infinity, or what is not a number.
Numbers made by `nearest` have a significand below `2 ^ 53` and the least exponent that allows it. -/
inductive Binary64 where
  | finite (negative : Bool) (significand : Nat) (exponent : Int)
  | infinite (negative : Bool)
  | notNumber
deriving DecidableEq, Repr, Inhabited

namespace Binary64

/-- The bits of a significand. -/
def bits : Nat := 53

/-- The least exponent. -/
def minExponent : Int := -1074

/-- The largest exponent. -/
def maxExponent : Int := 971

/-- A fraction over a power of two, as a fraction of whole numbers. -/
def scaled (numerator denominator : Nat) (exponent : Int) : Nat × Nat :=
  if 0 ≤ exponent then (numerator, denominator * 2 ^ exponent.toNat)
  else (numerator * 2 ^ (-exponent).toNat, denominator)

/-- A fraction rounded to a whole number, a tie to the even one. -/
def roundEven (numerator denominator : Nat) : Nat :=
  let quotient := numerator / denominator
  let rest := numerator % denominator
  if denominator < 2 * rest ∨ (2 * rest = denominator ∧ quotient % 2 = 1) then quotient + 1
  else quotient

/-- The exponent at which the significand of a fraction has the full number of bits, or the least
exponent if that is larger. -/
def fittingExponent (numerator denominator : Nat) : Int :=
  let guess : Int := (numerator.log2 : Int) - denominator.log2 - bits
  let (n, d) := scaled numerator denominator guess
  max (if n / d < 2 ^ bits then guess else guess + 1) minExponent

/-- The binary number closest to a fraction. -/
def nearest (negative : Bool) (numerator denominator : Nat) : Binary64 :=
  if numerator = 0 then .finite negative 0 minExponent
  else
    let exponent := fittingExponent numerator denominator
    let (n, d) := scaled numerator denominator exponent
    let significand := roundEven n d
    let (significand, exponent) :=
      if significand = 2 ^ bits then (2 ^ (bits - 1), exponent + 1) else (significand, exponent)
    if maxExponent < exponent then .infinite negative else .finite negative significand exponent

/-- The binary number closest to `coefficient * 10 ^ exponent`. Powers of ten far outside the range
are settled before any power is taken. -/
def ofDecimal (negative : Bool) (coefficient : Nat) (exponent : Int) : Binary64 :=
  if coefficient = 0 then .finite negative 0 minExponent
  else
    let start := exponent + Decimal.digitCount coefficient
    if 400 < start then .infinite negative
    else if start < -400 then .finite negative 0 minExponent
    else if 0 ≤ exponent then nearest negative (coefficient * 10 ^ exponent.toNat) 1
    else nearest negative coefficient (10 ^ (-exponent).toNat)

/-- The binary number closest to a whole number. -/
def ofInt (number : Int) : Binary64 := nearest (decide (number < 0)) number.natAbs 1

/-- The product with a count. -/
def times : Binary64 → Nat → Binary64
  | .finite negative significand exponent, count =>
    if 0 ≤ exponent then nearest negative (significand * count * 2 ^ exponent.toNat) 1
    else nearest negative (significand * count) (2 ^ (-exponent).toNat)
  | .infinite negative, count => if count = 0 then .notNumber else .infinite negative
  | .notNumber, _ => .notNumber

/-- The exact magnitude of a finite number as a fraction whose denominator is a power of two. -/
def fraction (significand : Nat) (exponent : Int) : Nat × Nat :=
  if 0 ≤ exponent then (significand * 2 ^ exponent.toNat, 1)
  else (significand, 2 ^ (-exponent).toNat)

/-- The decimal of exactly the same value, with as few decimal places as that takes. -/
def toDecimal : Binary64 → Decimal
  | .finite negative significand exponent =>
    let (numerator, denominator) := fraction significand exponent
    let common := numerator.gcd denominator
    let places := (denominator / common).log2
    .finite negative (numerator / common * 5 ^ places) (-(places : Int))
  | .infinite negative => .infinite negative
  | .notNumber => .notNumber false false 0

/-- The whole number of a finite number without a fraction. -/
def toInt? : Binary64 → Option Int
  | .finite negative significand exponent =>
    let (numerator, denominator) := fraction significand exponent
    if numerator % denominator = 0 then
      let magnitude : Int := (numerator / denominator : Nat)
      some (if negative then -magnitude else magnitude)
    else none
  | _ => none

end Binary64

end Passbook
