import Passbook.Decimal.Basic

/-!
Arithmetic at a fixed precision. A result keeps at most `precision` digits; one with more is rounded
to the nearest, halves to the even neighbour (`fit`). `quantize` brings a decimal to a given exponent
and has no result when the digits do not suffice; sums have none when a signalling quantity takes part.
Main statements: an exact sum within the precision is not rounded (`fit_of_digitCount_le`), digits
dropped below half a unit leave the quotient (`dropDigits_toZero`), and every quantized number has the
exponent asked for (`quantize_exponent`).
-/

set_option autoImplicit false
set_option relaxedAutoImplicit false

-- Powers are those of the core library, whatever else is imported.
attribute [local instance (high)] instPowNat

namespace Passbook.Decimal

/-- The number of digits that a result may have. -/
def precision : Nat := 28

/-- Which neighbour a number takes when digits are dropped. -/
inductive Rounding where
  | toEven
  | towardZero
deriving DecidableEq, Repr

/-- A coefficient without its last places. When there are more places than digits nothing is left:
what is dropped is then less than a tenth of a unit. -/
def dropDigits (mode : Rounding) (coefficient places : Nat) : Nat :=
  if digitCount coefficient < places then 0
  else
    let unit := 10 ^ places
    let quotient := coefficient / unit
    let rest := coefficient % unit
    match mode with
    | .towardZero => quotient
    | .toEven =>
      if unit < 2 * rest ∨ (2 * rest = unit ∧ quotient % 2 = 1) then quotient + 1 else quotient

/-- The nearest decimal with at most `precision` digits. -/
def fit (negative : Bool) (coefficient : Nat) (exponent : Int) : Decimal :=
  if digitCount coefficient ≤ precision then .finite negative coefficient exponent
  else
    let places := digitCount coefficient - precision
    let rounded := dropDigits .toEven coefficient places
    if digitCount rounded ≤ precision then .finite negative rounded (exponent + places)
    else .finite negative (rounded / 10) (exponent + places + 1)

/-- What an operation makes of an operand that is not a number: a signalling one has no result, and
of the payload of a quiet one only so many digits are kept as a result may have. -/
def passOn (negative signalling : Bool) (payload : Nat) : Option Decimal :=
  if signalling then none else some (.notNumber negative false (payload % 10 ^ precision))

/-- The decimal at the given exponent, rounded if digits have to be dropped; none when the result
would need more digits than the precision, and for an infinity. -/
def quantize (mode : Rounding) (target : Int) : Decimal → Option Decimal
  | .notNumber negative signalling payload => passOn negative signalling payload
  | .infinite _ => none
  | .finite negative coefficient exponent =>
    if coefficient = 0 then some (.finite negative 0 target)
    else if target ≤ exponent then
      if digitCount coefficient + (exponent - target).toNat ≤ precision then
        some (.finite negative (coefficient * 10 ^ (exponent - target).toNat) target)
      else none
    else
      let rounded := dropDigits mode coefficient (target - exponent).toNat
      if digitCount rounded ≤ precision then some (.finite negative rounded target) else none

/-- A signed whole number of units as a sign and a coefficient; a sum of zero is negative only if both
parts were. -/
def ofUnits (bothNegative : Bool) (units : Int) : Bool × Nat :=
  (if units = 0 then bothNegative else decide (units < 0), units.natAbs)

/-- The units of `10 ^ common` that a finite decimal holds, for a common exponent not above its own. -/
def units (negative : Bool) (coefficient : Nat) (exponent common : Int) : Int :=
  let magnitude : Int := (coefficient * 10 ^ (exponent - common).toNat : Nat)
  if negative then -magnitude else magnitude

/-- The sum at the given precision. -/
def add : Decimal → Decimal → Option Decimal
  | .notNumber negative₁ signalling₁ payload₁, .notNumber _ signalling₂ _ =>
    passOn negative₁ (signalling₁ || signalling₂) payload₁
  | .notNumber negative signalling payload, _ => passOn negative signalling payload
  | _, .notNumber negative signalling payload => passOn negative signalling payload
  | .infinite negative₁, .infinite negative₂ =>
    if negative₁ = negative₂ then some (.infinite negative₁) else none
  | .infinite negative, .finite .. => some (.infinite negative)
  | .finite .., .infinite negative => some (.infinite negative)
  | .finite negative₁ coefficient₁ exponent₁, .finite negative₂ coefficient₂ exponent₂ =>
    let common := min exponent₁ exponent₂
    let total := units negative₁ coefficient₁ exponent₁ common +
      units negative₂ coefficient₂ exponent₂ common
    let (negative, coefficient) := ofUnits (negative₁ && negative₂) total
    some (fit negative coefficient common)

/-- The difference at the given precision. -/
def sub : Decimal → Decimal → Option Decimal
  | d@(.notNumber ..), e => d.add e
  | d, e@(.notNumber ..) => d.add e
  | d, e => d.add e.negate

/-- So many times a number, at the given precision. -/
def times (count : Nat) : Decimal → Option Decimal
  | .notNumber negative signalling payload => passOn negative signalling payload
  | .infinite negative => if count = 0 then none else some (.infinite negative)
  | .finite negative coefficient exponent => some (fit negative (coefficient * count) exponent)

/-- A coefficient without zeros at its end, and how many were removed; at most `most` are. -/
def stripZeros : Nat → Nat → Nat × Nat
  | 0, coefficient => (coefficient, 0)
  | most + 1, coefficient =>
    if coefficient % 10 = 0 then
      let (rest, removed) := stripZeros most (coefficient / 10)
      (rest, removed + 1)
    else (coefficient, 0)

theorem fit_of_digitCount_le (negative : Bool) {coefficient : Nat} (exponent : Int)
    (short : digitCount coefficient ≤ precision) :
    fit negative coefficient exponent = .finite negative coefficient exponent := by
  simp [fit, short]

theorem dropDigits_toZero {coefficient places : Nat} (enough : places ≤ digitCount coefficient) :
    dropDigits .towardZero coefficient places = coefficient / 10 ^ places := by
  simp [dropDigits, Nat.not_lt.2 enough]

/-- A quantized number has the exponent that was asked for. -/
theorem quantize_exponent {mode : Rounding} {target exponent : Int} {d : Decimal} {negative : Bool}
    {coefficient : Nat} (h : d.quantize mode target = some (.finite negative coefficient exponent)) :
    exponent = target := by
  unfold quantize at h
  split at h
  · simp only [passOn] at h
    split at h <;> simp at h
  · simp at h
  · split at h
    · simp only [Option.some.injEq, Decimal.finite.injEq] at h; exact h.2.2.symm
    · split at h
      · split at h <;> simp only [Option.some.injEq, Decimal.finite.injEq, reduceCtorEq] at h
        exact h.2.2.symm
      · dsimp only at h
        split at h <;> simp only [Option.some.injEq, Decimal.finite.injEq, reduceCtorEq] at h
        exact h.2.2.symm

end Passbook.Decimal
