import Passbook.Failure
import Passbook.Decimal.Arithmetic

/-!
Amounts that the ledger accepts. An amount is a decimal of two places that equals what the caller
wrote: nothing is rounded, and binary numbers are refused whatever their value. Main statement: an
accepted amount has two places (`ofDecimal_exponent`).
-/

set_option autoImplicit false
set_option relaxedAutoImplicit false

namespace Passbook.Money

/-- The power of ten of a cent. -/
def centExponent : Int := -2

/-- A refusal of an amount, which the caller is shown; one that cannot be written out fails even so. -/
def refuse (given : Value) (fault : AmountFault) : Except Failure Decimal :=
  .error <|
    if given.isWritable then .ledger (.invalidAmount fault) else .badValue .tooManyDigits

/-- The exact cents of a decimal. -/
def ofDecimal (given : Value) (number : Decimal) : Except Failure Decimal :=
  if number.isFinite then
    match number.quantize .towardZero centExponent with
    | none => refuse given (.tooLarge given)
    | some cents =>
      if number.compare? cents = some .eq then .ok cents else refuse given (.tooFine given)
  else refuse given (.notFinite given)

/-- The exact cents of what a caller wrote. -/
def ofValue (given : Value) : Except Failure Decimal :=
  match given with
  | .truth _ | .binary _ => refuse given (.inexact given)
  | given =>
    match given.toDecimal with
    | .error .tooLarge => .error .overflow
    | .error _ => refuse given (.notNumeric given)
    | .ok number => ofDecimal given number

theorem ofDecimal_ok {given : Value} {number cents : Decimal}
    (accepted : ofDecimal given number = .ok cents) :
    number.isFinite = true ∧ number.quantize .towardZero centExponent = some cents ∧
      number.compare? cents = some .eq := by
  unfold ofDecimal refuse at accepted
  split at accepted
  · next finite =>
    split at accepted
    · simp at accepted
    · next quantized =>
      split at accepted
      · next equal =>
        simp only [Except.ok.injEq] at accepted
        subst accepted
        exact ⟨finite, quantized, equal⟩
      · simp at accepted
  · simp at accepted

/-- An accepted amount has two places. -/
theorem ofDecimal_exponent {given : Value} {number : Decimal} {negative : Bool} {coefficient : Nat}
    {exponent : Int}
    (accepted : ofDecimal given number = .ok (.finite negative coefficient exponent)) :
    exponent = centExponent :=
  Decimal.quantize_exponent (ofDecimal_ok accepted).2.1

end Passbook.Money
