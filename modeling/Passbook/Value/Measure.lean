import Passbook.Decimal.Arithmetic
import Passbook.Failure

/-!
Values as measures: lengths of time and counts that somebody set or asked for. Each use has a rule of its
own for what it accepts. A clock adds seconds to its time (`seconds`), a pause takes any number
(`pause`), a count of rows is cut to a whole number (`rowCount`), and the tries of an operation must be
counted in whole numbers (`tries`).
-/

set_option autoImplicit false
set_option relaxedAutoImplicit false

-- Powers are those of the core library, whatever else is imported.
attribute [local instance (high)] instPowNat

namespace Passbook.Value

/-- A whole number as a binary one, unless it is too large. -/
def wholeBinary (number : Int) : Except Failure Binary64 :=
  match Binary64.ofInt number with
  | .infinite _ => .error .overflow
  | number => .ok number

/-- A number of seconds that a clock adds to its time. -/
def seconds : Value → Except Failure Binary64
  | .binary number => .ok number
  | .integer number => wholeBinary number
  | .truth holds => wholeBinary (if holds then 1 else 0)
  | _ => .error .wrongKind

/-- The binary number closest to a decimal. -/
def decimalBinary : Decimal → Except Failure Binary64
  | .finite negative coefficient exponent => .ok (.ofDecimal negative coefficient exponent)
  | .infinite negative => .ok (.infinite negative)
  | .notNumber _ false _ => .ok .notNumber
  | .notNumber _ true _ => .error .undefined

/-- So many times a length of time that is only waited for. -/
def pause (count : Nat) : Value → Except Failure Binary64
  | .decimal number =>
    match number.times count with
    | some number => decimalBinary number
    | none => .error .undefined
  | .integer number => wholeBinary (number * count)
  | value => do return (← value.seconds).times count

/-- A count as an error message shows it. -/
def refusal (value : Value) (fault : String → BadValue) : Failure :=
  .badValue (if value.isWritable then fault value.asText else .tooManyDigits)

/-- A count that is not below one, whatever kind of number it is. -/
def atLeastOne (value : Value) (fault : String → BadValue) : Except Failure Value := do
  if ← (value.isBelow (.integer 1)).mapError .ofIncomparable then throw (value.refusal fault)
  return value

/-- A number without its fraction. -/
def wholePart (number : Decimal) : Except Failure Int :=
  match number with
  | .finite negative coefficient exponent =>
    let magnitude : Int :=
      (if 0 ≤ exponent then coefficient * 10 ^ exponent.toNat
        else coefficient / 10 ^ (-exponent).toNat : Nat)
    .ok (if negative then -magnitude else magnitude)
  | .infinite _ => .error .overflow
  | .notNumber .. => .error (.badValue .notNumber)

/-- A count of rows: a number without its fraction. -/
def rowCount (value : Value) : Except Failure Int :=
  match value.number? with
  | some number => wholePart number
  | none => .error .wrongKind

/-- How often something is tried, which must be a whole number. -/
def tries (value : Value) : Except Failure Nat :=
  match value.toInt? with
  | some number => .ok number.toNat
  | none => .error .wrongKind

end Passbook.Value
