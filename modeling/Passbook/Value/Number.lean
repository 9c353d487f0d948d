import Passbook.Value.Basic
import Passbook.Decimal.Reading

/-!
Values as numbers. `Value.toDecimal` converts text, whole numbers, binary numbers and sequences of a
sign, digits and an exponent to exactly the decimal that they denote, or says why there is none.
`Value.compare` orders numbers of any two kinds by their exact values. Main statements: a decimal is
itself (`toDecimal_decimal`), and whole numbers convert to themselves (`toDecimal_integer`).
-/

set_option autoImplicit false
set_option relaxedAutoImplicit false

namespace Passbook

/-- What is wrong with a sequence of a sign, digits and an exponent. -/
inductive PartsFault where
  | length
  | sign
  | digits
  | special
  | exponent
deriving DecidableEq, Repr

/-- What is wrong with the parts, in words. -/
def PartsFault.message : PartsFault → String
  | .length => "argument must be a sequence of length 3"
  | .sign => "sign must be an integer with the value 0 or 1"
  | .digits => "coefficient must be a tuple of digits"
  | .special => "string argument in the third position must be 'F', 'n' or 'N'"
  | .exponent => "exponent must be an integer"

/-- Why a value has no decimal. -/
inductive NoDecimal where
  /-- The text or the parts denote no decimal. -/
  | malformed
  /-- Values of this kind never denote a decimal. -/
  | wrongKind
  /-- The sequence does not consist of a sign, digits and an exponent. -/
  | badParts (fault : PartsFault)
  /-- A part exceeds the machine's words. -/
  | tooLarge
deriving DecidableEq, Repr

namespace Value

/-- A whole number among the parts of a decimal. -/
def part (fault : PartsFault) (value : Value) : Except NoDecimal Int :=
  match value.toInt? with
  | none => .error (.badParts fault)
  | some number => if fitsWord number then .ok number else .error .tooLarge

/-- The sign among the parts of a decimal: one stands for a negative number. -/
def signPart (value : Value) : Except NoDecimal Bool := do
  let number ← part .sign value
  if number = 0 then pure false
  else if number = 1 then pure true
  else throw (.badParts .sign)

/-- One digit among the parts of a decimal. -/
def digitPart (value : Value) : Except NoDecimal Nat := do
  let number ← part .digits value
  if 0 ≤ number ∧ number ≤ 9 then pure number.toNat else throw (.badParts .digits)

/-- The digits among the parts of a decimal. -/
def digitParts : Value → Except NoDecimal (List Nat)
  | .list members | .tuple members => members.mapM digitPart
  | _ => .error (.badParts .digits)

/-- What stands in the third place among the parts of a decimal. -/
inductive LastPart where
  | exponent (power : Int)
  | infinite
  | notNumber (signalling : Bool)
deriving DecidableEq, Repr

/-- The third of the parts of a decimal. -/
def lastPart : Value → Except NoDecimal LastPart
  | .text "F" => .ok .infinite
  | .text "n" => .ok (.notNumber false)
  | .text "N" => .ok (.notNumber true)
  | .text _ => .error (.badParts .special)
  | value => do return .exponent (← part .exponent value)

/-- The decimal with the given parts. -/
def ofParts : List Value → Except NoDecimal Decimal
  | [sign, digits, last] => do
    let negative ← signPart sign
    let last ← lastPart last
    let digits ← digitParts digits
    match last with
    | .infinite => pure (.infinite negative)
    | .notNumber signalling => pure (.notNumber negative signalling (Text.ofDigits digits))
    | .exponent power =>
      match Decimal.bounded? negative (Text.ofDigits digits) power with
      | some number => pure number
      | none => throw .malformed
  | _ => .error (.badParts .length)

/-- The decimal that a value denotes. -/
def toDecimal : Value → Except NoDecimal Decimal
  | .decimal number => .ok number
  | .integer number => .ok (Decimal.ofInt number)
  | .truth holds => .ok (Decimal.ofInt (if holds then 1 else 0))
  | .binary number => .ok number.toDecimal
  | .text content =>
    match Decimal.ofText? content with
    | some number => .ok number
    | none => .error .malformed
  | .list members | .tuple members => ofParts members
  | .absent | .mapping _ | .bytes _ => .error .wrongKind

@[simp]
theorem toDecimal_decimal (number : Decimal) : toDecimal (.decimal number) = .ok number := rfl

@[simp]
theorem toDecimal_integer (number : Int) :
    toDecimal (.integer number) = .ok (Decimal.ofInt number) := rfl

/-- Why two values cannot be compared. -/
inductive Incomparable where
  /-- One of them is no number at all. -/
  | wrongKind
  /-- One is a decimal and one of them is not a number in value. -/
  | undefined
deriving DecidableEq, Repr

/-- The exact decimal of a value that is a number. -/
def number? : Value → Option Decimal
  | .decimal number => some number
  | .integer number => some (Decimal.ofInt number)
  | .truth holds => some (Decimal.ofInt (if holds then 1 else 0))
  | .binary number => some number.toDecimal
  | _ => none

/-- Whether a value is a decimal. -/
def isDecimal : Value → Bool
  | .decimal _ => true
  | _ => false

/-- The order of two values as numbers. Where a decimal takes part, what is not a number has no place
in the order; between two others it is merely neither below nor above. -/
def compare (left right : Value) : Except Incomparable (Option Ordering) :=
  match left.number?, right.number? with
  | some first, some second =>
    match first.compare? second with
    | some order => .ok (some order)
    | none => if left.isDecimal || right.isDecimal then .error .undefined else .ok none
  | _, _ => .error .wrongKind

/-- Whether the first value is below the second. -/
def isBelow (left right : Value) : Except Incomparable Bool := do
  return (← left.compare right) == some .lt

/-- Whether the first value is at most the second. -/
def isAtMost (left right : Value) : Except Incomparable Bool := do
  let order ← left.compare right
  return order == some .lt || order == some .eq

end Value

end Passbook
