import Passbook.Decimal.Printing
import Passbook.Money.Amount

/-!
Amounts as a column of a table holds them. A store with decimal numbers keeps the cents themselves; one
without keeps their text and compares what the longest number at its start denotes (`numericSign`).
What is written is rounded to cents, halves to the even neighbour (`rounded`), and what is read is
brought to cents again (`read`).
-/

set_option autoImplicit false
set_option relaxedAutoImplicit false

namespace Passbook.Money

/-- How a store keeps amounts. -/
inductive ColumnForm where
  | text
  | number
deriving DecidableEq, Repr

/-- The type of the column. -/
def ColumnForm.typeName : ColumnForm → String
  | .text => "VARCHAR"
  | .number => "NUMERIC"

/-- What a column of amounts holds. -/
inductive Stored where
  | text (content : String)
  | number (cents : Decimal)
deriving DecidableEq, Repr

/-- The cents of a value, rounded, halves to the even neighbour. -/
def rounded (given : Value) : Except Failure Decimal := do
  let number ← given.toDecimal.mapError .ofNoDecimal
  match number.quantize .toEven centExponent with
  | some cents => return cents
  | none => throw .undefined

/-- What a column holds for a value; nothing for a missing one. -/
def bind (form : ColumnForm) (given : Value) : Except Failure (Option Stored) :=
  match given with
  | .absent => .ok none
  | given => do
    let cents ← rounded given
    return some (match form with | .text => .text cents.text | .number => .number cents)

/-- What a reader gets for the content of a column. -/
def read (content : Value) : Except Failure (Option Decimal) :=
  match content with
  | .absent => .ok none
  | content => do return some (← rounded content)

/-- The text in a column as an amount. -/
def readText (content : String) : Except Failure Decimal := rounded (.text content)

/-- A condition on a column of amounts, which makes the comparison one of numbers. -/
def checkText (column condition : String) : String := "CAST(" ++ column ++ " AS NUMERIC) " ++ condition

/-- Whether a character may stand in front of a number. -/
def isSpace (c : Char) : Bool := c = ' ' || (9 ≤ c.toNat && c.toNat ≤ 13)

/-- The power of ten at the start of a text, or zero if there is none. -/
def leadingPower : List Char → Int
  | [] => 0
  | c :: rest =>
    if c = 'e' ∨ c = 'E' then
      let (negative, text) := Decimal.splitSign rest
      let power : Int := Text.ofDigits (Decimal.splitDigits text).1
      if negative then -power else power
    else 0

/-- Whether `coefficient * 10 ^ exponent` is zero, or so close to it that the closest binary number
is. -/
def vanishes (coefficient : Nat) (exponent : Int) : Bool :=
  coefficient == 0 || (exponent < -300 &&
    Binary64.ofDecimal false coefficient exponent == .finite false 0 Binary64.minExponent)

/-- How the number at the start of a text compares to zero; without digits it is zero. -/
def numericSign (content : String) : Ordering :=
  let (negative, text) := Decimal.splitSign (content.toList.dropWhile isSpace)
  let (whole, rest) := Decimal.splitDigits text
  let (fraction, rest) :=
    match rest with
    | '.' :: rest => Decimal.splitDigits rest
    | rest => ([], rest)
  if vanishes (Text.ofDigits (whole ++ fraction)) (leadingPower rest - fraction.length) then .eq
  else if negative then .lt
  else .gt

/-- The rule that no balance is below zero. -/
def balanceHolds (content : String) : Bool := numericSign content != .lt

/-- The rule that every transaction moves more than nothing. -/
def amountHolds (content : String) : Bool := numericSign content == .gt

end Passbook.Money
