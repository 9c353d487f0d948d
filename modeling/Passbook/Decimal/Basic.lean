import Passbook.Text.Digit

/-!
Decimal numbers: a sign, a coefficient and a power of ten, with signed zeros, the two infinities and
quantities that are not numbers. The same number has many decimals (`1.5` and `1.50` differ in their
exponents), so equality of decimals is finer than equality of numbers; `compare?` is the order of the
numbers. Main statements: numbers compare by how far left they begin and then by their aligned
coefficients, a decimal equals itself as a number, and the order of two numbers is reversed when they
change places (`compare?_self`, `compare?_swap`).
-/

set_option autoImplicit false
set_option relaxedAutoImplicit false

-- Powers are those of the core library, whatever else is imported.
attribute [local instance (high)] instPowNat

namespace Passbook

/-- A decimal: a signed coefficient times a power of ten, an infinity, or a quantity that is not a
number. A quantity that is not a number may carry a payload, and a signalling one may not take part in
any operation. -/
inductive Decimal where
  | finite (negative : Bool) (coefficient : Nat) (exponent : Int)
  | infinite (negative : Bool)
  | notNumber (negative signalling : Bool) (payload : Nat)
deriving DecidableEq, Repr, Inhabited

namespace Decimal

/-- The number of digits of a coefficient; zero has one. -/
def digitCount (coefficient : Nat) : Nat := (Text.digits coefficient).length

/-- A whole number as a decimal. -/
def ofInt (number : Int) : Decimal := .finite (decide (number < 0)) number.natAbs 0

/-- Whether the decimal is a number and no infinity. -/
def isFinite : Decimal → Bool
  | .finite .. => true
  | _ => false

/-- Whether the decimal is not a number. -/
def isNotNumber : Decimal → Bool
  | .notNumber .. => true
  | _ => false

/-- The decimal with the other sign. -/
def negate : Decimal → Decimal
  | .finite negative coefficient exponent => .finite (!negative) coefficient exponent
  | .infinite negative => .infinite (!negative)
  | .notNumber negative signalling payload => .notNumber (!negative) signalling payload

/-- The order of two positive magnitudes. The one whose first digit stands further left is the
larger; if both begin at one place, the coefficients are brought to one exponent, which costs no more
digits than they have. -/
def compareMagnitude (coefficient₁ : Nat) (exponent₁ : Int) (coefficient₂ : Nat) (exponent₂ : Int) :
    Ordering :=
  if coefficient₁ = 0 then (if coefficient₂ = 0 then .eq else .lt)
  else if coefficient₂ = 0 then .gt
  else
    let begin₁ := exponent₁ + digitCount coefficient₁
    let begin₂ := exponent₂ + digitCount coefficient₂
    if begin₁ < begin₂ then .lt
    else if begin₂ < begin₁ then .gt
    else if exponent₂ ≤ exponent₁ then
      compare (coefficient₁ * 10 ^ (exponent₁ - exponent₂).toNat) coefficient₂
    else compare coefficient₁ (coefficient₂ * 10 ^ (exponent₂ - exponent₁).toNat)

/-- The order of two decimals as numbers; there is none with what is not a number. -/
def compare? : Decimal → Decimal → Option Ordering
  | .notNumber .., _ | _, .notNumber .. => none
  | .infinite negative₁, .infinite negative₂ =>
    some (if negative₁ = negative₂ then .eq else if negative₁ then .lt else .gt)
  | .infinite negative, .finite .. => some (if negative then .lt else .gt)
  | .finite .., .infinite negative => some (if negative then .gt else .lt)
  | .finite negative₁ coefficient₁ exponent₁, .finite negative₂ coefficient₂ exponent₂ =>
    let magnitude := compareMagnitude coefficient₁ exponent₁ coefficient₂ exponent₂
    some <|
      if coefficient₁ = 0 ∧ coefficient₂ = 0 then .eq
      else if coefficient₁ = 0 then (if negative₂ then .gt else .lt)
      else if coefficient₂ = 0 then (if negative₁ then .lt else .gt)
      else match negative₁, negative₂ with
        | false, false => magnitude
        | true, true => magnitude.swap
        | true, false => .lt
        | false, true => .gt

/-- The decimal zero with no fraction. -/
def zero : Decimal := .finite false 0 0

theorem compareMagnitude_self (coefficient : Nat) (exponent : Int) :
    compareMagnitude coefficient exponent coefficient exponent = .eq := by
  unfold compareMagnitude
  by_cases none : coefficient = 0
  · simp [none]
  · simp [none]

theorem compareMagnitude_swap (coefficient₁ : Nat) (exponent₁ : Int) (coefficient₂ : Nat)
    (exponent₂ : Int) :
    (compareMagnitude coefficient₁ exponent₁ coefficient₂ exponent₂).swap =
      compareMagnitude coefficient₂ exponent₂ coefficient₁ exponent₁ := by
  unfold compareMagnitude
  by_cases none₁ : coefficient₁ = 0
  · by_cases none₂ : coefficient₂ = 0 <;> simp [none₁, none₂]
  · by_cases none₂ : coefficient₂ = 0
    · simp [none₁, none₂]
    · simp only [none₁, none₂, if_false]
      by_cases less : exponent₁ + digitCount coefficient₁ < exponent₂ + digitCount coefficient₂
      · simp [less, Int.not_lt.2 (Int.le_of_lt less)]
      · by_cases more : exponent₂ + digitCount coefficient₂ < exponent₁ + digitCount coefficient₁
        · simp [less, more]
        · simp only [less, more, if_false]
          by_cases high : exponent₂ ≤ exponent₁
          · by_cases low : exponent₁ ≤ exponent₂
            · obtain rfl : exponent₁ = exponent₂ := Int.le_antisymm low high
              simp [Nat.compare_swap]
            · simp [high, low, Nat.compare_swap]
          · simp [high, Int.le_of_lt (Int.not_le.1 high), Nat.compare_swap]

/-- A number equals itself. -/
theorem compare?_self (d : Decimal) (number : d.isNotNumber = false) :
    d.compare? d = some .eq := by
  cases d with
  | finite negative coefficient exponent =>
    by_cases none : coefficient = 0
    · simp [compare?, none]
    · cases negative <;> simp [compare?, none, compareMagnitude_self]
  | infinite negative => simp [compare?]
  | notNumber => simp [isNotNumber] at number

/-- Two decimals that change places are ordered the other way round. -/
theorem compare?_swap (d e : Decimal) : e.compare? d = (d.compare? e).map Ordering.swap := by
  match d, e with
  | .notNumber .., .notNumber .. | .notNumber .., .infinite _ | .notNumber .., .finite ..
  | .infinite _, .notNumber .. | .finite .., .notNumber .. => rfl
  | .infinite negative, .finite .. | .finite .., .infinite negative => cases negative <;> rfl
  | .infinite negative₁, .infinite negative₂ => cases negative₁ <;> cases negative₂ <;> rfl
  | .finite negative₁ coefficient₁ exponent₁, .finite negative₂ coefficient₂ exponent₂ =>
    have swapped := compareMagnitude_swap coefficient₁ exponent₁ coefficient₂ exponent₂
    by_cases none₁ : coefficient₁ = 0 <;> by_cases none₂ : coefficient₂ = 0 <;>
      cases negative₁ <;> cases negative₂ <;> simp [compare?, none₁, none₂, ← swapped]

end Decimal

end Passbook
