import Mathlib.Data.Nat.Prime.Basic
import Passbook.Proofs.Decimal.Figure
import Passbook.Proofs.Decimal.Quantized
import Passbook.Value.Number

/-!
The number that a value denotes (`Value.Denotes`): whole numbers, truth values, decimals and binary numbers
denote what they are, and a text denotes what the figure that it shows does, whatever it is read as. Main
statements: a value is read as exactly the number that it denotes (`Value.exists_toDecimal`), as far as the
limits of the exponent go, and what is read as a finite number denotes it (`Value.denotes_of_toDecimal`).
-/

set_option autoImplicit false
set_option relaxedAutoImplicit false

-- Powers are those of the core library, whatever else is imported.
attribute [local instance (high)] instPowNat

namespace Passbook

namespace Decimal.Figure

variable (figure : Figure)

/-- The number that a figure denotes. -/
def value : ℚ := signed figure.mark.isNegative figure.coefficient * 10 ^ figure.power

/-- A text that shows a figure within the limits of the exponent is read as the number that it denotes. -/
theorem exists_ofChars? {figure : Figure} {text : List Char} (shown : figure.IsShownBy text)
    (within : figure.IsWithinLimits) :
    ∃ number, ofChars? text = .some number ∧ number.isFinite = true ∧ number.toRat = figure.value := by
  rw [ofChars?_eq shown]
  exact ⟨_, if_pos within, rfl, rfl⟩

/-- A text that is read as a finite number shows no figure but one within the limits of the exponent, which
denotes this number. -/
theorem of_ofChars? {figure : Figure} {text : List Char} {number : Decimal}
    (shown : figure.IsShownBy text) (read : ofChars? text = .some number) :
    figure.IsWithinLimits ∧ number.toRat = figure.value := by
  rw [ofChars?_eq shown] at read
  unfold bounded? at read
  split at read
  · next within =>
    obtain rfl := Option.some.inj read
    exact ⟨within, rfl⟩
  · cases read

end Decimal.Figure

namespace Binary64

/-- The magnitude of a binary number is a fraction over a power of two. -/
theorem fraction_eq (significand : Nat) (exponent : Int) :
    ((fraction significand exponent).1 : ℚ) / (fraction significand exponent).2 = significand * 2 ^ exponent ∧
      ∃ power, (fraction significand exponent).2 = 2 ^ power := by
  unfold fraction
  split
  · next notBelow =>
    rw [power_of_nonneg 2 notBelow]
    exact ⟨by push_cast; ring, 0, rfl⟩
  · next below =>
    rw [power_of_neg 2 (Int.not_le.1 below), ← div_eq_mul_inv]
    exact ⟨by push_cast; rfl, _, rfl⟩

/-- A binary number has a decimal of exactly its value. -/
theorem toRat_toDecimal (negative : Bool) (significand : Nat) (exponent : Int) :
    (toDecimal (.finite negative significand exponent)).toRat =
      Decimal.signed negative significand * 2 ^ exponent := by
  obtain ⟨same, power, isPower⟩ := fraction_eq significand exponent
  unfold toDecimal
  dsimp only
  generalize (fraction significand exponent).1 = numerator at *
  generalize (fraction significand exponent).2 = denominator at *
  have divides : numerator.gcd denominator ∣ denominator := Nat.gcd_dvd_right ..
  have divides' : numerator.gcd denominator ∣ numerator := Nat.gcd_dvd_left ..
  have some : 0 < numerator.gcd denominator :=
    Nat.gcd_pos_of_pos_right _ (isPower ▸ Nat.pow_pos (by decide))
  generalize numerator.gcd denominator = common at *
  obtain ⟨reduced, rfl⟩ := divides
  obtain ⟨rest, rfl⟩ := divides'
  -- What is left of the denominator is a power of two, which as many fives make a power of ten.
  obtain ⟨places, -, isPlaces⟩ := (Nat.dvd_prime_pow Nat.prime_two).1 (Dvd.intro_left common isPower)
  rw [Nat.mul_div_cancel_left _ some, Nat.mul_div_cancel_left _ some, isPlaces, Nat.log2_two_pow]
  have magnitude : ((rest * 5 ^ places : Nat) : ℚ) * 10 ^ (-(places : Int)) = significand * 2 ^ exponent := by
    have positive : (common : ℚ) ≠ 0 := by exact_mod_cast some.ne'
    have ten : (10 : ℚ) ^ places = 2 ^ places * 5 ^ places := by rw [← mul_pow]; norm_num
    rw [← same, isPlaces, zpow_neg, zpow_natCast, ten]
    push_cast
    field_simp
  cases negative <;> simp [Decimal.toRat, Decimal.signed, ← magnitude]

end Binary64

namespace Value

open Decimal (Figure)

/-- The number that a value denotes. -/
inductive Denotes : Value → ℚ → Prop
  | integer (number : Int) : Denotes (.integer number) number
  | truth (holds : Bool) : Denotes (.truth holds) (if holds then 1 else 0)
  | decimal (negative : Bool) (coefficient : Nat) (exponent : Int) :
    Denotes (.decimal (.finite negative coefficient exponent))
      (Decimal.signed negative coefficient * 10 ^ exponent)
  | binary (negative : Bool) (significand : Nat) (exponent : Int) :
    Denotes (.binary (.finite negative significand exponent))
      (Decimal.signed negative significand * 2 ^ exponent)
  | text {content : String} (figure : Figure) (shown : figure.IsShownBy content.toList) :
    Denotes (.text content) figure.value

/-- Whether a value is a number or a text. -/
def isNumeric : Value → Bool
  | .integer _ | .truth _ | .decimal _ | .binary _ | .text _ => true
  | .absent | .list _ | .tuple _ | .mapping _ | .bytes _ => false

/-- Whether the digits of a text are within the limits of the exponent; other values have none. -/
def IsWithinLimits (given : Value) : Prop :=
  ∀ content, given = .text content →
    ∀ figure : Figure, figure.IsShownBy content.toList → figure.IsWithinLimits

/-- A value is read as exactly the number that it denotes, as far as the limits of the exponent go. -/
theorem exists_toDecimal {given : Value} {number : ℚ} (denotes : given.Denotes number)
    (within : given.IsWithinLimits) :
    ∃ read, given.toDecimal = .ok read ∧ read.isFinite = true ∧ read.toRat = number := by
  cases denotes with
  | integer number => exact ⟨_, rfl, rfl, Decimal.toRat_ofInt number⟩
  | truth holds => exact ⟨_, rfl, rfl, by cases holds <;> simp [Decimal.toRat_ofInt]⟩
  | decimal negative coefficient exponent => exact ⟨_, rfl, rfl, rfl⟩
  | binary negative significand exponent =>
    exact ⟨_, rfl, rfl, Binary64.toRat_toDecimal negative significand exponent⟩
  | @text content figure shown =>
    obtain ⟨read, isRead, finite, same⟩ := figure.exists_ofChars? shown (within content rfl figure shown)
    refine ⟨read, ?_, finite, same⟩
    rw [toDecimal, Decimal.ofText?, isRead]

/-- A text that is read as anything has its digits within the limits of the exponent. -/
theorem isWithinLimits_of_toDecimal {given : Value} {read : Decimal} (converted : given.toDecimal = .ok read) :
    given.IsWithinLimits := by
  rintro content rfl figure shown
  rw [toDecimal] at converted
  split at converted
  · next number isRead => exact (figure.of_ofChars? shown isRead).1
  · cases converted

/-- What denotes a number is not read as anything else. -/
theorem isFinite_of_denotes {given : Value} {number : ℚ} {read : Decimal} (denotes : given.Denotes number)
    (converted : given.toDecimal = .ok read) : read.isFinite = true := by
  obtain ⟨read', converted', finite, -⟩ := exists_toDecimal denotes (isWithinLimits_of_toDecimal converted)
  obtain rfl : read = read' := Except.ok.inj (converted.symm.trans converted')
  exact finite

/-- What a value is read as, if that is a finite number, is the number that it denotes. -/
theorem denotes_of_toDecimal {given : Value} {read : Decimal} (numeric : given.isNumeric = true)
    (converted : given.toDecimal = .ok read) (finite : read.isFinite = true) :
    given.Denotes read.toRat ∧ given.IsWithinLimits := by
  refine ⟨?_, isWithinLimits_of_toDecimal converted⟩
  cases given with
  | integer number =>
    obtain rfl := Except.ok.inj converted
    rw [Decimal.toRat_ofInt]
    exact .integer number
  | truth holds =>
    obtain rfl := Except.ok.inj converted
    rw [Decimal.toRat_ofInt]
    have same : (((if holds then 1 else 0 : Int) : Int) : ℚ) = if holds then 1 else 0 := by
      cases holds <;> rfl
    rw [same]
    exact .truth holds
  | decimal number =>
    obtain rfl := Except.ok.inj converted
    cases number with
    | finite negative coefficient exponent => exact .decimal negative coefficient exponent
    | infinite | notNumber => cases finite
  | binary number =>
    obtain rfl := Except.ok.inj converted
    cases number with
    | finite negative significand exponent =>
      rw [Binary64.toRat_toDecimal]
      exact .binary negative significand exponent
    | infinite | notNumber => cases finite
  | text content =>
    rw [toDecimal] at converted
    split at converted
    · next number isRead =>
      obtain rfl := Except.ok.inj converted
      obtain ⟨figure, shown⟩ := Decimal.exists_figure isRead finite
      rw [(figure.of_ofChars? shown isRead).2]
      exact .text figure shown
    · cases converted
  | absent | list | tuple | mapping | bytes => cases numeric

/-- A value denotes one number. -/
theorem Denotes.unique {given : Value} {number other : ℚ} (first : given.Denotes number)
    (second : given.Denotes other) : number = other := by
  cases first with
  | @text content figure shown =>
    cases second with
    | text other shown' =>
      obtain ⟨sign, coefficient, power⟩ := Figure.unique shown shown'
      rw [Figure.value, Figure.value, sign, coefficient, power]
  | integer | truth | decimal | binary => cases second; rfl

end Value

end Passbook
