import Mathlib.Data.Rat.Defs
import Mathlib.Tactic.NormNum
import Mathlib.Tactic.Ring
import Passbook.Proofs.Money.Cents

/-!
What amounts are worth as rational numbers. The cents of a decimal and of a column are exactly a hundred
times what they are worth (`Decimal.toRat_of_cents`, `Money.worth_of_storedCents`).
-/

set_option autoImplicit false
set_option relaxedAutoImplicit false

namespace Passbook

/-- The rational number that a decimal is; one that is no number is worth nothing. -/
def Decimal.toRat : Decimal → ℚ
  | .finite negative coefficient exponent => Decimal.signed negative coefficient * 10 ^ exponent
  | _ => 0

/-- A whole number is its magnitude with its sign. -/
theorem Decimal.signed_natAbs (number : Int) : signed (decide (number < 0)) number.natAbs = number := by
  unfold signed
  by_cases below : number < 0
  · rw [decide_eq_true below, if_pos rfl]
    omega
  · rw [decide_eq_false below, if_neg Bool.false_ne_true]
    omega

theorem Decimal.toRat_ofInt (number : Int) : (Decimal.ofInt number).toRat = number := by
  rw [Decimal.ofInt, Decimal.toRat, signed_natAbs, zpow_zero, mul_one]

/-- What the text in a column of amounts is worth. -/
def Money.worth (content : String) : ℚ :=
  match readText content with
  | .ok number => number.toRat
  | .error _ => 0

theorem Decimal.toRat_of_cents {number : Decimal} {cents : Int} (whole : number.cents? = some cents) :
    number.toRat = cents / 100 := by
  obtain ⟨negative, coefficient, rfl, -, rfl⟩ := Decimal.cents?_eq_some whole
  unfold Decimal.toRat Money.centExponent
  norm_num
  ring

/-- What a column keeps as cents is read as a number of them. -/
theorem Money.readText_of_storedCents {content : String} {cents : Int}
    (stored : Money.storedCents? content = some cents) :
    ∃ number, Money.readText content = .ok number ∧ number.isFinite = true ∧
      number.toRat = cents / 100 := by
  unfold Money.storedCents? at stored
  split at stored
  · next number read =>
    refine ⟨number, read, ?_, Decimal.toRat_of_cents stored⟩
    obtain ⟨_, _, rfl, -, -⟩ := Decimal.cents?_eq_some stored
    rfl
  · cases stored

theorem Money.worth_of_storedCents {content : String} {cents : Int}
    (stored : Money.storedCents? content = some cents) : Money.worth content = cents / 100 := by
  obtain ⟨number, read, -, worth⟩ := Money.readText_of_storedCents stored
  rw [Money.worth, read]
  exact worth

end Passbook
