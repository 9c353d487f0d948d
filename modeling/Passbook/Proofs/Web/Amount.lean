import Passbook.Proofs.Binary64.Text
import Passbook.Proofs.Json.Literal
import Passbook.Proofs.Procedure
import Passbook.Web.Field

/-!
Which amount a number literal is taken for. A literal without fraction and exponent is taken for what it
denotes, and any other for what the shortest text of the closest binary number denotes (`Literal.taken`). An
amount that the field accepts is positive and a whole number of cents (`amount_cents`), and it is what the
literal is taken for (`Literal.toRat_amount`). Main statements: that is what the literal denotes if this is fewer
than `2 ^ 52` units of some power of ten (`Literal.taken_eq_value`), as it is with up to fifteen digits
(`Literal.isShort_of_coefficient`), and less than one part in `2 ^ 51` off in any case (`Literal.taken_close`).
-/

set_option autoImplicit false
set_option relaxedAutoImplicit false

-- Powers are those of the core library, whatever else is imported.
attribute [local instance (high)] instPowNat

namespace Passbook

namespace Decimal

/-- Zeros at the end of a coefficient can be put back. -/
theorem stripZeros_eq (most coefficient : Nat) :
    (stripZeros most coefficient).2 ≤ most ∧
      coefficient = (stripZeros most coefficient).1 * 10 ^ (stripZeros most coefficient).2 := by
  induction most generalizing coefficient with
  | zero => exact ⟨Nat.le_refl 0, (Nat.mul_one coefficient).symm⟩
  | succ most ih =>
    unfold stripZeros
    split
    · next zero =>
      obtain ⟨le, same⟩ := ih (coefficient / 10)
      refine ⟨Nat.succ_le_succ le, ?_⟩
      dsimp only
      rw [Nat.pow_succ, ← Nat.mul_assoc, ← same]
      omega
    · exact ⟨Nat.zero_le _, (Nat.mul_one coefficient).symm⟩

end Decimal

namespace Web

/-- A rational number that is a whole number of cents. -/
def IsCents (x : ℚ) : Prop := ∃ cents : Int, x = cents / 100

/-- A decimal that needs two places at most is a whole number of cents. -/
theorem isCents_of_neededPlaces {number : Decimal} (finite : number.isFinite = true)
    (few : neededPlaces number ≤ 2) : IsCents number.toRat := by
  cases number with
  | infinite | notNumber => cases finite
  | finite negative coefficient exponent =>
  obtain ⟨count, same⟩ : ∃ count : Nat, (coefficient : ℚ) * 10 ^ exponent = count / 100 := by
    by_cases none : coefficient = 0
    · exact ⟨0, by simp [none]⟩
    obtain ⟨le, restored⟩ := Decimal.stripZeros_eq (-exponent).toNat coefficient
    simp only [neededPlaces, if_neg none] at few
    generalize Decimal.stripZeros (-exponent).toNat coefficient = stripped at *
    have notBelow : 0 ≤ exponent + stripped.2 + 2 := by omega
    refine ⟨stripped.1 * 10 ^ (exponent + stripped.2 + 2).toNat, ?_⟩
    have raised : (10 : ℚ) ^ exponent * 10 ^ stripped.2 * 100 = 10 ^ (exponent + stripped.2 + 2) := by
      rw [zpow_add₀ (by norm_num), zpow_add₀ (by norm_num), zpow_natCast]
      norm_num
    conv_lhs => rw [restored]
    push_cast
    rw [← power_of_nonneg 10 notBelow, ← raised]
    ring
  refine ⟨Decimal.signed negative count, ?_⟩
  rw [Decimal.toRat_finite, same]
  cases negative <;> simp [Decimal.signed]
  ring

/-- What the field accepts is a finite decimal, positive, and a whole number of cents. -/
theorem amount_cents {found : Json} {number : Decimal} (accepted : amount found = .ok number) :
    decimalOf found = .ok number ∧ number.isFinite = true ∧ 0 < number.toRat ∧
      IsCents number.toRat := by
  unfold amount at accepted
  obtain ⟨taken, read, accepted⟩ := ok_of_bind_except accepted
  cases finite : taken.isFinite with
  | false =>
    rw [finite] at accepted
    cases accepted
  | true =>
    by_cases many : 2 < neededPlaces taken
    · simp only [finite, many] at accepted
      cases accepted
    · by_cases positive : taken.compare? .zero = some .gt
      · simp only [finite, many, positive] at accepted
        obtain rfl := Except.ok.inj accepted
        refine ⟨read, finite, ?_, isCents_of_neededPlaces finite (Nat.le_of_not_lt many)⟩
        rw [Decimal.compare?_toRat finite rfl] at positive
        have above := (cmp_eq_gt_iff _ _).1 (Option.some.inj positive)
        simpa [Decimal.zero, Decimal.toRat_finite] using above
      · simp only [finite, many, positive] at accepted
        cases accepted

end Web

namespace Json.Literal

variable (literal : Literal)

/-- The number that a literal is taken for: without fraction and exponent the one that it denotes, and
otherwise the one that the shortest text of the closest binary number denotes. -/
def taken : ℚ :=
  if literal.isWhole then literal.value
  else
    (Binary64.ofDecimal literal.negative literal.numeral.coefficient literal.numeral.power).shown

variable {literal}

/-- An amount that the field accepts is what the literal is taken for. -/
theorem toRat_amount {found : Json} (read : literal.IsReadAs found) {number : Decimal}
    (accepted : Web.amount found = .ok number) : number.toRat = literal.taken := by
  obtain ⟨decimal, finite, -, -⟩ := Web.amount_cents accepted
  have given := literal.isReadAs_iff.1 read
  unfold reading at given
  unfold taken
  split at given
  · next whole =>
    rw [if_pos whole, literal.value_of_isWhole whole]
    split at given
    · cases given
    · obtain rfl := Except.ok.inj given
      obtain rfl := Except.ok.inj decimal
      exact Decimal.toRat_ofInt _
  · next broken =>
    rw [if_neg broken]
    obtain rfl := Except.ok.inj given
    refine Binary64.toRat_of_ofText? ?_ finite
    simp only [Web.decimalOf] at decimal
    split at decimal
    · next found =>
      rw [found, Except.ok.inj decimal]
    · cases decimal

/-- A literal with a fraction or an exponent that is taken for a cent or more is positive, and taken for the
shortest digits of a binary number near it that has all its bits. -/
theorem taken_near (broken : literal.isWhole = false) (some : 1 / 100 ≤ literal.taken) :
    literal.value = literal.numeral.value ∧ ∃ significand exponent,
      Binary64.IsNear significand exponent literal.value ∧ 2 ^ 52 ≤ significand ∧
      literal.taken = (Binary64.shortest significand exponent).1 *
        10 ^ (Binary64.shortest significand exponent).2 := by
  unfold taken at some ⊢
  rw [broken, if_neg Bool.false_ne_true] at some ⊢
  cases closest : Binary64.ofDecimal literal.negative literal.numeral.coefficient
      literal.numeral.power with
  | infinite | notNumber =>
    rw [closest] at some
    norm_num [Binary64.shown] at some
  | finite negative significand exponent =>
    rw [closest] at some
    by_cases none : significand = 0
    · norm_num [Binary64.shown, none] at some
    have positive : 0 < significand := Nat.pos_of_ne_zero none
    obtain ⟨sign, near⟩ := Binary64.ofDecimal_isNear positive closest
    simp only [Binary64.shown, if_neg none] at some ⊢
    have has := Binary64.shortest_has exponent positive near.short
    have notBelow : (0 : ℚ) ≤ (Binary64.shortest significand exponent).1 *
        10 ^ (Binary64.shortest significand exponent).2 := by positivity
    obtain rfl : negative = false := by
      cases negative with
      | false => rfl
      | true =>
        rw [if_pos rfl] at some
        linarith
    rw [if_neg Bool.false_ne_true] at some ⊢
    have value : literal.value = literal.numeral.value := by
      rw [Literal.value, ← sign, if_neg Bool.false_ne_true]
    refine ⟨value, significand, exponent, value ▸ near, near.full.resolve_right fun least ↦ ?_, rfl⟩
    -- At the least exponent nothing comes near a cent.
    have most := has.between.2
    rw [Binary64.highest_neighbourhood] at most
    have short : (significand : ℚ) + 1 / 2 ≤ 2 ^ 53 + 1 / 2 := by
      have short := near.short.le
      exact add_le_add_left (by exact_mod_cast short) _
    have unit : (2 : ℚ) ^ exponent ≤ 2 ^ (-100 : Int) :=
      zpow_le_zpow_right₀ (by norm_num) (by rw [least]; decide)
    have tiny := mul_le_mul short unit (by positivity) (by positivity)
    norm_num at tiny
    linarith

variable (literal) in
/-- A literal without fraction and exponent, or one of which the digits denote fewer than `2 ^ 52` units of some
power of ten. -/
def IsShort : Prop :=
  literal.isWhole = true ∨ ∃ (count : Nat) (power : Int), count < 2 ^ 52 ∧
    literal.numeral.value = count * 10 ^ power

/-- A literal of no more than fifteen digits is short. -/
theorem isShort_of_coefficient (few : literal.numeral.coefficient < 10 ^ 15) : literal.IsShort :=
  Or.inr ⟨literal.numeral.coefficient, literal.numeral.power, Nat.lt_trans few (by decide), rfl⟩

/-- What a short literal is taken for is what it denotes. -/
theorem taken_eq_value (short : literal.IsShort) (some : 1 / 100 ≤ literal.taken) :
    literal.taken = literal.value := by
  by_cases whole : literal.isWhole = true
  · exact if_pos whole
  · obtain ⟨value, significand, exponent, near, full, taken⟩ :=
      taken_near (Bool.eq_false_iff.2 whole) some
    obtain ⟨count, power, few, units⟩ := short.resolve_left whole
    rw [value, units] at near
    rw [taken, value, units, near.shortest_exact full few]

/-- What a literal is taken for is less than one part in `2 ^ 51` off. -/
theorem taken_close (some : 1 / 100 ≤ literal.taken) :
    2 ^ 51 * |literal.taken - literal.value| < literal.value := by
  by_cases whole : literal.isWhole = true
  · have same : literal.taken = literal.value := if_pos whole
    rw [← same, sub_self, abs_zero, mul_zero]
    linarith
  · obtain ⟨-, significand, exponent, near, full, taken⟩ :=
      taken_near (Bool.eq_false_iff.2 whole) some
    rw [taken]
    exact near.shortest_close full

end Json.Literal

end Passbook
