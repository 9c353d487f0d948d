import Mathlib.Algebra.Order.Field.Power
import Mathlib.Algebra.Order.Ring.Rat
import Mathlib.Order.Compare
import Mathlib.Tactic.Positivity
import Passbook.Proofs.Money.Worth

/-!
The order of amounts as rational numbers. A magnitude lies between the power of ten at which it begins and
the next one, so what begins further left is larger (`Decimal.magnitude_lt`), and magnitudes that begin at
one place compare as their aligned coefficients. Main statement: finite decimals compare as the rational
numbers that they are (`Decimal.compare?_toRat`).
-/

set_option autoImplicit false
set_option relaxedAutoImplicit false

-- Powers are those of the core library, whatever else is imported.
attribute [local instance (high)] instPowNat

namespace Passbook.Decimal

/-- A magnitude ends before the place in front of its first digit. -/
theorem magnitude_lt_begin (coefficient : Nat) (exponent : Int) :
    (coefficient : ℚ) * 10 ^ exponent < 10 ^ (exponent + digitCount coefficient) := by
  have below : coefficient < 10 ^ digitCount coefficient :=
    (digitCount_le_iff (digitCount_pos coefficient)).1 (Nat.le_refl _)
  have below' : (coefficient : ℚ) < 10 ^ digitCount coefficient := by exact_mod_cast below
  rw [zpow_add₀ (by norm_num), zpow_natCast, mul_comm]
  exact mul_lt_mul_of_pos_left below' (by positivity)

/-- A magnitude reaches the place of its first digit. -/
theorem begin_le_magnitude {coefficient : Nat} (some : coefficient ≠ 0) (exponent : Int) :
    10 ^ (exponent + digitCount coefficient - 1) ≤ (coefficient : ℚ) * 10 ^ exponent := by
  have digits := digitCount_pos coefficient
  have reaches : (10 : ℚ) ^ (digitCount coefficient - 1) ≤ coefficient := by
    exact_mod_cast pow_digitCount_le some
  have place : exponent + digitCount coefficient - 1 =
      exponent + (digitCount coefficient - 1 : Nat) := by omega
  rw [place, zpow_add₀ (by norm_num), zpow_natCast, mul_comm]
  exact mul_le_mul_of_nonneg_right reaches (by positivity)

/-- Of two magnitudes the one that begins further left is the larger. -/
theorem magnitude_lt {coefficient₁ coefficient₂ : Nat} {exponent₁ exponent₂ : Int}
    (some : coefficient₂ ≠ 0)
    (left : exponent₁ + digitCount coefficient₁ < exponent₂ + digitCount coefficient₂) :
    (coefficient₁ : ℚ) * 10 ^ exponent₁ < coefficient₂ * 10 ^ exponent₂ :=
  calc (coefficient₁ : ℚ) * 10 ^ exponent₁
      < 10 ^ (exponent₁ + digitCount coefficient₁) := magnitude_lt_begin coefficient₁ exponent₁
    _ ≤ 10 ^ (exponent₂ + digitCount coefficient₂ - 1) :=
      zpow_le_zpow_right₀ (by norm_num) (by omega)
    _ ≤ coefficient₂ * 10 ^ exponent₂ := begin_le_magnitude some exponent₂

/-- Magnitudes that are brought to one exponent compare as their coefficients. -/
theorem compare_aligned (coefficient₁ coefficient₂ : Nat) {exponent₁ exponent₂ : Int}
    (above : exponent₂ ≤ exponent₁) :
    compare (coefficient₁ * 10 ^ (exponent₁ - exponent₂).toNat) coefficient₂ =
      cmp ((coefficient₁ : ℚ) * 10 ^ exponent₁) (coefficient₂ * 10 ^ exponent₂) := by
  have same : exponent₁ = ((exponent₁ - exponent₂).toNat : Int) + exponent₂ := by omega
  have aligned : (coefficient₁ : ℚ) * 10 ^ exponent₁ =
      (coefficient₁ * 10 ^ (exponent₁ - exponent₂).toNat : Nat) * 10 ^ exponent₂ := by
    conv_lhs => rw [same, zpow_add₀ (by norm_num), zpow_natCast, ← mul_assoc]
    norm_cast
  rw [aligned, cmp_mul_pos_right (by positivity), Nat.strictMono_cast.cmp_map_eq,
    cmp_eq_compare]

/-- Magnitudes compare as the rational numbers that they are. -/
theorem compareMagnitude_eq_cmp (coefficient₁ : Nat) (exponent₁ : Int) (coefficient₂ : Nat)
    (exponent₂ : Int) :
    compareMagnitude coefficient₁ exponent₁ coefficient₂ exponent₂ =
      cmp ((coefficient₁ : ℚ) * 10 ^ exponent₁) (coefficient₂ * 10 ^ exponent₂) := by
  unfold compareMagnitude
  have power (exponent : Int) : (0 : ℚ) < 10 ^ exponent := by positivity
  by_cases none₁ : coefficient₁ = 0
  · rw [if_pos none₁, none₁, Nat.cast_zero, zero_mul]
    by_cases none₂ : coefficient₂ = 0
    · rw [if_pos none₂, none₂, Nat.cast_zero, zero_mul, cmp_self_eq_eq]
    · have positive : (0 : ℚ) < coefficient₂ := by exact_mod_cast Nat.pos_of_ne_zero none₂
      rw [if_neg none₂]
      exact ((cmp_eq_lt_iff _ _).2 (mul_pos positive (power _))).symm
  · rw [if_neg none₁]
    by_cases none₂ : coefficient₂ = 0
    · have positive : (0 : ℚ) < coefficient₁ := by exact_mod_cast Nat.pos_of_ne_zero none₁
      rw [if_pos none₂, none₂, Nat.cast_zero, zero_mul]
      exact ((cmp_eq_gt_iff _ _).2 (mul_pos positive (power _))).symm
    · rw [if_neg none₂]
      by_cases left : exponent₁ + digitCount coefficient₁ < exponent₂ + digitCount coefficient₂
      · rw [if_pos left]
        exact ((cmp_eq_lt_iff _ _).2 (magnitude_lt none₂ left)).symm
      rw [if_neg left]
      by_cases right : exponent₂ + digitCount coefficient₂ < exponent₁ + digitCount coefficient₁
      · rw [if_pos right]
        exact ((cmp_eq_gt_iff _ _).2 (magnitude_lt none₁ right)).symm
      rw [if_neg right]
      by_cases above : exponent₂ ≤ exponent₁
      · rw [if_pos above, compare_aligned _ _ above]
      · rw [if_neg above, ← cmp_swap, ← compare_aligned _ _ (by omega), Nat.compare_swap]

theorem magnitude_eq_zero (coefficient : Nat) (exponent : Int) :
    (coefficient : ℚ) * 10 ^ exponent = 0 ↔ coefficient = 0 := by
  have power : (10 : ℚ) ^ exponent ≠ 0 := by positivity
  rw [mul_eq_zero, or_iff_left power, Nat.cast_eq_zero]

theorem toRat_finite (negative : Bool) (coefficient : Nat) (exponent : Int) :
    toRat (.finite negative coefficient exponent) =
      if negative then -(coefficient * 10 ^ exponent : ℚ) else coefficient * 10 ^ exponent := by
  cases negative <;> simp [toRat, signed]

/-- The signs decide how rational numbers compare, unless both magnitudes count and are of one sign. -/
theorem cmp_signed (negative₁ negative₂ : Bool) {magnitude₁ magnitude₂ : ℚ}
    {coefficient₁ coefficient₂ : Nat} (notBelow₁ : 0 ≤ magnitude₁) (notBelow₂ : 0 ≤ magnitude₂)
    (zero₁ : magnitude₁ = 0 ↔ coefficient₁ = 0) (zero₂ : magnitude₂ = 0 ↔ coefficient₂ = 0) :
    cmp (if negative₁ then -magnitude₁ else magnitude₁) (if negative₂ then -magnitude₂ else magnitude₂) =
      if coefficient₁ = 0 ∧ coefficient₂ = 0 then .eq
      else if coefficient₁ = 0 then (if negative₂ then .gt else .lt)
      else if coefficient₂ = 0 then (if negative₁ then .lt else .gt)
      else match negative₁, negative₂ with
        | false, false => cmp magnitude₁ magnitude₂
        | true, true => (cmp magnitude₁ magnitude₂).swap
        | true, false => .lt
        | false, true => .gt := by
  have unsigned (negative : Bool) : (if negative then -0 else 0 : ℚ) = 0 := by
    cases negative <;> simp
  rcases notBelow₁.eq_or_lt with rfl | positive₁ <;> rcases notBelow₂.eq_or_lt with rfl | positive₂
  · rw [unsigned, unsigned, if_pos ⟨zero₁.1 rfl, zero₂.1 rfl⟩, cmp_self_eq_eq]
  · have some₂ : coefficient₂ ≠ 0 := mt zero₂.2 positive₂.ne'
    have counts : ¬(coefficient₁ = 0 ∧ coefficient₂ = 0) := fun both ↦ some₂ both.2
    rw [unsigned, if_neg counts, if_pos (zero₁.1 rfl)]
    cases negative₂
    · exact (cmp_eq_lt_iff _ _).2 positive₂
    · exact (cmp_eq_gt_iff _ _).2 (neg_lt_zero.2 positive₂)
  · have some₁ : coefficient₁ ≠ 0 := mt zero₁.2 positive₁.ne'
    have counts : ¬(coefficient₁ = 0 ∧ coefficient₂ = 0) := fun both ↦ some₁ both.1
    rw [unsigned, if_neg counts, if_neg some₁, if_pos (zero₂.1 rfl)]
    cases negative₁
    · exact (cmp_eq_gt_iff _ _).2 positive₁
    · exact (cmp_eq_lt_iff _ _).2 (neg_lt_zero.2 positive₁)
  · have some₁ : coefficient₁ ≠ 0 := mt zero₁.2 positive₁.ne'
    have some₂ : coefficient₂ ≠ 0 := mt zero₂.2 positive₂.ne'
    have counts : ¬(coefficient₁ = 0 ∧ coefficient₂ = 0) := fun both ↦ some₁ both.1
    rw [if_neg counts, if_neg some₁, if_neg some₂]
    cases negative₁ <;> cases negative₂
    · rfl
    · exact (cmp_eq_gt_iff _ _).2 ((neg_lt_zero.2 positive₂).trans positive₁)
    · exact (cmp_eq_lt_iff _ _).2 ((neg_lt_zero.2 positive₁).trans positive₂)
    · have reversing : StrictAnti fun magnitude : ℚ ↦ -magnitude := fun _ _ ↦ neg_lt_neg
      exact (reversing.cmp_map_eq magnitude₁ magnitude₂).trans (cmp_swap _ _).symm

/-- Finite decimals compare as the rational numbers that they are. -/
theorem compare?_toRat {d e : Decimal} (finite : d.isFinite = true) (finite' : e.isFinite = true) :
    d.compare? e = some (cmp d.toRat e.toRat) := by
  cases d with
  | infinite | notNumber => cases finite
  | finite negative₁ coefficient₁ exponent₁ =>
  cases e with
  | infinite | notNumber => cases finite'
  | finite negative₂ coefficient₂ exponent₂ =>
  have signed := cmp_signed negative₁ negative₂ (by positivity) (by positivity)
    (magnitude_eq_zero coefficient₁ exponent₁) (magnitude_eq_zero coefficient₂ exponent₂)
  rw [← compareMagnitude_eq_cmp] at signed
  rw [toRat_finite, toRat_finite, signed]
  rfl

end Passbook.Decimal

namespace Passbook.Money

open Text (digitValues)

/-- What is not minuscule vanishes only if it is nothing. -/
theorem vanishes_cents (coefficient : Nat) : vanishes coefficient centExponent = (coefficient == 0) := by
  simp [vanishes, centExponent]

/-- The text of cents is compared to zero as the cents are. -/
theorem numericSign_text {number : Decimal} {cents : Int} (whole : number.cents? = some cents) :
    numericSign number.text = compare cents 0 := by
  obtain ⟨negative, coefficient, rfl, -, rfl⟩ := Decimal.cents?_eq_some whole
  obtain ⟨first, others, fraction, shape, plainWhole, plainFraction, places, denotes⟩ :=
    Decimal.chars_cents_split negative coefficient
  have digit : first.isDigit = true := plainWhole first List.mem_cons_self
  have noSpace : (Decimal.text (.finite negative coefficient centExponent)).toList.dropWhile isSpace =
      Decimal.signText negative ++ first :: (others ++ '.' :: fraction) := by
    rw [Decimal.text, String.toList_ofList, Decimal.dropWhile_of_forall, shape, List.cons_append]
    exact fun c member ↦
      (Decimal.isWritten_plain (Decimal.isWritten_of_mem_chars negative coefficient c member)).2
  have splitWhole := Decimal.splitDigits_append ('.' :: fraction) plainWhole
    fun c head ↦ by obtain rfl := Option.some.inj head; rfl
  have splitFraction := Decimal.splitDigits_append [] plainFraction fun c head ↦ by cases head
  rw [List.append_nil] at splitFraction
  unfold numericSign
  rw [noSpace, Decimal.splitSign_signText negative _ digit, ← List.cons_append]
  dsimp only
  rw [splitWhole]
  simp only [splitFraction]
  rw [← List.filterMap_append, denotes, Decimal.length_digitValues plainFraction, places]
  change (if vanishes coefficient centExponent = true then _ else _) = _
  rw [vanishes_cents]
  by_cases none : coefficient = 0
  · cases negative <;> simp [none, Decimal.signed]
  · have positive : (0 : Int) < coefficient := Int.natCast_pos.2 (Nat.pos_of_ne_zero none)
    rw [if_neg (by simpa using none)]
    cases negative with
    | false => exact (Int.compare_eq_gt.2 positive).symm
    | true => exact (Int.compare_eq_lt.2 (Int.neg_neg_of_pos positive)).symm

/-- The rule for balances is that cents are not below zero. -/
theorem balanceHolds_text {number : Decimal} {cents : Int} (whole : number.cents? = some cents) :
    balanceHolds number.text = true ↔ 0 ≤ cents := by
  rw [balanceHolds, numericSign_text whole, bne_iff_ne, ne_eq, Int.compare_eq_lt, Int.not_lt]

/-- The rule for transactions is that cents are above zero. -/
theorem amountHolds_text {number : Decimal} {cents : Int} (whole : number.cents? = some cents) :
    amountHolds number.text = true ↔ 0 < cents := by
  rw [amountHolds, numericSign_text whole, beq_iff_eq, Int.compare_eq_gt]

/-- What is no number is compared as nothing: its text has no digits where a number would begin. -/
theorem numericSign_notNumber {number : Decimal} (none : number.isNotNumber = true) :
    numericSign number.text = .eq := by
  cases number with
  | finite | infinite => cases none
  | notNumber negative signalling payload =>
    unfold numericSign
    rw [Decimal.text, String.toList_ofList]
    cases negative <;> cases signalling <;> rfl

/-- What a value is rounded to keeps the rule for balances unless it is below zero. -/
theorem balanceHolds_rounded {given : Value} {cents : Decimal} (brought : rounded given = .ok cents) :
    balanceHolds cents.text = true ↔
      cents.isNotNumber = true ∨ ∃ number, cents.cents? = some number ∧ 0 ≤ number := by
  obtain ⟨_, -, quantized⟩ := rounded_ok brought
  rcases Decimal.quantize_cents? quantized with ⟨number, whole⟩ | none
  · obtain ⟨_, _, rfl, -, -⟩ := Decimal.cents?_eq_some whole
    simp [balanceHolds_text whole, whole, Decimal.isNotNumber]
  · simp [balanceHolds, numericSign_notNumber none, none]

/-- What a value is rounded to keeps the rule for transactions if it is a number above zero. -/
theorem amountHolds_rounded {given : Value} {cents : Decimal} (brought : rounded given = .ok cents) :
    amountHolds cents.text = true ↔ ∃ number, cents.cents? = some number ∧ 0 < number := by
  obtain ⟨_, -, quantized⟩ := rounded_ok brought
  rcases Decimal.quantize_cents? quantized with ⟨number, whole⟩ | none
  · simp [amountHolds_text whole, whole]
  · cases cents with
    | finite | infinite => cases none
    | notNumber => simp [amountHolds, numericSign_notNumber none, Decimal.cents?]

end Passbook.Money
