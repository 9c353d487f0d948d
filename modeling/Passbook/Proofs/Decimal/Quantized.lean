import Passbook.Proofs.Binary64.Nearest
import Passbook.Proofs.Money.Order

/-!
What a decimal is brought to at a given exponent. Its digits are moved, or those behind the exponent are
dropped (`brought`), and there is a result exactly if what is left is within the precision
(`quantize_finite`). Dropping digits to the nearest neighbour is rounding to the nearest whole number of
units, a tie to the even one (`isRoundedEven_brought`), and neither way of dropping them changes a whole
number of units (`brought_of_whole`).
-/

set_option autoImplicit false
set_option relaxedAutoImplicit false

-- Powers are those of the core library, whatever else is imported.
attribute [local instance (high)] instPowNat

namespace Passbook

/-- A whole number that is nearest to a rational number, and the even one of two that are. -/
structure IsRoundedEven (x : ℚ) (rounded : ℤ) : Prop where
  near : |x - rounded| ≤ 1 / 2
  even : |x - rounded| = 1 / 2 → rounded % 2 = 0

namespace IsRoundedEven

variable {x : ℚ} {rounded other : ℤ}

/-- Of two whole numbers a half away one on each side only one is even. -/
theorem le_of_isRoundedEven (first : IsRoundedEven x rounded) (second : IsRoundedEven x other) :
    rounded ≤ other := by
  by_contra above
  have step : (other : ℚ) + 1 ≤ rounded := by exact_mod_cast Int.not_le.1 above
  have reaches := (abs_le.1 first.near).1
  have reaches' := (abs_le.1 second.near).2
  have behind : x - rounded = -(1 / 2) := by linarith
  have before : x - other = 1 / 2 := by linarith
  have next : (rounded : ℚ) = (other + 1 : ℤ) := by push_cast; linarith
  have next : rounded = other + 1 := by exact_mod_cast next
  have even := first.even (by rw [behind]; norm_num)
  have even' := second.even (by rw [before]; norm_num)
  omega

/-- There is only one such whole number. -/
theorem unique (first : IsRoundedEven x rounded) (second : IsRoundedEven x other) : rounded = other :=
  Int.le_antisymm (first.le_of_isRoundedEven second) (second.le_of_isRoundedEven first)

/-- A whole number is rounded to itself. -/
theorem of_whole (number : ℤ) : IsRoundedEven number number where
  near := by rw [sub_self, abs_zero]; norm_num
  even tie := by rw [sub_self, abs_zero] at tie; norm_num at tie

theorem neg (isRounded : IsRoundedEven x rounded) : IsRoundedEven (-x) (-rounded) := by
  have distance : |(-x) - (-rounded : ℤ)| = |x - rounded| := by
    rw [← abs_neg]
    push_cast
    ring_nf
  refine ⟨distance ▸ isRounded.near, fun tie ↦ ?_⟩
  have isEven := isRounded.even (distance ▸ tie)
  omega

end IsRoundedEven

namespace Decimal

/-! ### Dropping digits -/

theorem dropDigits_towardZero (coefficient places : Nat) :
    dropDigits .towardZero coefficient places = coefficient / 10 ^ places := by
  unfold dropDigits
  split
  · next few =>
    have some := digitCount_pos coefficient
    rw [Nat.div_eq_of_lt ((digitCount_le_iff (by omega)).1 (Nat.le_of_lt few))]
  · rfl

/-- Dropping more digits than there are leaves less than a tenth of a unit, which is nothing. -/
theorem dropDigits_toEven (coefficient places : Nat) :
    dropDigits .toEven coefficient places = Binary64.roundEven coefficient (10 ^ places) := by
  unfold dropDigits Binary64.roundEven
  split
  · next few =>
    have some := digitCount_pos coefficient
    obtain ⟨fewer, rfl⟩ : ∃ fewer, places = fewer + 1 := Nat.exists_eq_add_one.2 (by omega)
    have tenth := (digitCount_le_iff (by omega)).1 (Nat.le_of_lt_succ few)
    have below : 10 * coefficient < 10 ^ (fewer + 1) := by
      rw [Nat.pow_succ]
      omega
    rw [Nat.div_eq_of_lt (by omega), Nat.mod_eq_of_lt (by omega), if_neg (by omega)]
  · rfl

/-- The units of `10 ^ target` that are left of a magnitude. -/
def brought (mode : Rounding) (target : Int) (coefficient : Nat) (exponent : Int) : Nat :=
  if target ≤ exponent then coefficient * 10 ^ (exponent - target).toNat
  else dropDigits mode coefficient (target - exponent).toNat

/-- A finite decimal is brought to an exponent if what is left of it is within the precision. -/
theorem quantize_finite (mode : Rounding) (target : Int) (negative : Bool) (coefficient : Nat)
    (exponent : Int) :
    quantize mode target (.finite negative coefficient exponent) =
      if digitCount (brought mode target coefficient exponent) ≤ precision then
        some (.finite negative (brought mode target coefficient exponent) target)
      else none := by
  unfold quantize brought
  by_cases zero : coefficient = 0
  · have kept : dropDigits mode 0 (target - exponent).toNat = 0 := by
      cases mode with
      | towardZero => rw [dropDigits_towardZero, Nat.zero_div]
      | toEven => simp [dropDigits_toEven, Binary64.roundEven]
    have nothing : (if target ≤ exponent then 0 * 10 ^ (exponent - target).toNat
        else dropDigits mode 0 (target - exponent).toNat) = 0 := by
      rw [Nat.zero_mul, kept, ite_self]
    rw [zero, nothing]
    rfl
  · dsimp only
    rw [if_neg zero]
    split
    · rw [digitCount_mul_pow zero]
    · rfl

/-- Digits that are dropped are rounded to the nearest whole number of units, a tie to the even one. -/
theorem isRoundedEven_brought (target : Int) (coefficient : Nat) (exponent : Int) :
    IsRoundedEven (coefficient * 10 ^ (exponent - target)) (brought .toEven target coefficient exponent) := by
  unfold brought
  split
  · next above =>
    have whole : (coefficient : ℚ) * 10 ^ (exponent - target) =
        ((coefficient * 10 ^ (exponent - target).toNat : Nat) : Int) := by
      rw [power_of_nonneg 10 (by omega)]
      push_cast
      rfl
    rw [whole]
    exact .of_whole _
  · next below =>
    obtain ⟨reaches, reaches', even⟩ := Binary64.roundEven_units coefficient
      (Nat.pow_pos (by decide) : 0 < 10 ^ (target - exponent).toNat)
    have units : (coefficient : ℚ) * 10 ^ (exponent - target) =
        coefficient / (10 ^ (target - exponent).toNat : Nat) := by
      rw [power_of_neg 10 (by omega), neg_sub, ← div_eq_mul_inv]
      push_cast
      rfl
    rw [dropDigits_toEven, units]
    generalize Binary64.roundEven coefficient _ = rounded at *
    generalize (coefficient : ℚ) / _ = x at *
    refine ⟨?_, fun tie ↦ ?_⟩
    · rw [Int.cast_natCast, abs_le]
      constructor <;> linarith
    · rw [Int.cast_natCast] at tie
      have ends := eq_or_eq_neg_of_abs_eq tie
      have isEven := even (ends.symm.imp (fun _ ↦ by linarith) fun _ ↦ by linarith)
      omega

/-- Neither way of dropping digits changes a whole number of units. -/
theorem brought_of_whole (mode : Rounding) {target : Int} {coefficient whole : Nat} {exponent : Int}
    (same : (coefficient : ℚ) * 10 ^ (exponent - target) = whole) :
    brought mode target coefficient exponent = whole := by
  unfold brought
  split
  · rw [power_of_nonneg 10 (by omega)] at same
    exact_mod_cast same
  · have multiple : coefficient = whole * 10 ^ (target - exponent).toNat := by
      rw [power_of_neg 10 (by omega), neg_sub, ← div_eq_mul_inv, div_eq_iff (by positivity)] at same
      exact_mod_cast same
    have some : 0 < 10 ^ (target - exponent).toNat := Nat.pow_pos (by decide)
    rw [multiple]
    cases mode with
    | towardZero => rw [dropDigits_towardZero, Nat.mul_div_cancel _ some]
    | toEven =>
      rw [dropDigits_toEven, Binary64.roundEven, Nat.mul_div_cancel _ some, Nat.mul_mod_left, if_neg]
      omega

/-- What was brought to an exponent as a number was a number. -/
theorem isFinite_of_quantize {mode : Rounding} {target : Int} {d cents : Decimal}
    (brought : d.quantize mode target = some cents) (finite : cents.isFinite = true) : d.isFinite = true := by
  cases d with
  | finite => rfl
  | infinite => cases brought
  | notNumber negative signalling payload =>
    simp only [quantize, passOn] at brought
    split at brought
    · cases brought
    · obtain rfl := Option.some.inj brought
      cases finite

/-- A finite decimal that is brought to cents is rounded to the nearest whole number of them, a tie to the
even one. -/
theorem isRoundedEven_of_quantize {d cents : Decimal} (finite : d.isFinite = true)
    (brought : d.quantize .toEven Money.centExponent = some cents) :
    ∃ units, cents.cents? = some units ∧ IsRoundedEven (d.toRat * 100) units := by
  cases d with
  | infinite | notNumber => cases finite
  | finite negative coefficient exponent =>
    rw [quantize_finite] at brought
    split at brought
    · next short =>
      obtain rfl := Option.some.inj brought
      refine ⟨_, cents?_finite negative short, ?_⟩
      have magnitude := isRoundedEven_brought Money.centExponent coefficient exponent
      have units : (coefficient : ℚ) * 10 ^ (exponent - Money.centExponent) =
          coefficient * 10 ^ exponent * 100 := by
        rw [Money.centExponent, sub_neg_eq_add, zpow_add₀ (by norm_num)]
        norm_num
        ring
      rw [units] at magnitude
      rw [toRat_finite]
      cases negative with
      | false => exact magnitude
      | true =>
        rw [if_pos rfl, neg_mul]
        exact magnitude.neg
    · cases brought

end Decimal

end Passbook
