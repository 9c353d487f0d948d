import Mathlib.Algebra.Order.Field.Power
import Mathlib.Algebra.Order.Ring.Rat
import Mathlib.Tactic.FieldSimp
import Mathlib.Tactic.Linarith
import Mathlib.Tactic.NormNum
import Mathlib.Tactic.Positivity
import Mathlib.Tactic.Ring
import Passbook.Binary64.Shortest

/-!
What rounding to a binary number keeps. A fraction is brought to the exponent at which the significand has
the full number of bits (`fittingExponent_fits`) and rounded to a whole significand there
(`roundEven_units`), so the binary number that it becomes has the fraction in its neighbourhood. Main
statements: `nearest_isNear` for a fraction, and `ofDecimal_isNear` for a decimal.
-/

set_option autoImplicit false
set_option relaxedAutoImplicit false

-- Powers are those of the core library, whatever else is imported.
attribute [local instance (high)] instPowNat

namespace Passbook

theorem power_of_nonneg (base : ℚ) {exponent : Int} (notBelow : 0 ≤ exponent) :
    base ^ exponent = base ^ exponent.toNat := by
  rw [← zpow_natCast, Int.toNat_of_nonneg notBelow]

theorem power_of_neg (base : ℚ) {exponent : Int} (below : exponent < 0) :
    base ^ exponent = (base ^ (-exponent).toNat)⁻¹ := by
  rw [← zpow_natCast, ← zpow_neg, Int.toNat_of_nonneg (by omega), neg_neg]

namespace Binary64

/-! ### Neighbourhoods as intervals -/

namespace Neighbourhood

variable (n : Neighbourhood)

/-- The lower bound. -/
def lowest : ℚ := n.low / n.denominator

/-- The number whose neighbourhood it is. -/
def middle : ℚ := n.value / n.denominator

/-- The upper bound. -/
def highest : ℚ := n.high / n.denominator

/-- Whether a number lies between the bounds, or on one of them if they belong to the neighbourhood. -/
def Has (x : ℚ) : Prop :=
  if n.closed then n.lowest ≤ x ∧ x ≤ n.highest else n.lowest < x ∧ x < n.highest

variable {n}

theorem Has.between {x : ℚ} (has : n.Has x) : n.lowest ≤ x ∧ x ≤ n.highest := by
  unfold Has at has
  split at has
  · exact has
  · exact ⟨has.1.le, has.2.le⟩

theorem has_of_inside {x : ℚ} (above : n.lowest < x) (below : x < n.highest) : n.Has x := by
  unfold Has
  split
  · exact ⟨above.le, below.le⟩
  · exact ⟨above, below⟩

/-- What lies between two numbers of a neighbourhood is in it too. -/
theorem Has.convex {x y z : ℚ} (first : n.Has x) (second : n.Has z) (le : x ≤ y) (le' : y ≤ z) :
    n.Has y := by
  unfold Has at *
  split
  · next closed =>
    rw [if_pos closed] at first second
    exact ⟨first.1.trans le, le'.trans second.2⟩
  · next isOpen =>
    rw [if_neg isOpen] at first second
    exact ⟨first.1.trans_le le, le'.trans_lt second.2⟩

/-- Two numbers of a neighbourhood are no further apart than its bounds. -/
theorem Has.distance {x y : ℚ} (first : n.Has x) (second : n.Has y) :
    |x - y| ≤ n.highest - n.lowest := by
  obtain ⟨above, below⟩ := first.between
  obtain ⟨above', below'⟩ := second.between
  rw [abs_le]
  constructor <;> linarith

/-- The test for a fraction is the one for the rational number that it is. -/
theorem holds_iff (some : 0 < n.denominator) (numerator : Nat) {denominator : Nat}
    (some' : 0 < denominator) :
    n.holds numerator denominator = true ↔ n.Has (numerator / denominator) := by
  have positive : (0 : ℚ) < n.denominator := by exact_mod_cast some
  have positive' : (0 : ℚ) < denominator := by exact_mod_cast some'
  unfold holds Has lowest highest
  dsimp only
  split
  · rw [div_le_div_iff₀ positive positive', div_le_div_iff₀ positive' positive, Bool.and_eq_true,
      decide_eq_true_iff, decide_eq_true_iff]
    norm_cast
  · rw [div_lt_div_iff₀ positive positive', div_lt_div_iff₀ positive' positive, Bool.and_eq_true,
      decide_eq_true_iff, decide_eq_true_iff]
    norm_cast

end Neighbourhood

/-- Whether the lower bound of a number is nearer than the upper one: a power of two above the least. -/
def IsNarrow (significand : Nat) (exponent : Int) : Prop :=
  significand = 2 ^ (bits - 1) ∧ minExponent < exponent

instance (significand : Nat) (exponent : Int) : Decidable (IsNarrow significand exponent) :=
  inferInstanceAs (Decidable (_ ∧ _))

section neighbourhood

variable (significand : Nat) (exponent : Int)

/-- The numerators of a neighbourhood are quarters of a unit in the last place of its number. -/
theorem neighbourhood_eq : ∃ scale denominator : Nat, 0 < denominator ∧
    (scale : ℚ) / denominator = 2 ^ exponent / 4 ∧
    neighbourhood significand exponent =
      { low := (4 * significand - if IsNarrow significand exponent then 1 else 2) * scale
        value := 4 * significand * scale
        high := (4 * significand + 2) * scale
        denominator := denominator
        closed := significand % 2 = 0 } := by
  by_cases notBelow : 0 ≤ exponent
  · have unit : ((2 ^ exponent.toNat : Nat) : ℚ) / (4 : Nat) = 2 ^ exponent / 4 := by
      rw [power_of_nonneg 2 notBelow]
      push_cast
      rfl
    refine ⟨2 ^ exponent.toNat, 4, by decide, unit, ?_⟩
    simp only [neighbourhood, if_pos notBelow]
    rfl
  · have unit : ((1 : Nat) : ℚ) / (4 * 2 ^ (-exponent).toNat : Nat) = 2 ^ exponent / 4 := by
      rw [power_of_neg 2 (by omega)]
      push_cast
      ring
    refine ⟨1, 4 * 2 ^ (-exponent).toNat, by positivity, unit, ?_⟩
    simp only [neighbourhood, if_neg notBelow]
    rfl

theorem neighbourhood_denominator_pos : 0 < (neighbourhood significand exponent).denominator := by
  obtain ⟨scale, denominator, positive, -, same⟩ := neighbourhood_eq significand exponent
  rw [same]
  exact positive

theorem middle_neighbourhood :
    (neighbourhood significand exponent).middle = significand * 2 ^ exponent := by
  obtain ⟨scale, denominator, -, unit, same⟩ := neighbourhood_eq significand exponent
  have whole : (neighbourhood significand exponent).middle = 4 * significand * (scale / denominator) := by
    simp only [same, Neighbourhood.middle]
    push_cast
    ring
  rw [whole, unit]
  ring

theorem highest_neighbourhood :
    (neighbourhood significand exponent).highest = (significand + 1 / 2) * 2 ^ exponent := by
  obtain ⟨scale, denominator, -, unit, same⟩ := neighbourhood_eq significand exponent
  have whole : (neighbourhood significand exponent).highest =
      (4 * significand + 2) * (scale / denominator) := by
    simp only [same, Neighbourhood.highest]
    push_cast
    ring
  rw [whole, unit]
  ring

/-- The lower bound is half a unit below the number, or a quarter. -/
theorem lowest_neighbourhood (some : 0 < significand) :
    (neighbourhood significand exponent).lowest =
      (significand - if IsNarrow significand exponent then 1 / 4 else 1 / 2) * 2 ^ exponent := by
  obtain ⟨scale, denominator, -, unit, same⟩ := neighbourhood_eq significand exponent
  have whole : (neighbourhood significand exponent).lowest =
      (4 * significand - if IsNarrow significand exponent then 1 else 2) * (scale / denominator) := by
    simp only [same, Neighbourhood.lowest]
    split
    · rw [Nat.cast_mul, Nat.cast_sub (by omega)]
      push_cast
      ring
    · rw [Nat.cast_mul, Nat.cast_sub (by omega)]
      push_cast
      ring
  rw [whole, unit]
  split <;> ring

end neighbourhood

/-! ### Rounding -/

/-- A fraction lies no further than a half from the whole number that it is rounded to, and just a half
only if that is even. -/
theorem roundEven_bounds (numerator : Nat) {denominator : Nat} (some : 0 < denominator) :
    let rounded := roundEven numerator denominator
    2 * (rounded * denominator) ≤ 2 * numerator + denominator ∧
      2 * numerator ≤ 2 * (rounded * denominator) + denominator ∧
      (2 * (rounded * denominator) = 2 * numerator + denominator ∨
        2 * numerator = 2 * (rounded * denominator) + denominator → rounded % 2 = 0) := by
  have parts := Nat.div_add_mod' numerator denominator
  have rest := Nat.mod_lt numerator some
  unfold roundEven
  dsimp only
  split
  · rw [Nat.add_mul, Nat.one_mul]
    omega
  · omega

theorem scaled_pos {numerator denominator : Nat} (some : 0 < numerator) (some' : 0 < denominator)
    (exponent : Int) :
    0 < (scaled numerator denominator exponent).1 ∧ 0 < (scaled numerator denominator exponent).2 := by
  unfold scaled
  split
  · exact ⟨some, by positivity⟩
  · exact ⟨by positivity, some'⟩

theorem scaled_eq (numerator denominator : Nat) (exponent : Int) :
    ((scaled numerator denominator exponent).1 : ℚ) / (scaled numerator denominator exponent).2 =
      numerator / denominator / 2 ^ exponent := by
  unfold scaled
  split
  · next notBelow =>
    rw [power_of_nonneg 2 notBelow]
    push_cast
    rw [div_div]
  · next below =>
    rw [power_of_neg 2 (by omega)]
    push_cast
    rw [div_inv_eq_mul]
    ring

/-- The bits of numerator and denominator bound a fraction. -/
theorem quotient_bounds {numerator denominator : Nat} (some : 0 < numerator)
    (some' : 0 < denominator) :
    let place : Int := (numerator.log2 : Int) - denominator.log2
    (2 : ℚ) ^ (place - 1) < numerator / denominator ∧
      (numerator : ℚ) / denominator < 2 ^ (place + 1) := by
  have positive : (0 : ℚ) < denominator := by exact_mod_cast some'
  have low : (2 : ℚ) ^ (numerator.log2 : Int) ≤ numerator := by
    rw [zpow_natCast]
    exact_mod_cast Nat.log2_self_le some.ne'
  have high : (numerator : ℚ) < 2 ^ ((numerator.log2 : Int) + 1) := by
    rw [← Nat.cast_succ, zpow_natCast]
    exact_mod_cast Nat.lt_log2_self
  have low' : (2 : ℚ) ^ (denominator.log2 : Int) ≤ denominator := by
    rw [zpow_natCast]
    exact_mod_cast Nat.log2_self_le some'.ne'
  have high' : (denominator : ℚ) < 2 ^ ((denominator.log2 : Int) + 1) := by
    rw [← Nat.cast_succ, zpow_natCast]
    exact_mod_cast Nat.lt_log2_self
  constructor
  · rw [lt_div_iff₀ positive]
    calc (2 : ℚ) ^ ((numerator.log2 : Int) - denominator.log2 - 1) * denominator
        < 2 ^ ((numerator.log2 : Int) - denominator.log2 - 1) * 2 ^ ((denominator.log2 : Int) + 1) :=
          mul_lt_mul_of_pos_left high' (by positivity)
      _ = 2 ^ (numerator.log2 : Int) := by
          rw [← zpow_add₀ (by norm_num)]
          congr 1
          omega
      _ ≤ numerator := low
  · rw [div_lt_iff₀ positive]
    calc (numerator : ℚ) < 2 ^ ((numerator.log2 : Int) + 1) := high
      _ = 2 ^ ((numerator.log2 : Int) - denominator.log2 + 1) * 2 ^ (denominator.log2 : Int) := by
          rw [← zpow_add₀ (by norm_num)]
          congr 1
          omega
      _ ≤ 2 ^ ((numerator.log2 : Int) - denominator.log2 + 1) * denominator :=
          mul_le_mul_of_nonneg_left low' (by positivity)

/-- Either the exponent that is guessed from the numbers of bits fits or the next one does, and no exponent is
below the least. -/
theorem fittingExponent_eq {numerator denominator : Nat} (some : 0 < numerator)
    (some' : 0 < denominator) :
    ∃ fitting : Int, fittingExponent numerator denominator = max fitting minExponent ∧
      2 ^ (fitting + 52) ≤ (numerator : ℚ) / denominator ∧
      (numerator : ℚ) / denominator < 2 ^ (fitting + 53) := by
  obtain ⟨above, below⟩ := quotient_bounds some some'
  let guess : Int := (numerator.log2 : Int) - denominator.log2 - bits
  have unit : (0 : ℚ) < 2 ^ guess := by positivity
  have tested : (scaled numerator denominator guess).1 / (scaled numerator denominator guess).2 <
      2 ^ bits ↔ (numerator : ℚ) / denominator < 2 ^ (guess + 53) := by
    obtain ⟨-, positive⟩ := scaled_pos some some' guess
    have positive' : (0 : ℚ) < (scaled numerator denominator guess).2 := by exact_mod_cast positive
    rw [zpow_add₀ (by norm_num), mul_comm, ← div_lt_iff₀ unit, ← scaled_eq, div_lt_iff₀ positive',
      Nat.div_lt_iff_lt_mul positive]
    norm_cast
  unfold fittingExponent
  dsimp only
  by_cases small : (numerator : ℚ) / denominator < 2 ^ (guess + 53)
  · refine ⟨guess, by rw [if_pos (tested.2 small)], ?_, small⟩
    have place : guess + 52 = (numerator.log2 : Int) - denominator.log2 - 1 := by
      simp only [guess, bits]
      omega
    rw [place]
    exact above.le
  · refine ⟨guess + 1, by rw [if_neg (mt tested.1 small)], ?_, ?_⟩
    · rw [show guess + 1 + 52 = guess + 53 by ring]
      exact not_lt.1 small
    · have place : guess + 1 + 53 = (numerator.log2 : Int) - denominator.log2 + 1 := by
        simp only [guess, bits]
        omega
      rw [place]
      exact below

/-- A fraction at its fitting exponent is below the full number of bits and has all of them, unless the
exponent is the least. -/
theorem fittingExponent_fits {numerator denominator : Nat} (some : 0 < numerator)
    (some' : 0 < denominator) :
    let exponent := fittingExponent numerator denominator
    let x : ℚ := numerator / denominator / 2 ^ exponent
    minExponent ≤ exponent ∧ x < 2 ^ 53 ∧ (2 ^ 52 ≤ x ∨ exponent = minExponent) := by
  obtain ⟨fitting, same, least, most⟩ := fittingExponent_eq some some'
  intro exponent x
  have unit : (0 : ℚ) < 2 ^ exponent := by positivity
  have raised : fitting ≤ exponent := by omega
  refine ⟨by omega, ?_, ?_⟩
  · rw [div_lt_iff₀ unit, ← zpow_natCast, ← zpow_add₀ (by norm_num)]
    exact most.trans_le (zpow_le_zpow_right₀ (by norm_num) (by push_cast; omega))
  · by_cases isLeast : exponent = minExponent
    · exact Or.inr isLeast
    · left
      obtain rfl : exponent = fitting := by omega
      rw [le_div_iff₀ unit, ← zpow_natCast, ← zpow_add₀ (by norm_num)]
      refine le_trans (le_of_eq ?_) least
      congr 1
      push_cast
      omega

/-- A binary number in its usual form, near a number: it has the full number of bits unless its exponent
is the least, and the number is in its neighbourhood. -/
structure IsNear (significand : Nat) (exponent : Int) (x : ℚ) : Prop where
  short : significand < 2 ^ 53
  full : 2 ^ 52 ≤ significand ∨ exponent = minExponent
  least : minExponent ≤ exponent
  most : exponent ≤ maxExponent
  has : (neighbourhood significand exponent).Has x

/-- A number of units is in the neighbourhood of a significand that it is no further from than a half,
and just a half only if the significand is even. The half below a power of two is not used up. -/
theorem has_of_units {significand : Nat} {exponent : Int} (some : 0 < significand) {units : ℚ}
    (above : significand - 1 / 2 ≤ units) (below : units ≤ significand + 1 / 2)
    (narrow : IsNarrow significand exponent → significand - 1 / 4 ≤ units)
    (even : units = significand - 1 / 2 ∨ units = significand + 1 / 2 → significand % 2 = 0) :
    (neighbourhood significand exponent).Has (units * 2 ^ exponent) := by
  have unit : (0 : ℚ) < 2 ^ exponent := by positivity
  have closed : (neighbourhood significand exponent).closed = decide (significand % 2 = 0) := by
    obtain ⟨scale, denominator, -, -, same⟩ := neighbourhood_eq significand exponent
    rw [same]
  have reaches : (significand - if IsNarrow significand exponent then 1 / 4 else 1 / 2 : ℚ) ≤ units := by
    split
    · next isNarrow => exact narrow isNarrow
    · exact above
  unfold Neighbourhood.Has
  rw [closed, lowest_neighbourhood _ _ some, highest_neighbourhood]
  by_cases isEven : significand % 2 = 0
  · rw [decide_eq_true isEven, if_pos rfl]
    exact ⟨mul_le_mul_of_nonneg_right reaches unit.le, mul_le_mul_of_nonneg_right below unit.le⟩
  · have wide : ¬IsNarrow significand exponent := by
      rintro ⟨rfl, -⟩
      exact isEven (by decide)
    rw [decide_eq_false isEven, if_neg Bool.false_ne_true, if_neg wide]
    have apart : (significand : ℚ) - 1 / 2 ≠ units := fun same ↦ isEven (even (Or.inl same.symm))
    have apart' : units ≠ significand + 1 / 2 := fun same ↦ isEven (even (Or.inr same))
    exact ⟨mul_lt_mul_of_pos_right (lt_of_le_of_ne above apart) unit,
      mul_lt_mul_of_pos_right (lt_of_le_of_ne below apart') unit⟩

theorem roundEven_units (numerator : Nat) {denominator : Nat} (some : 0 < denominator) :
    let rounded : ℚ := roundEven numerator denominator
    let units : ℚ := numerator / denominator
    rounded - 1 / 2 ≤ units ∧ units ≤ rounded + 1 / 2 ∧
      (units = rounded - 1 / 2 ∨ units = rounded + 1 / 2 →
        roundEven numerator denominator % 2 = 0) := by
  obtain ⟨above, below, even⟩ := roundEven_bounds numerator some
  have positive : (0 : ℚ) < denominator := by exact_mod_cast some
  generalize roundEven numerator denominator = rounded at *
  have above' : 2 * ((rounded : ℚ) * denominator) ≤ 2 * numerator + denominator := by
    exact_mod_cast above
  have below' : 2 * (numerator : ℚ) ≤ 2 * (rounded * denominator) + denominator := by
    exact_mod_cast below
  refine ⟨?_, ?_, ?_⟩
  · rw [le_div_iff₀ positive]
    linarith
  · rw [div_le_iff₀ positive]
    linarith
  · intro ends
    refine even (ends.imp (fun same ↦ ?_) fun same ↦ ?_)
    · rw [div_eq_iff positive.ne'] at same
      have same' : 2 * ((rounded : ℚ) * denominator) = 2 * numerator + denominator := by linarith
      exact_mod_cast same'
    · rw [div_eq_iff positive.ne'] at same
      have same' : 2 * (numerator : ℚ) = 2 * (rounded * denominator) + denominator := by linarith
      exact_mod_cast same'

/-- Units that are rounded to a significand below the full number of bits have it near them. -/
theorem isNear_of_units {significand : Nat} {exponent : Int} {units : ℚ} (some : 0 < significand)
    (short : significand < 2 ^ 53) (least : minExponent ≤ exponent) (most : exponent ≤ maxExponent)
    (above : significand - 1 / 2 ≤ units) (below : units ≤ significand + 1 / 2)
    (even : units = significand - 1 / 2 ∨ units = significand + 1 / 2 → significand % 2 = 0)
    (full : 2 ^ 52 ≤ units ∨ exponent = minExponent) :
    IsNear significand exponent (units * 2 ^ exponent) := by
  refine ⟨short, full.imp (fun reached ↦ ?_) id, least, most, ?_⟩
  · have more : ((2 ^ 52 - 1 : Nat) : ℚ) < significand := by
      rw [Nat.cast_sub (by decide)]
      push_cast
      linarith
    exact Nat.le_of_pred_lt (Nat.cast_lt.1 more)
  · refine has_of_units some above below (fun isNarrow ↦ ?_) even
    obtain ⟨isPower, higher⟩ := isNarrow
    have reached := full.resolve_right (by omega)
    rw [isPower]
    unfold bits
    push_cast
    linarith

/-- Units that are rounded up to one bit too many have the power of two near them, at the next exponent. -/
theorem isNear_of_carried {exponent : Int} {units : ℚ} (least : minExponent ≤ exponent)
    (most : exponent + 1 ≤ maxExponent) (above : 2 ^ 53 - 1 / 2 ≤ units) (below : units < 2 ^ 53) :
    IsNear (2 ^ (bits - 1)) (exponent + 1) (units * 2 ^ exponent) := by
  have halved : units * 2 ^ exponent = units / 2 * 2 ^ (exponent + 1) := by
    rw [zpow_add_one₀ (by norm_num)]
    ring
  refine ⟨by decide, Or.inl (by decide), by omega, most, ?_⟩
  rw [halved]
  refine has_of_units (by decide) ?_ ?_ (fun _ ↦ ?_) fun _ ↦ by decide
  all_goals
    unfold bits
    push_cast
    linarith

/-- A number that has not become infinite is what was put together. -/
theorem within_of_finite {negative negative' : Bool} {significand significand' : Nat}
    {exponent exponent' : Int}
    (same : (if maxExponent < exponent' then Binary64.infinite negative
      else .finite negative significand' exponent') = .finite negative' significand exponent) :
    exponent' ≤ maxExponent ∧ negative' = negative ∧ significand = significand' ∧
      exponent = exponent' := by
  split at same
  · cases same
  · next within =>
    obtain ⟨rfl, rfl, rfl⟩ := Binary64.finite.inj same
    exact ⟨by omega, rfl, rfl, rfl⟩

/-- The binary number closest to a fraction has the fraction in its neighbourhood. -/
theorem nearest_isNear {negative negative' : Bool} {numerator denominator significand : Nat}
    {exponent : Int} (some : 0 < numerator) (some' : 0 < denominator) (nonzero : 0 < significand)
    (rounded : nearest negative numerator denominator = .finite negative' significand exponent) :
    negative' = negative ∧ IsNear significand exponent (numerator / denominator) := by
  obtain ⟨least, below, full⟩ := fittingExponent_fits some some'
  unfold nearest at rounded
  rw [if_neg some.ne'] at rounded
  generalize fittingExponent numerator denominator = fitting at *
  have unit : (0 : ℚ) < 2 ^ fitting := by positivity
  obtain ⟨near, near', even⟩ := roundEven_units (scaled numerator denominator fitting).1
    (scaled_pos some some' fitting).2
  rw [scaled_eq] at near near' even
  dsimp only at rounded
  generalize roundEven (scaled numerator denominator fitting).1
    (scaled numerator denominator fitting).2 = whole at *
  have restored : (numerator : ℚ) / denominator / 2 ^ fitting * 2 ^ fitting = numerator / denominator :=
    div_mul_cancel₀ _ unit.ne'
  generalize (numerator : ℚ) / denominator / 2 ^ fitting = units at *
  rw [← restored]
  by_cases carried : whole = 2 ^ bits
  · rw [if_pos carried] at rounded
    obtain ⟨most, rfl, rfl, rfl⟩ := within_of_finite rounded
    rw [carried] at near
    push_cast at near
    exact ⟨rfl, isNear_of_carried least most near below⟩
  · rw [if_neg carried] at rounded
    obtain ⟨most, rfl, rfl, rfl⟩ := within_of_finite rounded
    have bounded : significand ≤ 2 ^ 53 := by
      have less : (significand : ℚ) < (2 ^ 53 + 1 : Nat) := by
        push_cast
        linarith
      exact Nat.lt_succ_iff.1 (Nat.cast_lt.1 less)
    exact ⟨rfl, isNear_of_units nonzero (lt_of_le_of_ne bounded carried) least most near near' even full⟩

/-- The binary number closest to a decimal has the decimal in its neighbourhood, unless it is zero. -/
theorem ofDecimal_isNear {negative negative' : Bool} {coefficient significand : Nat}
    {power exponent : Int} (nonzero : 0 < significand)
    (rounded : ofDecimal negative coefficient power = .finite negative' significand exponent) :
    negative' = negative ∧ IsNear significand exponent (coefficient * 10 ^ power) := by
  unfold ofDecimal at rounded
  split at rounded
  · obtain ⟨-, rfl, -⟩ := Binary64.finite.inj rounded
    exact absurd nonzero (Nat.lt_irrefl 0)
  next some =>
  have some' : 0 < coefficient := Nat.pos_of_ne_zero some
  dsimp only at rounded
  split at rounded
  · cases rounded
  split at rounded
  · obtain ⟨-, rfl, -⟩ := Binary64.finite.inj rounded
    exact absurd nonzero (Nat.lt_irrefl 0)
  split at rounded
  · next notBelow =>
    have whole : (coefficient : ℚ) * 10 ^ power =
        (coefficient * 10 ^ power.toNat : Nat) / (1 : Nat) := by
      rw [power_of_nonneg 10 notBelow]
      push_cast
      ring
    rw [whole]
    exact nearest_isNear (by positivity) Nat.one_pos nonzero rounded
  · next below =>
    have broken : (coefficient : ℚ) * 10 ^ power = coefficient / (10 ^ (-power).toNat : Nat) := by
      rw [power_of_neg 10 (by omega)]
      push_cast
      ring
    rw [broken]
    exact nearest_isNear some' (by positivity) nonzero rounded

end Binary64

end Passbook
