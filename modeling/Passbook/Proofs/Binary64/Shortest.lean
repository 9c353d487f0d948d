import Mathlib.Algebra.Order.Floor.Semifield
import Mathlib.Data.Rat.Floor
import Passbook.Proofs.Binary64.Nearest
import Passbook.Proofs.Money.Order

/-!
The shortest digits of a binary number. A grid of multiples of a power of ten is searched at the two
neighbours of the number, which is enough to find a point in the neighbourhood if there is one
(`digitsAt?_none`), so the first grid that has one is found (`firstGrid_coarsest`). The finest of the grids
always has one (`finest_has`), so the digits lie in the neighbourhood. Main statement: a number in the
neighbourhood that is a multiple of a power of ten above the unit in the last place is the one that the
digits denote (`shortest_exact`).
-/

set_option autoImplicit false
set_option relaxedAutoImplicit false

-- Powers are those of the core library, whatever else is imported.
attribute [local instance (high)] instPowNat

namespace Passbook.Binary64

/-! ### Searching one grid -/

section Grid

variable {n : Neighbourhood}

/-- The scale of a grid and its place among fractions. -/
def gridScale (power : Int) : Nat × Nat :=
  if 0 ≤ power then (10 ^ power.toNat, 1) else (1, 10 ^ (-power).toNat)

theorem gridScale_pos (power : Int) : 0 < (gridScale power).1 ∧ 0 < (gridScale power).2 := by
  unfold gridScale
  split <;> exact ⟨by positivity, by positivity⟩

theorem gridScale_eq (power : Int) :
    ((gridScale power).1 : ℚ) / (gridScale power).2 = 10 ^ power := by
  unfold gridScale
  split
  · next notBelow =>
    rw [power_of_nonneg 10 notBelow]
    push_cast
    ring
  · next below =>
    rw [power_of_neg 10 (by omega)]
    push_cast
    ring

/-- The test of a point of the grid. -/
theorem holds_grid (some : 0 < n.denominator) (power : Int) (count : Nat) :
    n.holds (count * (gridScale power).1) (gridScale power).2 = true ↔ n.Has (count * 10 ^ power) := by
  rw [Neighbourhood.holds_iff some _ (gridScale_pos power).2, ← gridScale_eq power]
  push_cast
  rw [mul_div_assoc]

/-- The multiple of the power of ten next below the number. -/
def gridBelow (n : Neighbourhood) (power : Int) : Nat :=
  n.value * (gridScale power).2 / (n.denominator * (gridScale power).1)

theorem gridBelow_bounds (some : 0 < n.denominator) (power : Int) :
    (gridBelow n power : ℚ) * 10 ^ power ≤ n.middle ∧
      n.middle < ((gridBelow n power + 1 : Nat) : ℚ) * 10 ^ power := by
  obtain ⟨up, down⟩ := gridScale_pos power
  have up' : (0 : ℚ) < (gridScale power).1 := by exact_mod_cast up
  have down' : (0 : ℚ) < (gridScale power).2 := by exact_mod_cast down
  have some' : (0 : ℚ) < n.denominator := by exact_mod_cast some
  have positive : 0 < n.denominator * (gridScale power).1 := Nat.mul_pos some up
  have low := Nat.div_mul_le_self (n.value * (gridScale power).2) (n.denominator * (gridScale power).1)
  have high := Nat.lt_mul_of_div_lt (Nat.lt_succ_self
    (n.value * (gridScale power).2 / (n.denominator * (gridScale power).1))) positive
  change gridBelow n power * _ ≤ _ at low
  change _ < (gridBelow n power + 1) * _ at high
  rw [← gridScale_eq power, ← mul_div_assoc, ← mul_div_assoc]
  unfold Neighbourhood.middle
  constructor
  · rw [div_le_div_iff₀ down' some']
    have low' : ((gridBelow n power * (n.denominator * (gridScale power).1) : Nat) : ℚ) ≤
        (n.value * (gridScale power).2 : Nat) := Nat.cast_le.2 low
    push_cast at low'
    linarith
  · rw [div_lt_div_iff₀ some' down']
    have high' : ((n.value * (gridScale power).2 : Nat) : ℚ) <
        ((gridBelow n power + 1) * (n.denominator * (gridScale power).1) : Nat) := Nat.cast_lt.2 high
    push_cast at high' ⊢
    linarith

/-- The search of a grid tests the two multiples next to the number, the nearer one first. -/
theorem digitsAt?_eq (n : Neighbourhood) (power : Int) : ∃ nearer further,
    (nearer = gridBelow n power ∧ further = gridBelow n power + 1 ∨
      nearer = gridBelow n power + 1 ∧ further = gridBelow n power) ∧
    digitsAt? n power =
      if n.holds (nearer * (gridScale power).1) (gridScale power).2 then some (nearer, power)
      else if n.holds (further * (gridScale power).1) (gridScale power).2 then some (further, power)
      else none := by
  let twice := 2 * n.value * (gridScale power).2
  let half := (2 * gridBelow n power + 1) * (n.denominator * (gridScale power).1)
  let nearer :=
    if twice < half ∨ (twice = half ∧ gridBelow n power % 2 = 0) then gridBelow n power
    else gridBelow n power + 1
  refine ⟨nearer, if nearer = gridBelow n power then gridBelow n power + 1 else gridBelow n power,
    ?_, rfl⟩
  by_cases isBelow : nearer = gridBelow n power
  · exact Or.inl ⟨isBelow, if_pos isBelow⟩
  · refine Or.inr ⟨?_, if_neg isBelow⟩
    simp only [nearer] at isBelow ⊢
    split at isBelow
    · exact absurd rfl isBelow
    · next above => exact if_neg above

/-- What is found on a grid is a point of it in the neighbourhood. -/
theorem digitsAt?_some (some : 0 < n.denominator) {power : Int} {found : Nat × Int}
    (hit : digitsAt? n power = .some found) : found.2 = power ∧ n.Has (found.1 * 10 ^ power) := by
  obtain ⟨nearer, further, -, same⟩ := digitsAt?_eq n power
  rw [same] at hit
  split at hit
  · next holds =>
    obtain rfl := Option.some.inj hit
    exact ⟨rfl, (holds_grid some power nearer).1 holds⟩
  · split at hit
    · next holds =>
      obtain rfl := Option.some.inj hit
      exact ⟨rfl, (holds_grid some power further).1 holds⟩
    · cases hit

/-- When nothing is found on a grid, no point of it is in the neighbourhood: between the number and such a
point there would be one of the two that were tested. -/
theorem digitsAt?_none (some : 0 < n.denominator) (has : n.Has n.middle) {power : Int}
    (missed : digitsAt? n power = none) (count : Nat) : ¬n.Has (count * 10 ^ power) := by
  obtain ⟨nearer, further, both, same⟩ := digitsAt?_eq n power
  have unit : (0 : ℚ) < 10 ^ power := by positivity
  obtain ⟨below, above⟩ := gridBelow_bounds some power
  have tested : ¬n.Has (gridBelow n power * 10 ^ power) ∧
      ¬n.Has ((gridBelow n power + 1 : Nat) * 10 ^ power) := by
    rw [same] at missed
    split at missed
    · cases missed
    next far =>
    split at missed
    · cases missed
    next far' =>
    rw [holds_grid some] at far far'
    rcases both with ⟨rfl, rfl⟩ | ⟨rfl, rfl⟩
    · exact ⟨far, far'⟩
    · exact ⟨far', far⟩
  intro there
  by_cases le : count ≤ gridBelow n power
  · have le' : (count : ℚ) * 10 ^ power ≤ gridBelow n power * 10 ^ power :=
      mul_le_mul_of_nonneg_right (Nat.cast_le.2 le) unit.le
    exact tested.1 (there.convex has le' below)
  · have ge : ((gridBelow n power + 1 : Nat) : ℚ) * 10 ^ power ≤ count * 10 ^ power :=
      mul_le_mul_of_nonneg_right (Nat.cast_le.2 (Nat.lt_of_not_le le)) unit.le
    exact tested.2 (has.convex there above.le ge)

/-! ### Searching the grids -/

/-- The grids are searched from the coarsest on, so nothing coarser than what is found would do. -/
theorem firstGrid_coarsest (some : 0 < n.denominator) (has : n.Has n.middle) {count : Nat}
    {grid : Int} (there : n.Has (count * 10 ^ grid)) (more : Nat) (power : Int) (high : grid ≤ power)
    (low : power < grid + more) :
    let found := firstGrid n more power
    grid ≤ found.2 ∧ found.2 ≤ power ∧ n.Has (found.1 * 10 ^ found.2) := by
  induction more generalizing power with
  | zero => omega
  | succ more ih =>
    unfold firstGrid
    cases hit : digitsAt? n power with
    | some found =>
      obtain ⟨same, has'⟩ := digitsAt?_some some hit
      rw [← same] at has'
      exact ⟨by rw [Option.getD_some, same]; exact high, same.le, has'⟩
    | none =>
      have apart : grid ≠ power := by
        rintro rfl
        exact digitsAt?_none some has hit count there
      obtain ⟨coarse, within, found⟩ := ih (power - 1) (by omega) (by omega)
      exact ⟨coarse, Int.le_trans within (by omega), found⟩

end Grid

/-- The digits of numerator and denominator bound a fraction. -/
theorem fraction_bounds {numerator denominator : Nat} (some : 0 < numerator)
    (some' : 0 < denominator) :
    let place : Int := (Decimal.digitCount numerator : Int) - Decimal.digitCount denominator
    (10 : ℚ) ^ (place - 1) ≤ numerator / denominator ∧
      (numerator : ℚ) / denominator < 10 ^ (place + 1) := by
  have positive : (0 : ℚ) < denominator := by exact_mod_cast some'
  have low := Decimal.begin_le_magnitude some.ne' 0
  have high := Decimal.magnitude_lt_begin numerator 0
  have low' := Decimal.begin_le_magnitude some'.ne' 0
  have high' := Decimal.magnitude_lt_begin denominator 0
  simp only [zero_add, zpow_zero, mul_one] at low high low' high'
  generalize (Decimal.digitCount numerator : Int) = digits at *
  generalize (Decimal.digitCount denominator : Int) = digits' at *
  constructor
  · rw [le_div_iff₀ positive]
    calc (10 : ℚ) ^ (digits - digits' - 1) * denominator
        ≤ 10 ^ (digits - digits' - 1) * 10 ^ digits' := mul_le_mul_of_nonneg_left high'.le (by positivity)
      _ = 10 ^ (digits - 1) := by
          rw [← zpow_add₀ (by norm_num)]
          congr 1
          omega
      _ ≤ numerator := low
  · rw [div_lt_iff₀ positive]
    calc (numerator : ℚ) < 10 ^ digits := high
      _ = 10 ^ (digits - digits' + 1) * 10 ^ (digits' - 1) := by
          rw [← zpow_add₀ (by norm_num)]
          congr 1
          omega
      _ ≤ 10 ^ (digits - digits' + 1) * denominator :=
          mul_le_mul_of_nonneg_left low' (by positivity)

/-- A fraction begins at its leading power of ten. -/
theorem leadingPower_bounds {numerator denominator : Nat} (some : 0 < numerator)
    (some' : 0 < denominator) :
    (10 : ℚ) ^ leadingPower numerator denominator ≤ numerator / denominator ∧
      (numerator : ℚ) / denominator < 10 ^ (leadingPower numerator denominator + 1) := by
  obtain ⟨low, high⟩ := fraction_bounds some some'
  have positive : (0 : ℚ) < denominator := by exact_mod_cast some'
  unfold leadingPower
  dsimp only at low high ⊢
  generalize (Decimal.digitCount numerator : Int) - Decimal.digitCount denominator = guess at *
  have tested : (if 0 ≤ guess then decide (denominator * 10 ^ guess.toNat ≤ numerator)
      else decide (denominator ≤ numerator * 10 ^ (-guess).toNat)) = true ↔
        (10 : ℚ) ^ guess ≤ numerator / denominator := by
    rw [le_div_iff₀ positive]
    split
    · next notBelow =>
      rw [power_of_nonneg 10 notBelow, decide_eq_true_iff, mul_comm]
      norm_cast
    · next below =>
      rw [power_of_neg 10 (by omega), decide_eq_true_iff, inv_mul_le_iff₀ (by positivity), mul_comm]
      norm_cast
  by_cases reached : (10 : ℚ) ^ guess ≤ numerator / denominator
  · rw [if_pos (tested.2 reached)]
    exact ⟨reached, high⟩
  · rw [if_neg (mt tested.1 reached), sub_add_cancel]
    exact ⟨low, not_le.1 reached⟩

/-! ### The shortest digits -/

section Shortest

variable {significand : Nat} {exponent : Int}

/-- The first of the grids that are searched. -/
def coarsest (significand : Nat) (exponent : Int) : Int :=
  leadingPower (neighbourhood significand exponent).value
    (neighbourhood significand exponent).denominator

variable (exponent) in
theorem coarsest_bounds (some : 0 < significand) :
    (10 : ℚ) ^ coarsest significand exponent ≤ significand * 2 ^ exponent ∧
      (significand : ℚ) * 2 ^ exponent < 10 ^ (coarsest significand exponent + 1) := by
  have denominator := neighbourhood_denominator_pos significand exponent
  have value : 0 < (neighbourhood significand exponent).value := by
    obtain ⟨scale, _, _, unit, same⟩ := neighbourhood_eq significand exponent
    have scaled : scale ≠ 0 := by
      rintro rfl
      have positive : (0 : ℚ) < 2 ^ exponent / 4 := by positivity
      rw [← unit, Nat.cast_zero, zero_div] at positive
      exact lt_irrefl 0 positive
    rw [same]
    positivity
  have bounds := leadingPower_bounds value denominator
  rw [← middle_neighbourhood]
  exact bounds

theorem has_middle (some : 0 < significand) :
    (neighbourhood significand exponent).Has (neighbourhood significand exponent).middle := by
  have unit : (0 : ℚ) < 2 ^ exponent := by positivity
  refine Neighbourhood.has_of_inside ?_ ?_
  · rw [lowest_neighbourhood _ _ some, middle_neighbourhood]
    refine mul_lt_mul_of_pos_right ?_ unit
    split <;> linarith
  · rw [highest_neighbourhood, middle_neighbourhood]
    exact mul_lt_mul_of_pos_right (by linarith) unit

variable (exponent) in
/-- The finest of the grids has a point in the neighbourhood: seventeen digits are enough. -/
theorem finest_has (some : 0 < significand) (short : significand < 2 ^ 53) :
    ∃ count : Nat, (neighbourhood significand exponent).Has
      (count * 10 ^ (coarsest significand exponent - 16)) := by
  obtain ⟨begins, -⟩ := coarsest_bounds exponent some
  have unit : (0 : ℚ) < 2 ^ exponent := by positivity
  have fine : (10 : ℚ) ^ (coarsest significand exponent - 16) ≤ significand * 2 ^ exponent / 10 ^ 16 := by
    rw [zpow_sub₀ (by norm_num)]
    exact div_le_div_of_nonneg_right begins (by positivity)
  have step : (0 : ℚ) < 10 ^ (coarsest significand exponent - 16) := by positivity
  generalize (10 : ℚ) ^ (coarsest significand exponent - 16) = spacing at *
  -- The point next to the number is no further from it than half the spacing.
  have notBelow : 0 ≤ (significand : ℚ) * 2 ^ exponent / spacing + 1 / 2 := by positivity
  have low := Nat.floor_le notBelow
  have high := Nat.lt_floor_add_one ((significand : ℚ) * 2 ^ exponent / spacing + 1 / 2)
  generalize ⌊(significand : ℚ) * 2 ^ exponent / spacing + 1 / 2⌋₊ = count at *
  have low' : (count : ℚ) * spacing ≤ significand * 2 ^ exponent + spacing / 2 := by
    have scaled := mul_le_mul_of_nonneg_right low step.le
    rw [add_mul, div_mul_cancel₀ _ step.ne'] at scaled
    linarith
  have high' : significand * 2 ^ exponent - spacing / 2 < (count : ℚ) * spacing := by
    have scaled := mul_lt_mul_of_pos_right high step
    rw [add_mul, add_mul, div_mul_cancel₀ _ step.ne'] at scaled
    linarith
  have short' : (significand : ℚ) ≤ 2 ^ 53 := by exact_mod_cast short.le
  have bound : (significand : ℚ) * 2 ^ exponent ≤ 2 ^ 53 * 2 ^ exponent :=
    mul_le_mul_of_nonneg_right short' unit.le
  refine ⟨count, Neighbourhood.has_of_inside ?_ ?_⟩
  · rw [lowest_neighbourhood _ _ some]
    split
    · next narrow =>
      have same : (significand : ℚ) = 2 ^ 52 := by
        rw [narrow.1]
        norm_num [bits]
      rw [same] at fine high' ⊢
      linarith
    · linarith
  · rw [highest_neighbourhood]
    linarith

variable (exponent) in
/-- The shortest digits lie in the neighbourhood. -/
theorem shortest_has (some : 0 < significand) (short : significand < 2 ^ 53) :
    (neighbourhood significand exponent).Has
      ((shortest significand exponent).1 * 10 ^ (shortest significand exponent).2) := by
  obtain ⟨count, there⟩ := finest_has exponent some short
  have found := firstGrid_coarsest (neighbourhood_denominator_pos significand exponent)
    (has_middle some) there 17 (coarsest significand exponent) (by omega) (by omega)
  exact found.2.2

theorem width_le (some : 0 < significand) :
    (neighbourhood significand exponent).highest - (neighbourhood significand exponent).lowest ≤
      2 ^ exponent := by
  have unit : (0 : ℚ) < 2 ^ exponent := by positivity
  rw [highest_neighbourhood, lowest_neighbourhood _ _ some, ← sub_mul]
  refine mul_le_of_le_one_left unit.le ?_
  split <;> linarith

/-- A multiple of a power of ten is one of every lower power. -/
theorem multiple_of_le (count : Nat) {grid lower : Int} (le : lower ≤ grid) :
    ∃ count' : Nat, (count : ℚ) * 10 ^ grid = count' * 10 ^ lower := by
  refine ⟨count * 10 ^ (grid - lower).toNat, ?_⟩
  push_cast
  rw [mul_assoc, ← power_of_nonneg 10 (by omega), ← zpow_add₀ (by norm_num)]
  congr 2
  omega

/-- Two multiples of a power of ten that are closer than the power are equal. -/
theorem eq_of_distance {count count' : Nat} {grid : Int}
    (near : |(count : ℚ) * 10 ^ grid - count' * 10 ^ grid| < 10 ^ grid) : count = count' := by
  have unit : (0 : ℚ) < 10 ^ grid := by positivity
  rw [← sub_mul, abs_mul, abs_of_pos unit] at near
  have near' : |((count : Int) - count' : Int)| < 1 := by
    have less : |(count : ℚ) - count'| < 1 := (mul_lt_iff_lt_one_left unit).1 near
    exact_mod_cast less
  have same := Int.abs_lt_one_iff.1 near'
  omega

/-- A number in the neighbourhood that is a multiple of a power of ten above the unit in the last place is
the one that the shortest digits denote: they are no finer, and there is no other such multiple nearby. -/
theorem shortest_exact (full : 2 ^ 52 ≤ significand) (short : significand < 2 ^ 53) {count : Nat}
    {grid : Int} (there : (neighbourhood significand exponent).Has (count * 10 ^ grid))
    (above : (2 : ℚ) ^ exponent < 10 ^ grid) :
    ((shortest significand exponent).1 : ℚ) * 10 ^ (shortest significand exponent).2 =
      count * 10 ^ grid := by
  have some : 0 < significand := Nat.lt_of_lt_of_le (by decide) full
  have full' : (2 : ℚ) ^ 52 ≤ significand := by exact_mod_cast full
  have short' : (significand : ℚ) < 2 ^ 53 := by exact_mod_cast short
  have unit : (0 : ℚ) < 2 ^ exponent := by positivity
  obtain ⟨begins, ends⟩ := coarsest_bounds exponent some
  have above' : (2 : ℚ) ^ exponent < 10 ^ coarsest significand exponent := by
    rw [zpow_add_one₀ (by norm_num)] at ends
    have least := mul_le_mul_of_nonneg_right full' unit.le
    linarith
  -- The grid on which both the number and the digits lie.
  obtain ⟨lower, isLower⟩ : ∃ lower, lower = min grid (coarsest significand exponent) := ⟨_, rfl⟩
  have above'' : (2 : ℚ) ^ exponent < 10 ^ lower := by
    rcases min_choice grid (coarsest significand exponent) with same | same <;> rw [isLower, same]
    · exact above
    · exact above'
  have searched : coarsest significand exponent < lower + (17 : Nat) := by
    have less : (10 : ℚ) ^ coarsest significand exponent < 10 ^ (lower + (17 : Nat)) := by
      calc (10 : ℚ) ^ coarsest significand exponent ≤ significand * 2 ^ exponent := begins
        _ ≤ 2 ^ 53 * 2 ^ exponent := mul_le_mul_of_nonneg_right short'.le unit.le
        _ < 10 ^ 17 * 10 ^ lower := by linarith
        _ = 10 ^ (lower + (17 : Nat)) := by
          rw [zpow_add₀ (by norm_num), zpow_natCast, mul_comm]
    exact (zpow_lt_zpow_iff_right₀ (by norm_num)).1 less
  obtain ⟨count', same⟩ := multiple_of_le count (show lower ≤ grid by omega)
  rw [same] at there ⊢
  obtain ⟨coarse, -, has⟩ := firstGrid_coarsest (neighbourhood_denominator_pos significand exponent)
    (has_middle some) there 17 (coarsest significand exponent) (by omega) searched
  change lower ≤ (shortest significand exponent).2 at coarse
  obtain ⟨digits, same'⟩ := multiple_of_le (shortest significand exponent).1 coarse
  change (neighbourhood significand exponent).Has
    ((shortest significand exponent).1 * 10 ^ (shortest significand exponent).2) at has
  rw [same'] at has ⊢
  rw [eq_of_distance (((has.distance there).trans (width_le some)).trans_lt above'')]

end Shortest

/-- The unit in the last place is small next to what is near a number that has all its bits. -/
theorem IsNear.unit_le {significand : Nat} {exponent : Int} {x : ℚ}
    (near : IsNear significand exponent x) (full : 2 ^ 52 ≤ significand) :
    (2 ^ 52 - 1 / 2) * (2 : ℚ) ^ exponent ≤ x := by
  have some : 0 < significand := Nat.lt_of_lt_of_le (by decide) full
  have full' : (2 : ℚ) ^ 52 ≤ significand := by exact_mod_cast full
  have unit : (0 : ℚ) < 2 ^ exponent := by positivity
  refine le_trans (mul_le_mul_of_nonneg_right ?_ unit.le)
    (lowest_neighbourhood significand exponent some ▸ near.has.between.1)
  split <;> linarith

/-- Fewer than `2 ^ 52` units of a power of ten are what the shortest digits of the nearest binary number
denote. -/
theorem IsNear.shortest_exact {significand : Nat} {exponent : Int} {count : Nat} {grid : Int}
    (near : IsNear significand exponent (count * 10 ^ grid)) (full : 2 ^ 52 ≤ significand)
    (few : count < 2 ^ 52) :
    ((shortest significand exponent).1 : ℚ) * 10 ^ (shortest significand exponent).2 =
      count * 10 ^ grid := by
  refine Binary64.shortest_exact full near.short near.has ?_
  have least := near.unit_le full
  have unit : (0 : ℚ) < 10 ^ grid := by positivity
  have few' : (count : ℚ) ≤ 2 ^ 52 - 1 := by
    have le : count + 1 ≤ 2 ^ 52 := few
    have le' : (count : ℚ) + 1 ≤ 2 ^ 52 := by exact_mod_cast le
    linarith
  have most := mul_le_mul_of_nonneg_right few' unit.le
  linarith

/-- The shortest digits of the nearest binary number are less than one part in `2 ^ 51` off. -/
theorem IsNear.shortest_close {significand : Nat} {exponent : Int} {x : ℚ}
    (near : IsNear significand exponent x) (full : 2 ^ 52 ≤ significand) :
    2 ^ 51 * |((shortest significand exponent).1 : ℚ) * 10 ^ (shortest significand exponent).2 - x| <
      x := by
  have some : 0 < significand := Nat.lt_of_lt_of_le (by decide) full
  have least := near.unit_le full
  have unit : (0 : ℚ) < 2 ^ exponent := by positivity
  have apart := ((shortest_has exponent some near.short).distance near.has).trans
    (width_le some)
  linarith

end Passbook.Binary64
