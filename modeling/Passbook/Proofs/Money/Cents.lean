import Passbook.Proofs.Money.Text

/-!
Whole cents. A decimal of two places within the precision is a whole number of cents (`Decimal.cents?`),
and on such decimals the order is that of the whole numbers (`compare?_cents`) while sums and differences
are exact or cannot be brought to two places at all (`add_cents`, `sub_cents`). A column holds cents or
nothing that counts as a number (`readText_cents`), and what it keeps for a decimal is read back as that
decimal (`readText_of_cents`, `bind_decimal_eq`). So a balance that was worked out and stored is the exact
sum, or there is none.
-/

set_option autoImplicit false
set_option relaxedAutoImplicit false

-- Powers are those of the core library, whatever else is imported.
attribute [local instance (high)] instPowNat

namespace Passbook.Value

/-- Values that are numbers compare as their numbers do. -/
theorem compare_of_some {left right : Value} {first second : Decimal} {order : Ordering}
    (isFirst : left.number? = some first) (isSecond : right.number? = some second)
    (compared : first.compare? second = some order) : left.compare right = .ok (some order) := by
  simp only [compare, isFirst, isSecond, compared]

/-- A decimal does not compare with what has no place in the order. -/
theorem compare_of_none {left right : Value} {first second : Decimal}
    (isFirst : left.number? = some first) (isSecond : right.number? = some second)
    (compared : first.compare? second = none) (decimal : left.isDecimal = true) :
    left.compare right = .error .undefined := by
  simp only [compare, isFirst, isSecond, compared, decimal, Bool.true_or, if_true]

end Passbook.Value

namespace Passbook.Decimal

open Money (centExponent)

/-- A sign and a magnitude as one whole number. -/
def signed (negative : Bool) (magnitude : Nat) : Int := if negative then -magnitude else magnitude

/-- The whole number of cents that a decimal of two places is, as far as the precision goes. -/
def cents? : Decimal → Option Int
  | .finite negative coefficient exponent =>
    if exponent = centExponent ∧ digitCount coefficient ≤ precision then
      some (signed negative coefficient)
    else none
  | _ => none

theorem cents?_eq_some {d : Decimal} {cents : Int} (whole : d.cents? = some cents) :
    ∃ negative coefficient, d = .finite negative coefficient centExponent ∧
      digitCount coefficient ≤ precision ∧ signed negative coefficient = cents := by
  unfold cents? at whole
  split at whole
  · next negative coefficient exponent =>
    split at whole
    · next fits =>
      obtain ⟨rfl, short⟩ := fits
      exact ⟨negative, coefficient, rfl, short, Option.some.inj whole⟩
    · cases whole
  · cases whole

theorem cents?_finite (negative : Bool) {coefficient : Nat}
    (short : digitCount coefficient ≤ precision) :
    (finite negative coefficient centExponent).cents? = some (signed negative coefficient) :=
  if_pos ⟨rfl, short⟩

/-! ### The order of cents -/

theorem compareMagnitude_sameExponent (first second : Nat) (exponent : Int) :
    compareMagnitude first exponent second exponent = compare first second := by
  unfold compareMagnitude
  by_cases none : first = 0
  · by_cases none' : second = 0
    · simp [none, none']
    · simp [none, none', Nat.compare_eq_lt.2 (Nat.pos_of_ne_zero none')]
  · by_cases none' : second = 0
    · simp [none, none', Nat.compare_eq_gt.2 (Nat.pos_of_ne_zero none)]
    · simp only [none, none', if_false]
      by_cases shorter : digitCount first < digitCount second
      · have less : first < second := Nat.lt_of_not_le fun le ↦
          Nat.not_lt.2 (digitCount_mono le) shorter
        rw [if_pos (by omega), Nat.compare_eq_lt.2 less]
      · by_cases longer : digitCount second < digitCount first
        · have more : second < first := Nat.lt_of_not_le fun le ↦
            Nat.not_lt.2 (digitCount_mono le) longer
          rw [if_neg (by omega), if_pos (by omega), Nat.compare_eq_gt.2 more]
        · rw [if_neg (by omega), if_neg (by omega), if_pos (Int.le_refl exponent)]
          simp

/-- Numbers of one exponent are ordered as the whole numbers of their units. -/
theorem compare?_sameExponent (negative₁ negative₂ : Bool) (coefficient₁ coefficient₂ : Nat)
    (exponent : Int) :
    compare? (.finite negative₁ coefficient₁ exponent) (.finite negative₂ coefficient₂ exponent) =
      some (compare (signed negative₁ coefficient₁) (signed negative₂ coefficient₂)) := by
  have ordered := compareMagnitude_sameExponent coefficient₁ coefficient₂ exponent
  simp only [compare?, ordered]
  congr 1
  cases negative₁ <;> cases negative₂ <;>
    simp only [signed, if_true, if_false, Bool.false_eq_true, Nat.compare_swap] <;>
    simp only [Nat.compare_eq_ite_lt, Int.compare_eq_ite_lt] <;>
    grind

theorem compare?_cents {d e : Decimal} {first second : Int} (whole : d.cents? = some first)
    (whole' : e.cents? = some second) : d.compare? e = some (compare first second) := by
  obtain ⟨negative₁, coefficient₁, rfl, -, rfl⟩ := cents?_eq_some whole
  obtain ⟨negative₂, coefficient₂, rfl, -, rfl⟩ := cents?_eq_some whole'
  exact compare?_sameExponent ..

theorem compare?_zero {d : Decimal} {cents : Int} (whole : d.cents? = some cents) :
    d.compare? zero = some (compare cents 0) := by
  obtain ⟨negative, coefficient, rfl, -, rfl⟩ := cents?_eq_some whole
  simp only [compare?, zero, Int.compare_eq_ite_lt]
  cases negative <;> simp only [signed, if_true, if_false, Bool.false_eq_true] <;> grind

theorem compare?_notNumber {d e : Decimal} (none : d.isNotNumber = true) :
    d.compare? e = .none := by
  cases d with
  | notNumber negative signalling payload => cases e <;> rfl
  | finite => cases none
  | infinite => cases none

theorem compare?_notNumber_right {d e : Decimal} (none : e.isNotNumber = true) :
    d.compare? e = .none := by
  rw [compare?_swap, compare?_notNumber none]
  rfl

/-! ### Sums of cents -/

/-- The sum of whole numbers of units, as a sign and a coefficient, is their sum. -/
theorem signed_ofUnits (bothNegative : Bool) (units : Int) :
    signed (ofUnits bothNegative units).1 (ofUnits bothNegative units).2 = units := by
  unfold ofUnits signed
  by_cases zero : units = 0
  · cases bothNegative <;> simp [zero]
  · by_cases below : units < 0
    · simp only [zero, below, if_false, decide_true, if_true]
      omega
    · simp only [zero, below, if_false, decide_false, Bool.false_eq_true]
      omega

/-- What has too many digits for the precision loses its last places, and there is no way back to
them. -/
theorem quantize_fit_of_long (mode : Rounding) (negative : Bool) {coefficient : Nat} (exponent : Int)
    (long : precision < digitCount coefficient) :
    (fit negative coefficient exponent).quantize mode exponent = none := by
  have large : 10 ^ (digitCount coefficient - 1) ≤ coefficient :=
    pow_digitCount_le fun none ↦ by rw [none] at long; exact absurd long (by decide)
  -- At the new exponent the number still has all the digits that the precision admits.
  have refused (kept : Nat) (higher : Int) (full : 10 ^ (precision - 1) ≤ kept)
      (above : exponent < higher) :
      quantize mode exponent (.finite negative kept higher) = none := by
    have some : kept ≠ 0 := fun none ↦ by rw [none] at full; exact absurd full (by decide)
    have digits : precision ≤ digitCount kept := Nat.le_of_not_lt fun less ↦ by
      have small : kept < 10 ^ (precision - 1) :=
        (digitCount_le_iff (by decide)).1 (Nat.le_sub_one_of_lt less)
      omega
    simp only [quantize]
    rw [if_neg some, if_pos (by omega), if_neg (by omega)]
  unfold fit
  rw [if_neg (by omega)]
  have places : digitCount coefficient - precision ≤ digitCount coefficient := Nat.sub_le _ _
  have quotient : 10 ^ (precision - 1) ≤
      coefficient / 10 ^ (digitCount coefficient - precision) := by
    rw [Nat.le_div_iff_mul_le (Nat.pow_pos (by decide)), ← Nat.pow_add]
    have sum : precision - 1 + (digitCount coefficient - precision) = digitCount coefficient - 1 := by
      unfold precision at long ⊢
      omega
    rw [sum]
    exact large
  have rounded : 10 ^ (precision - 1) ≤
      dropDigits .toEven coefficient (digitCount coefficient - precision) := by
    unfold dropDigits
    rw [if_neg (Nat.not_lt.2 places)]
    dsimp only
    split <;> omega
  dsimp only
  split
  · exact refused _ _ rounded (by omega)
  · next tooLong =>
    refine refused _ _ ?_ (by omega)
    have larger : 10 ^ precision ≤
        dropDigits .toEven coefficient (digitCount coefficient - precision) :=
      Nat.le_of_not_lt (mt (digitCount_le_iff (by decide)).2 tooLong)
    rw [Nat.le_div_iff_mul_le (by decide), ← Nat.pow_succ]
    exact larger

/-- The sum of two numbers of cents is the exact one, rounded to the precision. -/
theorem add_eq_fit {d e : Decimal} {first second : Int} (whole : d.cents? = some first)
    (whole' : e.cents? = some second) :
    ∃ negative coefficient, d.add e = some (fit negative coefficient centExponent) ∧
      signed negative coefficient = first + second := by
  obtain ⟨negative₁, coefficient₁, rfl, -, rfl⟩ := cents?_eq_some whole
  obtain ⟨negative₂, coefficient₂, rfl, -, rfl⟩ := cents?_eq_some whole'
  have total : units negative₁ coefficient₁ centExponent (min centExponent centExponent) +
      units negative₂ coefficient₂ centExponent (min centExponent centExponent) =
        signed negative₁ coefficient₁ + signed negative₂ coefficient₂ := by
    simp [units, signed]
  simp only [add, total]
  rw [Int.min_self]
  exact ⟨_, _, rfl, signed_ofUnits _ _⟩

/-- The sum of two numbers of cents is exact, or cannot be brought to two places. -/
theorem add_cents {d e : Decimal} {first second : Int} (whole : d.cents? = some first)
    (whole' : e.cents? = some second) :
    ∃ sum, d.add e = some sum ∧
      (sum.cents? = some (first + second) ∨ ∀ mode, sum.quantize mode centExponent = none) := by
  obtain ⟨negative, coefficient, added, total⟩ := add_eq_fit whole whole'
  refine ⟨_, added, ?_⟩
  by_cases short : digitCount coefficient ≤ precision
  · left
    rw [fit_of_digitCount_le _ _ short, cents?_finite _ short, total]
  · right
    exact fun mode ↦ quantize_fit_of_long mode _ _ (Nat.lt_of_not_le short)

theorem natAbs_signed (negative : Bool) (coefficient : Nat) :
    (signed negative coefficient).natAbs = coefficient := by
  cases negative <;> simp [signed]

/-- A sum within the precision is exact. -/
theorem add_cents_of_short {d e : Decimal} {first second : Int} (whole : d.cents? = some first)
    (whole' : e.cents? = some second) (short : (first + second).natAbs < 10 ^ precision) :
    ∃ sum, d.add e = some sum ∧ sum.cents? = some (first + second) := by
  obtain ⟨negative, coefficient, added, total⟩ := add_eq_fit whole whole'
  rw [← total, natAbs_signed, ← digitCount_le_iff (by decide)] at short
  refine ⟨_, added, ?_⟩
  rw [fit_of_digitCount_le _ _ short, cents?_finite _ short, total]

/-- A sum beyond the precision is above zero, and cannot be brought to two places. -/
theorem add_cents_of_long {d e : Decimal} {first second : Int} (whole : d.cents? = some first)
    (whole' : e.cents? = some second) (long : 10 ^ precision ≤ first + second) :
    ∃ sum, d.add e = some sum ∧ (∃ order, sum.compare? zero = some order ∧ order ≠ .lt) ∧
      ∀ mode, sum.quantize mode centExponent = none := by
  obtain ⟨negative, coefficient, added, total⟩ := add_eq_fit whole whole'
  have positive : (0 : Int) < first + second := Int.lt_of_lt_of_le (by decide) long
  obtain rfl : negative = false := by
    cases negative with
    | false => rfl
    | true =>
      have below : -(coefficient : Int) = first + second := total
      omega
  have digits : precision < digitCount coefficient := by
    refine Nat.lt_of_not_le fun short ↦ ?_
    have same : (coefficient : Int) = first + second := total
    rw [← same] at long
    exact Nat.not_lt.2 (Int.ofNat_le.1 long) ((digitCount_le_iff (by decide)).1 short)
  refine ⟨_, added, ?_, fun mode ↦ quantize_fit_of_long mode _ _ digits⟩
  obtain ⟨kept, exponent, rounded⟩ :
      ∃ kept exponent, fit false coefficient centExponent = .finite false kept exponent := by
    unfold fit
    dsimp only
    split
    · exact ⟨_, _, rfl⟩
    · split <;> exact ⟨_, _, rfl⟩
  rw [rounded]
  refine ⟨_, rfl, ?_⟩
  by_cases none : kept = 0 <;> simp [none]

theorem cents?_negate {d : Decimal} {cents : Int} (whole : d.cents? = some cents) :
    d.negate.cents? = some (-cents) := by
  obtain ⟨negative, coefficient, rfl, short, rfl⟩ := cents?_eq_some whole
  rw [negate, cents?_finite _ short]
  cases negative <;> simp [signed]

/-- The difference of two numbers of cents is exact, or cannot be brought to two places. -/
theorem sub_cents {d e : Decimal} {first second : Int} (whole : d.cents? = some first)
    (whole' : e.cents? = some second) :
    ∃ difference, d.sub e = some difference ∧
      (difference.cents? = some (first - second) ∨
        ∀ mode, difference.quantize mode centExponent = none) := by
  obtain ⟨negative₁, coefficient₁, rfl, -, -⟩ := cents?_eq_some whole
  obtain ⟨negative₂, coefficient₂, rfl, -, -⟩ := cents?_eq_some whole'
  exact add_cents whole (cents?_negate whole')

/-- Numbers of cents are within the precision. -/
theorem natAbs_lt_of_cents {d : Decimal} {cents : Int} (whole : d.cents? = some cents) :
    cents.natAbs < 10 ^ precision := by
  obtain ⟨negative, coefficient, rfl, short, rfl⟩ := cents?_eq_some whole
  rw [natAbs_signed]
  exact (digitCount_le_iff (by decide)).1 short

/-- What is taken from no less is taken exactly. -/
theorem sub_cents_of_le {d e : Decimal} {first second : Int} (whole : d.cents? = some first)
    (whole' : e.cents? = some second) (notBelow : 0 ≤ second) (enough : second ≤ first) :
    ∃ difference, d.sub e = some difference ∧ difference.cents? = some (first - second) := by
  have bound := natAbs_lt_of_cents whole
  obtain ⟨negative₁, coefficient₁, rfl, -, -⟩ := cents?_eq_some whole
  obtain ⟨negative₂, coefficient₂, rfl, -, -⟩ := cents?_eq_some whole'
  refine add_cents_of_short whole (cents?_negate whole') ?_
  omega

/-! ### Bringing to cents -/

/-- What is brought to cents is a number of cents, unless it is no number. -/
theorem quantize_cents? {mode : Rounding} {d cents : Decimal}
    (brought : d.quantize mode centExponent = some cents) :
    (∃ number, cents.cents? = some number) ∨ cents.isNotNumber = true := by
  unfold quantize at brought
  split at brought
  · next negative signalling payload =>
    unfold passOn at brought
    split at brought
    · cases brought
    · obtain rfl := Option.some.inj brought
      exact Or.inr rfl
  · cases brought
  · next negative coefficient exponent =>
    refine Or.inl ?_
    split at brought
    · obtain rfl := Option.some.inj brought
      exact ⟨_, cents?_finite negative (by decide)⟩
    · split at brought
      · split at brought
        · next fits =>
          obtain rfl := Option.some.inj brought
          exact ⟨_, cents?_finite negative (Nat.le_trans (digitCount_mul_pow_le _ _) fits)⟩
        · cases brought
      · dsimp only at brought
        split at brought
        · next fits =>
          obtain rfl := Option.some.inj brought
          exact ⟨_, cents?_finite negative fits⟩
        · cases brought

/-- Cents are brought to cents unchanged. -/
theorem quantize_of_cents (mode : Rounding) {d : Decimal} {cents : Int}
    (whole : d.cents? = some cents) : d.quantize mode centExponent = some d := by
  obtain ⟨negative, coefficient, rfl, short, -⟩ := cents?_eq_some whole
  exact quantize_cents mode negative short

end Passbook.Decimal

namespace Passbook.Money

/-- The whole number of cents that the text of a column is read as. -/
def storedCents? (content : String) : Option Int :=
  match readText content with
  | .ok number => number.cents?
  | .error _ => none

theorem storedCents?_of_readText {content : String} {number : Decimal}
    (read : readText content = .ok number) : storedCents? content = number.cents? := by
  rw [storedCents?, read]

theorem rounded_ok {given : Value} {cents : Decimal} (brought : rounded given = .ok cents) :
    ∃ number, given.toDecimal = .ok number ∧
      number.quantize .toEven centExponent = some cents := by
  cases converted : given.toDecimal with
  | error fault =>
    unfold rounded at brought
    rw [converted] at brought
    cases brought
  | ok number =>
    rw [rounded_eq converted] at brought
    refine ⟨number, rfl, ?_⟩
    cases quantized : number.quantize .toEven centExponent with
    | none =>
      rw [quantized] at brought
      cases brought
    | some rounded =>
      rw [quantized] at brought
      obtain rfl := Except.ok.inj brought
      rfl

/-- Cents are rounded to themselves. -/
theorem rounded_of_cents {number : Decimal} {cents : Int} (whole : number.cents? = some cents) :
    rounded (.decimal number) = .ok number := by
  rw [rounded_eq rfl, Decimal.quantize_of_cents .toEven whole]
  rfl

/-- What is read from a column is a number of cents, unless it is no number. -/
theorem readText_cents {content : String} {number : Decimal} (read : readText content = .ok number) :
    (∃ cents, number.cents? = some cents) ∨ number.isNotNumber = true := by
  obtain ⟨_, _, quantized⟩ := rounded_ok read
  exact Decimal.quantize_cents? quantized

/-- Cents are read from the column as they were stored. -/
theorem readText_of_cents {number : Decimal} {cents : Int} (whole : number.cents? = some cents) :
    readText number.text = .ok number := by
  obtain ⟨negative, coefficient, rfl, short, -⟩ := Decimal.cents?_eq_some whole
  exact readText_text negative short

theorem storedCents?_text {number : Decimal} {cents : Int} (whole : number.cents? = some cents) :
    storedCents? number.text = some cents := by
  rw [storedCents?_of_readText (readText_of_cents whole), whole]

/-- What a column keeps for cents. -/
def ColumnForm.keep (form : ColumnForm) (cents : Decimal) : Stored :=
  match form with
  | .text => .text cents.text
  | .number => .number cents

/-- Both forms of a column keep the cents of a value. -/
theorem bind_eq_map_rounded (form : ColumnForm) {given : Value} (there : given ≠ .absent) :
    bind form given = (rounded given).map fun cents ↦ some (form.keep cents) := by
  unfold bind
  split
  · exact absurd rfl there
  · cases rounded given <;> rfl

theorem bind_decimal_eq (form : ColumnForm) (number : Decimal) :
    bind form (.decimal number) =
      (number.quantize .toEven centExponent).elim (.error .undefined)
        fun cents ↦ .ok (some (form.keep cents)) := by
  rw [bind_eq_map_rounded form (by simp), rounded_eq rfl]
  cases number.quantize .toEven centExponent <;> rfl

/-- An amount that is accepted is a whole number of cents. -/
theorem ofValue_cents {given : Value} {amount : Decimal} (accepted : ofValue given = .ok amount) :
    ∃ cents, amount.cents? = some cents := by
  have quantized {number : Decimal} (accepted : ofDecimal given number = .ok amount) :
      ∃ cents, amount.cents? = some cents := by
    obtain ⟨-, brought, equal⟩ := ofDecimal_ok accepted
    rcases Decimal.quantize_cents? brought with whole | none
    · exact whole
    · rw [Decimal.compare?_notNumber_right none] at equal
      cases equal
  unfold ofValue refuse at accepted
  split at accepted
  · cases accepted
  · cases accepted
  · split at accepted
    · cases accepted
    · cases accepted
    · exact quantized accepted

end Passbook.Money
