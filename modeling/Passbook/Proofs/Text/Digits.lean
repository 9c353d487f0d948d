import Passbook.Decimal.Basic

/-!
Digits that are written read back as the number they were written for. Main statements: a row of plain
digits denotes the number that the digits of a number were made of (`ofDigits_digits`), zeros in front of
it change nothing (`ofDigits_zeros_digits`), and a number has at most so many digits exactly if it is
below that power of ten (`digitCount_le_iff`).
-/

set_option autoImplicit false
set_option relaxedAutoImplicit false

-- Powers are those of the core library, whatever else is imported.
attribute [local instance (high)] instPowNat

namespace Passbook.Text

/-- The values of the plain digits of a text. -/
abbrev digitValues (text : List Char) : List Nat := text.filterMap plainDigit?

theorem toNat_of_isDigit {c : Char} (plain : c.isDigit = true) : 48 ≤ c.toNat ∧ c.toNat ≤ 57 := by
  simp only [Char.isDigit, ge_iff_le, Bool.and_eq_true, decide_eq_true_eq] at plain
  obtain ⟨low, high⟩ := plain
  rw [UInt32.le_iff_toNat_le] at low high
  exact ⟨low, high⟩

theorem plainDigit?_of_isDigit {c : Char} (plain : c.isDigit = true) :
    plainDigit? c = some (c.toNat - 48) := by
  have range := toNat_of_isDigit plain
  simp [plainDigit?, range]

/-- The digits before a number take their place in front of it. -/
theorem foldl_digitValues (text : List Char) (plain : ∀ c ∈ text, c.isDigit = true) (start : Nat) :
    (digitValues text).foldl (fun number digit ↦ number * 10 + digit) start =
      Nat.ofDigitChars 10 text start := by
  induction text generalizing start with
  | nil => rfl
  | cons c rest ih =>
    have first : c.isDigit = true := plain c List.mem_cons_self
    have others : ∀ d ∈ rest, d.isDigit = true := fun d member ↦ plain d (List.mem_cons_of_mem c member)
    rw [digitValues, List.filterMap_cons_some (plainDigit?_of_isDigit first), List.foldl_cons,
      Nat.ofDigitChars_cons, Nat.mul_comm start 10]
    exact ih others _

theorem isDigit_of_mem_digits {number : Nat} {c : Char} (member : c ∈ digits number) :
    c.isDigit = true :=
  Nat.isDigit_of_mem_toDigits (by decide) (by decide) member

/-- The digits of a number denote the number. -/
theorem ofDigits_digits (number : Nat) : ofDigits (digitValues (digits number)) = number := by
  unfold ofDigits
  rw [foldl_digitValues _ fun _ ↦ isDigit_of_mem_digits]
  exact Nat.ofDigitChars_ten_toDigits

theorem isDigit_of_mem_zeros_digits {zeros number : Nat} :
    ∀ c ∈ List.replicate zeros '0' ++ digits number, c.isDigit = true := by
  intro c member
  rcases List.mem_append.1 member with zero | digit
  · rw [List.eq_of_mem_replicate zero]
    rfl
  · exact isDigit_of_mem_digits digit

/-- Zeros in front of the digits of a number change nothing. -/
theorem ofDigits_zeros_digits (zeros number : Nat) :
    ofDigits (digitValues (List.replicate zeros '0' ++ digits number)) = number := by
  unfold ofDigits
  rw [foldl_digitValues _ isDigit_of_mem_zeros_digits, Nat.ofDigitChars_append, Nat.ofDigitChars_replicate_zero]
  exact Nat.ofDigitChars_ten_toDigits

end Passbook.Text

namespace Passbook.Decimal

theorem digitCount_pos (coefficient : Nat) : 0 < digitCount coefficient := Nat.length_toDigits_pos

/-- A number has at most so many digits exactly if it is below that power of ten. -/
theorem digitCount_le_iff {coefficient count : Nat} (some : 0 < count) :
    digitCount coefficient ≤ count ↔ coefficient < 10 ^ count :=
  Nat.length_toDigits_le_iff (by decide) some

theorem digitCount_mono {first second : Nat} (le : first ≤ second) :
    digitCount first ≤ digitCount second :=
  (digitCount_le_iff (digitCount_pos second)).2
    (Nat.lt_of_le_of_lt le ((digitCount_le_iff (digitCount_pos second)).1 (Nat.le_refl _)))

/-- A number that is not zero reaches the power of ten of its first digit. -/
theorem pow_digitCount_le {coefficient : Nat} (some : coefficient ≠ 0) :
    10 ^ (digitCount coefficient - 1) ≤ coefficient := by
  refine Nat.le_of_not_lt fun less ↦ ?_
  by_cases single : digitCount coefficient = 1
  · rw [single] at less
    exact some (Nat.lt_one_iff.1 less)
  · have digits := digitCount_pos coefficient
    have count := (digitCount_le_iff (by omega)).2 less
    omega

/-- Places behind a number are as many digits more at most. -/
theorem digitCount_mul_pow_le (coefficient places : Nat) :
    digitCount (coefficient * 10 ^ places) ≤ digitCount coefficient + places := by
  have some := digitCount_pos coefficient
  rw [digitCount_le_iff (by omega), Nat.pow_add]
  exact Nat.mul_lt_mul_of_pos_right ((digitCount_le_iff some).1 (Nat.le_refl _))
    (Nat.pow_pos (by decide))

/-- Places behind a number that is not zero are as many digits more. -/
theorem digitCount_mul_pow {coefficient : Nat} (some : coefficient ≠ 0) (places : Nat) :
    digitCount (coefficient * 10 ^ places) = digitCount coefficient + places := by
  refine Nat.le_antisymm (digitCount_mul_pow_le coefficient places) (Nat.le_of_not_lt fun short ↦ ?_)
  have digits := digitCount_pos coefficient
  have digits' := digitCount_pos (coefficient * 10 ^ places)
  have below : coefficient * 10 ^ places < 10 ^ (digitCount coefficient - 1 + places) :=
    (digitCount_le_iff (by omega)).1 (by omega)
  rw [Nat.pow_add] at below
  have reaches := Nat.mul_le_mul_right (10 ^ places) (pow_digitCount_le some)
  omega

end Passbook.Decimal
