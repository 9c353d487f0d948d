import Passbook.Proofs.Binary64.Shortest
import Passbook.Proofs.Decimal.Numeral
import Passbook.Proofs.Money.Order

/-!
The text of a binary number as a decimal. Digits are written as a numeral, with a point or with an exponent,
and the numeral is worth just what the digits are at their power of ten (`digitsText_numeral`). Main
statement: a decimal that is read from the text is worth the shortest digits (`toRat_of_ofText?`).
-/

set_option autoImplicit false
set_option relaxedAutoImplicit false

-- Powers are those of the core library, whatever else is imported.
attribute [local instance (high)] instPowNat

-- What holds of all members of a list is decided along the list, whatever else is imported.
attribute [local instance (high)] List.decidableBAll

namespace Passbook

open Decimal (Numeral)

namespace Text

/-- Zeros behind the digits of a number multiply it. -/
theorem ofDigits_digits_zeros (number zeros : Nat) :
    ofDigits (digitValues (digits number ++ List.replicate zeros '0')) = number * 10 ^ zeros := by
  have plain : ∀ c ∈ digits number ++ List.replicate zeros '0', c.isDigit = true := by
    intro c member
    rcases List.mem_append.1 member with digit | zero
    · exact isDigit_of_mem_digits digit
    · rw [List.eq_of_mem_replicate zero]
      rfl
  unfold ofDigits
  rw [foldl_digitValues _ plain, Nat.ofDigitChars_append, Nat.ofDigitChars_replicate_zero, Nat.mul_comm]
  exact congrArg (· * 10 ^ zeros) Nat.ofDigitChars_ten_toDigits

end Text

namespace Binary64

/-! ### Digits without zeros at their end -/

theorem strip_value (most count : Nat) (power : Int) :
    ((trimmed.strip most count power).1 : ℚ) * 10 ^ (trimmed.strip most count power).2 =
      count * 10 ^ power := by
  induction most generalizing count power with
  | zero => rfl
  | succ more ih =>
    unfold trimmed.strip
    split
    · next zero =>
      have parts : count = count / 10 * 10 := by omega
      rw [ih, zpow_add_one₀ (by norm_num)]
      conv_rhs => rw [parts]
      push_cast
      ring
    · rfl

/-- Zeros at the end are worth nothing. -/
theorem trimmed_value (digits : Nat × Int) :
    ((trimmed digits).1 : ℚ) * 10 ^ (trimmed digits).2 = digits.1 * 10 ^ digits.2 :=
  strip_value _ digits.1 digits.2

/-! ### Written digits -/

/-- The digits of a number. -/
def digitsOf (number : Nat) : Decimal.Digits where
  chars := Text.digits number
  some := List.ne_nil_of_length_pos (Decimal.digitCount_pos number)
  plain _ := Text.isDigit_of_mem_digits

/-- The exponent as it is written. -/
theorem exponentText_eq (power : Int) :
    ∃ exponent : Decimal.Exponent, exponentText power = exponent.chars ∧ exponent.value = power := by
  let zeros := 2 - (Text.digits power.natAbs).length
  have plain : ∀ c ∈ List.replicate zeros '0' ++ Text.digits power.natAbs, c.isDigit = true :=
    Text.isDigit_of_mem_zeros_digits
  have some : List.replicate zeros '0' ++ Text.digits power.natAbs ≠ [] :=
    List.append_ne_nil_of_right_ne_nil _ (digitsOf power.natAbs).some
  let exponent : Decimal.Exponent :=
    { letter := 'e', isLetter := Or.inl rfl, mark := if power < 0 then .minus else .plus
      digits := ⟨_, some, plain⟩ }
  have digits : exponent.digits.value = power.natAbs := Text.ofDigits_zeros_digits zeros power.natAbs
  refine ⟨exponent, ?_, ?_⟩
  · unfold exponentText Decimal.Exponent.chars
    by_cases below : power < 0 <;> simp [exponent, below, Decimal.Mark.chars, zeros]
  · rw [Decimal.Exponent.value, digits]
    by_cases below : power < 0 <;> simp only [exponent, below, if_true, if_false, Decimal.Mark.isNegative,
      Bool.false_eq_true] <;> omega

/-- A number without a fraction is written with a zero behind the point. -/
theorem wholeText_numeral (count : Nat) {power : Int} (notBelow : 0 ≤ power) :
    ∃ numeral : Numeral,
      Text.digits count ++ List.replicate power.toNat '0' ++ ".0".toList = numeral.chars ∧
        numeral.value = count * 10 ^ power := by
  have plain : ∀ c ∈ Text.digits count ++ List.replicate power.toNat '0', c.isDigit = true := by
    intro c member
    rcases List.mem_append.1 member with digit | zero
    · exact Text.isDigit_of_mem_digits digit
    · rw [List.eq_of_mem_replicate zero]
      rfl
  have some : Text.digits count ++ List.replicate power.toNat '0' ≠ [] :=
    List.append_ne_nil_of_left_ne_nil (digitsOf count).some _
  let numeral : Numeral :=
    { whole := ⟨_, some, plain⟩, fraction := .some ⟨['0'], List.cons_ne_nil _ _, by decide⟩ }
  have coefficient : numeral.coefficient = count * 10 ^ (power.toNat + 1) := by
    rw [← Text.ofDigits_digits_zeros, List.replicate_succ', ← List.append_assoc]
    rfl
  refine ⟨numeral, by simp [Numeral.chars, Numeral.fractionChars, Numeral.exponentChars, numeral], ?_⟩
  have place : numeral.power = -1 := rfl
  rw [Numeral.value, coefficient, place, power_of_nonneg 10 notBelow, pow_succ]
  push_cast
  norm_num
  ring

/-- A number of at least one with a fraction is written with the point among its digits. -/
theorem pointedText_numeral (count : Nat) {power : Int} (below : power < 0)
    (begins : 0 ≤ power + (Text.digits count).length - 1) :
    ∃ numeral : Numeral,
      (Text.digits count).take (power + (Text.digits count).length - 1 + 1).toNat ++
          '.' :: (Text.digits count).drop (power + (Text.digits count).length - 1 + 1).toNat =
        numeral.chars ∧ numeral.value = count * 10 ^ power := by
  have parts := List.take_append_drop (power + (Text.digits count).length - 1 + 1).toNat (Text.digits count)
  have plain : ∀ c ∈ Text.digits count, c.isDigit = true := fun _ ↦ Text.isDigit_of_mem_digits
  have some : (Text.digits count).take (power + (Text.digits count).length - 1 + 1).toNat ≠ [] := by
    refine List.ne_nil_of_length_pos ?_
    rw [List.length_take]
    omega
  have length : ((Text.digits count).drop (power + (Text.digits count).length - 1 + 1).toNat).length =
      (-power).toNat := by
    rw [List.length_drop]
    omega
  have some' : (Text.digits count).drop (power + (Text.digits count).length - 1 + 1).toNat ≠ [] := by
    refine List.ne_nil_of_length_pos ?_
    rw [length]
    omega
  let numeral : Numeral :=
    { whole := ⟨_, some, fun c member ↦ plain c (List.mem_of_mem_take member)⟩
      fraction := .some ⟨_, some', fun c member ↦ plain c (List.mem_of_mem_drop member)⟩ }
  have coefficient : numeral.coefficient = count := by
    refine Eq.trans ?_ (Text.ofDigits_digits count)
    conv_rhs => rw [← parts]
    rfl
  have place : numeral.power = power := by
    simp only [Numeral.power, Numeral.places, numeral, Option.elim_some, Option.elim_none, length]
    omega
  refine ⟨numeral, by simp [Numeral.chars, Numeral.fractionChars, Numeral.exponentChars, numeral], ?_⟩
  rw [Numeral.value, coefficient, place]

/-- A number below one is written with zeros behind the point. -/
theorem smallText_numeral (count : Nat) {power : Int}
    (begins : power + (Text.digits count).length - 1 < 0) :
    ∃ numeral : Numeral,
      '0' :: '.' :: (List.replicate (-(power + (Text.digits count).length - 1) - 1).toNat '0' ++
          Text.digits count) =
        numeral.chars ∧ numeral.value = count * 10 ^ power := by
  let zeros := (-(power + (Text.digits count).length - 1) - 1).toNat
  have plain : ∀ c ∈ List.replicate zeros '0' ++ Text.digits count, c.isDigit = true :=
    Text.isDigit_of_mem_zeros_digits
  have some : List.replicate zeros '0' ++ Text.digits count ≠ [] :=
    List.append_ne_nil_of_right_ne_nil _ (digitsOf count).some
  let numeral : Numeral :=
    { whole := ⟨['0'], List.cons_ne_nil _ _, by decide⟩, fraction := .some ⟨_, some, plain⟩ }
  have coefficient : numeral.coefficient = count := Text.ofDigits_zeros_digits (zeros + 1) count
  have place : numeral.power = power := by
    simp only [Numeral.power, Numeral.places, numeral, Option.elim_some, Option.elim_none,
      List.length_append, List.length_replicate]
    omega
  refine ⟨numeral, ?_, by rw [Numeral.value, coefficient, place]⟩
  simp only [Numeral.chars, Numeral.fractionChars, Numeral.exponentChars, numeral, Option.elim_some,
    Option.elim_none, List.append_nil]
  rfl

/-- Any other number is written with an exponent, which belongs to its first digit. -/
theorem scientificText_numeral (count : Nat) (power : Int) :
    ∃ numeral : Numeral,
      (match Text.digits count with
        | [] => []
        | [digit] => [digit]
        | digit :: rest => digit :: '.' :: rest) ++
          exponentText (power + (Text.digits count).length - 1) =
        numeral.chars ∧ numeral.value = count * 10 ^ power := by
  obtain ⟨exponent, written, isPower⟩ := exponentText_eq (power + (Text.digits count).length - 1)
  have denotes := Text.ofDigits_digits count
  have plain : ∀ c ∈ Text.digits count, c.isDigit = true := fun _ ↦ Text.isDigit_of_mem_digits
  rw [written]
  rcases shown : Text.digits count with _ | ⟨first, _ | ⟨second, rest⟩⟩
  · exact absurd shown (digitsOf count).some
  · rw [shown] at denotes plain isPower
    let numeral : Numeral :=
      { whole := ⟨[first], List.cons_ne_nil _ _, plain⟩, exponent := some exponent }
    refine ⟨numeral, by simp [Numeral.chars, Numeral.fractionChars, Numeral.exponentChars, numeral], ?_⟩
    have coefficient : numeral.coefficient = count := denotes
    have place : numeral.power = power := by
      simp only [Numeral.power, Numeral.places, numeral, Option.elim_some, Option.elim_none, isPower,
        List.length_cons, List.length_nil]
      omega
    rw [Numeral.value, coefficient, place]
  · rw [shown] at denotes plain isPower
    let numeral : Numeral :=
      { whole := ⟨[first], List.cons_ne_nil _ _, fun c member ↦
          plain c (List.mem_singleton.1 member ▸ List.mem_cons_self)⟩
        fraction := some ⟨second :: rest, List.cons_ne_nil _ _, fun c member ↦
          plain c (List.mem_cons_of_mem first member)⟩
        exponent := some exponent }
    refine ⟨numeral, by simp [Numeral.chars, Numeral.fractionChars, Numeral.exponentChars, numeral], ?_⟩
    have coefficient : numeral.coefficient = count := denotes
    have place : numeral.power = power := by
      simp only [Numeral.power, Numeral.places, numeral, Option.elim_some, isPower, List.length_cons]
      omega
    rw [Numeral.value, coefficient, place]

/-- Digits are written as a numeral that is worth what they are. -/
theorem digitsText_numeral (count : Nat) (power : Int) :
    ∃ numeral : Numeral, digitsText count power = numeral.chars ∧ numeral.value = count * 10 ^ power := by
  unfold digitsText
  dsimp only
  split
  · split
    · next notBelow => exact wholeText_numeral count notBelow
    · split
      · next below begins => exact pointedText_numeral count (by omega) begins
      · next begins => exact smallText_numeral count (by omega)
  · exact scientificText_numeral count power

/-! ### Reading the text -/

/-- The number that the shortest text denotes; what is not finite denotes none and counts as zero. -/
def shown : Binary64 → ℚ
  | .finite negative significand exponent =>
    if significand = 0 then 0
    else
      let magnitude : ℚ := (shortest significand exponent).1 * 10 ^ (shortest significand exponent).2
      if negative then -magnitude else magnitude
  | _ => 0

/-- The text of a number is a numeral behind its sign. -/
theorem chars_numeral (negative : Bool) {significand : Nat} (some : significand ≠ 0) (exponent : Int) :
    ∃ numeral : Numeral,
      chars (.finite negative significand exponent) =
          (Decimal.Mark.ofSign negative).chars ++ numeral.chars ∧
        numeral.value = (shortest significand exponent).1 * 10 ^ (shortest significand exponent).2 := by
  obtain ⟨numeral, written, value⟩ := digitsText_numeral
    (trimmed (shortest significand exponent)).1 (trimmed (shortest significand exponent)).2
  refine ⟨numeral, ?_, value.trans (trimmed_value _)⟩
  rw [← written]
  simp only [chars, if_neg some]
  cases negative <;> rfl

/-- A finite decimal that is read from the text of a binary number is worth what the text shows. -/
theorem toRat_of_ofText? {x : Binary64} {number : Decimal} (read : Decimal.ofText? x.text = some number)
    (finite : number.isFinite = true) : number.toRat = x.shown := by
  have read' : Decimal.ofChars? x.chars = some number := by
    rw [← read, Decimal.ofText?, text, String.toList_ofList]
  cases x with
  | infinite negative =>
    have isInfinite : Decimal.ofChars? (chars (.infinite negative)) = some (.infinite negative) := by
      cases negative <;> decide +kernel
    obtain rfl := Option.some.inj (isInfinite.symm.trans read')
    cases finite
  | notNumber =>
    have isNone : Decimal.ofChars? (chars .notNumber) = some (.notNumber false false 0) := by
      decide +kernel
    obtain rfl := Option.some.inj (isNone.symm.trans read')
    cases finite
  | finite negative significand exponent =>
    by_cases none : significand = 0
    · have isZero : Decimal.ofChars? (chars (.finite negative 0 exponent)) =
          some (.finite negative 0 (-1)) := by
        change Decimal.ofChars? (chars (.finite negative 0 0)) = _
        cases negative <;> decide +kernel
      rw [none] at read'
      obtain rfl := Option.some.inj (isZero.symm.trans read')
      rw [shown, if_pos none, Decimal.toRat_finite]
      simp
    · obtain ⟨numeral, written, value⟩ := chars_numeral negative none exponent
      rw [written, numeral.ofChars?_chars, Decimal.Mark.isNegative_ofSign] at read'
      unfold Decimal.bounded? at read'
      split at read'
      · obtain rfl := Option.some.inj read'
        rw [shown, if_neg none, Decimal.toRat_finite, ← value]
        rfl
      · cases read'

end Binary64

end Passbook
