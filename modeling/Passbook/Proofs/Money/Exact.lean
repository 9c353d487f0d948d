import Passbook.Proofs.Money.Denoted
import Passbook.Proofs.Money.Judged

/-!
Which amounts are accepted, and as what. A finite decimal is an exact amount if and only if the number that
it is is a whole number of cents within the precision (`ofDecimal_isExact_iff`), and the amount is that
number at two places. A text, a whole number or a decimal is accepted by the number that it denotes, with one
exception: the digits of a text must be within the limits of the exponent, even if they are all zero. Main
statement: `ofValue_exact`.
-/

set_option autoImplicit false
set_option relaxedAutoImplicit false

-- Powers are those of the core library, whatever else is imported.
attribute [local instance (high)] instPowNat

-- What holds of all members of a list is decided along the list, whatever else is imported.
attribute [local instance (high)] List.decidableBAll

namespace Passbook.Decimal

open Money (centExponent)

/-- Cents that are not nothing have one decimal. -/
theorem eq_of_cents {d e : Decimal} {cents : Int} (whole : d.cents? = some cents)
    (whole' : e.cents? = some cents) (some : cents ≠ 0) : d = e := by
  obtain ⟨negative, coefficient, rfl, -, same⟩ := cents?_eq_some whole
  obtain ⟨negative', coefficient', rfl, -, same'⟩ := cents?_eq_some whole'
  unfold signed at same same'
  cases negative <;> cases negative' <;> simp at same same' ⊢ <;> omega

end Passbook.Decimal

namespace Passbook.Value

open Decimal (Figure)

/-- Whether a value is of a kind in which amounts are taken: a text, a whole number or a decimal. -/
def isExactKind : Value → Bool
  | .text _ | .integer _ | .decimal _ => true
  | .truth _ | .absent | .binary _ | .list _ | .tuple _ | .mapping _ | .bytes _ => false

theorem isNumeric_of_isExactKind {given : Value} (exact : given.isExactKind = true) :
    given.isNumeric = true := by
  cases given <;> first | rfl | cases exact

/-- A text is within the limits of the exponent if a figure that it shows is. -/
theorem isWithinLimits_of_figure {content : String} {figure : Figure}
    (shown : figure.IsShownBy content.toList) (within : figure.IsWithinLimits) :
    (Value.text content).IsWithinLimits := fun other same figure' shown' ↦ by
  obtain rfl := Value.text.inj same
  obtain ⟨-, coefficient, power⟩ := Figure.unique shown shown'
  unfold Figure.IsWithinLimits at within ⊢
  rw [← coefficient, ← power]
  exact within

end Passbook.Value

namespace Passbook.Money

open Decimal (Figure)

/-- A whole number of cents below the precision. -/
structure IsExactAmount (number : ℚ) : Prop where
  whole : ∃ cents : ℤ, number = cents / 100
  small : |number| < 10 ^ 26

variable {given : Value} {number : Decimal}

/-- An accepted amount is a number of cents, and the number that the decimal is. -/
theorem ofDecimal_toRat {exact : Decimal} (accepted : ofDecimal given number = .ok exact) :
    ∃ cents, exact.cents? = some cents ∧ number.toRat = cents / 100 := by
  obtain ⟨finite, brought, equal⟩ := ofDecimal_ok accepted
  rcases Decimal.quantize_cents? brought with ⟨cents, whole⟩ | none
  · obtain ⟨_, _, rfl, -, -⟩ := Decimal.cents?_eq_some whole
    rw [Decimal.compare?_toRat finite rfl, Option.some.injEq, cmp_eq_eq_iff] at equal
    exact ⟨cents, whole, equal.trans (Decimal.toRat_of_cents whole)⟩
  · rw [Decimal.compare?_notNumber_right none] at equal
    cases equal

theorem abs_cents_lt_iff (cents : ℤ) :
    |(cents : ℚ) / 100| < 10 ^ 26 ↔ cents.natAbs < 10 ^ Decimal.precision := by
  have magnitude : |(cents : ℚ)| = (cents.natAbs : ℚ) := by rw [Nat.cast_natAbs, Int.cast_abs]
  rw [abs_div, magnitude, abs_of_pos (by norm_num : (0 : ℚ) < 100), div_lt_iff₀ (by norm_num)]
  unfold Decimal.precision
  constructor
  · intro below
    have below' : (cents.natAbs : ℚ) < (10 ^ 28 : Nat) := by norm_num at below ⊢; exact below
    exact_mod_cast below'
  · intro below
    have below' : (cents.natAbs : ℚ) < (10 ^ 28 : Nat) := by exact_mod_cast below
    norm_num at below' ⊢
    exact below'

/-- The magnitude of a decimal that is a whole number of cents. -/
theorem magnitude_of_cents {negative : Bool} {coefficient : Nat} {exponent cents : ℤ}
    (same : (Decimal.finite negative coefficient exponent).toRat = cents / 100) :
    (coefficient : ℚ) * 10 ^ exponent = cents.natAbs * 10 ^ centExponent := by
  have magnitude : (cents.natAbs : ℚ) = |(cents : ℚ)| := by rw [Nat.cast_natAbs, Int.cast_abs]
  have positive : (0 : ℚ) ≤ coefficient * 10 ^ exponent := by positivity
  have abs : |(Decimal.finite negative coefficient exponent).toRat| = coefficient * 10 ^ exponent := by
    rw [Decimal.toRat_finite]
    cases negative
    · exact abs_of_nonneg positive
    · exact (abs_neg _).trans (abs_of_nonneg positive)
  rw [magnitude, ← abs, same, abs_div, abs_of_pos (by norm_num : (0 : ℚ) < 100), centExponent]
  norm_num
  ring

theorem ofDecimal_of_equal {exact : Decimal} (finite : number.isFinite = true)
    (brought : number.quantize .towardZero centExponent = some exact)
    (equal : number.compare? exact = some .eq) : ofDecimal given number = .ok exact := by
  unfold ofDecimal
  rw [if_pos finite, brought]
  exact if_pos equal

/-- A finite decimal is an exact amount if and only if it is a whole number of cents within the precision. -/
theorem ofDecimal_isExact_iff (given : Value) (finite : number.isFinite = true) :
    (∃ exact, ofDecimal given number = .ok exact) ↔ IsExactAmount number.toRat := by
  constructor
  · rintro ⟨exact, accepted⟩
    obtain ⟨cents, whole, same⟩ := ofDecimal_toRat accepted
    refine ⟨⟨cents, same⟩, ?_⟩
    rw [same, abs_cents_lt_iff]
    exact Decimal.natAbs_lt_of_cents whole
  · rintro ⟨⟨cents, same⟩, small⟩
    cases number with
    | infinite | notNumber => cases finite
    | finite negative coefficient exponent =>
      rw [same, abs_cents_lt_iff] at small
      have magnitude := magnitude_of_cents same
      have units : (coefficient : ℚ) * 10 ^ (exponent - centExponent) = cents.natAbs := by
        rw [zpow_sub₀ (by norm_num), ← mul_div_assoc, magnitude, mul_div_cancel_right₀ _ (by positivity)]
      have kept := Decimal.brought_of_whole .towardZero units
      have short : Decimal.digitCount cents.natAbs ≤ Decimal.precision :=
        (Decimal.digitCount_le_iff (by decide)).2 small
      have brought := Decimal.quantize_finite .towardZero centExponent negative coefficient exponent
      rw [kept, if_pos short] at brought
      have equal : (Decimal.finite negative coefficient exponent).toRat =
          (Decimal.finite negative cents.natAbs centExponent).toRat := by
        rw [Decimal.toRat_finite, Decimal.toRat_finite, magnitude]
      have compared := Decimal.compare?_toRat finite (e := .finite negative cents.natAbs centExponent) rfl
      rw [equal, cmp_self_eq_eq] at compared
      exact ⟨_, ofDecimal_of_equal finite brought compared⟩

/-- A value of a kind in which amounts are taken is judged by the decimal that it is read as. -/
theorem ofValue_of_read (exactKind : given.isExactKind = true) {read : Decimal}
    (converted : given.toDecimal = .ok read) : ofValue given = ofDecimal given read := by
  cases given with
  | text | integer | decimal => simp only [ofValue, converted]
  | truth | absent | binary | list | tuple | mapping | bytes => cases exactKind

/-- A value that is not read as a decimal is no amount. -/
theorem ofValue_of_unread (exactKind : given.isExactKind = true) {cause : NoDecimal}
    (unread : given.toDecimal = .error cause) (amount : Decimal) : ofValue given ≠ .ok amount := by
  intro accepted
  cases given with
  | text | integer | decimal =>
    simp only [ofValue, unread, refuse] at accepted
    cases cause <;> cases accepted
  | truth | absent | binary | list | tuple | mapping | bytes => cases exactKind

/-- An amount of a kind in which amounts are taken is the decimal that it is read as, if that is exact. -/
theorem ofValue_eq_ok_iff (exactKind : given.isExactKind = true) (amount : Decimal) :
    ofValue given = .ok amount ↔
      ∃ read, given.toDecimal = .ok read ∧ ofDecimal given read = .ok amount := by
  constructor
  · intro accepted
    cases converted : given.toDecimal with
    | ok read => exact ⟨read, rfl, ofValue_of_read exactKind converted ▸ accepted⟩
    | error cause => exact absurd accepted (ofValue_of_unread exactKind converted amount)
  · rintro ⟨read, converted, accepted⟩
    rw [ofValue_of_read exactKind converted, accepted]

/-- An accepted amount is the number of cents that the value denotes. -/
theorem ofValue_denotes (exactKind : given.isExactKind = true) {amount : Decimal}
    (accepted : ofValue given = .ok amount) :
    ∃ cents : ℤ, amount.cents? = some cents ∧ given.Denotes (cents / 100) ∧ given.IsWithinLimits := by
  obtain ⟨read, converted, accepted⟩ := (ofValue_eq_ok_iff exactKind amount).1 accepted
  obtain ⟨cents, whole, same⟩ := ofDecimal_toRat accepted
  obtain ⟨denotes, within⟩ :=
    Value.denotes_of_toDecimal (Value.isNumeric_of_isExactKind exactKind) converted (ofDecimal_ok accepted).1
  exact ⟨cents, whole, same ▸ denotes, within⟩

/-- A value is accepted as an amount if and only if it denotes an exact one. -/
theorem ofValue_isExact_iff (exactKind : given.isExactKind = true) :
    (∃ amount, ofValue given = .ok amount) ↔
      ∃ number, given.Denotes number ∧ IsExactAmount number ∧ given.IsWithinLimits := by
  constructor
  · rintro ⟨amount, accepted⟩
    obtain ⟨cents, whole, denotes, within⟩ := ofValue_denotes exactKind accepted
    exact ⟨_, denotes, ⟨⟨cents, rfl⟩, (abs_cents_lt_iff cents).2 (Decimal.natAbs_lt_of_cents whole)⟩, within⟩
  · rintro ⟨number, denotes, isExact, within⟩
    obtain ⟨read, converted, finite, rfl⟩ := Value.exists_toDecimal denotes within
    obtain ⟨amount, accepted⟩ := (ofDecimal_isExact_iff given finite).2 isExact
    exact ⟨amount, (ofValue_eq_ok_iff exactKind amount).2 ⟨read, converted, accepted⟩⟩

/-- Cents are accepted unchanged. -/
theorem ofValue_of_cents {amount : Decimal} {cents : Int} (whole : amount.cents? = some cents) :
    ofValue (.decimal amount) = .ok amount := by
  obtain ⟨_, _, rfl, -, -⟩ := Decimal.cents?_eq_some whole
  exact (ofValue_eq_ok_iff rfl _).2
    ⟨_, rfl, ofDecimal_of_equal rfl (Decimal.quantize_of_cents .towardZero whole) (Decimal.compare?_self _ rfl)⟩

/-- Two values that denote one number other than zero are accepted as one amount. -/
theorem ofValue_same {other : Value} {number : ℚ} (exactKind : given.isExactKind = true)
    (exactKind' : other.isExactKind = true) (denotes : given.Denotes number) (denotes' : other.Denotes number)
    (within : other.IsWithinLimits) (some : number ≠ 0) {amount : Decimal}
    (accepted : ofValue given = .ok amount) : ofValue other = .ok amount := by
  obtain ⟨cents, whole, denotesCents, -⟩ := ofValue_denotes exactKind accepted
  obtain rfl := denotes.unique denotesCents
  obtain ⟨_, denotes'', isExact, -⟩ := (ofValue_isExact_iff exactKind).1 ⟨amount, accepted⟩
  obtain rfl := denotesCents.unique denotes''
  obtain ⟨amount', accepted'⟩ := (ofValue_isExact_iff exactKind').2 ⟨_, denotes', isExact, within⟩
  obtain ⟨cents', whole', denotesCents', -⟩ := ofValue_denotes exactKind' accepted'
  have same : (cents : ℚ) / 100 = cents' / 100 := denotes'.unique denotesCents'
  obtain rfl : cents = cents' := by
    rw [div_left_inj' (by norm_num)] at same
    exact_mod_cast same
  have counts : cents ≠ 0 := by
    rintro rfl
    exact some (by norm_num)
  rw [accepted', Decimal.eq_of_cents whole whole' counts]

/-- Which values are accepted as amounts, and as what: a text, a whole number or a decimal if and only if it
denotes a whole number of cents within the precision, as exactly that number at two places, with all digits
of a text within the limits of the exponent. An accepted amount is accepted again unchanged, and so is
whatever else denotes the same number, unless that is zero. Truth values and binary numbers are refused
whatever they are. -/
theorem ofValue_exact (exactKind : given.isExactKind = true) :
    ((∃ amount, ofValue given = .ok amount) ↔
        ∃ number, given.Denotes number ∧ IsExactAmount number ∧ given.IsWithinLimits) ∧
      (∀ amount, ofValue given = .ok amount →
        (∃ negative coefficient, amount = .finite negative coefficient (-2)) ∧
          (∀ number, given.Denotes number → amount.toRat = number) ∧
          ofValue (.decimal amount) = .ok amount ∧
          ∀ other number, other.isExactKind = true → given.Denotes number → other.Denotes number →
            number ≠ 0 → other.IsWithinLimits → ofValue other = .ok amount) ∧
      (∀ holds, ofValue (.truth holds) =
        .error (.ledger (.invalidAmount (.inexact (.truth holds))))) ∧
      ∀ number, ofValue (.binary number) =
        .error (.ledger (.invalidAmount (.inexact (.binary number)))) := by
  refine ⟨ofValue_isExact_iff exactKind, fun amount accepted ↦ ?_, fun _ ↦ rfl, fun _ ↦ rfl⟩
  obtain ⟨cents, whole, denotes, -⟩ := ofValue_denotes exactKind accepted
  refine ⟨?_, fun number denotes' ↦ ?_, ofValue_of_cents whole,
    fun other number exactKind' denotes denotes' some within ↦
      ofValue_same exactKind exactKind' denotes denotes' within some accepted⟩
  · obtain ⟨negative, coefficient, same, -, -⟩ := Decimal.cents?_eq_some whole
    exact ⟨negative, coefficient, same⟩
  · rw [Decimal.toRat_of_cents whole]
    exact denotes.unique denotes'

/-- Twelve and a half with an exponent, one of its digits in another script. -/
def twelveAndHalf : Figure where
  mark := .plus
  whole := ⟨['\u0661', '2', '5'], by decide⟩
  fraction := some ⟨['0'], by decide⟩
  scale := some ⟨'e', Or.inl rfl, .minus, ⟨['1'], by decide⟩, by decide⟩
  some := by decide

/-- Blanks and an underscore, an exponent and a digit of another script make no difference. -/
theorem ofValue_exact_twelveAndHalf :
    ofValue (.text " +\u06612_5.0e-1\t") = .ok (.finite false 1250 (-2)) := by
  have shown : twelveAndHalf.IsShownBy " +\u06612_5.0e-1\t".toList := by decide +kernel
  have within : twelveAndHalf.IsWithinLimits := by decide +kernel
  have value : twelveAndHalf.value = Decimal.signed false 1250 * 10 ^ (-2 : ℤ) := rfl
  have accepted : ofValue (.decimal (.finite false 1250 (-2))) = .ok (.finite false 1250 (-2)) :=
    ofValue_of_cents rfl
  obtain ⟨-, -, -, same⟩ := (@ofValue_exact (.decimal (.finite false 1250 (-2))) rfl).2.1 _ accepted
  exact same _ _ rfl (.decimal false 1250 (-2)) (value ▸ .text twelveAndHalf shown)
    (by norm_num [Decimal.signed]) (Value.isWithinLimits_of_figure shown within)

/-- Zero with an exponent beyond the limits. -/
def farZero : Figure where
  mark := .none
  whole := ⟨['0'], by decide⟩
  fraction := none
  scale := some ⟨'E', Or.inr rfl, .plus, ⟨"1000000000000000000".toList, by decide⟩, by decide⟩
  some := by decide

/-- A zero of which the exponent is beyond the limits is no number, although it denotes an exact amount. -/
theorem ofValue_farZero :
    (Value.text "0E+1000000000000000000").Denotes 0 ∧ IsExactAmount 0 ∧
      ofValue (.text "0E+1000000000000000000") =
        .error (.ledger (.invalidAmount (.notNumeric (.text "0E+1000000000000000000")))) := by
  have shown : farZero.IsShownBy "0E+1000000000000000000".toList := by decide +kernel
  have value : farZero.value = 0 := by
    have none : farZero.coefficient = 0 := rfl
    rw [Figure.value, none]
    simp [Decimal.signed]
  refine ⟨value ▸ .text farZero shown, ⟨⟨0, by norm_num⟩, by norm_num⟩, ?_⟩
  have unread : Decimal.ofText? "0E+1000000000000000000" = none := by
    rw [Decimal.ofText?, Figure.ofChars?_eq shown]
    decide +kernel
  simp only [ofValue, Value.toDecimal, unread]
  exact refuse_of_writable rfl _

end Passbook.Money
