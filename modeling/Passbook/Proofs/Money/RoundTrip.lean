import Passbook.Proofs.Money.Denoted

/-!
What a column keeps of an amount. Both forms of a column keep the same cents, the nearest to the number that
was written, a tie to the even one; the text of cents is plain, reads back as the cents and is the text of no
others (`Decimal.eq_of_text`). A value is kept in one form if and only if it is in the other
(`isKept_iff`). Main statement: `bind_roundTrip`.
-/

set_option autoImplicit false
set_option relaxedAutoImplicit false

-- Powers are those of the core library, whatever else is imported.
attribute [local instance (high)] instPowNat

namespace Passbook

namespace Decimal

/-- A text in plain notation: digits behind a sign perhaps, a point, and two more digits. -/
def IsPlainAmount (text : List Char) : Prop :=
  ∃ negative whole fraction, text = signText negative ++ (whole ++ '.' :: fraction) ∧ whole ≠ [] ∧
    fraction.length = 2 ∧ ∀ c ∈ whole ++ fraction, c.isDigit = true

/-- Cents are written in plain notation. -/
theorem isPlainAmount_text {number : Decimal} {cents : Int} (whole : number.cents? = some cents) :
    IsPlainAmount number.text.toList := by
  obtain ⟨negative, coefficient, rfl, -, -⟩ := cents?_eq_some whole
  obtain ⟨first, others, fraction, shape, plain, plain', places, -⟩ := chars_cents_split negative coefficient
  rw [text, String.toList_ofList]
  refine ⟨negative, first :: others, fraction, shape, List.cons_ne_nil _ _, places, fun c member ↦ ?_⟩
  exact (List.mem_append.1 member).elim (plain c) (plain' c)

/-- The text of cents is the text of no other cents. -/
theorem eq_of_text {first second : Decimal} {cents cents' : Int} (whole : first.cents? = some cents)
    (whole' : second.cents? = some cents') (same : first.text = second.text) : first = second := by
  have read := Money.readText_of_cents whole
  rw [same, Money.readText_of_cents whole'] at read
  exact (Except.ok.inj read).symm

/-- What is no number comes out as a quiet one, with so many digits of what it carries as a result may have. -/
theorem quantize_notNumber {mode : Rounding} {d cents : Decimal}
    (brought : d.quantize mode Money.centExponent = some cents) (none : cents.isNotNumber = true) :
    ∃ negative payload, cents = .notNumber negative false (payload % 10 ^ precision) := by
  cases d with
  | infinite => cases brought
  | notNumber negative signalling payload =>
    rw [quantize, passOn] at brought
    split at brought
    · cases brought
    · exact ⟨negative, payload, (Option.some.inj brought).symm⟩
  | finite negative coefficient exponent =>
    rw [quantize_finite] at brought
    split at brought
    · obtain rfl := Option.some.inj brought
      cases none
    · cases brought

end Decimal

namespace Value

/-- What denotes a number is a number or a text. -/
theorem Denotes.isNumeric {given : Value} {number : ℚ} (denotes : given.Denotes number) :
    given.isNumeric = true := by
  cases denotes <;> rfl

end Value

namespace Money

/-- What a reader is handed of a column. -/
def Stored.content : Stored → Value
  | .text content => .text content
  | .number cents => .decimal cents

variable {given : Value} {cents : Decimal}

/-- Whatever the column keeps of a value is read from it as it was stored. -/
theorem readText_rounded (brought : rounded given = .ok cents) :
    readText cents.text = .ok cents := by
  obtain ⟨number, -, quantized⟩ := rounded_ok brought
  rcases Decimal.quantize_cents? quantized with ⟨_, whole⟩ | none
  · exact readText_of_cents whole
  · obtain ⟨negative, payload, rfl⟩ := Decimal.quantize_notNumber quantized none
    have read : (Value.text (Decimal.text (.notNumber negative false (payload % 10 ^ Decimal.precision)))).toDecimal =
        .ok (.notNumber negative false (payload % 10 ^ Decimal.precision)) := by
      simp only [Value.toDecimal, Decimal.ofText?_quiet]
    rw [readText, rounded_eq read, Decimal.quantize, Decimal.passOn, if_neg (by decide), Nat.mod_mod]
    rfl

/-- Cents are kept as they are, and read as they were kept. -/
theorem bind_of_cents (form : ColumnForm) {units : Int} (whole : cents.cents? = some units) :
    bind form (.decimal cents) = .ok (some (form.keep cents)) ∧
      read (form.keep cents).content = .ok (some cents) := by
  have same := Decimal.quantize_of_cents .toEven whole
  refine ⟨by rw [bind_decimal_eq, same]; rfl, ?_⟩
  cases form with
  | text =>
    change (readText cents.text >>= fun cents ↦ pure (some cents)) = _
    rw [readText_of_cents whole]
    rfl
  | number =>
    change (rounded (.decimal cents) >>= fun cents ↦ pure (some cents)) = _
    rw [rounded_eq rfl, same]
    rfl

/-- A value is kept as a text if and only if it is kept as a number. -/
theorem isKept_iff (given : Value) :
    (∃ stored, bind .text given = .ok stored) ↔ ∃ stored, bind .number given = .ok stored := by
  by_cases there : given = .absent
  · rw [there]
    exact Iff.rfl
  · rw [bind_eq_map_rounded .text there, bind_eq_map_rounded .number there]
    cases rounded given with
    | ok cents => exact ⟨fun _ ↦ ⟨_, rfl⟩, fun _ ↦ ⟨_, rfl⟩⟩
    | error failure => exact ⟨fun ⟨_, kept⟩ ↦ (by cases kept), fun ⟨_, kept⟩ ↦ (by cases kept)⟩

/-- What is kept as cents are the cents of the value. -/
theorem rounded_of_bind (kept : bind .number given = .ok (some (.number cents))) :
    given ≠ .absent ∧ rounded given = .ok cents := by
  have there : given ≠ .absent := by
    rintro rfl
    cases kept
  rw [bind_eq_map_rounded .number there] at kept
  cases brought : rounded given with
  | error failure =>
    rw [brought] at kept
    cases kept
  | ok number =>
    rw [brought] at kept
    obtain rfl := Stored.number.inj (Option.some.inj (Except.ok.inj kept))
    exact ⟨there, rfl⟩

/-- The cents of a value are the nearest to every number that it denotes, a tie to the even ones, and if the
value is a number or a text there is one. -/
theorem rounded_isRoundedEven (brought : rounded given = .ok cents) (finite : cents.isFinite = true) :
    ∃ units, cents.cents? = some units ∧
      (given.isNumeric = true → ∃ number, given.Denotes number) ∧
      ∀ number, given.Denotes number → IsRoundedEven (number * 100) units := by
  obtain ⟨read, converted, quantized⟩ := rounded_ok brought
  have readFinite := Decimal.isFinite_of_quantize quantized finite
  obtain ⟨units, whole, isRounded⟩ := Decimal.isRoundedEven_of_quantize readFinite quantized
  have denotes (numeric : given.isNumeric = true) : given.Denotes read.toRat :=
    (Value.denotes_of_toDecimal numeric converted readFinite).1
  refine ⟨units, whole, fun numeric ↦ ⟨_, denotes numeric⟩, fun number denotes' ↦ ?_⟩
  rw [denotes'.unique (denotes denotes'.isNumeric)]
  exact isRounded

/-- A value that is kept as cents is kept as their text too. The text is plain, it is read as the same cents,
which are kept as the same text again, and no other cents have it. The cents are the nearest to the number
that the value denotes, a tie to the even ones, so they are this number if it is a whole number of them.
Whatever is kept in one form is kept in the other. -/
theorem bind_roundTrip (kept : bind .number given = .ok (some (.number cents)))
    (finite : cents.isFinite = true) :
    bind .text given = .ok (some (.text cents.text)) ∧
      Decimal.IsPlainAmount cents.text.toList ∧
      read (.text cents.text) = .ok (some cents) ∧
      bind .text (.decimal cents) = .ok (some (.text cents.text)) ∧
      (∃ units : ℤ, cents.toRat = units / 100 ∧ cents.cents? = some units ∧
        (given.isNumeric = true → ∃ number, given.Denotes number) ∧
        ∀ number, given.Denotes number → IsRoundedEven (number * 100) units ∧
          ((∃ whole : ℤ, number = whole / 100) → cents.toRat = number)) ∧
      (∀ other units, other.cents? = some units → other.text = cents.text → other = cents) ∧
      ∀ other, (∃ stored, bind .text other = .ok stored) ↔ ∃ stored, bind .number other = .ok stored := by
  obtain ⟨there, brought⟩ := rounded_of_bind kept
  obtain ⟨units, whole, numeric, isRounded⟩ := rounded_isRoundedEven brought finite
  obtain ⟨again, back⟩ := bind_of_cents .text whole
  refine ⟨?_, Decimal.isPlainAmount_text whole, back, again,
    ⟨units, Decimal.toRat_of_cents whole, whole, numeric,
      fun number denotes ↦ ⟨isRounded number denotes, ?_⟩⟩,
    fun other units whole' same ↦ Decimal.eq_of_text whole' whole same, isKept_iff⟩
  · rw [bind_eq_map_rounded .text there, brought]
    rfl
  · rintro ⟨exact, rfl⟩
    have same : (exact : ℚ) / 100 * 100 = exact := by ring
    have isRounded := isRounded _ denotes
    rw [same] at isRounded
    rw [Decimal.toRat_of_cents whole, isRounded.unique (.of_whole exact)]

/-- A binary number between two cents is kept as the even one. -/
theorem bind_roundTrip_binary :
    bind .text (.binary (.finite true 6755399441055744 (-54))) = .ok (some (.text "-0.38")) ∧
      read (.text "-0.38") = .ok (some (.finite true 38 (-2))) ∧
      (Value.binary (.finite true 6755399441055744 (-54))).Denotes (-3 / 8) ∧
      IsRoundedEven (-3 / 8 * 100) (-38) := by
  have kept : bind .number (.binary (.finite true 6755399441055744 (-54))) =
      .ok (some (.number (.finite true 38 (-2)))) := by rfl
  obtain ⟨text, -, back, -, ⟨units, -, whole, -, isRounded⟩, -, -⟩ := bind_roundTrip kept rfl
  have denotes : (Value.binary (.finite true 6755399441055744 (-54))).Denotes (-3 / 8) := by
    have same : (-3 / 8 : ℚ) = Decimal.signed true 6755399441055744 * 2 ^ (-54 : ℤ) := by
      norm_num [Decimal.signed]
    rw [same]
    exact .binary true 6755399441055744 (-54)
  obtain rfl : units = -38 := (Option.some.inj whole).symm
  exact ⟨text, back, denotes, (isRounded _ denotes).1⟩

end Money

end Passbook
