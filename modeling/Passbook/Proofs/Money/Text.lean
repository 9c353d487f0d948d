import Passbook.Money.Column
import Passbook.Proofs.Decimal.Numeral

/-!
The text in which a column keeps an amount reads back as the amount, with its sign and its two places.
A text of cents is a numeral behind an optional sign: digits, a point and two more digits
(`chars_cents_split`). Main statements: `Decimal.ofText?_text`, and `readText_text` for the column.
-/

set_option autoImplicit false
set_option relaxedAutoImplicit false

-- Powers are those of the core library, whatever else is imported.
attribute [local instance (high)] instPowNat

namespace Passbook.Decimal

open Text (digitValues)

/-- A character of a written amount: a digit, a point or a minus sign. -/
def IsWritten (c : Char) : Prop := c.isDigit = true ∨ c = '.' ∨ c = '-'

theorem isWritten_plain {c : Char} (written : IsWritten c) : IsPlain c ∧ Money.isSpace c = false := by
  rcases written with digit | rfl | rfl
  · refine ⟨isPlain_of_isDigit digit, ?_⟩
    have range := Text.toNat_of_isDigit digit
    simp only [Money.isSpace, Bool.or_eq_false_iff, Bool.and_eq_false_iff, decide_eq_false_iff_not]
    refine ⟨?_, by omega⟩
    rintro rfl
    exact absurd range.1 (by decide)
  · decide
  · decide

theorem signText_eq (negative : Bool) : signText negative = (Mark.ofSign negative).chars := by
  cases negative <;> rfl

/-- A sign in front of a digit is split off. -/
theorem splitSign_signText (negative : Bool) {c : Char} (rest : List Char)
    (digit : c.isDigit = true) :
    splitSign (signText negative ++ c :: rest) = (negative, c :: rest) := by
  rw [signText_eq, Mark.splitSign_append _ rest (Or.inl digit), Mark.isNegative_ofSign]

/-- A text of cents is digits, a point and two digits; zeros may stand in front. -/
theorem pointed_split (coefficient : Nat) :
    ∃ zeros whole fraction,
      pointed (Text.digits coefficient)
          (Money.centExponent + ((Text.digits coefficient).length : Nat)) = whole ++ '.' :: fraction ∧
        whole ≠ [] ∧ fraction.length = 2 ∧
        whole ++ fraction = List.replicate zeros '0' ++ Text.digits coefficient := by
  have some : 0 < (Text.digits coefficient).length := digitCount_pos coefficient
  generalize Text.digits coefficient = shown at some
  unfold pointed Money.centExponent
  by_cases short : (-2 : Int) + shown.length ≤ 0
  · have missing : (-(-2 + (shown.length : Int))).toNat = 2 - shown.length := by omega
    refine ⟨1 + (2 - shown.length), ['0'], List.replicate (2 - shown.length) '0' ++ shown,
      ?_, by simp, ?_, ?_⟩
    · rw [if_pos short, missing]
      rfl
    · rw [List.length_append, List.length_replicate]
      omega
    · rw [Nat.add_comm 1, List.replicate_succ]
      rfl
  · have place : ((-2 : Int) + shown.length).toNat = shown.length - 2 := by omega
    refine ⟨0, shown.take (shown.length - 2), shown.drop (shown.length - 2), ?_, ?_, ?_, ?_⟩
    · rw [if_neg short, if_neg (by omega), place]
    · intro empty
      have length := congrArg List.length empty
      rw [List.length_take, List.length_nil] at length
      omega
    · rw [List.length_drop]
      omega
    · rw [List.take_append_drop]
      rfl

theorem chars_cents (negative : Bool) (coefficient : Nat) :
    chars (.finite negative coefficient Money.centExponent) =
      signText negative ++ pointed (Text.digits coefficient)
        (Money.centExponent + ((Text.digits coefficient).length : Nat)) := by
  have some : 0 < (Text.digits coefficient).length := digitCount_pos coefficient
  have plain : Money.centExponent ≤ 0 ∧
      -6 < Money.centExponent + ((Text.digits coefficient).length : Nat) := by
    unfold Money.centExponent
    omega
  simp only [chars]
  rw [if_pos plain]

/-- A text of cents is an optional sign, digits, a point and two more digits, which together denote the
coefficient. -/
theorem chars_cents_split (negative : Bool) (coefficient : Nat) :
    ∃ first others fraction,
      chars (.finite negative coefficient Money.centExponent) =
          signText negative ++ (first :: others ++ '.' :: fraction) ∧
        (∀ c ∈ first :: others, c.isDigit = true) ∧ (∀ c ∈ fraction, c.isDigit = true) ∧
        fraction.length = 2 ∧
        Text.ofDigits (digitValues (first :: others ++ fraction)) = coefficient := by
  obtain ⟨zeros, whole, fraction, shape, nonempty, places, all⟩ := pointed_split coefficient
  have plain : ∀ c ∈ whole ++ fraction, c.isDigit = true := all ▸ Text.isDigit_of_mem_zeros_digits
  have denotes := Text.ofDigits_zeros_digits zeros coefficient
  rw [← all] at denotes
  obtain ⟨first, others, rfl⟩ := List.exists_cons_of_ne_nil nonempty
  exact ⟨first, others, fraction, by rw [chars_cents, shape],
    fun c member ↦ plain c (List.mem_append_left fraction member),
    fun c member ↦ plain c (List.mem_append_right _ member), places, denotes⟩

theorem isWritten_of_mem_chars (negative : Bool) (coefficient : Nat) :
    ∀ c ∈ chars (.finite negative coefficient Money.centExponent), IsWritten c := by
  obtain ⟨first, others, fraction, shape, plainWhole, plainFraction, -⟩ :=
    chars_cents_split negative coefficient
  intro c member
  rw [shape] at member
  rcases List.mem_append.1 member with sign | behind
  · cases negative with
    | true => exact Or.inr (Or.inr (List.mem_singleton.1 sign))
    | false => cases sign
  · rcases List.mem_append.1 behind with digit | behind
    · exact Or.inl (plainWhole c digit)
    · rcases List.mem_cons.1 behind with rfl | digit
      · exact Or.inr (Or.inl rfl)
      · exact Or.inl (plainFraction c digit)

/-- The text of cents reads back as the cents. -/
theorem ofText?_text (negative : Bool) {coefficient : Nat}
    (short : digitCount coefficient ≤ precision) :
    ofText? (text (.finite negative coefficient Money.centExponent)) =
      some (.finite negative coefficient Money.centExponent) := by
  obtain ⟨first, others, fraction, shape, plainWhole, plainFraction, places, denotes⟩ :=
    chars_cents_split negative coefficient
  have nonempty : fraction ≠ [] := fun empty ↦ by
    rw [empty] at places
    cases places
  let numeral : Numeral :=
    { whole := ⟨first :: others, List.cons_ne_nil _ _, plainWhole⟩
      fraction := some ⟨fraction, nonempty, plainFraction⟩ }
  have written : chars (.finite negative coefficient Money.centExponent) =
      (Mark.ofSign negative).chars ++ numeral.chars := by
    rw [shape, signText_eq, Numeral.chars, Numeral.exponentChars, Option.elim_none, List.append_nil]
    rfl
  have power : numeral.power = Money.centExponent := by
    simp only [Numeral.power, Numeral.places, numeral, Option.elim_some, Option.elim_none, places]
    rfl
  rw [ofText?, text, String.toList_ofList, written, numeral.ofChars?_chars,
    Mark.isNegative_ofSign, power,
    show numeral.coefficient = coefficient from denotes]
  refine if_pos ⟨by decide, ?_⟩
  have small : (digitCount coefficient : Int) ≤ 28 := Int.ofNat_le.2 short
  unfold Money.centExponent maxExponent
  omega

/-- The text of what is no number reads back as that, if it may be written at all. -/
theorem ofText?_quiet (negative : Bool) (payload : Nat) :
    ofText? (text (.notNumber negative false payload)) = some (.notNumber negative false payload) := by
  obtain ⟨shown, plain, denotes, written⟩ : ∃ shown : List Char, (∀ c ∈ shown, c.isDigit = true) ∧
      Text.ofDigits (digitValues shown) = payload ∧
      chars (.notNumber negative false payload) = signText negative ++ ("NaN".toList ++ shown) := by
    by_cases none : payload = 0
    · exact ⟨[], List.forall_mem_nil _, none.symm, by simp [chars, none]⟩
    · exact ⟨Text.digits payload, fun _ ↦ Text.isDigit_of_mem_digits, Text.ofDigits_digits payload,
        by simp [chars, none]⟩
  have letters : ∀ c ∈ "NaN".toList, IsPlain c :=
    List.forall_mem_cons.2
      ⟨by decide, List.forall_mem_cons.2 ⟨by decide, List.forall_mem_singleton.2 (by decide)⟩⟩
  have words : ∀ c ∈ signText negative ++ "NaN".toList, IsPlain c := by
    refine List.forall_mem_append.2 ⟨?_, letters⟩
    cases negative with
    | false => exact List.forall_mem_nil _
    | true => exact List.forall_mem_singleton.2 (by decide)
  have isPlain : ∀ c ∈ signText negative ++ ("NaN".toList ++ shown), IsPlain c := by
    intro c member
    rw [← List.append_assoc] at member
    exact (List.mem_append.1 member).elim (words c) fun digit ↦ isPlain_of_isDigit (plain c digit)
  have split : splitSign (signText negative ++ ("NaN".toList ++ shown)) =
      (negative, "NaN".toList ++ shown) := by
    cases negative <;> rfl
  have lower : ("NaN".toList ++ shown).map Char.toLower = "nan".toList ++ shown := by
    have same : shown.map Char.toLower = shown := (List.map_congr_left fun c digit ↦
      toLower_of_low (Text.toNat_of_isDigit (plain c digit)).2).trans (List.map_id' shown)
    rw [List.map_append, same]
    rfl
  have digits : splitDigits shown = (digitValues shown, []) := by
    have whole := splitDigits_append [] plain fun _ none ↦ by cases none
    rwa [List.append_nil] at whole
  rw [ofText?, text, String.toList_ofList, written, ofChars?, plain?_of_forall isPlain, Option.bind_some, split]
  dsimp only
  rw [unsigned?, lower]
  simp [payload?, digits, denotes]

/-- Cents are brought to cents unchanged. -/
theorem quantize_cents (mode : Rounding) (negative : Bool) {coefficient : Nat}
    (short : digitCount coefficient ≤ precision) :
    quantize mode Money.centExponent (.finite negative coefficient Money.centExponent) =
      some (.finite negative coefficient Money.centExponent) := by
  unfold quantize
  by_cases zero : coefficient = 0
  · simp [zero]
  · simp [zero, short]

end Passbook.Decimal

namespace Passbook.Money

/-- A value that is brought to cents is a decimal that is rounded to them. -/
theorem rounded_eq {given : Value} {number : Decimal} (converted : given.toDecimal = .ok number) :
    rounded given = (number.quantize .toEven centExponent).elim (.error .undefined) .ok := by
  have same : given.toDecimal.mapError Failure.ofNoDecimal = .ok number := by
    rw [converted]
    rfl
  rw [rounded, same]
  cases quantized : number.quantize .toEven centExponent <;>
    simp only [Bind.bind, Except.bind, quantized] <;> rfl

/-- What a column keeps for cents reads back as the cents. -/
theorem readText_text (negative : Bool) {coefficient : Nat}
    (short : Decimal.digitCount coefficient ≤ Decimal.precision) :
    readText (Decimal.text (.finite negative coefficient centExponent)) =
      .ok (.finite negative coefficient centExponent) := by
  have read : (Value.text (Decimal.text (.finite negative coefficient centExponent))).toDecimal =
      .ok (.finite negative coefficient centExponent) := by
    simp only [Value.toDecimal, Decimal.ofText?_text negative short]
  rw [readText, rounded_eq read, Decimal.quantize_cents .toEven negative short]
  rfl

end Passbook.Money
