import Mathlib.Data.List.Forall2
import Passbook.Proofs.Decimal.Numeral

/-!
Figures: numbers as anyone may write them, in digits of any script, with a mark in front, a point among
the digits or at either end of them, and an exponent. What is left of a text without the blanks around it
and without underscores (`bare`) denotes a number exactly if it is a figure. Main statements: a figure is
read as its digits at the place of the last of them, as far as the limits of the exponent go
(`Figure.ofChars?_eq`), and what is read as a finite number is a figure (`exists_figure`).
-/

set_option autoImplicit false
set_option relaxedAutoImplicit false

-- Powers are those of the core library, whatever else is imported.
attribute [local instance (high)] instPowNat

namespace Passbook.Decimal

open Text (digitValues digitValue?)

/-! ### Plain forms -/

/-- A text without the blanks around it and without underscores. -/
def bare (text : List Char) : List Char := (Text.trim Text.isBlank text).filter (· ≠ '_')

/-- The plain form of a text, character by character. -/
def IsPlainForm (text plain : List Char) : Prop :=
  List.Forall₂ (fun c p ↦ plainChar? c = some p) text plain

theorem mapM_eq_some_iff (text plain : List Char) :
    text.mapM plainChar? = some plain ↔ IsPlainForm text plain := by
  induction text generalizing plain with
  | nil => cases plain <;> simp [IsPlainForm]
  | cons c rest ih =>
    rw [List.mapM_cons]
    constructor
    · intro read
      obtain ⟨p, first, read⟩ := Option.bind_eq_some_iff.1 read
      obtain ⟨others, behind, read⟩ := Option.bind_eq_some_iff.1 read
      obtain rfl := Option.some.inj read
      exact .cons first ((ih others).1 behind)
    · rintro (_ | ⟨first, behind⟩)
      rw [first, (ih _).2 behind]
      rfl

theorem plain?_eq_some_iff (text plain : List Char) :
    plain? text = some plain ↔ IsPlainForm (bare text) plain :=
  mapM_eq_some_iff (bare text) plain

theorem IsPlainForm.eq_nil_iff {text plain : List Char} (form : IsPlainForm text plain) :
    text = [] ↔ plain = [] := by
  rw [← List.length_eq_zero_iff, form.length_eq, List.length_eq_zero_iff]

theorem IsPlainForm.append {text text' plain plain' : List Char} (form : IsPlainForm text plain)
    (form' : IsPlainForm text' plain') : IsPlainForm (text ++ text') (plain ++ plain') :=
  List.rel_append form form'

/-- The plain form of a text of two parts has two parts. -/
theorem IsPlainForm.split {text first second : List Char} (form : IsPlainForm text (first ++ second)) :
    ∃ front behind, text = front ++ behind ∧ IsPlainForm front first ∧ IsPlainForm behind second :=
  ⟨_, _, (List.take_append_drop _ text).symm, List.forall₂_take_append _ _ _ form,
    List.forall₂_drop_append _ _ _ form⟩

theorem digitValue?_cases {c : Char} {value : Nat} (digit : digitValue? c = some value) :
    (0x30 ≤ c.toNat ∧ c.toNat ≤ 0x39 ∧ value = c.toNat - 0x30) ∨
      0x80 ≤ c.toNat ∧ ∃ start ∈ Text.zeros, ∃ offset < 10, c = Char.ofNat (start + offset) := by
  unfold digitValue? at digit
  split at digit
  · next range => exact Or.inl ⟨range.1, range.2, (Option.some.inj digit).symm⟩
  · split at digit
    · cases digit
    · next high =>
      obtain ⟨start, found, -⟩ := Option.map_eq_some_iff.1 digit
      have range := List.find?_some found
      simp only [decide_eq_true_eq] at range
      refine Or.inr ⟨Nat.le_of_not_lt high, start, List.mem_of_find?_eq_some found, c.toNat - start,
        by omega, ?_⟩
      rw [Nat.add_sub_cancel' range.1, Char.ofNat_toNat]

/-- Digits are no blanks. -/
theorem isBlank_of_digitValue? {c : Char} {value : Nat} (digit : digitValue? c = some value) :
    Text.isBlank c = false := by
  have apart : ∀ start ∈ Text.zeros, ∀ offset < 10, Text.isBlank (Char.ofNat (start + offset)) = false := by
    decide +kernel
  obtain ⟨low, high, -⟩ | ⟨-, start, member, offset, small, rfl⟩ := digitValue?_cases digit
  · refine (isPlain_of_isDigit ?_).noBlank
    simp only [Char.isDigit, Bool.and_eq_true, decide_eq_true_eq, ge_iff_le, UInt32.le_iff_toNat_le]
    exact ⟨low, high⟩
  · exact apart start member offset small

/-- The plain form of a digit is the plain digit of the same value. -/
theorem plainChar?_of_digitValue? {c : Char} {value : Nat} (digit : digitValue? c = some value) :
    ∃ p, plainChar? c = some p ∧ p.isDigit = true ∧ Text.plainDigit? p = some value := by
  have digits : ∀ value < 10, (Char.ofNat (0x30 + value)).isDigit = true ∧
      Text.plainDigit? (Char.ofNat (0x30 + value)) = some value := by
    decide
  obtain ⟨plain, denotes⟩ := digits value (Text.digitValue?_lt digit)
  obtain ⟨low, high, rfl⟩ | ⟨above, -⟩ := digitValue?_cases digit
  · have same : c = Char.ofNat (0x30 + (c.toNat - 0x30)) := by
      rw [Nat.add_sub_cancel' low, Char.ofNat_toNat]
    rw [← same] at plain denotes
    exact ⟨c, if_pos (by omega), plain, denotes⟩
  · refine ⟨Char.ofNat (0x30 + value), ?_, plain, denotes⟩
    rw [plainChar?, if_neg (by omega), if_neg (by rw [isBlank_of_digitValue? digit]; decide), digit]
    rfl

/-- What a digit is the plain form of is a digit, and what another character is the plain form of is this
character, unless it is a space. -/
theorem plainChar?_eq_some {c p : Char} (form : plainChar? c = some p) :
    (p.isDigit = true → (digitValue? c).isSome = true) ∧ (p.isDigit = false → p ≠ ' ' → c = p) := by
  unfold plainChar? at form
  split at form
  · next plain =>
    obtain rfl := Option.some.inj form
    refine ⟨fun digit ↦ ?_, fun _ _ ↦ rfl⟩
    have range := Text.toNat_of_isDigit digit
    rw [digitValue?, if_pos (by omega)]
    rfl
  · split at form
    · obtain rfl := Option.some.inj form
      exact ⟨fun digit ↦ absurd digit (by decide), fun _ noSpace ↦ absurd rfl noSpace⟩
    · obtain ⟨value, digit, rfl⟩ := Option.map_eq_some_iff.1 form
      have digits : ∀ value < 10, (Char.ofNat (0x30 + value)).isDigit = true := by decide
      refine ⟨fun _ ↦ by rw [digit]; rfl, fun noDigit ↦ ?_⟩
      rw [digits value (Text.digitValue?_lt digit)] at noDigit
      cases noDigit

/-- Characters that are neither digits nor blanks have no other plain form. -/
theorem IsPlainForm.eq_of_marks {text plain : List Char} (form : IsPlainForm text plain)
    (marks : ∀ p ∈ plain, p.isDigit = false ∧ p ≠ ' ') : text = plain := by
  induction form with
  | nil => rfl
  | cons first _ ih =>
    have mark := marks _ List.mem_cons_self
    rw [(plainChar?_eq_some first).2 mark.1 mark.2, ih fun p member ↦ marks p (List.mem_cons_of_mem _ member)]

namespace Mark

variable (mark : Mark)

theorem isMark_of_mem_chars : ∀ p ∈ mark.chars, p.isDigit = false ∧ p ≠ ' ' := by
  cases mark <;> simp [chars]

theorem isPlainForm_chars : IsPlainForm mark.chars mark.chars := by
  cases mark with
  | none => exact .nil
  | plus | minus => exact .cons rfl .nil

end Mark

/-! ### Rows of digits -/

/-- Digits of any script, perhaps none. -/
structure Row where
  chars : List Char
  digits : ∀ c ∈ chars, (digitValue? c).isSome = true

namespace Row

variable (row : Row)

/-- The values of the digits. -/
def values : List Nat := row.chars.filterMap digitValue?

/-- The number that the digits denote. -/
def value : Nat := Text.ofDigits row.values

/-- A row of plain digits of the same values. -/
theorem exists_plain : ∃ plain, IsPlainForm row.chars plain ∧ (∀ p ∈ plain, p.isDigit = true) ∧
    digitValues plain = row.values := by
  obtain ⟨chars, digits⟩ := row
  change ∃ plain, IsPlainForm chars plain ∧ _ ∧ _ = chars.filterMap digitValue?
  induction chars with
  | nil => exact ⟨[], .nil, fun p member ↦ (by cases member), rfl⟩
  | cons c rest ih =>
    obtain ⟨value, digit⟩ := Option.isSome_iff_exists.1 (digits c List.mem_cons_self)
    obtain ⟨p, form, plain, denotes⟩ := plainChar?_of_digitValue? digit
    obtain ⟨others, forms, plains, values⟩ := ih fun d member ↦ digits d (List.mem_cons_of_mem c member)
    refine ⟨p :: others, .cons form forms, fun q member ↦ ?_, ?_⟩
    · rcases List.mem_cons.1 member with rfl | member
      · exact plain
      · exact plains q member
    · rw [digitValues, List.filterMap_cons_some denotes, List.filterMap_cons_some digit, ← values]

end Row

/-- What plain digits are the plain form of is a row of digits. -/
theorem IsPlainForm.exists_row {text plain : List Char} (form : IsPlainForm text plain)
    (digits : ∀ p ∈ plain, p.isDigit = true) : ∃ row : Row, row.chars = text := by
  refine ⟨⟨text, fun c member ↦ ?_⟩, rfl⟩
  induction form with
  | nil => cases member
  | cons first _ ih =>
    rcases List.mem_cons.1 member with rfl | member
    · exact (plainChar?_eq_some first).1 (digits _ List.mem_cons_self)
    · exact ih (fun p member ↦ digits p (List.mem_cons_of_mem _ member)) member

/-! ### Figures -/

/-- An exponent in digits of any script. -/
structure Scale where
  letter : Char
  isLetter : letter = 'e' ∨ letter = 'E'
  mark : Mark
  row : Row
  some : row.chars ≠ []

namespace Scale

variable (scale : Scale)

/-- The characters of an exponent. -/
def chars : List Char := scale.letter :: (scale.mark.chars ++ scale.row.chars)

/-- The power of ten that an exponent denotes. -/
def value : Int := if scale.mark.isNegative then -(scale.row.value : Int) else scale.row.value

/-- The plain form of an exponent is read as the power of ten that it denotes. -/
theorem exists_plain : ∃ plain, IsPlainForm scale.chars plain ∧ exponent? plain = .some scale.value := by
  obtain ⟨digits, form, plain, denotes⟩ := scale.row.exists_plain
  have some : digits ≠ [] := mt form.eq_nil_iff.2 scale.some
  have letter : plainChar? scale.letter = .some scale.letter := by
    rcases scale.isLetter with same | same <;> rw [same] <;> rfl
  let exponent : Exponent := ⟨scale.letter, scale.isLetter, scale.mark, ⟨digits, some, plain⟩⟩
  refine ⟨exponent.chars, .cons letter (scale.mark.isPlainForm_chars.append form), ?_⟩
  rw [exponent.exponent?_chars]
  simp only [Exponent.value, Digits.value, exponent, denotes]
  rfl

end Scale

/-- A number as anyone may write it. -/
structure Figure where
  mark : Mark
  whole : Row
  fraction : Option Row
  scale : Option Scale
  some : whole.chars ++ fraction.elim [] Row.chars ≠ []

namespace Figure

variable (figure : Figure)

/-- The digits behind the point. -/
def places : List Char := figure.fraction.elim [] Row.chars

/-- The characters of the fraction, with its point. -/
def fractionChars : List Char := figure.fraction.elim [] fun row ↦ '.' :: row.chars

/-- The characters of the exponent. -/
def scaleChars : List Char := figure.scale.elim [] Scale.chars

/-- The characters of a figure. -/
def chars : List Char :=
  figure.mark.chars ++ (figure.whole.chars ++ (figure.fractionChars ++ figure.scaleChars))

/-- All digits as one number. -/
def coefficient : Nat := Text.ofDigits (figure.whole.values ++ figure.fraction.elim [] Row.values)

/-- The power of ten of the last digit. -/
def power : Int := figure.scale.elim 0 Scale.value - figure.places.length

/-- Whether a text, apart from the blanks around it and from underscores, is the figure. -/
def IsShownBy (text : List Char) : Prop := bare text = figure.chars

/-- Whether the first and the last digit are within the limits of the exponent. -/
def IsWithinLimits : Prop :=
  minExponent ≤ figure.power ∧ figure.power + digitCount figure.coefficient - 1 ≤ maxExponent

instance (text : List Char) : Decidable (figure.IsShownBy text) := inferInstanceAs (Decidable (_ = _))

instance : Decidable figure.IsWithinLimits := inferInstanceAs (Decidable (_ ∧ _))

theorem exists_plain_scale : ∃ plain, IsPlainForm figure.scaleChars plain ∧
    exponent? plain = .some (figure.scale.elim 0 Scale.value) := by
  unfold scaleChars
  cases figure.scale with
  | none => exact ⟨[], .nil, rfl⟩
  | some scale => exact scale.exists_plain

/-- The plain form of a figure, behind its mark, is read as its digits at the place of the last of them. -/
theorem exists_plain : ∃ body, IsPlainForm figure.chars (figure.mark.chars ++ body) ∧
    magnitude? body = .some (figure.coefficient, figure.power) := by
  obtain ⟨whole, form, plain, values⟩ := figure.whole.exists_plain
  obtain ⟨rest, form', read⟩ := figure.exists_plain_scale
  have some := figure.some
  have marks := figure.mark.isPlainForm_chars
  unfold chars fractionChars coefficient power places
  cases hasFraction : figure.fraction with
  | none =>
    rw [hasFraction, Option.elim_none, List.append_nil] at some
    have some : whole ≠ [] := mt form.eq_nil_iff.2 some
    refine ⟨whole ++ rest, marks.append (form.append form'), ?_⟩
    rw [magnitude?_whole some plain read, values]
    simp
  | some row =>
    obtain ⟨fraction, form'', plain', values'⟩ := row.exists_plain
    rw [hasFraction, Option.elim_some] at some
    have some : whole ++ fraction ≠ [] := mt (form.append form'').eq_nil_iff.2 some
    refine ⟨whole ++ '.' :: (fraction ++ rest), marks.append (form.append ?_), ?_⟩
    · exact .cons rfl (form''.append form')
    · rw [magnitude?_pointed some plain plain' read, Option.elim_some, Option.elim_some, ← values,
        ← values', ← List.filterMap_append, form''.length_eq]

/-- A text that shows a figure is read as its digits at the place of the last of them, as far as the limits
of the exponent go. -/
theorem ofChars?_eq {figure : Figure} {text : List Char} (shown : figure.IsShownBy text) :
    ofChars? text = bounded? figure.mark.isNegative figure.coefficient figure.power := by
  obtain ⟨body, form, read⟩ := figure.exists_plain
  exact ofChars?_of_plain ((plain?_eq_some_iff _ _).2 (shown ▸ form)) read

/-- A text shows one number. -/
theorem unique {figure other : Figure} {text : List Char} (shown : figure.IsShownBy text)
    (shown' : other.IsShownBy text) :
    figure.mark.isNegative = other.mark.isNegative ∧ figure.coefficient = other.coefficient ∧
      figure.power = other.power := by
  obtain ⟨body, form, read⟩ := figure.exists_plain
  obtain ⟨body', form', read'⟩ := other.exists_plain
  have plain := (plain?_eq_some_iff text _).2 (shown ▸ form)
  have plain' := (plain?_eq_some_iff text _).2 (shown' ▸ form')
  have same := Option.some.inj (plain.symm.trans plain')
  obtain ⟨c, rest, rfl, starts⟩ := magnitude?_starts read
  obtain ⟨c', rest', rfl, starts'⟩ := magnitude?_starts read'
  have split := figure.mark.splitSign_append rest starts
  rw [same, other.mark.splitSign_append rest' starts'] at split
  obtain ⟨sign, body⟩ := Prod.mk.inj split
  rw [body] at read'
  obtain ⟨coefficient, power⟩ := Prod.mk.inj (Option.some.inj (read.symm.trans read'))
  exact ⟨sign.symm, coefficient, power⟩

end Figure

/-! ### What is read is a figure -/

theorem splitSign_shape (text : List Char) :
    ∃ mark : Mark, text = mark.chars ++ (splitSign text).2 := by
  unfold splitSign
  split
  · exact ⟨.minus, rfl⟩
  · exact ⟨.plus, rfl⟩
  · exact ⟨.none, rfl⟩

/-- What digits are split off has digits in front. -/
theorem splitDigits_shape (text : List Char) :
    ∃ digits, text = digits ++ (splitDigits text).2 ∧ (∀ c ∈ digits, c.isDigit = true) ∧
      (splitDigits text).1 = digitValues digits :=
  ⟨text.takeWhile Char.isDigit, List.takeWhile_append_dropWhile.symm,
    List.all_eq_true.1 List.all_takeWhile, rfl⟩

/-- What an exponent is the plain form of is an exponent, or nothing. -/
theorem IsPlainForm.exists_scale {text plain : List Char} {power : Int} (form : IsPlainForm text plain)
    (read : exponent? plain = some power) : ∃ scale : Option Scale, text = scale.elim [] Scale.chars := by
  cases form with
  | nil => exact ⟨none, rfl⟩
  | @cons c letter others behind first form =>
    have form : IsPlainForm others behind := form
    have isLetter := exponent?_head read letter rfl
    obtain ⟨mark, marked⟩ := splitSign_shape behind
    obtain ⟨digits, split, plain, values⟩ := splitDigits_shape (splitSign behind).2
    simp only [exponent?, if_pos isLetter] at read
    split at read
    · cases read
    · next whole =>
      rw [not_or, values, List.isEmpty_iff, digitValues_eq_nil plain, not_not, List.isEmpty_iff] at whole
      rw [whole.2, List.append_nil] at split
      rw [marked, split] at form
      obtain ⟨front, back, rfl, formMark, formDigits⟩ := form.split
      obtain ⟨row, rfl⟩ := formDigits.exists_row plain
      have same : c = letter := by
        refine (plainChar?_eq_some first).2 ?_ ?_ <;> rcases isLetter with rfl | rfl <;> decide
      refine ⟨.some ⟨letter, isLetter, mark, row, mt formDigits.eq_nil_iff.1 whole.1⟩, ?_⟩
      rw [same, formMark.eq_of_marks mark.isMark_of_mem_chars]
      rfl

/-- What is read as a magnitude is digits, or digits around a point, in front of an exponent. -/
theorem magnitude?_cases {text : List Char} {number : Nat × Int} (read : magnitude? text = some number) :
    ∃ whole rest power, (∀ c ∈ whole, c.isDigit = true) ∧ exponent? rest = some power ∧
      ((text = whole ++ rest ∧ whole ≠ []) ∨
        ∃ fraction, text = whole ++ '.' :: (fraction ++ rest) ∧ (∀ c ∈ fraction, c.isDigit = true) ∧
          whole ++ fraction ≠ []) := by
  obtain ⟨whole, split, plain, values⟩ := splitDigits_shape text
  by_cases pointed : ∃ others, (splitDigits text).2 = '.' :: others
  · obtain ⟨others, pointed⟩ := pointed
    obtain ⟨fraction, split', plain', values'⟩ := splitDigits_shape others
    simp only [magnitude?, pointed, values, values', List.isEmpty_iff,
      digitValues_eq_nil plain, digitValues_eq_nil plain', ← List.append_eq_nil_iff] at read
    split at read
    · cases read
    · next some =>
      obtain ⟨power, exponent, -⟩ := Option.map_eq_some_iff.1 read
      rw [pointed, split'] at split
      exact ⟨whole, _, power, plain, exponent, Or.inr ⟨fraction, split, plain', some⟩⟩
  · have single : magnitude? text = if whole = [] then none else
        (exponent? (splitDigits text).2).map fun power ↦ (Text.ofDigits (digitValues whole), power) := by
      cases behind : (splitDigits text).2 with
      | nil => simp [magnitude?, behind, values, digitValues_eq_nil plain]
      | cons c others =>
        have noPoint : c ≠ '.' := fun same ↦ pointed ⟨others, by rw [behind, same]⟩
        simp [magnitude?, behind, noPoint, values, digitValues_eq_nil plain]
    rw [single] at read
    split at read
    · cases read
    · next some =>
      obtain ⟨power, exponent, -⟩ := Option.map_eq_some_iff.1 read
      exact ⟨whole, _, power, plain, exponent, Or.inl ⟨split, some⟩⟩

/-- What a magnitude behind a mark is the plain form of is a figure. -/
theorem IsPlainForm.exists_figure {text body : List Char} {mark : Mark} {number : Nat × Int}
    (form : IsPlainForm text (mark.chars ++ body)) (read : magnitude? body = some number) :
    ∃ figure : Figure, text = figure.chars := by
  obtain ⟨digits, rest, power, plain, exponent, cases⟩ := magnitude?_cases read
  obtain ⟨rfl, some⟩ | ⟨digits', rfl, plain', some⟩ := cases
  · obtain ⟨marks, _, rfl, formMark, form⟩ := form.split
    obtain ⟨_, _, rfl, formWhole, formScale⟩ := form.split
    obtain ⟨whole, rfl⟩ := formWhole.exists_row plain
    obtain ⟨scale, rfl⟩ := formScale.exists_scale exponent
    rw [formMark.eq_of_marks mark.isMark_of_mem_chars]
    refine ⟨⟨mark, whole, none, scale, ?_⟩, rfl⟩
    rw [Option.elim_none, List.append_nil]
    exact mt formWhole.eq_nil_iff.1 some
  · obtain ⟨marks, _, rfl, formMark, form⟩ := form.split
    obtain ⟨_, _, rfl, formWhole, form⟩ := form.split
    cases form with
    | @cons c _ _ _ point form =>
    obtain ⟨_, _, rfl, formFraction, formScale⟩ := IsPlainForm.split form
    obtain ⟨whole, rfl⟩ := formWhole.exists_row plain
    obtain ⟨fraction, rfl⟩ := formFraction.exists_row plain'
    obtain ⟨scale, rfl⟩ := formScale.exists_scale exponent
    obtain rfl : c = '.' := (plainChar?_eq_some point).2 rfl (by decide)
    rw [formMark.eq_of_marks mark.isMark_of_mem_chars]
    exact ⟨⟨mark, whole, .some fraction, scale, mt (formWhole.append formFraction).eq_nil_iff.1 some⟩, rfl⟩

/-- A text that is read as a finite number shows a figure. -/
theorem exists_figure {text : List Char} {d : Decimal} (read : ofChars? text = some d)
    (finite : d.isFinite = true) : ∃ figure : Figure, figure.IsShownBy text := by
  obtain ⟨plain, form, read⟩ := Option.bind_eq_some_iff.1 read
  obtain ⟨mark, split⟩ := splitSign_shape plain
  have form := (plain?_eq_some_iff text plain).1 form
  rw [split] at form
  dsimp only at read
  unfold unsigned? at read
  dsimp only at read
  split at read
  · obtain rfl := Option.some.inj read
    cases finite
  split at read
  · obtain ⟨_, _, rfl⟩ := Option.map_eq_some_iff.1 read
    cases finite
  split at read
  · obtain ⟨_, _, rfl⟩ := Option.map_eq_some_iff.1 read
    cases finite
  obtain ⟨number, read, -⟩ := Option.bind_eq_some_iff.1 read
  exact form.exists_figure read

end Passbook.Decimal
