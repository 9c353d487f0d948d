import Passbook.Json.Reading
import Passbook.Proofs.Decimal.Numeral

/-!
Number literals in a text of JSON. A literal is a numeral behind at most a minus sign, and what it is worth
is settled by its digits alone (`Literal.value`). The reader takes the characters of the literal and no
others, whatever stands behind them that no number goes on with (`Literal.readNumber_append`). Main
statement: where a value is read, a literal gives a whole number that is worth the same, or the binary number
closest to it (`Literal.readValue_append`).
-/

set_option autoImplicit false
set_option relaxedAutoImplicit false

-- Powers are those of the core library, whatever else is imported.
attribute [local instance (high)] instPowNat

namespace Passbook.Json

open Decimal (Mark Numeral takeWhile_isDigit_append)
open Text (digitValues)

/-- A number as a text of JSON has it. A zero in front of the point stands alone. -/
structure Literal where
  negative : Bool
  numeral : Numeral
  leading : numeral.whole.chars = ['0'] ∨ ∀ c ∈ numeral.whole.chars.head?, c ≠ '0'

/-- What no number goes on with. -/
def Ends (rest : List Char) : Prop :=
  ∀ c ∈ rest.head?, c.isDigit = false ∧ c ≠ '.' ∧ c ≠ 'e' ∧ c ≠ 'E'

/-! ### Parts of a literal -/

/-- The sign at the start of a text, and what stands behind it. -/
def signPart (text : List Char) : List Char × List Char :=
  match text with
  | '-' :: rest => (['-'], rest)
  | rest => ([], rest)

/-- The digits at the start of a text. -/
def wholePart (text : List Char) : List Char :=
  match text with
  | '0' :: _ => ['0']
  | rest => rest.takeWhile Char.isDigit

/-- A number is read part by part. -/
theorem readNumber_eq (cursor : Cursor) :
    readNumber cursor =
      let sign := (signPart cursor.rest).1
      let rest := (signPart cursor.rest).2
      let whole := wholePart rest
      if whole.isEmpty then .error (.malformed cursor.place)
      else
        let fraction := fractionPart (rest.drop whole.length)
        let exponent := exponentPart (rest.drop (whole.length + fraction.length))
        let next := cursor.skip (sign.length + whole.length + fraction.length + exponent.length)
        if fraction.isEmpty ∧ exponent.isEmpty then
          let magnitude : Int := (Text.ofDigits (digitValues whole) : Nat)
          if maxDigits < whole.length then .error .tooManyDigits
          else .ok (.integer (if sign.isEmpty then magnitude else -magnitude), next)
        else
          match Decimal.magnitude? (whole ++ fraction ++ exponent) with
          | some (coefficient, power) =>
            .ok (.number (.ofDecimal (!sign.isEmpty) coefficient power), next)
          | none => .error (.malformed cursor.place) :=
  rfl

theorem chars_append_eq (numeral : Numeral) (rest : List Char) : numeral.chars ++ rest =
    numeral.whole.chars ++ (numeral.fractionChars ++ (numeral.exponentChars ++ rest)) := by
  simp [Numeral.chars]

section Parts

variable (numeral : Numeral) {rest : List Char} (ends : Ends rest)

include ends

theorem head_exponentChars : ∀ c ∈ (numeral.exponentChars ++ rest).head?,
    c.isDigit = false ∧ c ≠ '.' := by
  have letter := numeral.exponentChars_head
  cases exponent : numeral.exponentChars with
  | nil =>
    intro c head
    exact ⟨(ends c head).1, (ends c head).2.1⟩
  | cons first others =>
    intro c head
    obtain rfl := Option.some.inj head
    rw [exponent] at letter
    rcases letter first rfl with rfl | rfl <;> decide

theorem head_fractionChars :
    ∀ c ∈ (numeral.fractionChars ++ (numeral.exponentChars ++ rest)).head?, c.isDigit = false := by
  unfold Numeral.fractionChars
  cases numeral.fraction with
  | none => exact fun c head ↦ (head_exponentChars numeral ends c head).1
  | some digits =>
    intro c head
    obtain rfl := Option.some.inj head
    rfl

theorem fractionPart_append :
    fractionPart (numeral.fractionChars ++ (numeral.exponentChars ++ rest)) =
      numeral.fractionChars := by
  have head := head_exponentChars numeral ends
  unfold Numeral.fractionChars
  cases numeral.fraction with
  | none =>
    rw [Option.elim_none, List.nil_append]
    unfold fractionPart
    split
    · next others same =>
      rw [same] at head
      exact absurd rfl (head '.' rfl).2
    · rfl
  | some digits =>
    have taken := takeWhile_isDigit_append (numeral.exponentChars ++ rest) digits.plain
      fun c first ↦ (head c first).1
    simp only [Option.elim_some, List.cons_append, fractionPart, taken]
    rw [if_neg (by simp [digits.some])]

theorem exponentPart_append :
    exponentPart (numeral.exponentChars ++ rest) = numeral.exponentChars := by
  unfold Numeral.exponentChars
  cases numeral.exponent with
  | none =>
    rw [Option.elim_none, List.nil_append]
    unfold exponentPart
    split
    · next c others =>
      obtain ⟨-, -, e, E⟩ := ends c rfl
      rw [if_neg (by simp [e, E])]
    · rfl
  | some exponent =>
    have taken := takeWhile_isDigit_append rest exponent.digits.plain fun c head ↦ (ends c head).1
    have nonempty : exponent.digits.chars.isEmpty = false := by simp [exponent.digits.some]
    obtain ⟨first, others, same, digit⟩ := exponent.digits.exists_cons
    have range := Text.toNat_of_isDigit digit
    have noPlus : ∀ behind, exponent.digits.chars ++ rest ≠ '+' :: behind := by
      rintro behind wrong
      rw [same] at wrong
      obtain ⟨rfl, -⟩ := List.cons.inj wrong
      exact absurd range.1 (by decide)
    have noMinus : ∀ behind, exponent.digits.chars ++ rest ≠ '-' :: behind := by
      rintro behind wrong
      rw [same] at wrong
      obtain ⟨rfl, -⟩ := List.cons.inj wrong
      exact absurd range.1 (by decide)
    rw [Option.elim_some, Decimal.Exponent.chars, List.cons_append, List.append_assoc]
    unfold exponentPart
    simp only [if_pos exponent.isLetter]
    cases exponent.mark with
    | none =>
      simp only [Mark.chars, List.nil_append, taken, nonempty, Bool.false_eq_true, if_false]
      rfl
    | plus =>
      simp only [Mark.chars, List.cons_append, List.nil_append, taken, nonempty, Bool.false_eq_true,
        if_false]
    | minus =>
      simp only [Mark.chars, List.cons_append, List.nil_append, taken, nonempty, Bool.false_eq_true,
        if_false]

end Parts

namespace Literal

variable (literal : Literal)

/-- The characters of a literal. -/
def chars : List Char := (Mark.ofSign literal.negative).chars ++ literal.numeral.chars

/-- Whether a literal has neither a fraction nor an exponent. -/
def isWhole : Bool := literal.numeral.fraction.isNone && literal.numeral.exponent.isNone

/-- The number that a literal denotes. -/
def value : ℚ := if literal.negative then -literal.numeral.value else literal.numeral.value

/-- What a literal is read as: a whole number, unless it has too many digits, or the binary number closest
to what it denotes. -/
def reading : Except Fault Json :=
  if literal.isWhole then
    if maxDigits < literal.numeral.whole.chars.length then .error .tooManyDigits
    else .ok (.integer
      (if literal.negative then -(literal.numeral.whole.value : Int) else literal.numeral.whole.value))
  else
    .ok (.number (.ofDecimal literal.negative literal.numeral.coefficient literal.numeral.power))

theorem isWhole_iff : literal.isWhole = true ↔
    literal.numeral.fractionChars.isEmpty = true ∧ literal.numeral.exponentChars.isEmpty = true := by
  unfold isWhole Numeral.fractionChars Numeral.exponentChars
  cases literal.numeral.fraction <;> cases literal.numeral.exponent <;> simp [Decimal.Exponent.chars]

theorem signPart_append (rest : List Char) :
    signPart (literal.chars ++ rest) =
      ((Mark.ofSign literal.negative).chars, literal.numeral.chars ++ rest) := by
  unfold chars
  cases literal.negative with
  | true => rfl
  | false =>
    change signPart (literal.numeral.chars ++ rest) = ([], literal.numeral.chars ++ rest)
    obtain ⟨first, others, same, digit⟩ := literal.numeral.whole.exists_cons
    unfold signPart
    split
    · next behind minus =>
      rw [chars_append_eq, same] at minus
      obtain ⟨rfl, -⟩ := List.cons.inj minus
      exact absurd digit (by decide)
    · rfl

theorem wholePart_append {rest : List Char} (ends : Ends rest) :
    wholePart (literal.numeral.chars ++ rest) = literal.numeral.whole.chars := by
  obtain ⟨first, others, same, -⟩ := literal.numeral.whole.exists_cons
  rw [chars_append_eq]
  unfold wholePart
  split
  · next behind zero =>
    rcases literal.leading with alone | other
    · exact alone.symm
    · rw [same] at zero other
      exact absurd (List.cons.inj zero).1 (other first rfl)
  · exact takeWhile_isDigit_append _ literal.numeral.whole.plain
      (head_fractionChars literal.numeral ends)

/-- The reader of numbers takes the characters of a literal and no others. -/
theorem readNumber_append {rest : List Char} (ends : Ends rest) (place : Nat) :
    readNumber ⟨place, literal.chars ++ rest⟩ =
      literal.reading.map (·, ⟨place + literal.chars.length, rest⟩) := by
  have behindWhole : (literal.numeral.chars ++ rest).drop literal.numeral.whole.chars.length =
      literal.numeral.fractionChars ++ (literal.numeral.exponentChars ++ rest) := by
    rw [chars_append_eq, List.drop_left]
  have behindFraction : (literal.numeral.chars ++ rest).drop
      (literal.numeral.whole.chars.length + literal.numeral.fractionChars.length) =
        literal.numeral.exponentChars ++ rest := by
    rw [← List.drop_drop, behindWhole, List.drop_left]
  have nonempty : literal.numeral.whole.chars.isEmpty = false := by simp [literal.numeral.whole.some]
  have length : (Mark.ofSign literal.negative).chars.length + literal.numeral.whole.chars.length +
      literal.numeral.fractionChars.length + literal.numeral.exponentChars.length =
        literal.chars.length := by
    simp only [chars, Numeral.chars, List.length_append]
    omega
  have next : Cursor.skip ⟨place, literal.chars ++ rest⟩ literal.chars.length =
      ⟨place + literal.chars.length, rest⟩ := by
    rw [Cursor.skip, List.drop_left]
  have sign : (Mark.ofSign literal.negative).chars.isEmpty = !literal.negative := by
    cases literal.negative <;> rfl
  have magnitude : Decimal.magnitude?
      (literal.numeral.whole.chars ++ literal.numeral.fractionChars ++ literal.numeral.exponentChars) =
        some (literal.numeral.coefficient, literal.numeral.power) := by
    rw [List.append_assoc]
    exact literal.numeral.magnitude?_chars
  rw [readNumber_eq]
  dsimp only
  simp only [literal.signPart_append rest, literal.wholePart_append ends, nonempty, behindWhole,
    fractionPart_append literal.numeral ends, behindFraction, exponentPart_append literal.numeral ends,
    length, next, sign, magnitude, ← literal.isWhole_iff, Bool.not_not, Bool.false_eq_true, if_false]
  unfold reading
  split
  · split
    · rfl
    · cases literal.negative <;> rfl
  · rfl

/-- No word that stands for a value begins as a literal does. -/
theorem readPlain_append {rest : List Char} (ends : Ends rest) (place : Nat) :
    readPlain ⟨place, literal.chars ++ rest⟩ =
      literal.reading.map (·, ⟨place + literal.chars.length, rest⟩) := by
  rw [← literal.readNumber_append ends place]
  obtain ⟨first, others, same, digit⟩ := literal.numeral.whole.exists_cons
  have begins : literal.numeral.chars ++ rest = first ::
      (others ++ (literal.numeral.fractionChars ++ (literal.numeral.exponentChars ++ rest))) := by
    rw [chars_append_eq, same, List.cons_append]
  have noWord : ∀ entry ∈ words,
      Cursor.behind? ⟨place, literal.chars ++ rest⟩ entry.1 = none := by
    rw [chars, List.append_assoc, begins]
    have apart (c : Char) (other : c.isDigit = false) : c ≠ first := by
      rintro rfl
      rw [digit] at other
      cases other
    cases literal.negative with
    | true => simp [words, Cursor.behind?, Mark.ofSign, Mark.chars, apart]
    | false => simp [words, Cursor.behind?, Mark.ofSign, Mark.chars, apart]
  rw [readPlain, List.findSome?_eq_none_iff.2 fun entry member ↦ ?_]
  exact congrArg (Option.map (entry.2, ·)) (noWord entry member)

/-- Where a value is read, a literal gives a whole number or the binary number closest to it. -/
theorem readValue_append {rest : List Char} (ends : Ends rest) (more depth place : Nat) :
    readValue (more + 1) depth ⟨place, literal.chars ++ rest⟩ =
      literal.reading.map (·, ⟨place + literal.chars.length, rest⟩) := by
  rw [← literal.readPlain_append ends place]
  obtain ⟨first, others, same, digit⟩ := literal.numeral.whole.exists_cons
  have begins : ∃ c behind, literal.chars ++ rest = c :: behind ∧ c ≠ '"' ∧ c ≠ '[' ∧ c ≠ '\x7b' := by
    have apart (c : Char) (other : c.isDigit = false) : first ≠ c := by
      rintro rfl
      rw [digit] at other
      cases other
    rw [chars, List.append_assoc, chars_append_eq, same]
    cases literal.negative with
    | true => exact ⟨'-', _, rfl, by decide⟩
    | false => exact ⟨first, _, rfl, apart _ rfl, apart _ rfl, apart _ rfl⟩
  obtain ⟨c, behind, text, noText, noArray, noObject⟩ := begins
  rw [text]
  unfold readValue
  split
  · next wrong => exact absurd (List.cons.inj wrong).1 noText
  · next wrong => exact absurd (List.cons.inj wrong).1 noArray
  · next wrong => exact absurd (List.cons.inj wrong).1 noObject
  · rfl

/-- A value is what a literal is read as where it stands in some text. -/
def IsReadAs (found : Json) : Prop :=
  ∃ more depth place rest next, Ends rest ∧
    readValue (more + 1) depth ⟨place, literal.chars ++ rest⟩ = .ok (found, next)

/-- It does not matter where a literal stands. -/
theorem isReadAs_iff {found : Json} : literal.IsReadAs found ↔ literal.reading = .ok found := by
  constructor
  · rintro ⟨more, depth, place, rest, next, ends, read⟩
    rw [literal.readValue_append ends] at read
    cases reading : literal.reading with
    | error fault =>
      rw [reading] at read
      cases read
    | ok value =>
      rw [reading] at read
      rw [(Prod.mk.inj (Except.ok.inj read)).1]
  · intro reading
    have ends : Ends [] := fun c head ↦ by cases head
    refine ⟨0, 0, 0, [], ⟨0 + literal.chars.length, []⟩, ends, ?_⟩
    rw [literal.readValue_append ends, reading]
    rfl

/-- A literal without fraction and exponent is worth its digits. -/
theorem value_of_isWhole (whole : literal.isWhole = true) :
    literal.value =
      ((if literal.negative then -(literal.numeral.whole.value : Int)
        else literal.numeral.whole.value : Int) : ℚ) := by
  unfold isWhole at whole
  have noFraction := Option.isNone_iff_eq_none.1 (Bool.and_eq_true_iff.1 whole).1
  have noExponent := Option.isNone_iff_eq_none.1 (Bool.and_eq_true_iff.1 whole).2
  have worth : literal.numeral.value = literal.numeral.whole.value := by
    simp [Numeral.value, Numeral.coefficient, Numeral.power, Numeral.places, noFraction, noExponent,
      Decimal.Digits.value]
  rw [value, worth]
  split <;> push_cast <;> rfl

end Literal

end Passbook.Json
