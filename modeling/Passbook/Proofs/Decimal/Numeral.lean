import Mathlib.Algebra.Order.Field.Power
import Mathlib.Algebra.Order.Ring.Rat
import Passbook.Decimal.Reading
import Passbook.Proofs.Text.Digits

/-!
Numerals: digits with perhaps a point and more digits behind them, and perhaps an exponent. They are what
numbers are written as, in whichever notation, and a numeral is worth the number that its digits denote at
the place of the last one. Each stage of reading a decimal is followed on such a text. Main statements:
reading a numeral gives its coefficient and its power of ten (`Numeral.magnitude?_chars`), also behind a
mark (`Numeral.ofChars?_chars`).
-/

set_option autoImplicit false
set_option relaxedAutoImplicit false

-- Powers are those of the core library, whatever else is imported.
attribute [local instance (high)] instPowNat

-- What holds of all members of a list is decided along the list, whatever else is imported.
attribute [local instance (high)] List.decidableBAll

namespace Passbook.Decimal

open Text (digitValues)

/-! ### Stages of reading -/

theorem dropWhile_of_forall {text : List Char} {blank : Char → Bool}
    (none : ∀ c ∈ text, blank c = false) : text.dropWhile blank = text := by
  cases text with
  | nil => rfl
  | cons c rest => rw [List.dropWhile_cons, none c List.mem_cons_self]; rfl

/-- A character that stands for itself in a number. -/
structure IsPlain (c : Char) : Prop where
  noBlank : Text.isBlank c = false
  noMark : c ≠ '_'
  plain : plainChar? c = some c

instance (c : Char) : Decidable (IsPlain c) :=
  decidable_of_iff (Text.isBlank c = false ∧ c ≠ '_' ∧ plainChar? c = some c)
    ⟨fun ⟨noBlank, noMark, plain⟩ ↦ ⟨noBlank, noMark, plain⟩,
      fun isPlain ↦ ⟨isPlain.noBlank, isPlain.noMark, isPlain.plain⟩⟩

theorem isPlain_of_isDigit {c : Char} (digit : c.isDigit = true) : IsPlain c := by
  have range := Text.toNat_of_isDigit digit
  refine ⟨?_, ?_, ?_⟩
  · simp only [Text.isBlank, Text.isWhiteSpace, Bool.or_eq_false_iff, Bool.and_eq_false_iff,
      decide_eq_false_iff_not, beq_eq_false_iff_ne]
    omega
  · rintro rfl
    exact absurd range.2 (by decide)
  · rw [plainChar?, if_pos (by omega)]

/-- A character with which numbers are written: a digit, a point, a letter for an exponent or a mark. -/
def IsNumeralChar (c : Char) : Prop := c.isDigit = true ∨ c ∈ ['.', 'e', 'E', '+', '-']

theorem IsNumeralChar.isPlain {c : Char} (used : IsNumeralChar c) : IsPlain c := by
  have others : ∀ d ∈ ['.', 'e', 'E', '+', '-'], IsPlain d := by decide
  exact used.elim isPlain_of_isDigit (others c)

/-- A text of characters that stand for themselves is in plain form already. -/
theorem plain?_of_forall {text : List Char} (plain : ∀ c ∈ text, IsPlain c) :
    plain? text = some text := by
  have noBlank : ∀ c ∈ text, Text.isBlank c = false := fun c member ↦ (plain c member).noBlank
  have noBlankBehind : ∀ c ∈ text.reverse, Text.isBlank c = false := fun c member ↦
    noBlank c (List.mem_reverse.1 member)
  have trimmed : Text.trim Text.isBlank text = text := by
    rw [Text.trim, dropWhile_of_forall noBlank, dropWhile_of_forall noBlankBehind,
      List.reverse_reverse]
  have kept : text.filter (· ≠ '_') = text := by
    refine List.filter_eq_self.2 fun c member ↦ ?_
    simpa using (plain c member).noMark
  rw [plain?, trimmed, kept]
  clear trimmed kept noBlank noBlankBehind
  induction text with
  | nil => rfl
  | cons c rest ih =>
    have others := ih fun d member ↦ plain d (List.mem_cons_of_mem c member)
    rw [List.mapM_cons, (plain c List.mem_cons_self).plain, others]
    rfl

theorem takeWhile_isDigit_append {digits : List Char} (rest : List Char)
    (plain : ∀ c ∈ digits, c.isDigit = true) (stop : ∀ c ∈ rest.head?, c.isDigit = false) :
    (digits ++ rest).takeWhile Char.isDigit = digits := by
  have taken : rest.takeWhile Char.isDigit = [] := by
    cases rest with
    | nil => rfl
    | cons c others => rw [List.takeWhile_cons, stop c rfl]; rfl
  rw [List.takeWhile_append_of_pos plain, taken, List.append_nil]

theorem splitDigits_append {digits : List Char} (rest : List Char) (plain : ∀ c ∈ digits, c.isDigit = true)
    (stop : ∀ c ∈ rest.head?, c.isDigit = false) :
    splitDigits (digits ++ rest) = (digitValues digits, rest) := by
  have dropped : rest.dropWhile Char.isDigit = rest := by
    cases rest with
    | nil => rfl
    | cons c others => rw [List.dropWhile_cons, stop c rfl]; rfl
  rw [splitDigits, takeWhile_isDigit_append rest plain stop, List.dropWhile_append_of_pos plain, dropped]

theorem length_digitValues {text : List Char} (plain : ∀ c ∈ text, c.isDigit = true) :
    (digitValues text).length = text.length := by
  induction text with
  | nil => rfl
  | cons c rest ih =>
    rw [digitValues, List.filterMap_cons_some (Text.plainDigit?_of_isDigit (plain c List.mem_cons_self)),
      List.length_cons, List.length_cons]
    exact congrArg (· + 1) (ih fun d member ↦ plain d (List.mem_cons_of_mem c member))

theorem digitValues_eq_nil {text : List Char} (plain : ∀ c ∈ text, c.isDigit = true) :
    digitValues text = [] ↔ text = [] := by
  rw [← List.length_eq_zero_iff, length_digitValues plain, List.length_eq_zero_iff]

/-- A character that a number without a sign may begin with. -/
def Starts (c : Char) : Prop := c.isDigit = true ∨ c = '.'

/-- What stands before the letters has no small form of its own. -/
theorem toLower_of_low {c : Char} (low : c.toNat ≤ 57) : c.toLower = c := by
  unfold Char.toLower
  refine dif_neg fun upper ↦ ?_
  have high : (65 : Nat) ≤ c.toNat := UInt32.le_iff_toNat_le.1 upper.1
  omega

/-- A text that begins as a number does is none of the words for what is not finite. -/
theorem unsigned?_of_starts (negative : Bool) {c : Char} (rest : List Char) (starts : Starts c) :
    unsigned? negative (c :: rest) =
      (magnitude? (c :: rest)).bind fun (coefficient, exponent) ↦
        bounded? negative coefficient exponent := by
  have range : c.toNat ≤ 57 := by
    rcases starts with digit | rfl
    · exact (Text.toNat_of_isDigit digit).2
    · decide
  have lower : c.toLower.toNat ≤ 57 := (toLower_of_low range).symm ▸ range
  have apart (d : Char) (high : 57 < d.toNat) : c.toLower ≠ d := by
    rintro rfl
    omega
  have i : c.toLower ≠ 'i' := apart 'i' (by decide)
  have n : c.toLower ≠ 'n' := apart 'n' (by decide)
  have s : c.toLower ≠ 's' := apart 's' (by decide)
  simp [unsigned?, i, n, s]

/-- What is read as an exponent begins with its letter, if it is not empty. -/
theorem exponent?_head {text : List Char} {power : Int} (read : exponent? text = some power) :
    ∀ c ∈ text.head?, c = 'e' ∨ c = 'E' := by
  cases text with
  | nil => intro c head; cases head
  | cons first rest =>
    intro c head
    obtain rfl := Option.some.inj head
    by_contra other
    simp [exponent?, other] at read

/-- Digits in front of an exponent are read as a number without a fraction. -/
theorem magnitude?_whole {whole rest : List Char} {power : Int} (some : whole ≠ [])
    (plain : ∀ c ∈ whole, c.isDigit = true) (read : exponent? rest = .some power) :
    magnitude? (whole ++ rest) = .some (Text.ofDigits (digitValues whole), power) := by
  have head := exponent?_head read
  have split := splitDigits_append rest plain fun c first ↦ by
    rcases head c first with rfl | rfl <;> rfl
  have noPoint : ∀ others, rest ≠ '.' :: others := fun others same ↦ by
    rcases head '.' (by rw [same]; rfl) with wrong | wrong <;> cases wrong
  simp only [magnitude?, split]
  rw [if_neg (by simp [digitValues_eq_nil plain, some]), read]
  simp

/-- Digits around a point in front of an exponent are read as a number with a fraction. -/
theorem magnitude?_pointed {whole fraction rest : List Char} {power : Int} (some : whole ++ fraction ≠ [])
    (plain : ∀ c ∈ whole, c.isDigit = true) (plain' : ∀ c ∈ fraction, c.isDigit = true)
    (read : exponent? rest = .some power) :
    magnitude? (whole ++ '.' :: (fraction ++ rest)) =
      .some (Text.ofDigits (digitValues (whole ++ fraction)), power - fraction.length) := by
  have split := splitDigits_append ('.' :: (fraction ++ rest)) plain
    fun c head ↦ by obtain rfl := Option.some.inj head; rfl
  have split' := splitDigits_append rest plain' fun c first ↦ by
    rcases exponent?_head read c first with rfl | rfl <;> rfl
  have counts : ¬((digitValues whole).isEmpty = true ∧ (digitValues fraction).isEmpty = true) := by
    rw [List.isEmpty_iff, List.isEmpty_iff, digitValues_eq_nil plain, digitValues_eq_nil plain',
      ← List.append_eq_nil_iff]
    exact some
  simp only [magnitude?, split, split']
  rw [if_neg counts, read, length_digitValues plain', ← List.filterMap_append]
  rfl

/-- What is read as a magnitude begins as a number does. -/
theorem magnitude?_starts {text : List Char} {number : Nat × Int} (read : magnitude? text = some number) :
    ∃ c rest, text = c :: rest ∧ Starts c := by
  cases text with
  | nil => cases read
  | cons c rest =>
    refine ⟨c, rest, rfl, ?_⟩
    by_contra other
    obtain ⟨noDigit, noPoint⟩ := not_or.1 other
    have split : splitDigits (c :: rest) = ([], c :: rest) := by
      simp [splitDigits, noDigit]
    simp [magnitude?, split, noPoint] at read

/-! ### Parts of a numeral -/

/-- Plain digits, at least one. -/
structure Digits where
  chars : List Char
  some : chars ≠ []
  plain : ∀ c ∈ chars, c.isDigit = true

namespace Digits

variable (digits : Digits)

/-- The number that the digits denote. -/
def value : Nat := Text.ofDigits (digitValues digits.chars)

theorem exists_cons : ∃ first others, digits.chars = first :: others ∧ first.isDigit = true := by
  obtain ⟨first, others, same⟩ := List.exists_cons_of_ne_nil digits.some
  exact ⟨first, others, same, digits.plain first (same ▸ List.mem_cons_self)⟩

theorem digitValues_ne_nil : digitValues digits.chars ≠ [] :=
  mt (digitValues_eq_nil digits.plain).1 digits.some

end Digits

/-- What may stand in front of digits. -/
inductive Mark where
  | none
  | plus
  | minus
deriving DecidableEq, Repr

namespace Mark

/-- The characters of a mark. -/
def chars : Mark → List Char
  | none => []
  | plus => ['+']
  | minus => ['-']

/-- Whether what follows is below zero. -/
def isNegative : Mark → Bool
  | minus => true
  | none | plus => false

/-- The mark of a sign. -/
def ofSign (negative : Bool) : Mark := if negative then minus else none

@[simp]
theorem isNegative_ofSign (negative : Bool) : (ofSign negative).isNegative = negative := by
  cases negative <;> rfl

theorem isNumeralChar_of_mem_chars (mark : Mark) : ∀ c ∈ mark.chars, IsNumeralChar c := by
  cases mark <;> simp [chars, IsNumeralChar]

/-- A mark in front of a number is split off. -/
theorem splitSign_append (mark : Mark) {c : Char} (rest : List Char) (starts : Starts c) :
    splitSign (mark.chars ++ c :: rest) = (mark.isNegative, c :: rest) := by
  have apart (d : Char) (sign : d = '-' ∨ d = '+') : c ≠ d := by
    rintro rfl
    rcases sign with rfl | rfl <;> rcases starts with digit | same <;> contradiction
  cases mark with
  | minus | plus => rfl
  | none =>
    change splitSign (c :: rest) = (false, c :: rest)
    unfold splitSign
    split
    · next same => exact absurd (List.cons.inj same).1 (apart '-' (Or.inl rfl))
    · next same => exact absurd (List.cons.inj same).1 (apart '+' (Or.inr rfl))
    · rfl

end Mark

/-- A text whose plain form is a magnitude behind a mark is read as that number, as far as the limits of the
exponent go. -/
theorem ofChars?_of_plain {text body : List Char} {mark : Mark} {coefficient : Nat} {power : Int}
    (form : plain? text = some (mark.chars ++ body)) (read : magnitude? body = some (coefficient, power)) :
    ofChars? text = bounded? mark.isNegative coefficient power := by
  obtain ⟨c, rest, rfl, starts⟩ := magnitude?_starts read
  rw [ofChars?, form, Option.bind_some, mark.splitSign_append rest starts]
  dsimp only
  rw [unsigned?_of_starts _ rest starts, read]
  rfl

/-- An exponent as it is written. -/
structure Exponent where
  letter : Char
  isLetter : letter = 'e' ∨ letter = 'E'
  mark : Mark
  digits : Digits

namespace Exponent

variable (exponent : Exponent)

/-- The characters of an exponent. -/
def chars : List Char := exponent.letter :: (exponent.mark.chars ++ exponent.digits.chars)

/-- The power of ten that an exponent denotes. -/
def value : Int :=
  if exponent.mark.isNegative then -(exponent.digits.value : Int) else exponent.digits.value

theorem exponent?_chars : exponent? exponent.chars = some exponent.value := by
  obtain ⟨first, others, same, digit⟩ := exponent.digits.exists_cons
  have split : splitSign (exponent.mark.chars ++ exponent.digits.chars) =
      (exponent.mark.isNegative, exponent.digits.chars) := by
    rw [same]
    exact exponent.mark.splitSign_append others (Or.inl digit)
  have read := splitDigits_append [] exponent.digits.plain fun c head ↦ by cases head
  rw [List.append_nil] at read
  simp only [chars, exponent?, if_pos exponent.isLetter, split, read]
  rw [if_neg (by simp [exponent.digits.digitValues_ne_nil])]
  rfl

end Exponent

/-! ### Numerals -/

/-- A number as it is written, without its sign. -/
structure Numeral where
  whole : Digits
  fraction : Option Digits := none
  exponent : Option Exponent := none

namespace Numeral

variable (numeral : Numeral)

/-- The digits behind the point. -/
def places : List Char := numeral.fraction.elim [] Digits.chars

/-- The characters of the fraction, with its point. -/
def fractionChars : List Char := numeral.fraction.elim [] fun digits ↦ '.' :: digits.chars

/-- The characters of the exponent. -/
def exponentChars : List Char := numeral.exponent.elim [] Exponent.chars

/-- The characters of a numeral. -/
def chars : List Char := numeral.whole.chars ++ (numeral.fractionChars ++ numeral.exponentChars)

/-- All digits as one number. -/
def coefficient : Nat := Text.ofDigits (digitValues (numeral.whole.chars ++ numeral.places))

/-- The power of ten of the last digit. -/
def power : Int := numeral.exponent.elim 0 Exponent.value - numeral.places.length

/-- The number that a numeral denotes. -/
def value : ℚ := numeral.coefficient * 10 ^ numeral.power

theorem exponentChars_head : ∀ c ∈ numeral.exponentChars.head?, c = 'e' ∨ c = 'E' := by
  unfold exponentChars
  cases numeral.exponent with
  | none => intro c head; cases head
  | some exponent =>
    intro c head
    obtain rfl := Option.some.inj head
    exact exponent.isLetter

theorem exponent?_exponentChars :
    exponent? numeral.exponentChars = some (numeral.exponent.elim 0 Exponent.value) := by
  unfold exponentChars
  cases numeral.exponent with
  | none => rfl
  | some exponent => exact exponent.exponent?_chars

/-- Reading a numeral gives its digits and the place of the last of them. -/
theorem magnitude?_chars : magnitude? numeral.chars = some (numeral.coefficient, numeral.power) := by
  have read := numeral.exponent?_exponentChars
  unfold chars fractionChars coefficient power places
  cases numeral.fraction with
  | none =>
    rw [Option.elim_none, List.nil_append, magnitude?_whole numeral.whole.some numeral.whole.plain read]
    simp
  | some digits =>
    have some : numeral.whole.chars ++ digits.chars ≠ [] :=
      List.append_ne_nil_of_left_ne_nil numeral.whole.some _
    rw [Option.elim_some, List.cons_append,
      magnitude?_pointed some numeral.whole.plain digits.plain read]
    rfl

theorem isNumeralChar_of_mem_chars : ∀ c ∈ numeral.chars, IsNumeralChar c := by
  have fraction : ∀ c ∈ numeral.fractionChars, IsNumeralChar c := by
    unfold fractionChars
    cases numeral.fraction with
    | none => intro c member; cases member
    | some digits =>
      intro c member
      rcases List.mem_cons.1 member with rfl | digit
      · exact Or.inr (by decide)
      · exact Or.inl (digits.plain c digit)
  have exponent : ∀ c ∈ numeral.exponentChars, IsNumeralChar c := by
    unfold exponentChars
    cases numeral.exponent with
    | none => intro c member; cases member
    | some exponent =>
      intro c member
      rcases List.mem_cons.1 member with rfl | member
      · rcases exponent.isLetter with letter | letter <;> rw [letter] <;> exact Or.inr (by decide)
      · rcases List.mem_append.1 member with mark | digit
        · exact exponent.mark.isNumeralChar_of_mem_chars c mark
        · exact Or.inl (exponent.digits.plain c digit)
  intro c member
  rcases List.mem_append.1 member with whole | member
  · exact Or.inl (numeral.whole.plain c whole)
  · rcases List.mem_append.1 member with member | member
    · exact fraction c member
    · exact exponent c member

/-- A numeral behind a mark is read as its digits at the place of the last of them, as far as the limits
of the exponent go. -/
theorem ofChars?_chars (mark : Mark) :
    ofChars? (mark.chars ++ numeral.chars) =
      bounded? mark.isNegative numeral.coefficient numeral.power := by
  refine ofChars?_of_plain (plain?_of_forall fun c member ↦ ?_) numeral.magnitude?_chars
  rcases List.mem_append.1 member with member | member
  · exact (mark.isNumeralChar_of_mem_chars c member).isPlain
  · exact (numeral.isNumeralChar_of_mem_chars c member).isPlain

end Numeral

end Passbook.Decimal
