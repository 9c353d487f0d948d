import Passbook.Money.Amount
import Passbook.Proofs.Procedure
import Passbook.Proofs.Text.Digits

/-!
Which amounts are judged. An amount that can be written out, and that is no sequence of parts of which one
exceeds the machine's words, is exact or refused by name (`Money.ofValue_judged`). Of any other one nothing
is said: its refusal cannot be put into words, or the machine cannot take its parts
(`Money.ofValue_unjudged`).
-/

set_option autoImplicit false
set_option relaxedAutoImplicit false

namespace Passbook

/-- A failure that callers are told about. -/
def Failure.IsNamed (failure : Failure) : Prop := ∃ named, failure = .ledger named

namespace Value

/-- A value that can be written out, and that is no sequence of parts of a number of which one exceeds the
machine's words. -/
structure IsJudgeable (given : Value) : Prop where
  writable : given.isWritable = true
  small : given.toDecimal ≠ .error .tooLarge

/-- A text or a decimal can always be judged. -/
theorem isJudgeable_of_offered {given : Value}
    (offered : (∃ content, given = .text content) ∨ ∃ number, given = .decimal number) :
    given.IsJudgeable := by
  obtain ⟨content, rfl⟩ | ⟨number, rfl⟩ := offered
  · refine ⟨rfl, fun tooLarge ↦ ?_⟩
    rw [toDecimal] at tooLarge
    split at tooLarge <;> cases tooLarge
  · exact ⟨rfl, fun tooLarge ↦ by cases tooLarge⟩

/-! ### What has a decimal -/

theorem digitCount_of_fitsWord {number : Int} (fits : fitsWord number = true) :
    Decimal.digitCount number.natAbs ≤ maxWrittenDigits := by
  have within : minWord ≤ number ∧ number ≤ maxWord := by simpa [fitsWord] using fits
  have below : number.natAbs < 10 ^ 20 := by
    unfold minWord maxWord at within
    omega
  exact Nat.le_trans ((Decimal.digitCount_le_iff (by decide)).2 below) (by decide)

/-- A whole number that fits the machine's words can be written out, whatever it is a part of. -/
theorem isWritable_of_part {fault : PartsFault} {given : Value} {number : Int}
    (taken : part fault given = .ok number) : given.isWritable = true := by
  unfold part at taken
  split at taken
  · cases taken
  · next whole isWhole =>
    split at taken
    · next fits =>
      cases given with
      | integer number =>
        obtain rfl := Option.some.inj isWhole
        exact decide_eq_true (digitCount_of_fitsWord fits)
      | truth holds => rfl
      | _ => cases isWhole
    · cases taken

theorem isWritable_of_signPart {given : Value} {negative : Bool}
    (taken : signPart given = .ok negative) : given.isWritable = true := by
  obtain ⟨_, isPart, -⟩ := ok_of_bind_except taken
  exact isWritable_of_part isPart

theorem isWritable_of_digitPart {given : Value} {digit : Nat}
    (taken : digitPart given = .ok digit) : given.isWritable = true := by
  obtain ⟨_, isPart, -⟩ := ok_of_bind_except taken
  exact isWritable_of_part isPart

theorem isWritable_of_lastPart {given : Value} {last : LastPart}
    (taken : lastPart given = .ok last) : given.isWritable = true := by
  unfold lastPart at taken
  split at taken
  · rfl
  · rfl
  · rfl
  · cases taken
  · obtain ⟨_, isPart, -⟩ := ok_of_bind_except taken
    exact isWritable_of_part isPart

theorem areWritable_of_forall₂ {members : List Value} {digits : List Nat}
    (each : List.Forall₂ (fun member digit ↦ digitPart member = .ok digit) members digits) :
    areWritable members = true := by
  induction each with
  | nil => rfl
  | cons first _ ih => simp [areWritable, isWritable_of_digitPart first, ih]

theorem isWritable_of_digitParts {given : Value} {digits : List Nat}
    (taken : digitParts given = .ok digits) : given.isWritable = true := by
  unfold digitParts at taken
  split at taken
  · exact areWritable_of_forall₂ (forall₂_of_mapM_except taken)
  · exact areWritable_of_forall₂ (forall₂_of_mapM_except taken)
  · cases taken

/-- The parts of a decimal can be written out. -/
theorem areWritable_of_ofParts {members : List Value} {number : Decimal}
    (taken : ofParts members = .ok number) : areWritable members = true := by
  unfold ofParts at taken
  split at taken
  · next sign digits last =>
    obtain ⟨_, isSign, taken⟩ := ok_of_bind_except taken
    obtain ⟨_, isLast, taken⟩ := ok_of_bind_except taken
    obtain ⟨_, areDigits, -⟩ := ok_of_bind_except taken
    simp [areWritable, isWritable_of_signPart isSign, isWritable_of_lastPart isLast,
      isWritable_of_digitParts areDigits]
  · cases taken

/-- What has a decimal can be written out, unless it is a whole number. -/
theorem writable_of_toDecimal {given : Value} {number : Decimal}
    (converted : given.toDecimal = .ok number) :
    given.isWritable = true ∨ ∃ whole, given = .integer whole := by
  cases given with
  | integer whole => exact Or.inr ⟨whole, rfl⟩
  | list members => exact Or.inl (areWritable_of_ofParts converted)
  | tuple members => exact Or.inl (areWritable_of_ofParts converted)
  | mapping entries => cases converted
  | _ => exact Or.inl rfl

end Value

namespace Money

variable {given : Value}

theorem refuse_of_writable (writable : given.isWritable = true) (fault : AmountFault) :
    refuse given fault = .error (.ledger (.invalidAmount fault)) :=
  congrArg Except.error (if_pos writable)

theorem ofDecimal_cases (writable : given.isWritable = true) (number : Decimal) :
    (∃ exact, ofDecimal given number = .ok exact) ∨
      ∃ fault, ofDecimal given number = .error (.ledger (.invalidAmount fault)) := by
  unfold ofDecimal
  simp only [refuse_of_writable writable]
  split
  · split
    · exact Or.inr ⟨_, rfl⟩
    · split
      · exact Or.inl ⟨_, rfl⟩
      · exact Or.inr ⟨_, rfl⟩
  · exact Or.inr ⟨_, rfl⟩

/-- An amount that can be judged is exact, or refused by name. -/
theorem ofValue_judged (judgeable : given.IsJudgeable) :
    (∃ exact, ofValue given = .ok exact) ∨
      ∃ fault, ofValue given = .error (.ledger (.invalidAmount fault)) := by
  unfold ofValue
  split
  · exact Or.inr ⟨_, refuse_of_writable judgeable.writable _⟩
  · exact Or.inr ⟨_, refuse_of_writable judgeable.writable _⟩
  · split
    · next tooLarge => exact absurd tooLarge judgeable.small
    · exact Or.inr ⟨_, refuse_of_writable judgeable.writable _⟩
    · next number _ => exact ofDecimal_cases judgeable.writable number

theorem refuse_of_unwritable (unwritable : given.isWritable = false) (fault : AmountFault) :
    refuse given fault = .error (.badValue .tooManyDigits) := by
  unfold refuse
  rw [unwritable]
  rfl

/-- No amount has as many digits as a whole number that cannot be written out. -/
theorem ofDecimal_unwritable {whole : Int} (unwritable : (Value.integer whole).isWritable = false) :
    ofDecimal (.integer whole) (Decimal.ofInt whole) = .error (.badValue .tooManyDigits) := by
  have many : Value.maxWrittenDigits < Decimal.digitCount whole.natAbs := by
    simpa [Value.isWritable] using unwritable
  have some : whole.natAbs ≠ 0 := fun none ↦ by
    rw [none] at many
    exact absurd many (by decide)
  have tooLarge : (Decimal.ofInt whole).quantize .towardZero centExponent = none := by
    simp only [Decimal.ofInt, Decimal.quantize]
    rw [if_neg some, if_pos (by decide), if_neg]
    unfold Value.maxWrittenDigits at many
    unfold Decimal.precision
    omega
  unfold ofDecimal
  rw [tooLarge, if_pos (show (Decimal.ofInt whole).isFinite = true from rfl)]
  exact refuse_of_unwritable unwritable _

/-- An amount that cannot be judged ends in a failure without a name. -/
theorem ofValue_unjudged (unjudgeable : ¬given.IsJudgeable) :
    ∃ failure, ofValue given = .error failure ∧ ¬failure.IsNamed := by
  have overflow : ¬Failure.overflow.IsNamed := fun ⟨_, same⟩ ↦ by cases same
  have unwritten : ¬(Failure.badValue .tooManyDigits).IsNamed := fun ⟨_, same⟩ ↦ by cases same
  by_cases tooLarge : given.toDecimal = .error .tooLarge
  · refine ⟨_, ?_, overflow⟩
    unfold ofValue
    split
    · cases tooLarge
    · cases tooLarge
    · rw [tooLarge]
  · have unwritable : given.isWritable = false :=
      Bool.eq_false_iff.2 fun writable ↦ unjudgeable ⟨writable, tooLarge⟩
    refine ⟨_, ?_, unwritten⟩
    unfold ofValue
    split
    · exact refuse_of_unwritable unwritable _
    · exact refuse_of_unwritable unwritable _
    · split
      · next same => exact absurd same tooLarge
      · exact refuse_of_unwritable unwritable _
      · next number converted =>
        rcases Value.writable_of_toDecimal converted with writable | ⟨whole, rfl⟩
        · rw [writable] at unwritable
          cases unwritable
        · obtain rfl := Except.ok.inj converted
          exact ofDecimal_unwritable unwritable

end Money

end Passbook
