import Passbook.Proofs.Ledger.Post
import Passbook.Proofs.Money.Judged
import Passbook.Proofs.Money.Order

/-!
The checks that come before any account is touched, and what each of them makes of a request. An amount is
admitted if it is exact, above zero and at most the ceiling of its kind (`Ceilings.Admits`), a description
if it is text of at most 255 characters (`Described`). Main statement: a request whose own data are in order
becomes a posting of the exact amount under a new reference (`Ledger.prepare_wellPut`).
-/

set_option autoImplicit false
set_option relaxedAutoImplicit false

namespace Passbook

open Procedure

/-! ### What is in order -/

/-- Every kind of transaction has a ceiling, which is a finite number. -/
def Ceilings.Complete (ceilings : Ceilings) : Prop :=
  ∀ kind, ∃ ceiling bound, ceilings.of? kind = some ceiling ∧ ceiling.number? = some bound ∧
    bound.isFinite = true

/-- An amount that is exact, above zero and at most the ceiling of its kind. -/
structure Ceilings.Admits (ceilings : Ceilings) (kind : TransactionKind) (amount : Value)
    (exact : Decimal) : Prop where
  exactly : Money.ofValue amount = .ok exact
  positive : 0 < exact.toRat
  bounded : ∃ ceiling bound, ceilings.of? kind = some ceiling ∧ ceiling.number? = some bound ∧
    bound.isFinite = true ∧ exact.toRat ≤ bound.toRat

/-- A description that is text of at most 255 characters. -/
structure Described (description : Value) (content : String) : Prop where
  isText : description = .text content
  short : content.length ≤ 255

/-- A request whose own data are in order. -/
structure WellPut (ceilings : Ceilings) (movement : Movement) (amount description : Value)
    (exact : Decimal) (content : String) : Prop where
  admitted : ceilings.Admits movement.kind amount exact
  described : Described description content
  apart : ∀ account, movement ≠ .transfer account account

/-- The posting that a request becomes, under the reference that is drawn next. -/
def postingOf (movement : Movement) (exact : Decimal) (content : String) (ledger : Ledger) : Posting where
  movement := movement
  amount := exact
  description := content
  reference := .drawn ledger.storage.drawn

/-! ### Amounts -/

namespace Ceilings

variable {ceilings : Ceilings} {kind : TransactionKind} {amount : Value} {exact bound : Decimal}
  {ceiling : Value}

/-- An amount of cents is allowed if it is above zero and at most the ceiling of its kind. -/
theorem allow_eq {cents : Int} (whole : exact.cents? = some cents)
    (there : ceilings.of? kind = some ceiling) (number : ceiling.number? = some bound)
    (finite : bound.isFinite = true) :
    ceilings.allow kind (.decimal exact) =
      .ok (decide (0 < exact.toRat ∧ exact.toRat ≤ bound.toRat)) := by
  have finite' : exact.isFinite = true := by
    obtain ⟨negative, coefficient, rfl, -, -⟩ := Decimal.cents?_eq_some whole
    rfl
  have zero : Decimal.zero.toRat = 0 := by simp [Decimal.zero, Decimal.toRat, Decimal.signed]
  have above : (Value.decimal .zero).compare (.decimal exact) = .ok (some (cmp 0 exact.toRat)) := by
    rw [Value.compare_of_some rfl rfl (Decimal.compare?_toRat rfl finite'), zero]
  have within : (Value.decimal exact).compare ceiling = .ok (some (cmp exact.toRat bound.toRat)) :=
    Value.compare_of_some rfl number (Decimal.compare?_toRat finite' finite)
  have isBelow : (Value.decimal .zero).isBelow (.decimal exact) =
      .ok (decide (0 < exact.toRat)) := by
    rw [Value.isBelow, above]
    refine congrArg Except.ok ?_
    rw [Option.some_beq_some, Bool.eq_iff_iff, beq_iff_eq, decide_eq_true_iff, cmp_eq_lt_iff]
  have isAtMost : (Value.decimal exact).isAtMost ceiling =
      .ok (decide (exact.toRat ≤ bound.toRat)) := by
    rw [Value.isAtMost, within]
    refine congrArg Except.ok ?_
    rw [Option.some_beq_some, Option.some_beq_some, Bool.eq_iff_iff, Bool.or_eq_true, beq_iff_eq,
      beq_iff_eq, decide_eq_true_iff, cmp_eq_lt_iff, cmp_eq_eq_iff, le_iff_lt_or_eq]
  unfold allow
  rw [isBelow, there]
  by_cases positive : 0 < exact.toRat
  · simp only [positive, true_and, decide_true]
    change (Value.isAtMost _ _).mapError _ = _
    rw [isAtMost]
    rfl
  · simp only [positive, false_and, decide_false]
    rfl

end Ceilings

namespace Ledger

variable {engine : Engine} {movement : Movement} {kind : TransactionKind}
  {amount description : Value} {exact : Decimal} {content : String}

/-! ### The checks one by one -/

/-- An amount that is not exact ends the check as it is. -/
theorem checkAmount_refused {failure : Failure} (refused : Money.ofValue amount = .error failure)
    (ledger : Ledger) :
    ∃ after, checkAmount engine kind amount ledger = (.error failure, after) := by
  unfold checkAmount
  rw [refused]
  cases failure <;> exact ⟨_, rfl⟩

theorem checkAmount_outOfBounds {ceiling : Value} {bound : Decimal}
    (exactly : Money.ofValue amount = .ok exact)
    (there : engine.ceilings.of? kind = some ceiling) (number : ceiling.number? = some bound)
    (finite : bound.isFinite = true) (outside : ¬(0 < exact.toRat ∧ exact.toRat ≤ bound.toRat))
    (ledger : Ledger) :
    ∃ after, checkAmount engine kind amount ledger =
      (.error (.ledger (.invalidAmount (.outOfBounds kind ceiling exact))), after) := by
  obtain ⟨cents, whole⟩ := Money.ofValue_cents exactly
  unfold checkAmount
  rw [exactly]
  dsimp only
  rw [Ceilings.allow_eq whole there number finite, decide_eq_false outside]
  simp only [run_bind, run_ofExcept]
  rw [there]
  exact ⟨_, rfl⟩

/-- An amount that is admitted passes as it is. -/
theorem checkAmount_admitted (admits : engine.ceilings.Admits kind amount exact) (ledger : Ledger) :
    checkAmount engine kind amount ledger = (.ok exact, ledger) := by
  obtain ⟨cents, whole⟩ := Money.ofValue_cents admits.exactly
  obtain ⟨ceiling, bound, there, number, finite, atMost⟩ := admits.bounded
  unfold checkAmount
  rw [admits.exactly]
  dsimp only
  rw [Ceilings.allow_eq whole there number finite, decide_eq_true ⟨admits.positive, atMost⟩]
  rfl

theorem checkText_refused {failure : Failure} (refused : checkDescription description = .error failure)
    (ledger : Ledger) :
    ∃ after, checkText kind description ledger = (.error failure, after) := by
  unfold checkText
  rw [refused]
  exact ⟨_, rfl⟩

theorem checkText_notText (noText : ∀ content, description ≠ .text content) (ledger : Ledger) :
    ∃ after, checkText kind description ledger =
      (.error (.ledger (.invalidDescription (.notText description))), after) := by
  refine checkText_refused ?_ ledger
  unfold checkDescription
  split
  · next content => exact absurd rfl (noText content)
  · rfl

theorem checkText_tooLong (isText : description = .text content) (long : 255 < content.length)
    (ledger : Ledger) :
    ∃ after, checkText kind description ledger =
      (.error (.ledger (.invalidDescription .tooLong)), after) := by
  refine checkText_refused ?_ ledger
  rw [isText]
  exact if_pos long

/-- A description that is text of no more characters passes as it is. -/
theorem checkText_described (described : Described description content) (ledger : Ledger) :
    checkText kind description ledger = (.ok content, ledger) := by
  have accepted : checkDescription description = .ok content := by
    rw [described.isText]
    exact if_neg (Nat.not_lt.2 described.short)
  unfold checkText
  rw [accepted]
  rfl

theorem checkAccounts_same (account : Int) (ledger : Ledger) :
    ∃ after, checkAccounts (.transfer account account) ledger =
      (.error (.ledger (.sameAccount (.integer account))), after) := by
  unfold checkAccounts
  dsimp only
  rw [if_pos rfl]
  exact ⟨_, rfl⟩

theorem checkAccounts_apart (apart : ∀ account, movement ≠ .transfer account account)
    (ledger : Ledger) : checkAccounts movement ledger = (.ok ⟨⟩, ledger) := by
  unfold checkAccounts
  split
  · next source destination =>
    have other : source ≠ destination := fun same ↦ apart source (by rw [← same])
    rw [if_neg other]
    rfl
  · rfl

/-! ### All checks together -/

theorem prepare_of_amount {failure : Failure} {ledger after : Ledger}
    (refused : checkAmount engine movement.kind amount ledger = (.error failure, after)) :
    prepare engine movement amount description ledger = (.error failure, after) := by
  unfold prepare
  rw [run_bind, refused]

theorem prepare_of_text {failure : LedgerFailure} {ledger after : Ledger}
    (admits : engine.ceilings.Admits movement.kind amount exact)
    (refused : checkText movement.kind description ledger = (.error (.ledger failure), after)) :
    prepare engine movement amount description ledger = (.error (.ledger failure), after) := by
  unfold prepare
  rw [run_bind_ok (checkAmount_admitted admits ledger), run_bind, refused]

theorem prepare_of_accounts {failure : LedgerFailure} {ledger after : Ledger}
    (admits : engine.ceilings.Admits movement.kind amount exact)
    (described : Described description content)
    (refused : checkAccounts movement ledger = (.error (.ledger failure), after)) :
    prepare engine movement amount description ledger = (.error (.ledger failure), after) := by
  unfold prepare
  rw [run_bind_ok (checkAmount_admitted admits ledger),
    run_bind_ok (checkText_described described ledger), run_bind, refused]

/-- A request whose own data are in order moves cents. -/
theorem moves_of_wellPut (wellPut : WellPut engine.ceilings movement amount description exact content)
    (ledger : Ledger) : ∃ cents, (postingOf movement exact content ledger).Moves cents :=
  moves_of_accepted wellPut.admitted.exactly
    (checkAmount_ok (checkAmount_admitted wellPut.admitted ledger)).2
    (checkAccounts_ok (checkAccounts_apart wellPut.apart ledger))

/-- A request whose own data are in order becomes a posting of the exact amount under a new reference. -/
theorem prepare_wellPut (wellPut : WellPut engine.ceilings movement amount description exact content)
    (ledger : Ledger) :
    prepare engine movement amount description ledger =
      (.ok (postingOf movement exact content ledger),
        { ledger with storage := { ledger.storage with drawn := ledger.storage.drawn + 1 } }) := by
  obtain ⟨cents, moves⟩ := moves_of_wellPut wellPut ledger
  unfold prepare
  rw [run_bind_ok (checkAmount_admitted wellPut.admitted ledger),
    run_bind_ok (checkText_described wellPut.described ledger),
    run_bind_ok (checkAccounts_apart wellPut.apart ledger)]
  have drawn : drawReference ledger = (.ok (.drawn ledger.storage.drawn),
      { ledger with storage := { ledger.storage with drawn := ledger.storage.drawn + 1 } }) := rfl
  have checked : Record.check movement (.decimal exact) = .ok ⟨⟩ := moves.check
  rw [run_bind_ok drawn, checked]
  rfl

end Ledger

end Passbook
