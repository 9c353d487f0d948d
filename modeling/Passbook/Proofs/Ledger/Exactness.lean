import Passbook.Proofs.Ledger.Outcome
import Passbook.Proofs.Money.RoundTrip

/-!
Exact balances, or none. A sum or a difference of cents that a column keeps is the exact one, and a sum that
needs more digits than the precision is kept in no form (`Money.bind_sum`): the rounding of it cannot be
brought to cents. A unit of work with such a sum among its new balances fails, whichever account is written
first, and none of it becomes permanent (`Work.writePosting_tooLong`); the same goes for all tries of a
posting together (`Ledger.post_tooLong`). Main statement: `Ledger.balance_exact`.
-/

set_option autoImplicit false
set_option relaxedAutoImplicit false

-- Powers are those of the core library, whatever else is imported.
attribute [local instance (high)] instPowNat

namespace Passbook

open Procedure Session

/-! ### Sums and differences -/

namespace Money

/-- A decimal that every form of a column keeps as so many cents, and that is read as it was kept. -/
structure IsKeptAs (number : Decimal) (cents : Int) : Prop where
  exact : number.toRat = cents / 100
  kept : ∀ form, bind form (.decimal number) = .ok (some (form.keep number))
  read : ∀ form : ColumnForm, Money.read (form.keep number).content = .ok (some number)

/-- A decimal that no form of a column keeps. -/
def IsKeptNowhere (number : Decimal) : Prop := ∀ form, bind form (.decimal number) = .error .undefined

theorem isKeptAs_of_cents {number : Decimal} {cents : Int} (whole : number.cents? = some cents) :
    IsKeptAs number cents where
  exact := Decimal.toRat_of_cents whole
  kept form := (bind_of_cents form whole).1
  read form := (bind_of_cents form whole).2

theorem isKeptNowhere_of_quantize {number : Decimal}
    (none : number.quantize .toEven centExponent = none) : IsKeptNowhere number := fun form ↦ by
  rw [bind_decimal_eq, none]
  rfl

variable {balance amount : Decimal} {held moved : Int}

/-- A sum of cents is kept exactly, or nowhere if it needs more digits than the precision. -/
theorem bind_sum (isHeld : balance.cents? = some held) (notBelow : 0 ≤ held)
    (isMoved : amount.cents? = some moved) (positive : 0 < moved) :
    ∃ sum, balance.add amount = some sum ∧
      (held + moved < 10 ^ Decimal.precision → IsKeptAs sum (held + moved)) ∧
      (10 ^ Decimal.precision ≤ held + moved → IsKeptNowhere sum) := by
  by_cases short : held + moved < 10 ^ Decimal.precision
  · have short' : (held + moved).natAbs < 10 ^ Decimal.precision := by
      unfold Decimal.precision at short ⊢
      omega
    obtain ⟨sum, added, whole⟩ := Decimal.add_cents_of_short isHeld isMoved short'
    exact ⟨sum, added, fun _ ↦ isKeptAs_of_cents whole, fun long ↦ absurd short (Int.not_lt.2 long)⟩
  · obtain ⟨sum, added, -, none⟩ := Decimal.add_cents_of_long isHeld isMoved (Int.not_lt.1 short)
    exact ⟨sum, added, fun short' ↦ absurd short' short, fun _ ↦ isKeptNowhere_of_quantize (none _)⟩

/-- What is taken from no less leaves what is kept exactly. -/
theorem bind_difference (isHeld : balance.cents? = some held) (isMoved : amount.cents? = some moved)
    (positive : 0 < moved) (enough : moved ≤ held) :
    ∃ difference, balance.sub amount = some difference ∧ IsKeptAs difference (held - moved) := by
  obtain ⟨difference, taken, whole⟩ :=
    Decimal.sub_cents_of_le isHeld isMoved (Int.le_of_lt positive) enough
  exact ⟨difference, taken, isKeptAs_of_cents whole⟩

end Money

/-! ### Units of work -/

namespace Session

/-- Nothing of the unit has become permanent between two moments, whoever else writes. -/
def Withholds (before after : Session) : Prop := after.storage.database = before.storage.database

instance : IsPreorder Session Withholds where
  refl _ := rfl
  trans _ _ _ begins goesOn := Eq.trans goesOn begins

end Session

namespace Work

/-- Writing makes nothing permanent and lets nobody else in. -/
theorem leftByChanging_withholds : LeftByChanging (fun _ ↦ True) Withholds where
  pass point _ session := by
    rw [pass_run]
    exact rfl
  connect session := by
    rcases connect_cases session with same | same <;> rw [same] <;> exact rfl
  remember _ _ := rfl
  write _ _ := rfl
  now _ := rfl
  drawReference _ := rfl

variable {account : Account} {held moved : Int}

/-- A unit that has a balance to raise beyond the precision fails while it writes, whichever balance it writes
first, and has made nothing permanent. -/
theorem writePosting_tooLong {posting : Posting} {read : List (Account × Direction)}
    (credited : (account, .credit) ∈ read) (isHeld : account.balance.cents? = some held)
    (isMoved : posting.amount.cents? = some moved) (long : 10 ^ Decimal.precision ≤ held + moved)
    (session : Session) :
    ∃ failure after, writePosting posting read session = (.error failure, after) ∧
      session.Withholds after := by
  cases ran : writePosting posting read session with
  | mk outcome after =>
    have withholds := (leftByChanging_withholds.writePosting ⟨trivial, trivial⟩ posting read).of_eq ran
    cases outcome with
    | error failure => exact ⟨failure, after, rfl, withholds⟩
    | ok record =>
      unfold writePosting at ran
      obtain ⟨changes, _, working, ran⟩ := ok_of_bind ran
      obtain ⟨_, middle, changing, -⟩ := ok_of_bind ran
      obtain ⟨worked, rfl⟩ := ok_of_ofExcept working
      obtain ⟨number, balance, member⟩ := Posting.exists_newBalance worked credited
      obtain ⟨sum, added, -, none⟩ := Decimal.add_cents_of_long isHeld isMoved long
      obtain rfl := Option.some.inj (added.symm.trans (Posting.defined_ok balance))
      obtain ⟨before, behind, changed⟩ := ok_of_forM changing member
      obtain ⟨-, -, row, cents, -, quantized, -⟩ := writeBalance_true (changeBalance_ok changed).2
      rw [none] at quantized
      cases quantized

/-- Such a unit is undone as a whole: what is permanent is what was when its accounts had been read. -/
theorem applyAndCommit_tooLong {posting : Posting} {read : List (Account × Direction)}
    {storage : Storage} {middle : Session}
    (reading : readLegs posting (opened storage) = (.ok read, middle))
    (credited : (account, .credit) ∈ read) (isHeld : account.balance.cents? = some held)
    (isMoved : posting.amount.cents? = some moved) (long : 10 ^ Decimal.precision ≤ held + moved) :
    ∃ failure after, (applyAndCommit posting).run storage = (.error failure, after) ∧
      after.database = middle.storage.database := by
  obtain ⟨failure, after, ran, withholds⟩ := writePosting_tooLong credited isHeld isMoved long middle
  refine ⟨failure, after.storage, ?_, withholds⟩
  have applied : applyPosting posting (opened storage) = (.error failure, after) := by
    unfold applyPosting
    rw [run_bind_ok reading]
    exact ran
  rw [run_eq, applyAndCommit, run_bind, applied]

end Work

/-! ### Whole operations -/

namespace Ledger

variable {held moved : Int} {amount : Decimal} {row : AccountRow} {ledger : Ledger}

/-- A movement that was applied has left each account with exactly the balance that it should have. -/
theorem Applied.leg {movement : Movement} {given description : Value} {record : TransactionRow}
    {before after : Storage} (applied : Applied movement given description record before after)
    {leg : Int × Direction} (member : leg ∈ movement.legs)
    (found : before.database.account? leg.1 = some row)
    (isHeld : Money.storedCents? row.balance = some held) (exact : Money.ofValue given = .ok amount)
    (isMoved : amount.cents? = some moved) :
    ∃ (number : Decimal) (new : AccountRow), number.cents? = some (leg.2.moved held moved) ∧
      after.database.account? leg.1 = some new ∧ row.Moved number new := by
  obtain ⟨posting, cents, asked, -, moves, posted⟩ := applied
  obtain rfl := Except.ok.inj (exact.symm.trans asked.amount)
  obtain rfl := Option.some.inj (isMoved.symm.trans moves.exact)
  obtain ⟨old, new, balance, number, found', -, isHeld', -, whole, stored⟩ :=
    posted.legs leg (asked.movement ▸ member)
  obtain rfl := Option.some.inj (found.symm.trans found')
  obtain rfl := Option.some.inj (isHeld.symm.trans isHeld')
  exact ⟨number, new, whole, stored⟩

/-- Moving money leaves an account with exactly the balance that it should have, or all tables as they
were. -/
theorem post_leg (engine : Engine) (movement : Movement) (given description : Value)
    (alone : ledger.storage.intrusions = []) {leg : Int × Direction} (member : leg ∈ movement.legs)
    (found : ledger.storage.database.account? leg.1 = some row)
    (isHeld : Money.storedCents? row.balance = some held) (exact : Money.ofValue given = .ok amount)
    (isMoved : amount.cents? = some moved) :
    let after := (post engine movement given description ledger).2.storage.database
    after = ledger.storage.database ∨ ∃ number new, Money.IsKeptAs number (leg.2.moved held moved) ∧
      after.account? leg.1 = some new ∧ row.Moved number new := by
  intro after
  rcases post_applied engine movement given description alone with same | ⟨record, applied⟩
  · exact Or.inl same
  · obtain ⟨number, new, whole, stored⟩ := applied.leg member found isHeld exact isMoved
    exact Or.inr ⟨number, new, Money.isKeptAs_of_cents whole, stored⟩

/-- Money that would raise a balance beyond the precision does not move at all, however often that is
tried. -/
theorem post_tooLong (engine : Engine) (movement : Movement) (given description : Value)
    (alone : ledger.storage.intrusions = []) {id : Int} (credited : (id, .credit) ∈ movement.legs)
    (found : ledger.storage.database.account? id = some row)
    (isHeld : Money.storedCents? row.balance = some held) (exact : Money.ofValue given = .ok amount)
    (isMoved : amount.cents? = some moved) (long : 10 ^ Decimal.precision ≤ held + moved)
    (fresh : ledger.storage.database.transactionReferenced? (.drawn ledger.storage.drawn) = none) :
    let moving := post engine movement given description ledger
    (∃ failure, moving.1 = .error failure) ∧ moving.2.storage.database = ledger.storage.database := by
  intro moving
  have never (record : TransactionRow) :
      ¬ Applied movement given description record ledger.storage moving.2.storage := by
    intro applied
    obtain ⟨number, _, whole, -⟩ := applied.leg credited found isHeld exact isMoved
    have bound : (held + moved).natAbs < 10 ^ Decimal.precision := Decimal.natAbs_lt_of_cents whole
    unfold Decimal.precision at long bound
    omega
  obtain ⟨kept, given⟩ := post_exactly_once engine movement given description ledger alone fresh
  refine ⟨?_, kept.resolve_right fun ⟨record, applied⟩ ↦ never record applied⟩
  cases ended : moving.1 with
  | error failure => exact ⟨failure, rfl⟩
  | ok record =>
    obtain ⟨row, applied, -⟩ := given record ended
    exact absurd applied (never row)

/-- Balances are exact, or they are not. A balance of cents is kept as it is and read as it was kept. Its sum
with an amount is kept and read exactly while the precision lasts, and beyond that it is kept by no column,
rounded or not; its difference with an amount that is no greater is always kept and read exactly. A unit of
work that would have to keep a sum beyond the precision fails and is undone as a whole, whatever else it
moves and whoever else writes. A whole operation leaves each account with exactly the balance that it should
have, read from its row as it was worked out and under the next version, or all tables as they were, and it
fails and leaves them as they were if a sum is beyond the precision. -/
theorem balance_exact {balance amount : Decimal} {held moved : Int}
    (isHeld : balance.cents? = some held) (notBelow : 0 ≤ held)
    (isMoved : amount.cents? = some moved) (positive : 0 < moved) :
    Money.IsKeptAs balance held ∧
    (∃ sum, balance.add amount = some sum ∧
      (held + moved < 10 ^ Decimal.precision → Money.IsKeptAs sum (held + moved)) ∧
      (10 ^ Decimal.precision ≤ held + moved → Money.IsKeptNowhere sum)) ∧
    (moved ≤ held → ∃ difference, balance.sub amount = some difference ∧
      Money.IsKeptAs difference (held - moved)) ∧
    (10 ^ Decimal.precision ≤ held + moved →
      ∀ (posting : Posting) (account : Account) (read : List (Account × Direction)) (storage : Storage)
        (middle : Session), posting.amount = amount → account.balance = balance →
        (account, .credit) ∈ read →
        Work.readLegs posting (Session.opened storage) = (.ok read, middle) →
        ∃ failure after, (Work.applyAndCommit posting).run storage = (.error failure, after) ∧
          after.database = middle.storage.database) ∧
    ∀ (engine : Engine) (movement : Movement) (given description : Value) (ledger : Ledger)
      (leg : Int × Direction) (row : AccountRow), ledger.storage.intrusions = [] → leg ∈ movement.legs →
      ledger.storage.database.account? leg.1 = some row → Money.readText row.balance = .ok balance →
      Money.ofValue given = .ok amount →
      let before := ledger.storage
      let moving := post engine movement given description ledger
      let after := moving.2.storage
      (after.database = before.database ∨ ∃ number new, Money.IsKeptAs number (leg.2.moved held moved) ∧
        after.database.account? leg.1 = some new ∧ row.Moved number new) ∧
      (leg.2 = .credit → 10 ^ Decimal.precision ≤ held + moved →
        before.database.transactionReferenced? (.drawn before.drawn) = none →
        (∃ failure, moving.1 = .error failure) ∧ after.database = before.database) := by
  refine ⟨Money.isKeptAs_of_cents isHeld, Money.bind_sum isHeld notBelow isMoved positive,
    Money.bind_difference isHeld isMoved positive, ?unit, ?operation⟩
  case unit =>
    rintro long posting account read storage middle rfl rfl credited reading
    exact Work.applyAndCommit_tooLong reading credited isHeld isMoved long
  case operation =>
    intro engine movement given description ledger leg row alone member found read exact
    have stored : Money.storedCents? row.balance = some held :=
      (Money.storedCents?_of_readText read).trans isHeld
    refine ⟨post_leg engine movement given description alone member found stored exact isMoved, ?_⟩
    intro credit long fresh
    obtain ⟨id, direction⟩ := leg
    obtain rfl := credit
    exact post_tooLong engine movement given description alone member found stored exact isMoved long
      fresh

/-- Two accounts that hold as much as an account can. -/
def bothFull : Ledger where
  storage := {
    database := {
      accounts := [⟨1, "ACC0000000001", 1, .checking, .active, "99999999999999999999999999.99", 1⟩,
        ⟨2, "ACC0000000002", 2, .savings, .active, "99999999999999999999999999.99", 1⟩] } }

/-- Between two full accounts no cent can be moved, whichever of them is written first. -/
theorem balance_exact_bothFull :
    ((∃ failure, (post (moving 1) (.transfer 1 2) (.text "0.01") (.text "") bothFull).1 = .error failure) ∧
      (post (moving 1) (.transfer 1 2) (.text "0.01") (.text "") bothFull).2.storage.database =
        bothFull.storage.database) ∧
    (∃ failure, (post (moving 1) (.transfer 2 1) (.text "0.01") (.text "") bothFull).1 = .error failure) ∧
      (post (moving 1) (.transfer 2 1) (.text "0.01") (.text "") bothFull).2.storage.database =
        bothFull.storage.database := by
  have isHeld : (Decimal.finite false 9999999999999999999999999999 (-2)).cents? =
      some 9999999999999999999999999999 := by decide +kernel
  have isMoved : (Decimal.finite false 1 (-2)).cents? = some 1 := by decide +kernel
  obtain ⟨-, -, -, -, operations⟩ := balance_exact isHeld (by decide) isMoved (by decide)
  have read : Money.readText "99999999999999999999999999.99" =
      .ok (.finite false 9999999999999999999999999999 (-2)) := by rfl
  have exact : Money.ofValue (.text "0.01") = .ok (.finite false 1 (-2)) := by rfl
  constructor
  · exact (operations (moving 1) (.transfer 1 2) (.text "0.01") (.text "") bothFull (2, .credit) _ rfl
      (by decide) rfl read exact).2 rfl (by decide) rfl
  · exact (operations (moving 1) (.transfer 2 1) (.text "0.01") (.text "") bothFull (1, .credit) _ rfl
      (by decide) rfl read exact).2 rfl (by decide) rfl

end Ledger

end Passbook
