import Passbook.Ledger.Posting
import Passbook.Proofs.Storage.Writes

/-!
What a posting does to the tables. `Database.Posted` says that one state of the tables is another with a
posting applied exactly once: every account involved has its balance moved by exactly the amount and its
version raised by one, no other account has changed, and one completed transaction has been added under
the reference of the posting. Main statement: what a unit of work has written for a posting of exact
cents is exactly that, and its record is the one that the new row reads back as (`writePosting_ok`). The
accounts may have been read at any time before, as long as the tables showed them then.
-/

set_option autoImplicit false
set_option relaxedAutoImplicit false

namespace Passbook

/-- Every balance is a whole number of cents, and not below zero. -/
def Database.Solvent (database : Database) : Prop :=
  ∀ id row, database.account? id = some row →
    ∃ cents, Money.storedCents? row.balance = some cents ∧ 0 ≤ cents

/-- A balance of cents after an amount has gone or come. -/
def Direction.moved (direction : Direction) (balance amount : Int) : Int :=
  match direction with
  | .debit => balance - amount
  | .credit => balance + amount

/-- A movement has one leg for each account that it names. -/
theorem Movement.accounts_eq_legs (movement : Movement) :
    movement.accounts = movement.legs.map (·.1) := by
  cases movement <;> rfl

/-- A posting that moves a positive number of cents, and not from an account to itself. -/
structure Posting.Moves (posting : Posting) (cents : Int) : Prop where
  exact : posting.amount.cents? = some cents
  positive : 0 < cents
  apart : (posting.movement.legs.map (·.1)).Nodup

/-- A row once its account has a new balance: that stands in it and is read from it, its version is one
higher, and everything else in it is as before. -/
structure AccountRow.Moved (old : AccountRow) (number : Decimal) (new : AccountRow) : Prop where
  balance : new.balance = number.text
  reads : Money.readText new.balance = .ok number
  version : new.version = old.version + 1
  rest : new = { old with balance := new.balance, version := new.version }

/-- A balance of cents that is written stands in its row and is read from it. -/
theorem AccountRow.moved_withBalance (old : AccountRow) {number : Decimal} {cents : Int}
    (whole : number.cents? = some cents) : old.Moved number (Database.withBalance old number.text) :=
  ⟨rfl, Money.readText_of_cents whole, rfl, rfl⟩

namespace AccountRow.Moved

variable {old new : AccountRow} {number : Decimal}

theorem eq_withBalance (moved : old.Moved number new) : new = Database.withBalance old number.text := by
  rw [moved.rest, moved.balance, moved.version]
  rfl

theorem status (moved : old.Moved number new) : new.status = old.status := by
  rw [moved.rest]

/-- The new balance is worth the cents of its number. -/
theorem storedCents? (moved : old.Moved number new) : Money.storedCents? new.balance = number.cents? :=
  Money.storedCents?_of_readText moved.reads

end AccountRow.Moved

/-- The tables after a posting was applied exactly once. -/
structure Database.Posted (posting : Posting) (cents : Int) (row : TransactionRow)
    (before after : Database) : Prop where
  /-- Every account involved was active, held what was taken from it, and has the new balance under the next
  version. -/
  legs : ∀ leg ∈ posting.movement.legs, ∃ (old new : AccountRow) (balance : Int) (number : Decimal),
    before.account? leg.1 = some old ∧ old.status = .active ∧
      Money.storedCents? old.balance = some balance ∧ 0 ≤ leg.2.moved balance cents ∧
      number.cents? = some (leg.2.moved balance cents) ∧
      after.account? leg.1 = some new ∧ old.Moved number new
  others : ∀ id ∉ posting.movement.accounts, after.account? id = before.account? id
  ids : after.accounts.map (·.id) = before.accounts.map (·.id)
  /-- No transaction had the reference before. -/
  unused : before.transactionReferenced? posting.reference = none
  recorded : after.transactions = before.transactions ++ [row]
  audit : after.audit = before.audit
  reference : row.reference = posting.reference
  movement : row.movement = posting.movement
  status : row.status = .completed
  amount : row.amount = posting.amount.text
  description : row.description = posting.description

namespace Posting

theorem order_ok {left right : Decimal} {order : Ordering}
    (compared : Posting.order left right = .ok order) : left.compare? right = some order := by
  unfold Posting.order at compared
  split at compared
  · next found =>
    rw [found, Except.ok.inj compared]
  · cases compared

theorem defined_ok {result : Option Decimal} {number : Decimal}
    (there : Posting.defined result = .ok number) : result = some number := by
  unfold Posting.defined at there
  split at there
  · exact congrArg some (Except.ok.inj there)
  · cases there

theorem add_notNumber {d e sum : Decimal} (none : d.isNotNumber = true)
    (finite : e.isNotNumber = false) (added : d.add e = some sum) : sum.isNotNumber = true := by
  cases d with
  | notNumber negative signalling payload =>
    have passed : Decimal.passOn negative signalling payload = some sum := by
      cases e with
      | notNumber => cases finite
      | finite => exact added
      | infinite => exact added
    unfold Decimal.passOn at passed
    split at passed
    · cases passed
    · obtain rfl := Option.some.inj passed
      rfl
  | finite => cases none
  | infinite => cases none

theorem isNotNumber_of_cents {d : Decimal} {cents : Int} (whole : d.cents? = some cents) :
    d.isNotNumber = false := by
  obtain ⟨negative, coefficient, rfl, -, -⟩ := Decimal.cents?_eq_some whole
  rfl

/-- A debit that is worked out is a difference, and finds what it takes. -/
theorem newBalance_debit {account : Account} {amount number : Decimal}
    (worked : newBalance account .debit amount = .ok number) :
    (∃ order, account.balance.compare? amount = some order ∧ order ≠ .lt) ∧
      account.balance.sub amount = some number := by
  unfold newBalance at worked
  cases compared : Posting.order account.balance amount with
  | error failure =>
    rw [compared] at worked
    cases worked
  | ok order =>
    rw [compared] at worked
    by_cases less : order = .lt
    · rw [less] at worked
      cases worked
    · refine ⟨⟨order, order_ok compared, less⟩, defined_ok ?_⟩
      cases order with
      | lt => exact absurd rfl less
      | eq => exact worked
      | gt => exact worked

/-- A balance of cents has its new balance exactly, or one that no column can hold. What is no number
stays none. -/
theorem newBalance_ok {account : Account} {direction : Direction} {amount number : Decimal}
    {cents : Int} (exact : amount.cents? = some cents)
    (read : (∃ balance, account.balance.cents? = some balance) ∨ account.balance.isNotNumber = true)
    (worked : newBalance account direction amount = .ok number) :
    (∃ balance, account.balance.cents? = some balance ∧
      (number.cents? = some (direction.moved balance cents) ∨
        ∀ mode, number.quantize mode Money.centExponent = none)) ∨
      number.isNotNumber = true := by
  cases direction with
  | credit =>
    have added := defined_ok worked
    rcases read with ⟨balance, whole⟩ | none
    · obtain ⟨sum, sum', fits⟩ := Decimal.add_cents whole exact
      obtain rfl := Option.some.inj (sum'.symm.trans added)
      exact Or.inl ⟨balance, whole, fits⟩
    · exact Or.inr (add_notNumber none (isNotNumber_of_cents exact) added)
  | debit =>
    obtain ⟨⟨order, compared, -⟩, taken⟩ := newBalance_debit worked
    rcases read with ⟨balance, whole⟩ | none
    · obtain ⟨difference, difference', fits⟩ := Decimal.sub_cents whole exact
      obtain rfl := Option.some.inj (difference'.symm.trans taken)
      exact Or.inl ⟨balance, whole, fits⟩
    · rw [Decimal.compare?_notNumber none] at compared
      cases compared

theorem newBalances_eq (amount : Decimal) (read : List (Account × Direction)) :
    newBalances amount read = (do
      let changes ← read.mapM fun leg ↦ do return (leg.1, ← newBalance leg.1 leg.2 amount)
      return changes.mergeSort fun left right ↦ left.1.id ≤ right.1.id) :=
  rfl

/-- The new balances are worked out leg by leg and then sorted. -/
theorem newBalances_forall₂ {amount : Decimal} {read : List (Account × Direction)}
    {changes : List (Account × Decimal)} (worked : newBalances amount read = .ok changes) :
    ∃ unsorted, changes.Perm unsorted ∧ List.Forall₂ (fun leg change ↦ leg.1 = change.1 ∧
      newBalance leg.1 leg.2 amount = .ok change.2) read unsorted := by
  rw [newBalances_eq] at worked
  obtain ⟨unsorted, each, worked⟩ := ok_of_bind_except worked
  obtain rfl := Except.ok.inj worked
  refine ⟨unsorted, List.mergeSort_perm unsorted fun left right ↦ decide (left.1.id ≤ right.1.id), ?_⟩
  refine (forall₂_of_mapM_except each).imp fun leg change worked ↦ ?_
  obtain ⟨number, balance, worked⟩ := ok_of_bind_except worked
  obtain rfl := Except.ok.inj worked
  exact ⟨rfl, balance⟩

/-- The new balances are those of the accounts that were read, each worked out for itself. -/
theorem newBalances_ok {amount : Decimal} {read : List (Account × Direction)}
    {changes : List (Account × Decimal)} (worked : newBalances amount read = .ok changes) :
    (changes.map (·.1)).Perm (read.map (·.1)) ∧
      ∀ change ∈ changes, ∃ direction, (change.1, direction) ∈ read ∧
        newBalance change.1 direction amount = .ok change.2 := by
  obtain ⟨unsorted, sorted, single⟩ := newBalances_forall₂ worked
  constructor
  · refine (sorted.map _).trans (List.Perm.of_eq ?_)
    exact (map_eq_of_forall₂ (single.imp fun _ _ both ↦ both.1)).symm
  · intro change member
    obtain ⟨leg, there, same, balance⟩ :=
      exists_of_forall₂_right single (sorted.mem_iff.1 member)
    obtain ⟨account, direction⟩ := leg
    obtain rfl := same
    exact ⟨direction, there, balance⟩

/-- Every account that was read has its new balance among those that were worked out. -/
theorem exists_newBalance {amount : Decimal} {read : List (Account × Direction)}
    {changes : List (Account × Decimal)} (worked : newBalances amount read = .ok changes)
    {account : Account} {direction : Direction} (member : (account, direction) ∈ read) :
    ∃ number, newBalance account direction amount = .ok number ∧ (account, number) ∈ changes := by
  obtain ⟨unsorted, sorted, single⟩ := newBalances_forall₂ worked
  obtain ⟨⟨_, number⟩, there, rfl, balance⟩ := exists_of_forall₂_left single member
  exact ⟨number, balance, sorted.mem_iff.2 there⟩

/-- New balances that are not worked out fail as one of them does. -/
theorem newBalances_error {amount : Decimal} {read : List (Account × Direction)} {failure : Failure}
    (failed : newBalances amount read = .error failure) :
    ∃ leg ∈ read, newBalance leg.1 leg.2 amount = .error failure := by
  rw [newBalances_eq] at failed
  rcases error_of_bind_except failed with each | ⟨unsorted, -, failed⟩
  · obtain ⟨leg, member, ended⟩ := error_of_mapM_except each
    rcases error_of_bind_except ended with balance | ⟨number, -, ended⟩
    · exact ⟨leg, member, balance⟩
    · cases ended
  · cases failed

end Posting

end Passbook
