import Passbook.Proofs.Ledger.Request

/-!
How opening an account and changing a status fail. Where no commit takes effect without being reported, opening
an account fails without a trace or has opened the account. Changing a status fails without a trace as well, or
has changed the status for good; but then the account is read once more, and a failure of that is the failure of
the whole. Main statement: `Ledger.service_outcome`.
-/

set_option autoImplicit false
set_option relaxedAutoImplicit false

namespace Passbook.Ledger

open Procedure

variable {ledger : Ledger}

theorem openAccount_outcome (owner : Option Int) (kind : AccountKind) (ledger : Ledger) :
    (openAccount owner kind ledger).1 = ((Work.openAccount owner kind).run ledger.storage).1 := by
  unfold openAccount
  rw [run_bind, running_run]
  cases ((Work.openAccount owner kind).run ledger.storage).1 <;> rfl

theorem changeStatus_outcome (id : Int) (status : AccountStatus) (reason : String) (ledger : Ledger) :
    (changeStatus id status reason ledger).1 =
      ((Work.changeStatus id status reason).run ledger.storage).1.map (·.2) := by
  unfold changeStatus
  rw [run_bind, attempting_run]
  dsimp only
  cases ((Work.changeStatus id status reason).run ledger.storage).1 with
  | error failure =>
    dsimp only
    split <;> rfl
  | ok both => rfl

/-- Wherever the store fails, as long as it reports every commit that takes effect: an account is opened, active,
empty and with its event in the audit trail, or opening it fails and the tables are as before. A status is not
changed, and that fails and leaves the tables as before; or it is changed as asked for, under the next version
and with its event in the audit trail. Then the account as it is now is the result, unless the store fails when
that is read: then this is the failure of the whole, although the change stands. -/
theorem service_outcome (ledger : Ledger) (alone : ledger.storage.intrusions = [])
    (reported : ledger.storage.unreported = 0) :
    (∀ owner kind,
      let ended := openAccount owner kind ledger
      (∃ failure, ended.1 = .error failure ∧
        ended.2.storage.database = ledger.storage.database) ∨
      ∃ account row, ended.1 = .ok account ∧
        ledger.storage.database.Opened row ended.2.storage.database ∧
        row.kind = kind ∧ owner = some row.owner ∧
        account.id = row.id ∧ account.number = row.number ∧ account.owner = row.owner) ∧
    (∀ id status reason,
      let ended := changeStatus id status reason ledger
      (∃ failure, ended.1 = .error failure ∧
        ended.2.storage.database = ledger.storage.database) ∨
      ∃ old account,
        ledger.storage.database.StatusChanged id status reason old ended.2.storage.database ∧
        AccountRow.read { old with status, version := old.version + 1 } = .ok account ∧
        account.id = id ∧ account.status = status ∧ account.version = old.version + 1 ∧
        ended.1 = (Work.secondLoad ledger.storage).map fun _ ↦ account) := by
  constructor
  · intro owner kind
    dsimp only
    rw [openAccount_outcome, openAccount_storage]
    cases ended : (Work.openAccount owner kind).run ledger.storage with
    | mk outcome after =>
      cases Work.openAccount_opening owner kind alone ended with
      | failed failure kept => exact Or.inl ⟨failure, rfl, kept.1⟩
      | opened account row opened sameKind owned id number owner' =>
        exact Or.inr ⟨account, row, rfl, opened, sameKind, owned, id, number, owner'⟩
      | unreported failure row opened unreported => omega
  · intro id status reason
    dsimp only
    rw [changeStatus_outcome, changeStatus_storage]
    cases ended : (Work.changeStatus id status reason).run ledger.storage with
    | mk outcome after =>
      cases Work.changeStatus_changing id status reason alone ended with
      | failed failure kept => exact Or.inl ⟨failure, rfl, kept.1⟩
      | changed old account changed isRead =>
        have sameId : old.id = id := Database.account?_id changed.found
        obtain ⟨_, _, rfl⟩ := AccountRow.read_ok isRead
        refine Or.inr ⟨old, _, changed, isRead, sameId, rfl, rfl, ?_⟩
        cases Work.secondLoad ledger.storage <;> rfl
      | unreported failure old changed unreported => omega

/-- One active account, in a store that fails the second time that an account is loaded. -/
def failingAgain : Ledger where
  storage := {
    database := { accounts := [⟨1, "ACC0000000001", 1, .checking, .active, "0.00", 1⟩] }
    faults := [{ place := .load, what := .trouble, skip := 1 }] }

/-- The account is frozen, and that is called a failure. -/
theorem service_outcome_failingAgain :
    (changeStatus 1 .frozen "" failingAgain).1 = .error (.trouble .injected) ∧
      ∃ old, failingAgain.storage.database.StatusChanged 1 .frozen "" old
        (changeStatus 1 .frozen "" failingAgain).2.storage.database := by
  obtain ⟨-, changes⟩ := service_outcome failingAgain rfl rfl
  rcases changes 1 .frozen "" with ⟨failure, -, same⟩ | ⟨old, account, changed, -, -, -, -, ended⟩
  · have audited : (changeStatus 1 .frozen "" failingAgain).2.storage.database.audit.length = 1 := by
      decide +kernel
    rw [same] at audited
    cases audited
  · exact ⟨ended, old, changed⟩

end Passbook.Ledger
