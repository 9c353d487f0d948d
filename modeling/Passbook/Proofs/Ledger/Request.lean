import Passbook.Proofs.Ledger.Post
import Passbook.Proofs.Ledger.Service

/-!
Requests: what a client may ask of a ledger that changes its tables. Main statement: whatever is asked
for and wherever the store fails, a request leaves the tables as they were, or does to them once what it
is for (`Request.perform_cases`). Inquiries only read, and leave the tables as they were
(`Inquiry.perform_database`).
-/

set_option autoImplicit false
set_option relaxedAutoImplicit false

namespace Passbook

open Procedure

/-- What a client may ask of a ledger that changes its tables. -/
inductive Request where
  | openAccount (owner : Option Int) (kind : AccountKind)
  | changeStatus (id : Int) (status : AccountStatus) (reason : String)
  | post (engine : Engine) (movement : Movement) (amount description : Value)

/-- The ledger after a request, however that ended. -/
def Request.perform (request : Request) (ledger : Ledger) : Ledger :=
  match request with
  | .openAccount owner kind => (Ledger.openAccount owner kind ledger).2
  | .changeStatus id status reason => (Ledger.changeStatus id status reason ledger).2
  | .post engine movement amount description => (Ledger.post engine movement amount description ledger).2

namespace Ledger

variable {Result : Type}

theorem attempting_run (work : Work Result) (ledger : Ledger) :
    attempting work ledger =
      (.ok (work.run ledger.storage).1, { ledger with storage := (work.run ledger.storage).2 }) :=
  rfl

theorem running_run (work : Work Result) (ledger : Ledger) :
    running work ledger =
      ((work.run ledger.storage).1, { ledger with storage := (work.run ledger.storage).2 }) := by
  unfold running
  rw [run_bind, attempting_run]
  rfl

theorem openAccount_storage (owner : Option Int) (kind : AccountKind) (ledger : Ledger) :
    (openAccount owner kind ledger).2.storage =
      ((Work.openAccount owner kind).run ledger.storage).2 := by
  have reports (account : Account) : (do
      report .info ("Account " ++ account.number ++ " opened for user " ++ toString account.owner)
      return account : Action Account).Leaves SameStore :=
    leaves_bind (leaves_report _ _) fun _ ↦ leaves_pure account
  unfold openAccount
  rw [run_bind, running_run]
  cases ((Work.openAccount owner kind).run ledger.storage).1 with
  | error failure => rfl
  | ok account => exact reports account _

theorem changeStatus_storage (id : Int) (status : AccountStatus) (reason : String)
    (ledger : Ledger) :
    (changeStatus id status reason ledger).2.storage =
      ((Work.changeStatus id status reason).run ledger.storage).2 := by
  unfold changeStatus
  rw [run_bind, attempting_run]
  dsimp only
  cases ((Work.changeStatus id status reason).run ledger.storage).1 with
  | error failure =>
    dsimp only
    have throws : (throw failure : Action Account).Leaves SameStore := leaves_throw failure
    split
    · exact leaves_bind (leaves_report _ _) (fun _ ↦ throws) _
    · exact throws _
  | ok both =>
    obtain ⟨before, account⟩ := both
    exact leaves_bind (leaves_report _ _) (fun _ ↦ leaves_pure account) _

end Ledger

/-- What a request may have done to the tables. -/
inductive Request.Done (before after : Storage) : Request → Prop
  | opened (owner : Option Int) (kind : AccountKind) (row : AccountRow) :
      before.database.Opened row after.database → Done before after (.openAccount owner kind)
  | statusChanged (id : Int) (status : AccountStatus) (reason : String) (old : AccountRow) :
      before.database.StatusChanged id status reason old after.database →
      Done before after (.changeStatus id status reason)
  | posted (engine : Engine) (movement : Movement) (amount description : Value)
      (row : TransactionRow) : Ledger.Applied movement amount description row before after →
      Done before after (.post engine movement amount description)

/-- A request leaves the tables as they were, or does to them once what it is for. -/
theorem Request.perform_cases {ledger : Ledger} (alone : ledger.storage.intrusions = [])
    (request : Request) :
    (request.perform ledger).storage.database = ledger.storage.database ∨
      request.Done ledger.storage (request.perform ledger).storage := by
  cases request with
  | openAccount owner kind =>
    rw [Request.perform]
    rw [Ledger.openAccount_storage]
    rcases Work.openAccount_cases owner kind alone rfl with same | ⟨row, opened⟩
    · exact Or.inl same
    · exact Or.inr (.opened owner kind row opened)
  | changeStatus id status reason =>
    rw [Request.perform]
    rw [Ledger.changeStatus_storage]
    rcases Work.changeStatus_cases id status reason alone rfl with same | ⟨old, changed⟩
    · exact Or.inl same
    · exact Or.inr (.statusChanged id status reason old changed)
  | post engine movement amount description =>
    rcases Ledger.post_applied engine movement amount description alone with same | ⟨row, applied⟩
    · exact Or.inl same
    · exact Or.inr (.posted engine movement amount description row applied)

/-! ### Inquiries -/

namespace Work

theorem leaves_held (row : AccountRow) : (held row).Leaves Session.Reads := by
  unfold held
  refine leaves_bind leaves_get fun session ↦ ?_
  split
  · exact leaves_pure _
  · refine leaves_bind (leaves_ofExcept _) fun account ↦ ?_
    exact leaves_bind (leaves_remember account) fun _ ↦ leaves_pure _

theorem leaves_accountNumbered (number : String) :
    (accountNumbered number).Leaves Session.Reads := by
  unfold accountNumbered
  refine leaves_bind leaves_connect fun _ ↦ leaves_bind same_view fun database ↦ ?_
  split
  · exact leaves_pure _
  · exact leaves_bind (leaves_held _) fun _ ↦ leaves_pure _

theorem leaves_accountsOf (owner : Int) : (accountsOf owner).Leaves Session.Reads := by
  unfold accountsOf
  refine leaves_bind leaves_connect fun _ ↦ leaves_bind (same_requireWord owner) fun _ ↦ ?_
  exact leaves_bind same_view fun database ↦ leaves_mapM leaves_held _

theorem leaves_historyRows (account limit : Int) :
    (historyRows account limit).Leaves Session.Reads := by
  unfold historyRows
  refine leaves_bind leaves_connect fun _ ↦ leaves_bind (same_requireWord account) fun _ ↦ ?_
  refine leaves_bind (same_requireWord limit) fun _ ↦ ?_
  exact leaves_bind same_view fun database ↦ leaves_pure _

theorem leaves_history (account limit : Int) : (history account limit).Leaves Session.Reads := by
  unfold history
  refine leaves_bind (leaves_historyRows account limit) fun rows ↦ ?_
  exact leaves_mapM (fun row ↦ leaves_ofExcept _) _

end Work

/-- What a client may ask of a ledger that changes nothing. -/
inductive Inquiry where
  | account (id : Int)
  | accountNumbered (number : String)
  | accountsOf (owner : Int)
  | balance (id : Int)
  | walk (history : History)

/-- The ledger after an inquiry, however that ended. -/
def Inquiry.perform (inquiry : Inquiry) (ledger : Ledger) : Ledger :=
  match inquiry with
  | .account id => (Ledger.account id ledger).2
  | .accountNumbered number => (Ledger.accountNumbered number ledger).2
  | .accountsOf owner => (Ledger.accountsOf owner ledger).2
  | .balance id => (Ledger.balance id ledger).2
  | .walk history => (Ledger.walk history ledger).2

/-- A unit of work that only reads leaves the tables as they were. -/
theorem Ledger.running_database {Result : Type} {work : Work Result}
    (reads : work.Leaves Session.Reads) {ledger : Ledger} (alone : ledger.storage.intrusions = []) :
    (running work ledger).2.storage.database = ledger.storage.database := by
  rw [running_run, Work.run_eq]
  exact ((reads (Session.opened ledger.storage)).1 alone).2.1

/-- An inquiry leaves the tables as they were. -/
theorem Inquiry.perform_database (inquiry : Inquiry) {ledger : Ledger}
    (alone : ledger.storage.intrusions = []) :
    (inquiry.perform ledger).storage.database = ledger.storage.database := by
  cases inquiry with
  | account id => exact Ledger.running_database (Work.leaves_load id) alone
  | accountNumbered number =>
    exact Ledger.running_database (Work.leaves_accountNumbered number) alone
  | accountsOf owner => exact Ledger.running_database (Work.leaves_accountsOf owner) alone
  | balance id =>
    refine Ledger.running_database ?_ alone
    refine leaves_bind Work.leaves_connect fun _ ↦ leaves_bind (Work.same_requireWord id) fun _ ↦ ?_
    refine leaves_bind Work.same_view fun database ↦ ?_
    split
    · exact leaves_pure _
    · exact leaves_bind (leaves_ofExcept _) fun _ ↦ leaves_pure _
  | walk history =>
    unfold perform
    dsimp only
    unfold Ledger.walk
    rw [run_bind]
    cases history.limit.rowCount with
    | error failure => rfl
    | ok limit => exact Ledger.running_database (Work.leaves_history history.account limit) alone

end Passbook
