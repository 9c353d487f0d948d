import Passbook.Ledger.Service
import Passbook.Proofs.Ledger.Attempt
import Passbook.Proofs.Storage.Mirror
import Passbook.Proofs.Storage.Plans

/-!
Opening accounts and changing their status, with nobody else writing to the store. Whatever fails and
wherever, the tables are as before, or one empty account has been added (`openAccount_cases`), or one
account has got a status that its life allows (`changeStatus_cases`); either comes with its event in the
audit trail.
-/

set_option autoImplicit false
set_option relaxedAutoImplicit false

namespace Passbook

open Procedure Session

/-- The tables after an account was opened. -/
structure Database.Opened (row : AccountRow) (before after : Database) : Prop where
  unused : before.account? row.id = none
  empty : row.balance = (Decimal.finite false 0 Money.centExponent).text
  active : row.status = .active
  version : row.version = 1
  accounts : after.accounts = before.accounts ++ [row]
  transactions : after.transactions = before.transactions
  audit : after.audit = before.audit ++
    [⟨nextId (before.audit.map (·.id)), row.id, .opened row.kind row.number row.owner⟩]

/-- The tables after the status of an account was changed. -/
structure Database.StatusChanged (id : Int) (status : AccountStatus) (reason : String)
    (old : AccountRow) (before after : Database) : Prop where
  found : before.account? id = some old
  allowed : old.status.mayBecome status = true
  /-- The row has the new status and the next version, and the others are as before. -/
  accounts : after.accounts = before.accounts.map fun row ↦
    if row.id = id then { old with status, version := old.version + 1 } else row
  transactions : after.transactions = before.transactions
  audit : after.audit = before.audit ++
    [⟨nextId (before.audit.map (·.id)), id, .statusChanged old.status status reason⟩]

namespace Database

variable {before after : Database}

/-- An empty account that was added together with its event was opened. -/
theorem opened_addAudit {row : AccountRow} {kind : AccountKind} (unused : before.account? row.id = none)
    (empty : row.balance = (Decimal.finite false 0 Money.centExponent).text) (active : row.status = .active)
    (version : row.version = 1) (sameKind : row.kind = kind) :
    before.Opened row ((before.addAccount row).addAudit row.id (.opened kind row.number row.owner)) := by
  obtain rfl := sameKind
  exact ⟨unused, empty, active, version, rfl, rfl, rfl⟩

/-- The account that was opened is there, and the others are as before. -/
theorem Opened.account? {row : AccountRow} (opened : before.Opened row after) (id : Int) :
    after.account? id = (before.account? id).or (if row.id = id then some row else none) := by
  have same : after.accounts = (before.addAccount row).accounts := opened.accounts
  rw [account?_congr same]
  exact account?_addAccount before row id

namespace StatusChanged

variable {id : Int} {status : AccountStatus} {reason : String} {old : AccountRow}

/-- The row with the new status stands in place of the one that had the old status. -/
theorem accounts_eq_replace (changed : before.StatusChanged id status reason old after) :
    after.accounts = (before.replace (withStatus old status)).accounts := by
  have sameId : (withStatus old status).id = id := (account?_id changed.found : old.id = id)
  rw [changed.accounts, ← sameId]
  rfl

theorem ids (changed : before.StatusChanged id status reason old after) :
    after.accounts.map (·.id) = before.accounts.map (·.id) := by
  rw [changed.accounts_eq_replace, ids_replace]

/-- The account has its new status, and the others are as before. -/
theorem account? (changed : before.StatusChanged id status reason old after) (other : Int) :
    after.account? other =
      if other = id then some (withStatus old status) else before.account? other := by
  have sameId : (withStatus old status).id = id := (account?_id changed.found : old.id = id)
  have found : before.account? (withStatus old status).id = some old := sameId.symm ▸ changed.found
  have replaced := account?_replace found other
  rw [sameId] at replaced
  rw [account?_congr changed.accounts_eq_replace]
  exact replaced

theorem account?_self (changed : before.StatusChanged id status reason old after) :
    after.account? id = some (withStatus old status) := by
  rw [changed.account?, if_pos rfl]

end StatusChanged

end Database

namespace Work

theorem leaves_writeStatusChange (account : Account) (status : AccountStatus) (reason : String) :
    (writeStatusChange account status reason).Leaves Drafts :=
  leftByWriting_drafts.writeStatusChange (by decide) account status reason

/-- A status that was changed stands in the row that was read, and the life of the account allows it. -/
theorem writeStatusChange_ok {account : Account} {status : AccountStatus} {reason : String}
    {session after : Session} {result : Unit} (showed : session.view.Showed account)
    (wrote : writeStatusChange account status reason session = (.ok result, after)) :
    fitsWord account.id = true ∧ after.storage.clock = session.storage.clock ∧
      ∃ old, session.view.StatusChanged account.id status reason old after.view ∧
        old.read = .ok account := by
  unfold writeStatusChange at wrote
  dsimp only at wrote
  cases allowed : account.status.mayBecome status with
  | false =>
    rw [allowed] at wrote
    obtain ⟨_, _, thrown, _⟩ := ok_of_bind wrote
    cases (Prod.mk.inj thrown).1
  | true =>
    rw [allowed] at wrote
    obtain ⟨written, middle, writing, wrote⟩ := ok_of_bind wrote
    cases written with
    | false =>
      obtain ⟨_, _, thrown, _⟩ := ok_of_bind wrote
      cases (Prod.mk.inj thrown).1
    | true =>
      obtain ⟨fits, clock, row, found, view⟩ := writeStatus_true writing
      obtain ⟨found, version⟩ := Database.accountAt?_eq_some found
      have isRead := read_of_showed showed found version
      have status' : row.status = account.status := by
        obtain ⟨_, _, rfl⟩ := AccountRow.read_ok isRead
        rfl
      have recorded : recordEvent account.id (.statusChanged account.status status reason) middle =
          (.ok result, after) := wrote
      rw [recordEvent_run] at recorded
      obtain ⟨-, rfl⟩ := Prod.mk.inj recorded
      have sameId : row.id = account.id := Database.account?_id found
      refine ⟨fits, clock, row, ?_, isRead⟩
      change session.view.StatusChanged account.id status reason row
        (middle.view.addAudit account.id (.statusChanged account.status status reason))
      rw [view, ← status']
      refine ⟨found, status'.symm ▸ allowed, ?_, rfl, rfl⟩
      rw [← sameId]
      rfl

/-! ### Opening an account -/

/-- What opening an account comes to. -/
inductive Opening (owner : Option Int) (kind : AccountKind) (before after : Storage) :
    Except Failure Account → Prop
  | failed (failure : Failure) : before.Keeps after → Opening owner kind before after (.error failure)
  | opened (account : Account) (row : AccountRow) :
      before.database.Opened row after.database → row.kind = kind → owner = some row.owner →
      account.id = row.id → account.number = row.number → account.owner = row.owner →
      Opening owner kind before after (.ok account)
  | unreported (failure : Failure) (row : AccountRow) :
      before.database.Opened row after.database → after.unreported + 1 = before.unreported →
      Opening owner kind before after (.error failure)

/-- Opening an account with nobody else writing. -/
theorem openAccount_opening (owner : Option Int) (kind : AccountKind) {storage after : Storage}
    {outcome : Except Failure Account} (alone : storage.intrusions = [])
    (ran : (openAccount owner kind).run storage = (outcome, after)) :
    Opening owner kind storage after outcome := by
  have isAlone : (opened storage).IsAlone := alone
  rw [run_eq] at ran
  obtain ⟨rfl, rfl⟩ := Prod.mk.inj ran
  generalize ended : openAccount owner kind (opened storage) = result
  obtain ⟨outcome, session⟩ := result
  unfold openAccount at ended
  rcases cases_of_bind ended with ⟨failure, failed, rfl⟩ | ⟨account, middle, added, ended⟩
  · exact .failed failure ((leaves_addAccount _).of_eq failed isAlone).2
  obtain ⟨alone', kept⟩ := (leaves_addAccount _).of_eq added isAlone
  obtain ⟨-, row, unused, view, empty, version, sameKind, active, owned, id, number, owner'⟩ :=
    addAccount_ok rfl added
  rw [id, number, owner', run_bind_ok (recordEvent_run _ _ _)] at ended
  have opens : (opened storage).view.Opened row
      (middle.view.addAudit row.id (.opened kind row.number row.owner)) := by
    rw [view]
    exact Database.opened_addAudit unused empty active version sameKind
  generalize written : ({ middle with pending := some (middle.view.addAudit row.id
      (.opened kind row.number row.owner)) } : Session) = drafted at ended
  have sameStorage : drafted.storage = middle.storage := written ▸ rfl
  rw [show middle.view.addAudit row.id (.opened kind row.number row.owner) = drafted.view
    from written ▸ rfl] at opens
  have alone'' : drafted.IsAlone := by
    rw [IsAlone, sameStorage]
    exact alone'
  rw [← sameStorage] at kept
  rcases cases_of_bind ended with ⟨failure, committed, rfl⟩ | ⟨_, final, committed, returned⟩
  · rcases commit_failed alone'' committed with kept' | ⟨database, unreported⟩
    · exact .failed failure (Storage.Keeps.trans kept kept')
    · exact .unreported failure row (database ▸ opens) (unreported.trans kept.2)
  · obtain ⟨rfl, rfl⟩ := Prod.mk.inj returned
    exact .opened account row (commit_ok committed ▸ opens) sameKind owned id number owner'

/-- Opening an account: nothing has changed, or one empty account has been added. -/
theorem openAccount_cases (owner : Option Int) (kind : AccountKind) {storage after : Storage}
    {outcome : Except Failure Account} (alone : storage.intrusions = [])
    (ran : (openAccount owner kind).run storage = (outcome, after)) :
    after.database = storage.database ∨ ∃ row, storage.database.Opened row after.database := by
  cases openAccount_opening owner kind alone ran with
  | failed failure kept => exact Or.inl kept.1
  | opened account row opened => exact Or.inr ⟨row, opened⟩
  | unreported failure row opened => exact Or.inr ⟨row, opened⟩

/-! ### Changing a status -/

/-- How the second of two loads gets past the point at which it may fail. -/
def secondLoad (storage : Storage) : Except Failure Bool :=
  Planned.struck (Planned.next .load (Planned.next .load storage.faults).2).1

/-- What changing the status of an account comes to. Once the change is permanent the account is read again,
and if that fails, so does the whole. -/
inductive Changing (id : Int) (status : AccountStatus) (reason : String) (before after : Storage) :
    Except Failure (AccountStatus × Account) → Prop
  | failed (failure : Failure) :
      before.Keeps after → Changing id status reason before after (.error failure)
  | changed (old : AccountRow) (account : Account) :
      before.database.StatusChanged id status reason old after.database →
      AccountRow.read { old with status, version := old.version + 1 } = .ok account →
      Changing id status reason before after ((secondLoad before).map fun _ ↦ (old.status, account))
  | unreported (failure : Failure) (old : AccountRow) :
      before.database.StatusChanged id status reason old after.database →
      after.unreported + 1 = before.unreported →
      Changing id status reason before after (.error failure)

/-- An account that is there is loaded, if only the point is passed. -/
theorem load_shown {id : Int} {row : AccountRow} {account : Account} {session : Session}
    (alone : session.IsAlone) (reachable : session.storage.reachable = true)
    (fits : fitsWord id = true) (found : session.view.account? id = some row)
    (isRead : row.read = .ok account) :
    (load id session).1 =
      (Planned.struck (Planned.next .load session.storage.faults).1).map fun _ ↦ some account := by
  unfold load
  rw [run_bind, pass_run]
  cases Planned.struck (Planned.next .load session.storage.faults).1 with
  | error failure => rfl
  | ok refused =>
    generalize passed : withFaults session (Planned.next .load session.storage.faults).2 = after
    have view : ({ after with connected := true } : Session).view = session.view := passed ▸ rfl
    have reachable' : after.storage.reachable = true := passed ▸ reachable
    dsimp only
    rw [run_bind_ok (connect_reachable reachable'), run_bind_ok (requireWord_of_fits fits _),
      run_bind_ok (view_of_eq view), found]
    dsimp only
    rw [isRead, run_bind_ok (run_ofExcept _ _), remember, run_bind_ok (run_modify _ _),
      run_bind_ok (admitIntruder_alone id (passed ▸ alone))]
    rfl

/-- A unit that has loaded anything at first can reach the store. -/
theorem reachable_of_load {id : Int} {storage : Storage} {loaded : Option Account} {after : Session}
    (ran : load id (opened storage) = (.ok loaded, after)) : storage.reachable = true := by
  unfold load at ran
  obtain ⟨_, middle, passed, ran⟩ := ok_of_bind ran
  obtain ⟨_, _, connected, -⟩ := ok_of_bind ran
  rw [pass_run] at passed
  obtain ⟨-, rfl⟩ := Prod.mk.inj passed
  have reachable := reachable_of_connect (by rfl) connected
  exact reachable

/-- An account that is there is what it comes to when it is read again, whatever it was before. -/
theorem load_getD {Other : Type} {id : Int} {session : Session} {passed : Except Failure Bool}
    {shown : Account} (loaded : (load id session).1 = passed.map fun _ ↦ some shown) (other : Other)
    (old : Account) :
    (do return (other, (← load id).getD old) : Work (Other × Account)) session =
      (passed.map fun _ ↦ (other, shown), (load id session).2) := by
  rw [run_bind]
  cases ran : load id session with
  | mk outcome after =>
    rw [ran] at loaded
    obtain rfl := loaded
    cases passed <;> rfl

/-- Once a change is permanent only the second load is still to come: it fails, or it shows the account as it
has become. -/
theorem changing_of_permanent {id : Int} {status : AccountStatus} {reason : String} {before : Storage}
    {session : Session} {old : AccountRow} {account : Account} (alone : session.IsAlone)
    (reachable : session.storage.reachable = true) (fits : fitsWord id = true)
    (permanent : session.view = session.storage.database)
    (changed : before.database.StatusChanged id status reason old session.storage.database)
    (second : (Planned.next .load session.storage.faults).1 =
      (Planned.next .load (Planned.next .load before.faults).2).1)
    (isRead : old.read = .ok account) :
    let ended := (do return (account.status, (← load id).getD account) : Work _) session
    Changing id status reason before ended.2.storage ended.1 := by
  obtain ⟨balance, text, rfl⟩ := AccountRow.read_ok isRead
  obtain ⟨account', shown⟩ : ∃ account',
      AccountRow.read { old with status, version := old.version + 1 } = .ok account' :=
    ⟨_, AccountRow.read_of_readText (by exact text)⟩
  have reloaded := load_shown alone reachable fits (permanent ▸ changed.account?_self) shown
  rw [second] at reloaded
  rw [load_getD reloaded]
  have kept : (load id session).2.storage.database = session.storage.database :=
    ((leaves_load id session).1 alone).2.1
  exact .changed old account' (kept ▸ changed) shown

/-- Changing a status with nobody else writing. -/
theorem changeStatus_changing (id : Int) (status : AccountStatus) (reason : String)
    {storage after : Storage} {outcome : Except Failure (AccountStatus × Account)}
    (alone : storage.intrusions = [])
    (ran : (changeStatus id status reason).run storage = (outcome, after)) :
    Changing id status reason storage after outcome := by
  have isAlone : (opened storage).IsAlone := alone
  rw [run_eq] at ran
  obtain ⟨rfl, rfl⟩ := Prod.mk.inj ran
  generalize ended : changeStatus id status reason (opened storage) = result
  obtain ⟨outcome, session⟩ := result
  unfold changeStatus at ended
  rcases cases_of_bind ended with ⟨failure, failed, rfl⟩ | ⟨loaded, first, loading, ended⟩
  · exact .failed failure (((leaves_load id).of_eq failed).1 isAlone).2
  obtain ⟨drafts, reads⟩ := (leaves_load id).of_eq loading
  obtain ⟨alone₁, kept₁⟩ := drafts isAlone
  cases loaded with
  | none =>
    obtain ⟨rfl, rfl⟩ := Prod.mk.inj ended
    exact .failed _ kept₁
  | some account =>
    obtain ⟨row, found, isRead⟩ := load_ok loading
    have showed : first.view.Showed account :=
      Database.showed_of_read ((reads isAlone).1 ▸ found) isRead
    have sameId : account.id = id :=
      (AccountRow.id_of_read isRead).trans (Database.account?_id found)
    have view : first.view = storage.database := (reads isAlone).1
    rcases cases_of_bind ended with ⟨failure, failed, rfl⟩ | ⟨_, second, wrote, ended⟩
    · exact .failed failure
        (Storage.Keeps.trans kept₁ ((leaves_writeStatusChange _ _ _).of_eq failed alone₁).2)
    obtain ⟨alone₂, kept₂⟩ := (leaves_writeStatusChange _ _ _).of_eq wrote alone₁
    obtain ⟨fits, -, old, changed, isRead'⟩ := writeStatusChange_ok showed wrote
    rw [sameId, view] at changed
    rw [sameId] at fits
    rcases cases_of_bind ended with ⟨failure, committed, rfl⟩ | ⟨_, third, committed, ended⟩
    · rcases commit_failed alone₂ committed with kept₃ | ⟨database, unreported⟩
      · exact .failed failure (Storage.Keeps.trans (Storage.Keeps.trans kept₁ kept₂) kept₃)
      · exact .unreported failure old (database ▸ changed)
          (unreported.trans (kept₂.2.trans kept₁.2))
    have passed : (opened storage).Passed .load third :=
      (((passed_load id).of_eq loading).steady
        (((leftByWriting_steady .load).writeStatusChange (by decide) _ _ _).of_eq wrote)).steady
        ((steady_commit (by decide) (by decide)).of_eq committed)
    have permanent : third.view = third.storage.database := by
      rw [Session.view, pending_of_commit committed]
      rfl
    rw [← commit_ok committed] at changed
    have comes := changing_of_permanent ((commit_effect committed).1.trans alone₂)
      (passed.reachable.trans (reachable_of_load loading)) fits permanent changed passed.next isRead'
    rw [ended] at comes
    exact comes

/-- Changing a status: nothing has changed, or the status of the account has, as its life allows. -/
theorem changeStatus_cases (id : Int) (status : AccountStatus) (reason : String)
    {storage after : Storage} {outcome : Except Failure (AccountStatus × Account)}
    (alone : storage.intrusions = [])
    (ran : (changeStatus id status reason).run storage = (outcome, after)) :
    after.database = storage.database ∨
      ∃ old, storage.database.StatusChanged id status reason old after.database := by
  cases changeStatus_changing id status reason alone ran with
  | failed failure kept => exact Or.inl kept.1
  | changed old account changed => exact Or.inr ⟨old, changed⟩
  | unreported failure old changed => exact Or.inr ⟨old, changed⟩

end Work

end Passbook
