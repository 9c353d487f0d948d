import Passbook.Proofs.Ledger.Checks
import Passbook.Proofs.Ledger.Progress
import Passbook.Proofs.Ledger.Retries
import Passbook.Proofs.Locks.Holding

/-!
Moving money while nothing disturbs it. The store does not fail, nobody else writes to it, and the locks are
free, so that they are had at once and given back (`hold_free`). Then the first try is the last, and its
outcome is that of the whole: the record that was appended (`post_of_applied`), or the failure that a calm
unit ended with, as it is final for a try (`post_of_refused`).
-/

set_option autoImplicit false
set_option relaxedAutoImplicit false

namespace Passbook

open Procedure Session

namespace Ledger

/-- A ledger that nothing disturbs while an engine moves money between some accounts. -/
structure Undisturbed (ledger : Ledger) (engine : Engine) (movement : Movement) : Prop where
  faults : ledger.storage.faults = []
  intrusions : ledger.storage.intrusions = []
  reachable : ledger.storage.reachable = true
  wellKept : ledger.storage.database.WellKept
  /-- The reference that is drawn next is a new one. -/
  fresh : ledger.storage.database.transactionReferenced? (.drawn ledger.storage.drawn) = none
  words : ∀ id ∈ movement.accounts, fitsWord id = true
  ceilings : engine.ceilings.Complete
  /-- The tries of the engine can be counted. -/
  tries : ∃ retry, engine.retry = .ok retry
  /-- The patience of the engine, or else that of the ledger, is a time for which a clock can wait. -/
  waits : ∃ seconds, (engine.lockTimeout.orElse ledger.lockPatience).seconds = .ok seconds ∧
    Locking.canWait seconds = true
  coherent : ledger.locks.Coherent
  free : ∀ id ∈ movement.accounts, ledger.locks.isLocked id = false

variable {Result : Type} {ledger : Ledger} {engine : Engine} {movement : Movement}
  {amount description : Value} {exact : Decimal} {content : String} {posting : Posting}

instance : LawfulLockKeeper Ledger := ⟨fun _ _ ↦ rfl, fun _ _ ↦ rfl⟩

/-- Locks that are had are given back behind a body that leaves them alone, so the outcome is that of the
body. -/
theorem hold_acquired {timeout : Value} {seconds : Binary64} {accounts : List Int}
    {body : List Int → Action Result} (ledger : Ledger) {locks : LockTable}
    (timed : timeout.seconds = .ok seconds)
    (acquired : Locking.acquire seconds accounts ledger.locks = (.ok (Locking.ordered accounts), locks))
    (coherent : locks.Coherent) (locked : ∀ id ∈ Locking.ordered accounts, locks.isLocked id = true)
    (keeps : ∀ held (locked : Ledger), (body held locked).2.locks = locked.locks) :
    (Locking.hold timeout accounts body ledger).1 =
      (body (Locking.ordered accounts) { ledger with locks }).1 := by
  have had : (Locking.acquireWithin timeout accounts : Action (List Int)) ledger =
      (.ok (Locking.ordered accounts), { ledger with locks }) :=
    Locking.acquireWithin_ok timed acquired
  obtain ⟨after, released, -⟩ :=
    Locking.release_locked coherent (Locking.nodup_ordered accounts) locked
  have given : Locking.release (Locking.ordered accounts)
      (LockKeeper.table (body (Locking.ordered accounts) { ledger with locks }).2) = (.ok ⟨⟩, after) := by
    rw [← released]
    exact congrArg _ (keeps _ _)
  rw [Locking.hold_had had]
  dsimp only
  rw [given]
  rfl

/-- Locks that are not had for some reason are not had by a ledger either, whose store stays as it is. -/
theorem acquireWithin_refused {timeout : Value} {seconds : Binary64} {accounts : List Int}
    (ledger : Ledger) {locks : LockTable} {failure : Failure} (timed : timeout.seconds = .ok seconds)
    (refused : Locking.acquire seconds accounts ledger.locks = (.error failure, locks)) :
    ∃ after, (Locking.acquireWithin timeout accounts : Action (List Int)) ledger = (.error failure, after) ∧
      ledger.SameStore after ∧ after.locks = locks := by
  obtain ⟨after, ended, isLocks⟩ :
      ∃ after, (Locking.acquireWithin timeout accounts : Action (List Int)) ledger = (.error failure, after) ∧
        after.locks = locks :=
    Locking.acquireWithin_error timed refused
  exact ⟨after, ended, (leaves_acquireWithin _ _).of_eq ended, isLocks⟩

/-- Locks that are not had are the whole outcome. -/
theorem hold_refused {timeout : Value} {seconds : Binary64} {accounts : List Int}
    {body : List Int → Action Result} (ledger : Ledger) {locks : LockTable} {failure : Failure}
    (timed : timeout.seconds = .ok seconds)
    (refused : Locking.acquire seconds accounts ledger.locks = (.error failure, locks)) :
    (Locking.hold timeout accounts body ledger).1 = .error failure := by
  obtain ⟨after, ended, -⟩ := acquireWithin_refused ledger timed refused
  rw [Locking.hold_unhad ended]

/-- Locks that are free are had and given back, so the outcome is that of what runs in between. -/
theorem hold_free {timeout : Value} {seconds : Binary64} {accounts : List Int}
    {body : List Int → Action Result} (ledger : Ledger) (timed : timeout.seconds = .ok seconds)
    (waits : Locking.canWait seconds = true) (coherent : ledger.locks.Coherent)
    (free : ∀ id ∈ accounts, ledger.locks.isLocked id = false)
    (keeps : ∀ held (locked : Ledger), (body held locked).2.locks = locked.locks) :
    ∃ locks, (Locking.hold timeout accounts body ledger).1 =
      (body (Locking.ordered accounts) { ledger with locks }).1 := by
  obtain ⟨locks, acquired, coherent', taken⟩ := Locking.acquire_free waits coherent free
  exact ⟨locks, hold_acquired ledger timed acquired coherent'
    (fun id member ↦ (taken.locked id).2 (Or.inl member)) keeps⟩

/-! ### The first try -/

/-- The first try of a posting that cannot be applied fails as the applying does. -/
theorem tryPosting_refused {storage : Storage} {failure : Failure} {after : Session}
    (ended : Work.applyPosting posting (opened storage) = (.error failure, after)) :
    (Retry.tries posting 1 storage).1 = .error failure := by
  rw [Retry.tries, Work.run_eq]
  unfold Work.tryPosting Work.applyAndCommit
  rw [if_neg (by decide), run_bind, ended]

/-- The first try of a posting that is applied by a calm unit gives its record. -/
theorem tryPosting_applied {storage : Storage} {record : Record} {after : Session}
    (applied : Work.applyPosting posting (opened storage) = (.ok record, after))
    (isCalm : after.Calm) :
    (Retry.tries posting 1 storage).1 = .ok (.applied record) := by
  obtain ⟨committed, commits, -⟩ := Work.commit_calm isCalm
  rw [Retry.tries, Work.run_eq]
  unfold Work.tryPosting Work.applyAndCommit
  rw [if_neg (by decide), run_bind_ok applied, run_bind_ok commits]
  rfl

/-- A first try that does not ask for another is the only one. -/
theorem execute_first {retry : Retry} {outcome : Except Failure Work.Posted}
    (tries : engine.retry = .ok retry) (tried : (Retry.tries posting 1 ledger.storage).1 = outcome)
    (final : Retry.isPassing outcome = false) :
    (execute engine posting ledger).1 = Retry.settle posting.movement.kind outcome := by
  subst tried
  obtain ⟨notices, last⟩ := Retry.runFrom_last retry (Subject.ofPosting posting)
    (retry.maxAttempts - 1) fun passing ↦ by
      rw [final] at passing
      cases passing
  rw [execute_run tries, Retry.run, last]
  rfl

theorem execute_locks (engine : Engine) (posting : Posting) (ledger : Ledger) :
    (execute engine posting ledger).2.locks = ledger.locks := by
  cases tries : engine.retry with
  | error failure => rw [execute_uncounted tries]
  | ok retry =>
    rw [execute_run tries]
    rfl

/-! ### The whole -/

/-- The store from which a unit begins that moves the money. -/
def begun (ledger : Ledger) : Session :=
  opened { ledger.storage with drawn := ledger.storage.drawn + 1 }

theorem Undisturbed.calm (undisturbed : ledger.Undisturbed engine movement) : ledger.begun.Calm :=
  ⟨undisturbed.faults, undisturbed.intrusions, undisturbed.reachable⟩

/-- The ledger once a reference has been drawn. -/
def drawing (ledger : Ledger) : Ledger :=
  { ledger with storage := { ledger.storage with drawn := ledger.storage.drawn + 1 } }

/-- A request whose own data are in order comes to its posting, tried while the locks are held. -/
theorem post_eq_hold (wellPut : WellPut engine.ceilings movement amount description exact content)
    (ledger : Ledger) :
    post engine movement amount description ledger =
      Locking.hold (engine.lockTimeout.orElse ledger.lockPatience) movement.accounts
        (fun _ ↦ execute engine (postingOf movement exact content ledger)) ledger.drawing := by
  rw [post_eq_prepare, run_bind_ok (prepare_wellPut wellPut ledger), run_bind_ok (run_get _)]
  rfl

/-- A request whose own data are in order comes to its posting, tried while nothing disturbs it. -/
theorem post_eq_execute (undisturbed : ledger.Undisturbed engine movement)
    (wellPut : WellPut engine.ceilings movement amount description exact content) :
    ∃ locked : Ledger, locked.storage = { ledger.storage with drawn := ledger.storage.drawn + 1 } ∧
      (post engine movement amount description ledger).1 =
        (execute engine (postingOf movement exact content ledger) locked).1 := by
  obtain ⟨seconds, timed, waits⟩ := undisturbed.waits
  obtain ⟨locks, held⟩ := hold_free ledger.drawing timed waits undisturbed.coherent undisturbed.free
    fun _ locked ↦ execute_locks engine (postingOf movement exact content ledger) locked
  refine ⟨{ ledger.drawing with locks }, rfl, ?_⟩
  rw [post_eq_hold wellPut]
  exact held

/-- A posting that can be applied gives a record. -/
theorem post_of_applied (undisturbed : ledger.Undisturbed engine movement)
    (wellPut : WellPut engine.ceilings movement amount description exact content)
    (applied : ∃ record after, Work.applyPosting (postingOf movement exact content ledger)
      ledger.begun = (.ok record, after) ∧ after.Calm) :
    ∃ record, (post engine movement amount description ledger).1 = .ok record := by
  obtain ⟨retry, tries⟩ := undisturbed.tries
  obtain ⟨locked, storage, same⟩ := post_eq_execute undisturbed wellPut
  obtain ⟨record, after, applied, isCalm⟩ := applied
  have tried : (Retry.tries (postingOf movement exact content ledger) 1 locked.storage).1 =
      .ok (.applied record) := by
    rw [storage]
    exact tryPosting_applied applied isCalm
  exact ⟨record, same.trans (execute_first tries tried rfl)⟩

/-- A posting that cannot be applied gives the failure that this is for good. -/
theorem post_of_refused (undisturbed : ledger.Undisturbed engine movement)
    (wellPut : WellPut engine.ceilings movement amount description exact content)
    {failure : Failure}
    (refused : ∃ after, Work.applyPosting (postingOf movement exact content ledger)
      ledger.begun = (.error failure, after))
    (final : failure.isPassing = false) :
    (post engine movement amount description ledger).1 = .error (failure.told movement.kind) := by
  obtain ⟨retry, tries⟩ := undisturbed.tries
  obtain ⟨locked, storage, same⟩ := post_eq_execute undisturbed wellPut
  obtain ⟨after, ended⟩ := refused
  have tried : (Retry.tries (postingOf movement exact content ledger) 1 locked.storage).1 =
      .error failure := by
    rw [storage]
    exact tryPosting_refused ended
  exact same.trans (execute_first tries tried final)

end Ledger

end Passbook
