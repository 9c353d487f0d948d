import Passbook.Proofs.Ledger.Undisturbed

/-!
Locks while money moves. An operation that moves money is refused, or does not have its locks, or tries its posting
between having all locks and giving them back (`Ledger.Guarded`); however it ends, the locks are as it has found
them. What the ledger has written down of the locks covers every try and every pause (`Ledger.execute_watched`), and
all accounts involved are locked in all of it (`Ledger.Secured.seen`). Main statement: `Ledger.locks_restored`.
-/

set_option autoImplicit false
set_option relaxedAutoImplicit false

namespace Passbook

open Procedure

namespace Ledger

variable {engine : Engine} {retry : Retry} {posting : Posting} {ledger : Ledger}

/-! ### Nothing tried -/

/-- Nothing was tried, and nothing was waited for but locks. -/
structure Untried (before after : Ledger) : Prop where
  pauses : after.journal.pauses = before.journal.pauses
  lockings : after.journal.lockings = before.journal.lockings

instance : IsPreorder Ledger Untried where
  refl _ := ⟨rfl, rfl⟩
  trans _ _ _ begins goesOn :=
    ⟨goesOn.pauses.trans begins.pauses, goesOn.lockings.trans begins.lockings⟩

theorem untried_reported (before : Ledger) (notices : List Notice) :
    before.Untried { before with journal := before.journal ++ { notices } } :=
  ⟨List.append_nil _, List.append_nil _⟩

theorem untried_acquireWithin (timeout : Value) (accounts : List Int) :
    (Locking.acquireWithin timeout accounts : Action (List Int)).Leaves Untried := by
  unfold Locking.acquireWithin
  refine leaves_bind (leaves_ofExcept _) fun seconds ↦ ?_
  refine leaves_tryCatch (fun _ ↦ ⟨rfl, rfl⟩) fun failure ↦ ?_
  exact leaves_bind (fun ledger ↦ untried_reported ledger _) fun _ ↦ leaves_throw _

/-- The locks are as before, and so is the patience for them, and nothing was tried. -/
structure SameLocks (before after : Ledger) : Prop where
  locks : after.locks = before.locks
  patience : after.lockPatience = before.lockPatience
  untried : before.Untried after

instance : IsPreorder Ledger SameLocks where
  refl _ := ⟨rfl, rfl, ⟨rfl, rfl⟩⟩
  trans _ _ _ begins goesOn :=
    ⟨goesOn.locks.trans begins.locks, goesOn.patience.trans begins.patience,
      trans_of Untried begins.untried goesOn.untried⟩

theorem SameLocks.coherent {before after : Ledger} (same : before.SameLocks after)
    (coherent : before.locks.Coherent) : (LockKeeper.table after).Coherent := by
  change after.locks.Coherent
  rw [same.locks]
  exact coherent

theorem sameLocks_report (severity : Severity) (text : String) : (report severity text).Leaves SameLocks :=
  fun ledger ↦ ⟨rfl, rfl, untried_reported ledger _⟩

theorem sameLocks_running {Result : Type} (work : Work Result) : (running work).Leaves SameLocks :=
  leaves_bind (fun _ ↦ ⟨rfl, rfl, ⟨rfl, rfl⟩⟩) fun _ ↦ leaves_ofExcept _

theorem sameLocks_prepare (engine : Engine) (movement : Movement) (amount description : Value) :
    (prepare engine movement amount description).Leaves SameLocks := by
  unfold prepare
  refine leaves_bind (leaves_checkAmount sameLocks_report engine _ _) fun exact ↦ ?_
  refine leaves_bind (leaves_checkText sameLocks_report _ _) fun content ↦ ?_
  refine leaves_bind (leaves_checkAccounts sameLocks_report movement) fun _ ↦ ?_
  refine leaves_bind (fun _ ↦ ⟨rfl, rfl, ⟨rfl, rfl⟩⟩) fun reference ↦ ?_
  exact leaves_bind (leaves_ofExcept _) fun _ ↦ leaves_pure _

/-! ### Tries under locks -/

/-- Nothing is written down about locks where nothing but tries is known. -/
theorem lockings_runFrom {State : Type} (retry : Retry) (subject : Subject)
    (attempt : Nat → StateM State (Except Failure Work.Posted)) (more number : Nat) (state : State) :
    (retry.runFrom subject attempt more number state).1.2.lockings = [] := by
  induction more using Nat.strongRecOn generalizing number state with
  | ind more ih =>
    rcases Retry.runFrom_cases retry subject attempt more number state with
      ⟨outcome, notices, only, -⟩ | ⟨failure, fewer, notice, pause, -, rfl, next⟩
    · rw [only]
    · rw [next]
      exact ih fewer (Nat.lt_succ_self fewer) (number + 1) _

/-- The tries of a posting write the locks down twice for every try and once for every pause between two of them, and
these are always the locks that they began with. -/
theorem execute_watched (tries : engine.retry = .ok retry) (posting : Posting) (ledger : Ledger) :
    ∃ pauses, (execute engine posting ledger).2.journal.pauses = ledger.journal.pauses ++ pauses ∧
      (execute engine posting ledger).2.journal.lockings = ledger.journal.lockings ++
        List.replicate (2 * (pauses.length + 1) + pauses.length) ledger.locks := by
  rw [execute_run tries]
  have nothing := lockings_runFrom retry (Subject.ofPosting posting) (Retry.tries posting)
    (retry.maxAttempts - 1) 1 ledger.storage
  rw [Retry.run]
  generalize retry.runFrom (Subject.ofPosting posting) (Retry.tries posting) (retry.maxAttempts - 1) 1
    ledger.storage = ended at nothing ⊢
  refine ⟨ended.1.2.pauses, congrArg (· ++ _) (pauses_watched ledger _ _), ?_⟩
  change ledger.journal.lockings ++ List.replicate (2 + 3 * ended.1.2.pauses.length) ledger.locks ++
    ended.1.2.lockings = _
  rw [nothing, List.append_nil]
  congr 2
  omega

/-- What is asked for has come to a posting, and all locks of its accounts have been had for that: they were free, each
has one more user, and nothing else is different about the locks. -/
structure Secured (engine : Engine) (movement : Movement) (amount description : Value) (before : Ledger)
    (posting : Posting) (locked : Ledger) : Prop where
  asked : Asked movement amount description posting
  store : ∃ serial, locked.storage = { before.storage with drawn := serial }
  acquired : ∃ prepared, prepare engine movement amount description before = (.ok posting, prepared) ∧
    Locking.acquireWithin (engine.lockTimeout.orElse prepared.lockPatience) movement.accounts prepared =
      (.ok (Locking.ordered movement.accounts), locked)
  taken : before.locks.Taken (Locking.ordered movement.accounts) locked.locks
  untried : before.Untried locked

/-- What has been written down of tries on some accounts, with such pauses between them: the locks at both ends of
every try and in every pause. They were always those that the tries began with; all the accounts were locked, by one
more user each than before the operation, and nothing else was different about the locks. -/
structure Seen (accounts : List Int) (before locked after : Ledger) (pauses : List Binary64)
    (lockings : List LockTable) : Prop where
  waited : after.journal.pauses = before.journal.pauses ++ pauses
  written : after.journal.lockings = before.journal.lockings ++ lockings
  covers : lockings.length = 2 * (pauses.length + 1) + pauses.length
  same : ∀ locks ∈ lockings, locks = locked.locks
  locked : ∀ locks ∈ lockings, ∀ account ∈ accounts, locks.isLocked account = true
  taken : ∀ locks ∈ lockings, before.locks.Taken (Locking.ordered accounts) locks

/-- What moving money comes to, with an eye to the locks. -/
inductive Guarded (engine : Engine) (movement : Movement) (amount description : Value) (before : Ledger) :
    Except Failure Record × Ledger → Prop
  /-- It is refused before any lock is touched, and the tables are left alone. -/
  | refused (failure : Failure) (serial : Nat) (after : Ledger) :
      prepare engine movement amount description before = (.error failure, after) →
      after.locks = before.locks → after.storage = { before.storage with drawn := serial } →
      before.Untried after → Guarded engine movement amount description before (.error failure, after)
  /-- The locks are not had, nothing is tried, and the tables are left alone. -/
  | unhad (failure : Failure) (serial : Nat) (posting : Posting) (prepared after : Ledger) :
      prepare engine movement amount description before = (.ok posting, prepared) →
      Locking.acquireWithin (engine.lockTimeout.orElse prepared.lockPatience) movement.accounts prepared =
        (.error failure, after) →
      after.storage = { before.storage with drawn := serial } → before.Untried after →
      Guarded engine movement amount description before (.error failure, after)
  /-- The locks are had, but the tries cannot be counted, and the locks are given back. -/
  | uncounted (failure : Failure) (posting : Posting) (locked : Ledger) (locks : LockTable) :
      engine.retry = .error failure → Secured engine movement amount description before posting locked →
      Locking.release (Locking.ordered movement.accounts) locked.locks = (.ok ⟨⟩, locks) →
      Guarded engine movement amount description before (.error failure, { locked with locks })
  /-- The posting is tried once the locks are had, and they are given back when the tries have ended; in all else the
  end is that of the tries. -/
  | tried (retry : Retry) (posting : Posting) (locked ended : Ledger) (outcome : Except Failure Record)
      (pauses : List Binary64) (lockings : List LockTable) (locks : LockTable) :
      engine.retry = .ok retry → Secured engine movement amount description before posting locked →
      execute engine posting locked = (outcome, ended) →
      Seen movement.accounts before locked ended pauses lockings →
      Locking.release (Locking.ordered movement.accounts) ended.locks = (.ok ⟨⟩, locks) →
      Guarded engine movement amount description before (outcome, { ended with locks })

/-- The tries that are made once all locks are had are made under them. -/
theorem Secured.seen {movement : Movement} {amount description : Value} {locked : Ledger}
    (secured : Secured engine movement amount description ledger posting locked)
    (tries : engine.retry = .ok retry) :
    ∃ pauses lockings,
      Seen movement.accounts ledger locked (execute engine posting locked).2 pauses lockings := by
  obtain ⟨pauses, waited, written⟩ := execute_watched tries posting locked
  rw [secured.untried.pauses] at waited
  rw [secured.untried.lockings] at written
  refine ⟨pauses, _, waited, written, List.length_replicate, fun _ ↦ List.eq_of_mem_replicate,
    fun locks member account involved ↦ ?_, fun locks member ↦ ?_⟩
  · obtain rfl := List.eq_of_mem_replicate member
    exact (secured.taken.locked account).2 (Or.inl (Locking.mem_ordered.2 involved))
  · obtain rfl := List.eq_of_mem_replicate member
    exact secured.taken

/-- However moving money ends, the locks are kept, and the accounts involved are locked in every try. -/
theorem post_guarded {movement : Movement} {amount description : Value}
    (waitable : (engine.lockTimeout.orElse ledger.lockPatience).IsWaitable)
    (coherent : ledger.locks.Coherent) {outcome : Except Failure Record} {after : Ledger}
    (ran : post engine movement amount description ledger = (outcome, after)) :
    (after.locks.Coherent ∧ ledger.locks.Restored after.locks) ∧
      Guarded engine movement amount description ledger (outcome, after) := by
  rw [post_eq_prepare] at ran
  rcases cases_of_bind ran with ⟨failure, refused, rfl⟩ | ⟨posting, prepared, preparing, ran⟩
  · obtain ⟨⟨serial, storage⟩, -⟩ := prepare_cases refused
    have same := (sameLocks_prepare engine movement amount description).of_eq refused
    rw [same.locks]
    exact ⟨⟨coherent, .refl _⟩, .refused failure serial after refused same.locks storage same.untried⟩
  have same := (sameLocks_prepare engine movement amount description).of_eq preparing
  obtain ⟨⟨serial, storage⟩, ⟨_, failed⟩ | ⟨_, cents, isPosting, asked, -⟩⟩ := prepare_cases preparing
  · cases failed
  obtain rfl := Except.ok.inj isPosting
  rw [run_bind_ok (run_get _)] at ran
  rw [← same.patience] at waitable
  have begins : (LockKeeper.table prepared).Coherent := same.coherent coherent
  rw [← same.locks]
  obtain ⟨locked, coherent', ⟨acquired, taken⟩ | ⟨restored, failure, unhad⟩⟩ :=
    Locking.acquireWithin_cases waitable begins movement.accounts
  · have store : locked.storage = prepared.storage := (leaves_acquireWithin _ _).of_eq acquired
    have secured : Secured engine movement amount description ledger posting locked :=
      ⟨asked, ⟨serial, store.trans storage⟩, ⟨prepared, preparing, acquired⟩, same.locks ▸ taken,
        trans_of Untried same.untried ((untried_acquireWithin _ _).of_eq acquired)⟩
    have kept : LockKeeper.table (execute engine posting locked).2 = LockKeeper.table locked :=
      execute_locks engine posting locked
    obtain ⟨locks, coherent'', restored, released⟩ :=
      Locking.release_taken begins (kept.symm ▸ taken) (kept.symm ▸ coherent')
    rw [Locking.hold_had acquired] at ran
    dsimp only at ran
    rw [released] at ran
    obtain ⟨rfl, rfl⟩ := Prod.mk.inj ran
    refine ⟨⟨coherent'', restored⟩, ?_⟩
    cases tries : engine.retry with
    | error failure =>
      rw [execute_uncounted tries] at released ⊢
      exact .uncounted failure posting locked locks tries secured released
    | ok retry =>
      obtain ⟨pauses, lockings, seen⟩ := secured.seen tries
      exact .tried retry posting locked _ _ pauses lockings locks tries secured rfl seen released
  · have store : locked.storage = prepared.storage := (leaves_acquireWithin _ _).of_eq unhad
    rw [Locking.hold_unhad unhad] at ran
    obtain ⟨rfl, rfl⟩ := Prod.mk.inj ran
    exact ⟨⟨coherent', restored⟩,
      .unhad failure serial posting prepared locked preparing unhad (store.trans storage)
        (trans_of Untried same.untried ((untried_acquireWithin _ _).of_eq unhad))⟩

/-- No operation drops a lock or leaves one behind, whatever others hold in a coherent table, as every table is
that clients bring about. Whatever is asked for and however that ends, the same accounts are locked behind it as
before, and each lock has as many users; either nothing has been tried, or the tries began when all locks were had
and ended before these were given back, and whenever the locks were written down, at both ends of every try and in
every pause, all accounts involved were locked. To ask for a balance or a history touches no lock. It is the same
with whatever is done while locks are held: they are had all at once or not at all, and given back behind everything
that leaves the locks as it finds them, with its own end; and that is the case for locks that are held inside of
each other and behind each other in any way, whether they are had or waited for in vain. -/
theorem locks_restored (engine : Engine) (movement : Movement) (amount description : Value) (ledger : Ledger)
    (waitable : (engine.lockTimeout.orElse ledger.lockPatience).IsWaitable)
    (coherent : ledger.locks.Coherent) :
    let ended := post engine movement amount description ledger
    (ended.2.locks.Coherent ∧ ledger.locks.Restored ended.2.locks) ∧
      Guarded engine movement amount description ledger ended ∧
    (∀ id, (balance id ledger).2.locks = ledger.locks) ∧
    (∀ account limit, (history account limit ledger).2.locks = ledger.locks) ∧
    (∀ history, (walk history ledger).2.locks = ledger.locks ∧
      ∀ most, (walkStart history most ledger).2.locks = ledger.locks) ∧
    (∀ (State Result : Type) [LockKeeper State] [LawfulLockKeeper State] (timeout : Value)
      (accounts : List Int) (body : List Int → Procedure Failure State Result) (state : State),
      timeout.IsWaitable → (LockKeeper.table state).Coherent →
      Locking.Holds timeout accounts body state (Locking.hold timeout accounts body state)) ∧
    ∀ (State : Type) [LockKeeper State] [LawfulLockKeeper State] (nesting : Nesting State),
      nesting.IsSound → nesting.run.Leaves LockKeeper.Keeps := by
  obtain ⟨restored, guarded⟩ := post_guarded waitable coherent (Prod.eta _).symm
  refine ⟨restored, guarded, fun id ↦ ?balance, fun account limit ↦ ?history, fun history ↦ ⟨?walk,
    fun most ↦ ?walkStart⟩, fun _ _ _ _ _ accounts body _ waits coherent' ↦
      Locking.hold_holds waits coherent' accounts body, fun _ _ _ _ sound ↦ Nesting.leaves_run sound⟩
  case balance => exact (sameLocks_running _ ledger).locks
  case history =>
    have same : (Ledger.history account limit).Leaves SameLocks :=
      leaves_bind leaves_get fun _ ↦ leaves_bind (leaves_ofExcept _) fun _ ↦ leaves_pure _
    exact (same ledger).locks
  case walk =>
    have same : (walk history).Leaves SameLocks :=
      leaves_bind (leaves_ofExcept _) fun _ ↦ sameLocks_running _
    exact (same ledger).locks
  case walkStart =>
    have same : (walkStart history most).Leaves SameLocks :=
      leaves_bind (leaves_ofExcept _) fun _ ↦ sameLocks_running _
    exact (same ledger).locks

/-- The locks while somebody has that of a third account. -/
def thirdTaken : LockTable := { (LockTable.checkOut {} 3).2 with taken := [0] }

theorem coherent_thirdTaken : thirdTaken.Coherent :=
  (LockTable.checkedOut LockTable.coherent_empty 3).coherent.take (Nat.lt_succ_self 0)

/-- An account is locked, and inside of that once more. -/
def waitingForItself : Nesting Ledger :=
  .hold (.integer 0) [1] fun _ ↦ .hold (.integer 0) [1] fun _ ↦ .work (pure ())

/-- A deposit whose commit goes unreported at first, and a lock that is waited for by who has it, leave the lock of
somebody else alone and none of their own behind. In both tries of the deposit and in the pause between them its
account is locked, and that of somebody else as well. -/
theorem locks_restored_thirdTaken :
    thirdTaken.Coherent ∧
    thirdTaken.Restored (post (trying 3 (by decide)) (.deposit 1) (.text "0.01") (.text "")
      { nextUnreported with locks := thirdTaken }).2.locks ∧
    (post (trying 3 (by decide)) (.deposit 1) (.text "0.01") (.text "")
      { nextUnreported with locks := thirdTaken }).2.journal.lockings.map (fun locks ↦
        [1, 2, 3].map locks.isLocked) = List.replicate 5 [true, false, true] ∧
    (waitingForItself.run { nextUnreported with locks := thirdTaken }).1.isOk = false ∧
    thirdTaken.Restored (waitingForItself.run { nextUnreported with locks := thirdTaken }).2.locks := by
  have now : (Value.integer 0).IsWaitable := by
    intro seconds timed
    obtain rfl := Except.ok.inj timed
    decide +kernel
  obtain ⟨⟨-, restored⟩, -, -, -, -, -, nested⟩ := locks_restored (trying 3 (by decide)) (.deposit 1)
    (.text "0.01") (.text "") { nextUnreported with locks := thirdTaken } now coherent_thirdTaken
  have sound : waitingForItself.IsSound := ⟨now, fun _ ↦ ⟨now, fun _ ↦ leaves_pure ()⟩⟩
  exact ⟨coherent_thirdTaken, restored, by decide +kernel, by decide +kernel,
    (nested Ledger waitingForItself sound { nextUnreported with locks := thirdTaken }
      coherent_thirdTaken).2⟩

end Ledger

end Passbook
