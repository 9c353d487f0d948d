import Passbook.Proofs.Locks.Acquisition

/-!
Locks held around something else. `LockTable.Kept` says that between two tables everything about the locks has
stayed or become again as it was: what is locked, which accounts have a lock and how many users each has. What
runs while locks are held and keeps them in this sense is followed by their return, so the whole has kept them
too, however it ends (`Locking.leaves_hold`). Locks may be held inside of each other to any depth and behind
each other, with failures that are caught or go through; by induction on how they are nested all of that keeps
them (`Nesting.leaves_run`), also where a lock that is already held is waited for in vain
(`Locking.hold_locked`). Only times for which no clock can wait are excluded (`Value.IsWaitable`).
-/

set_option autoImplicit false
set_option relaxedAutoImplicit false

namespace Passbook

open Procedure

/-! ### Locks that are kept -/

namespace LockTable

variable {before middle after : LockTable} {accounts : List Int}

theorem Restored.trans (first : before.Restored middle) (second : middle.Restored after) :
    before.Restored after where
  locked account := (second.locked account).trans (first.locked account)
  keys account := (second.keys account).trans (first.keys account)
  users account := (second.users account).trans (first.users account)

/-- Locks that were taken are still taken where everything is as it was then. -/
theorem Taken.of_restored (taken : before.Taken accounts middle) (restored : middle.Restored after) :
    before.Taken accounts after where
  free := taken.free
  locked account := by rw [restored.locked, taken.locked]
  users account := by rw [userCount_of_get? (restored.users account), taken.users]

/-- A coherent table is followed by a coherent one with the same locks and users. -/
def Kept (before after : LockTable) : Prop := before.Coherent → after.Coherent ∧ before.Restored after

theorem Kept.refl (table : LockTable) : table.Kept table := fun coherent ↦ ⟨coherent, .refl table⟩

theorem Kept.trans (first : before.Kept middle) (second : middle.Kept after) : before.Kept after := by
  intro coherent
  obtain ⟨coherent, restored⟩ := first coherent
  obtain ⟨coherent, restored'⟩ := second coherent
  exact ⟨coherent, restored.trans restored'⟩

end LockTable

namespace LockKeeper

variable {State : Type} [LockKeeper State]

/-- The locks are kept. -/
def Keeps (before after : State) : Prop := (table before).Kept (table after)

instance : IsPreorder State Keeps where
  refl _ := .refl _
  trans _ _ _ := .trans

end LockKeeper

namespace Locking

open LockKeeper

variable {State Result : Type} [LockKeeper State] {timeout : Value} {seconds : Binary64}
  {accounts : List Int} {body : List Int → Procedure Failure State Result} {state after : State}
  {locks : LockTable}

/-! ### Holding locks -/

/-- Behind what runs while locks are held they are given back, and if that fails it is the outcome. -/
theorem hold_had {held : List Int} {locked : State}
    (had : (acquireWithin timeout accounts : Procedure Failure State (List Int)) state = (.ok held, locked)) :
    hold timeout accounts body state =
      let ended := body held locked
      let released := release held (table ended.2)
      (released.1.bind fun _ ↦ ended.1, withTable ended.2 released.2) := by
  unfold hold
  rw [run_bind_ok had, run_bind_ok (run_attempt _ locked), run_bind]
  dsimp only [within]
  generalize release held (table (body held locked).2) = released
  obtain ⟨outcome, locks⟩ := released
  cases outcome <;> rfl

/-- Without the locks nothing runs. -/
theorem hold_unhad {failure : Failure}
    (refused : (acquireWithin timeout accounts : Procedure Failure State (List Int)) state =
      (.error failure, after)) : hold timeout accounts body state = (.error failure, after) := by
  unfold hold
  rw [run_bind, refused]

/-- Locks that were taken are given back behind what kept them. -/
theorem release_taken (coherent : (table state).Coherent)
    (taken : (table state).Taken (ordered accounts) (table after)) (coherent' : (table after).Coherent) :
    ∃ locks, locks.Coherent ∧ (table state).Restored locks ∧
      release (ordered accounts) (table after) = (.ok ⟨⟩, locks) := by
  obtain ⟨locks, released, coherent'', gave⟩ :=
    release_locked coherent' (nodup_ordered accounts) fun account member ↦
      (taken.locked account).2 (Or.inl member)
  exact ⟨locks, coherent'', (taken.undone gave).restored coherent coherent'', released⟩

variable [lawful : LawfulLockKeeper State]

/-- What holding locks around a body comes to. -/
inductive Holds (timeout : Value) (accounts : List Int)
    (body : List Int → Procedure Failure State Result) (state : State) :
    Except Failure Result × State → Prop
  /-- The locks are not had, nothing has become of that, and the body does not run. -/
  | refused (failure : Failure) (after : State) :
      acquireWithin timeout accounts state = (.error failure, after) → (table after).Coherent →
      (table state).Restored (table after) → Holds timeout accounts body state (.error failure, after)
  /-- All locks are had before the body runs. If that keeps them they are given back behind it; in all else
  the end is that of the body. -/
  | had (locked : State) (ended : Except Failure Result × State) :
      acquireWithin timeout accounts state = (.ok (ordered accounts), locked) →
      (table locked).Coherent → (table state).Taken (ordered accounts) (table locked) →
      (Keeps locked (body (ordered accounts) locked).2 →
        ∃ locks, locks.Coherent ∧ (table state).Restored locks ∧
          ended = ((body (ordered accounts) locked).1, withTable (body (ordered accounts) locked).2 locks)) →
      Holds timeout accounts body state ended

/-- Holding locks runs the body with all of them, or not at all. -/
theorem hold_holds (waitable : timeout.IsWaitable) (coherent : (table state).Coherent)
    (accounts : List Int) (body : List Int → Procedure Failure State Result) :
    Holds timeout accounts body state (hold timeout accounts body state) := by
  obtain ⟨locked, coherent', ⟨acquired, taken⟩ | ⟨restored, failure, refused⟩⟩ :=
    acquireWithin_cases waitable coherent accounts
  · refine .had locked _ acquired coherent' taken fun keeps ↦ ?_
    obtain ⟨coherent'', restored⟩ := keeps coherent'
    obtain ⟨locks, coherent₃, restored', released⟩ :=
      release_taken coherent (taken.of_restored restored) coherent''
    refine ⟨locks, coherent₃, restored', ?_⟩
    rw [hold_had acquired]
    dsimp only
    rw [released]
    rfl
  · rw [hold_unhad refused]
    exact .refused failure locked refused coherent' restored

/-- Locks are kept by all that keeps them while it holds some. -/
theorem leaves_hold (waitable : timeout.IsWaitable) (accounts : List Int)
    (each : ∀ held, (body held).Leaves Keeps) : (hold timeout accounts body).Leaves Keeps := by
  intro state coherent
  have holds := hold_holds waitable coherent accounts body
  generalize ended : hold timeout accounts body state = after at holds
  cases holds with
  | refused failure after _ coherent restored => exact ⟨coherent, restored⟩
  | had locked _ _ _ _ back =>
    obtain ⟨locks, coherent', restored, rfl⟩ := back (each _ locked)
    rw [lawful.table_withTable]
    exact ⟨coherent', restored⟩

/-- A lock that is already taken, be it by the same client, is waited for in vain, and the body does not
run. -/
theorem hold_locked (waitable : timeout.IsWaitable) (timed : timeout.seconds = .ok seconds)
    (coherent : (table state).Coherent) {account : Int} (member : account ∈ accounts)
    (locked : (table state).isLocked account = true)
    (body : List Int → Procedure Failure State Result) :
    ∃ other ∈ accounts, (table state).isLocked other = true ∧
      (hold timeout accounts body state).1 = .error (.ledger (.conflict (.lockTimeout other))) := by
  obtain ⟨locks, -, ⟨-, taken⟩ | ⟨other, isOther, locked', -, refused⟩⟩ :=
    acquire_cases (waitable seconds timed) coherent accounts
  · rw [taken.free account (mem_ordered.2 member)] at locked
    cases locked
  · obtain ⟨after, ended, -⟩ := acquireWithin_error timed refused
    refine ⟨other, mem_ordered.1 isOther, locked', ?_⟩
    rw [hold_unhad ended]

end Locking

/-! ### Nested holds -/

/-- What is done while locks are held inside of each other and behind each other: some work, one thing behind
another, something whose failure is caught, or something while the locks of some accounts are held. -/
inductive Nesting (State : Type) where
  | work (body : Procedure Failure State Unit)
  | andThen (first second : Nesting State)
  | orElse (first : Nesting State) (handler : Failure → Nesting State)
  | hold (timeout : Value) (accounts : List Int) (inside : List Int → Nesting State)

namespace Nesting

open LockKeeper

variable {State : Type} [LockKeeper State]

/-- Does it. -/
def run : Nesting State → Procedure Failure State Unit
  | work body => body
  | andThen first second => do
    first.run
    second.run
  | orElse first handler => tryCatch first.run fun failure ↦ (handler failure).run
  | hold timeout accounts inside => Locking.hold timeout accounts fun held ↦ (inside held).run

/-- A clock can wait for the locks each time, and the work in between keeps the locks. -/
def IsSound : Nesting State → Prop
  | work body => body.Leaves Keeps
  | andThen first second => first.IsSound ∧ second.IsSound
  | orElse first handler => first.IsSound ∧ ∀ failure, (handler failure).IsSound
  | hold timeout _ inside => timeout.IsWaitable ∧ ∀ held, (inside held).IsSound

/-- However locks are nested, and wherever that fails, they are kept. -/
theorem leaves_run [LawfulLockKeeper State] {nesting : Nesting State} (sound : nesting.IsSound) :
    nesting.run.Leaves Keeps := by
  induction nesting with
  | work body => exact sound
  | andThen first second begins goesOn => exact leaves_bind (begins sound.1) fun _ ↦ goesOn sound.2
  | orElse first handler begins handles =>
    exact leaves_tryCatch (begins sound.1) fun failure ↦ handles failure (sound.2 failure)
  | hold timeout accounts inside each =>
    exact Locking.leaves_hold sound.1 accounts fun held ↦ each held (sound.2 held)

end Nesting

end Passbook
