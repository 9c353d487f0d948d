import Mathlib.Logic.Relation
import Passbook.Lock.Waiter
import Passbook.Proofs.Locks.Client
import Passbook.Proofs.Procedure

/-!
A client of a lock table that nobody comes between. Its steps one after the other are what acquiring and
releasing are for a client on its own (`LockClient.acquires_acquire`, `LockClient.goes_release`), and those
of a waiter on its way (`LockClient.go?_waiter`).
-/

set_option autoImplicit false
set_option relaxedAutoImplicit false

namespace Passbook

open Procedure

namespace LockTable

/-- Who has just become a user of a lock can cease to be one. -/
theorem checkIn?_checkOut (table : LockTable) (account : Int) :
    ∃ after, (table.checkOut account).2.checkIn? account = some after := by
  obtain ⟨count, users⟩ : ∃ count, (table.checkOut account).2.users.get? account = some count := by
    unfold checkOut
    cases table.live.get? account <;> exact ⟨_, Registry.get?_put_self _ _ _⟩
  unfold checkIn?
  rw [users]
  dsimp only
  split <;> exact ⟨_, rfl⟩

end LockTable

namespace LockTask

/-- A waiter that is as far on the way in. -/
def waiter? : LockTask → Option Waiter
  | .entering taken rest =>
    some { held := taken.map (·.account), awaited := none, remaining := rest }
  | .waiting taken next rest =>
    some {
      held := taken.map (·.account)
      awaited := some next.lock
      remaining := next.account :: rest }
  | _ => none

/-- What is left of a task when giving locks back has ended. -/
def ended : Except Failure Unit → LockTask
  | .ok _ => .outside
  | .error failure => .failed failure

end LockTask

namespace LockClient

/-- A client takes steps on its way, with nobody else between them. -/
def Goes : LockClient × LockTable → LockClient × LockTable → Prop :=
  Relation.ReflTransGen fun before after ↦ before.1.go? before.2 = some after

variable {timeout : Binary64} {table after : LockTable} {owned : List LockUse}

/-- On its way to locks a client takes the steps of a waiter. -/
theorem go?_waiter {client : LockClient} {waiter : Waiter} (isWaiter : client.task.waiter? = some waiter)
    (unserved : waiter.isServed = false) :
    (client.go? table).bind (fun went ↦ went.1.task.waiter?.map (·, went.2)) =
      waiter.step? table := by
  obtain ⟨owned, task⟩ := client
  cases task with
  | entering taken rest =>
    cases isWaiter
    cases rest with
    | nil => cases unserved
    | cons account rest => rfl
  | waiting taken next rest =>
    cases isWaiter
    simp only [go?, Waiter.step?]
    cases table.take? next.lock <;> simp [LockTask.waiter?]
  | _ => cases isWaiter

theorem goes_releaseOne {first : LockUse} {rest : List LockUse} {outcome : Except Failure Unit}
    (ran : Locking.releaseOne first.account table = (outcome, after)) :
    Goes (⟨owned, .returning (first :: rest)⟩, table)
      (⟨owned, match outcome with
        | .ok _ => .returning rest
        | .error failure => .failed failure⟩, after) := by
  unfold Locking.releaseOne at ran
  rw [run_bind, run_get] at ran
  dsimp only at ran
  cases there : table.live.get? first.account with
  | none =>
    rw [there] at ran
    cases ran
    refine .single ?_
    simp only [go?, there]
  | some lock =>
    rw [there] at ran
    dsimp only at ran
    rw [run_bind, run_get] at ran
    dsimp only at ran
    have found : Goes (⟨owned, .returning (first :: rest)⟩, table)
        (⟨owned, .dropping first lock rest⟩, table) := by
      refine .single ?_
      simp only [go?, there]
    refine found.trans ?_
    cases dropped : table.drop? lock with
    | none =>
      rw [dropped] at ran
      cases ran
      refine .single ?_
      simp only [go?, dropped]
    | some middle =>
      rw [dropped] at ran
      simp only [Locking.checkIn, run_bind, run_set, run_get] at ran
      have left : Goes (⟨owned, .dropping first lock rest⟩, table)
          (⟨owned, .leaving first rest⟩, middle) := by
        refine .single ?_
        simp only [go?, dropped]
      refine left.trans (.single ?_)
      cases checkedIn : middle.checkIn? first.account with
      | none =>
        rw [checkedIn] at ran
        cases ran
        simp only [go?, checkedIn]
      | some last =>
        rw [checkedIn] at ran
        cases ran
        simp only [go?, checkedIn]

theorem goes_releasing {uses : List LockUse} {outcome : Except Failure Unit}
    (ran : (uses.map (·.account)).forM Locking.releaseOne table = (outcome, after)) :
    Goes (⟨owned, .returning uses⟩, table) (⟨owned, .ended outcome⟩, after) := by
  induction uses generalizing table with
  | nil =>
    cases ran
    exact .single rfl
  | cons first rest ih =>
    change (Locking.releaseOne first.account >>= fun _ ↦
      (rest.map (·.account)).forM Locking.releaseOne) table = _ at ran
    rcases cases_of_bind ran with ⟨failure, failed, rfl⟩ | ⟨_, middle, released, ran⟩
    · exact goes_releaseOne failed
    · exact (goes_releaseOne released).trans (ih ran)

theorem map_account_descending (uses : List LockUse) :
    (descending uses).map (·.account) = (uses.map (·.account)).mergeSort (· ≥ ·) :=
  List.map_mergeSort fun _ _ _ _ ↦ rfl

/-- Releasing is done by the steps of a client with nobody else between them. -/
theorem goes_release {uses : List LockUse} {outcome : Except Failure Unit}
    (ran : Locking.release (uses.map (·.account)) table = (outcome, after)) :
    Goes (⟨owned, .returning (descending uses)⟩, table) (⟨owned, .ended outcome⟩, after) := by
  refine goes_releasing ?_
  rw [map_account_descending]
  exact ran

/-- How a client that takes locks on its own ends: with all of them, or, as soon as one is not to be had,
without any. -/
inductive Acquires (start : LockClient × LockTable) (owned : List LockUse) :
    Except Failure (List Int) → LockTable → Prop
  | all (uses : List LockUse) (after : LockTable) (goes : Goes start (⟨owned ++ uses, .outside⟩, after)) :
    Acquires start owned (.ok (uses.map (·.account))) after
  | gaveUp (taken : List LockUse) (next : LockUse) (rest : List Int) (middle after : LockTable)
    (outcome : Except Failure Unit)
    (goes : Goes start (⟨owned, .waiting taken next rest⟩, middle))
    (held : next.lock ∈ middle.taken)
    (goesBack : Goes (⟨owned, .expired taken next⟩, middle) (⟨owned, .ended outcome⟩, after)) :
    Acquires start owned
      (match outcome with
        | .ok _ => .error (.ledger (.conflict (.lockTimeout next.account)))
        | .error failure => .error failure)
      after

theorem Acquires.of_goes {first second : LockClient × LockTable}
    {outcome : Except Failure (List Int)} (goes : Goes first second)
    (acquires : Acquires second owned outcome after) : Acquires first owned outcome after := by
  cases acquires with
  | all uses after last => exact .all uses after (goes.trans last)
  | gaveUp taken next rest middle after outcome waits held goesBack =>
    exact .gaveUp taken next rest middle after outcome (goes.trans waits) held goesBack

theorem acquires_acquireFrom (waits : Locking.canWait timeout = true) {taken : List LockUse}
    {rest : List Int} {outcome : Except Failure (List Int)}
    (ran : Locking.acquireFrom timeout (taken.map (·.account)) rest table = (outcome, after)) :
    Acquires (⟨owned, .entering taken rest⟩, table) owned outcome after := by
  induction rest generalizing taken table with
  | nil =>
    cases ran
    exact .all taken _ (.single rfl)
  | cons account rest ih =>
    generalize used : table.checkOut account = use
    obtain ⟨lock, middle⟩ := use
    have entered : Goes (⟨owned, .entering taken (account :: rest)⟩, table)
        (⟨owned, .waiting taken ⟨account, lock⟩ rest⟩, middle) := by
      refine .single ?_
      simp only [go?, used]
    refine Acquires.of_goes entered ?_
    simp only [Locking.acquireFrom, Locking.takeOne, Locking.checkOut, used, waits, run_bind,
      run_tryCatch, run_get, Bool.not_true, Bool.false_eq_true, if_false] at ran
    cases took : middle.take? lock with
    | some next =>
      rw [took] at ran
      simp only [run_set] at ran
      have goes : Goes (⟨owned, .waiting taken ⟨account, lock⟩ rest⟩, middle)
          (⟨owned, .entering (taken ++ [⟨account, lock⟩]) rest⟩, next) := by
        refine .single ?_
        simp only [go?, took, Option.map_some]
      refine Acquires.of_goes goes (ih ?_)
      rw [List.map_append]
      exact ran
    | none =>
      obtain ⟨last, checkedIn⟩ := LockTable.checkIn?_checkOut table account
      rw [used] at checkedIn
      simp only [took, Locking.checkIn, run_bind, run_get, checkedIn, run_set, run_throw] at ran
      have held : lock ∈ middle.taken := by
        by_contra free
        rw [LockTable.take?_of_free free] at took
        cases took
      have back (outcome : Except Failure Unit) (final : LockTable)
          (released : Locking.release (taken.map (·.account)) last = (outcome, final)) :
          Goes (⟨owned, .expired taken ⟨account, lock⟩⟩, middle) (⟨owned, .ended outcome⟩, final) := by
        refine Relation.ReflTransGen.head ?_ (goes_release released)
        simp only [go?, checkedIn]
      cases released : Locking.release (taken.map (·.account)) last with
      | mk outcome final =>
        rw [released] at ran
        have gaveUp := Acquires.gaveUp taken _ rest middle final outcome (.refl) held
          (back outcome final released)
        cases outcome <;> cases ran <;> exact gaveUp

/-- Acquiring is done by the steps of a client with nobody else between them; as soon as a lock is not to
be had, the time is over. -/
theorem acquires_acquire (waits : Locking.canWait timeout = true) {client : LockClient}
    {accounts : List Int} {outcome : Except Failure (List Int)}
    (ran : Locking.acquire timeout accounts table = (outcome, after)) :
    Acquires (client.enters accounts, table) client.owned outcome after :=
  acquires_acquireFrom waits ran

end LockClient

end Passbook
