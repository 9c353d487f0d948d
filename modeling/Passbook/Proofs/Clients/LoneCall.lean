import Mathlib.Logic.Relation
import Passbook.Proofs.Clients.Alone
import Passbook.Proofs.Clients.Bank
import Passbook.Proofs.Ledger.Locked
import Passbook.Proofs.Locks.Alone

/-!
A call that nobody comes between. On its own it takes the locks of its accounts as a client of the lock table
does (`Call.goes_acquired`, `Call.goes_refused`), moves the money as an engine does that executes its posting
(`Call.goes_execute`), and gives them back (`Call.goes_answers`). Main statement: a call that takes all its steps
while no other takes any answers what a ledger answers that posts its movement, and leaves the same store and
the same locks (`Bank.post_unbroken`).
-/

set_option autoImplicit false
set_option relaxedAutoImplicit false

namespace Passbook

open Procedure Relation

namespace Call

variable {call : Call} {patience : Value} {storage after : Storage} {table locks : LockTable}
  {posting : Posting} {outcome : Except Failure Record} {uses : List LockUse}

/-- A call takes steps, or finds its time over, with nobody else between. -/
def Goes (call : Call) (patience : Value) :
    Caller × Storage × LockTable → Caller × Storage × LockTable → Prop :=
  ReflTransGen fun before after ↦
    ∃ event, call.move? patience event before.1 before.2.1 before.2.2 = some after

/-! ### On the way to the locks and back -/

/-- At a stage at which a call steps as a client of the lock table, it goes where that goes. -/
theorem goes_locks {stage : Stage}
    (steps : ∀ client later before left, LockClient.go? client before = some (later, left) →
      call.go? patience ⟨stage, client⟩ storage before = some (⟨stage, later⟩, storage, left))
    {first second : LockClient × LockTable} (goes : LockClient.Goes first second) :
    call.Goes patience (⟨stage, first.1⟩, storage, first.2) (⟨stage, second.1⟩, storage, second.2) :=
  ReflTransGen.lift
    (fun client : LockClient × LockTable ↦ ((⟨stage, client.1⟩ : Caller), storage, client.2))
    (fun before later went ↦ ⟨.go, steps before.1 later.1 before.2 later.2 went⟩) _ _ goes

/-- On its way to its locks a call takes the steps of a client of the lock table. -/
theorem goes_locking {first second : LockClient × LockTable} (goes : LockClient.Goes first second) :
    call.Goes patience (⟨.locking posting, first.1⟩, storage, first.2)
      (⟨.locking posting, second.1⟩, storage, second.2) := by
  refine goes_locks (fun client later before left went ↦ ?_) goes
  obtain ⟨owned, task⟩ := client
  cases task with
  | outside | failed => cases went
  | _ => exact congrArg (Option.map _) went

/-- A call that is through with its locks answers with its outcome, unless giving them back has failed. -/
theorem goes_answers {first : LockClient} {released : Except Failure Unit}
    (goes : LockClient.Goes (first, table) (⟨[], .ended released⟩, locks)) :
    ∃ lock, call.Goes patience (⟨.unlocking outcome, first⟩, storage, table)
      (⟨.answered (released.bind fun _ ↦ outcome), lock⟩, storage, locks) := by
  refine ⟨⟨[], .ended released⟩, ReflTransGen.trans (goes_locks ?_ goes) (.single ⟨.go, ?_⟩)⟩
  · intro client later before left went
    obtain ⟨owned, task⟩ := client
    cases task with
    | outside | failed => cases went
    | _ => exact congrArg (Option.map _) went
  · cases released <;> rfl

/-- A call that has waited long enough answers with that, unless giving back what it has fails. -/
theorem goes_gaveUp {taken : List LockUse} {next : LockUse} {rest : List Int}
    {released : Except Failure Unit}
    (goes : LockClient.Goes (⟨[], .expired taken next⟩, table) (⟨[], .ended released⟩, locks)) :
    ∃ lock, call.Goes patience (⟨.locking posting, ⟨[], .waiting taken next rest⟩⟩, storage, table)
      (⟨.answered (released.bind fun _ ↦ .error (.ledger (.conflict (.lockTimeout next.account)))), lock⟩,
        storage, locks) := by
  obtain ⟨lock, answers⟩ := goes_answers goes
  exact ⟨lock, ReflTransGen.head ⟨.expire, rfl⟩ answers⟩

/-- A call whose client does not have its locks on its own has the same failure. -/
theorem goes_refused {start : LockClient × LockTable} {got : Except Failure (List Int)} {failure : Failure}
    (acquires : LockClient.Acquires start [] got locks) (refused : got = .error failure) :
    ∃ lock, call.Goes patience (⟨.locking posting, start.1⟩, storage, start.2)
      (⟨.answered (.error failure), lock⟩, storage, locks) := by
  cases acquires with
  | all => cases refused
  | gaveUp taken next rest middle locks released goes held goesBack =>
    obtain ⟨lock, answers⟩ := goes_gaveUp goesBack
    refine ⟨lock, ReflTransGen.trans (goes_locking goes) ?_⟩
    cases released <;> cases refused <;> exact answers

/-- A call whose client has its locks on its own has them too. -/
theorem goes_acquired {start : LockClient × LockTable} {got : Except Failure (List Int)} {held : List Int}
    (acquires : LockClient.Acquires start [] got locks) (had : got = .ok held) :
    ∃ uses : List LockUse, held = uses.map (·.account) ∧
      call.Goes patience (⟨.locking posting, start.1⟩, storage, start.2)
        (⟨.locking posting, ⟨uses, .outside⟩⟩, storage, locks) := by
  cases acquires with
  | all uses locks goes =>
    cases had
    exact ⟨uses, rfl, goes_locking goes⟩
  | gaveUp taken next rest middle locks released goes held goesBack => cases released <;> cases had

/-! ### Moving the money -/

/-- A call that moves its money comes to what its client comes to on its own, and sets out to give back all
its locks. -/
theorem goes_working {served : Served} (comes : served.Comes storage outcome after) {client : Client}
    (goesOn : served = .goesOn client) :
    call.Goes patience (⟨.working client, ⟨uses, .outside⟩⟩, storage, table)
      (⟨.unlocking outcome, ⟨[], .returning (LockClient.descending uses)⟩⟩, after, table) := by
  induction comes generalizing client with
  | ends => cases goesOn
  | turn client' storage outcome after comes ih =>
    cases goesOn
    cases served : client'.serve storage with
    | mk next middle =>
      rw [served] at comes ih
      cases next with
      | goesOn later =>
        have turns : call.go? patience ⟨.working client', ⟨uses, .outside⟩⟩ storage table =
            some (⟨.working later, ⟨uses, .outside⟩⟩, middle, table) := by
          simp only [go?, served]
        exact ReflTransGen.head ⟨.go, turns⟩ (ih rfl)
      | ends last =>
        cases comes
        refine .single ⟨.go, ?_⟩
        have gives := LockClient.act?_release ⟨uses, .outside⟩ rfl table
        simp only [move?, go?, served, Caller.acts?, gives, Option.map_some]

/-- A call that has its locks does to the store what an engine does that executes its posting. -/
theorem goes_execute (ledger : Ledger) :
    call.Goes patience (⟨.locking posting, ⟨uses, .outside⟩⟩, ledger.storage, table)
      (⟨.unlocking (Ledger.execute call.engine posting ledger).1,
          ⟨[], .returning (LockClient.descending uses)⟩⟩,
        (Ledger.execute call.engine posting ledger).2.storage, table) := by
  cases counted : call.engine.retry with
  | error failure =>
    rw [Ledger.execute_uncounted counted]
    refine .single ⟨.go, ?_⟩
    have gives := LockClient.act?_release ⟨uses, .outside⟩ rfl table
    simp only [move?, go?, counted, Caller.acts?, gives, Option.map_some]
  | ok retry =>
    rw [Ledger.execute_run counted]
    have begins : call.go? patience ⟨.locking posting, ⟨uses, .outside⟩⟩ ledger.storage table =
        some (⟨.working { progress := (Try.first posting retry).start }, ⟨uses, .outside⟩⟩,
          ledger.storage, table) := by
      simp only [go?, counted]
    exact ReflTransGen.head ⟨.go, begins⟩
      (goes_working (Try.comes_start posting retry ledger.storage) rfl)

/-- A call that has its locks answers what a ledger comes to that executes its posting and then releases them. -/
theorem goes_held (locked : Ledger) (uses : List LockUse) :
    let ended := Ledger.execute call.engine posting locked
    let released := Locking.release (uses.map (·.account)) ended.2.locks
    ∃ lock, call.Goes patience (⟨.locking posting, ⟨uses, .outside⟩⟩, locked.storage, locked.locks)
      (⟨.answered (released.1.bind fun _ ↦ ended.1), lock⟩, ended.2.storage, released.2) := by
  dsimp only
  rw [Ledger.execute_locks]
  cases ran : Locking.release (uses.map (·.account)) locked.locks with
  | mk released left =>
    obtain ⟨lock, answers⟩ := goes_answers (LockClient.goes_release ran)
    exact ⟨lock, (goes_execute locked).trans answers⟩

/-! ### The whole call -/

/-- A call whose own data are in order does what a ledger does that executes its posting while it holds the
locks. -/
theorem goes_hold {patience : Value} {ledger prepared : Ledger} {storage : Storage}
    (preparing : Ledger.prepare call.engine call.movement call.amount call.description { storage } =
      (.ok posting, prepared)) (store : ledger.storage = prepared.storage) :
    let held := Locking.hold (call.engine.lockTimeout.orElse patience) call.movement.accounts
      (fun _ ↦ Ledger.execute call.engine posting) ledger
    ∃ lock, call.Goes patience ({}, storage, ledger.locks)
      (⟨.answered held.1, lock⟩, held.2.storage, held.2.locks) := by
  dsimp only
  cases timed : (call.engine.lockTimeout.orElse patience).seconds with
  | error failure =>
    rw [Locking.hold_unhad (Locking.acquireWithin_untimed timed)]
    refine ⟨{}, .single ⟨.go, ?_⟩⟩
    simp only [move?, go?, ask?, preparing, timed, store]
  | ok seconds =>
    cases waits : Locking.canWait seconds with
    | false =>
      have some : call.movement.accounts ≠ [] := List.cons_ne_nil _ _
      obtain ⟨first, rest, -, refused⟩ := Locking.acquire_overflow waits some ledger.locks
      obtain ⟨after, had, same, locks⟩ := Ledger.acquireWithin_refused ledger timed refused
      rw [Locking.hold_unhad had]
      refine ⟨{}, .single ⟨.go, ?_⟩⟩
      have sameStore : after.storage = prepared.storage := Eq.trans same store
      simp only [move?, go?, ask?, preparing, timed, waits, refused, sameStore, locks, Bool.false_eq_true, if_false]
    | true =>
      have setsOut : call.go? patience {} storage ledger.locks =
          some (⟨.locking posting, LockClient.enters {} call.movement.accounts⟩, ledger.storage,
            ledger.locks) := by
        simp only [go?, ask?, preparing, timed, waits, store, if_true]
        rfl
      cases acquired : Locking.acquire seconds call.movement.accounts ledger.locks with
      | mk got locks =>
        have acquires : LockClient.Acquires (LockClient.enters {} call.movement.accounts, ledger.locks) []
            got locks := LockClient.acquires_acquire waits acquired
        cases got with
        | error failure =>
          obtain ⟨after, had, same, rfl⟩ := Ledger.acquireWithin_refused ledger timed acquired
          rw [Locking.hold_unhad had, same]
          obtain ⟨lock, refused⟩ := goes_refused acquires rfl
          exact ⟨lock, ReflTransGen.head ⟨.go, setsOut⟩ refused⟩
        | ok held =>
          have had : (Locking.acquireWithin (call.engine.lockTimeout.orElse patience)
              call.movement.accounts : Ledger.Action (List Int)) ledger = (.ok held, { ledger with locks }) :=
            Locking.acquireWithin_ok timed acquired
          rw [Locking.hold_had had]
          obtain ⟨uses, rfl, has⟩ := goes_acquired acquires rfl
          obtain ⟨lock, answers⟩ := goes_held { ledger with locks } uses
          exact ⟨lock, .head ⟨.go, setsOut⟩ (has.trans answers)⟩

/-- A call that nobody comes between does what a ledger does that posts its movement. -/
theorem goes_post (call : Call) (ledger : Ledger) :
    let posted := Ledger.post call.engine call.movement call.amount call.description ledger
    ∃ lock, call.Goes ledger.lockPatience ({}, ledger.storage, ledger.locks)
      (⟨.answered posted.1, lock⟩, posted.2.storage, posted.2.locks) := by
  dsimp only
  rw [Ledger.post_eq_prepare]
  obtain ⟨sameOutcome, sameStore⟩ := Ledger.storebound_prepare call.engine call.movement call.amount
    call.description { storage := ledger.storage } ledger rfl
  cases prepared : Ledger.prepare call.engine call.movement call.amount call.description ledger with
  | mk asked middle =>
    have sameLocks : ledger.SameLocks middle := (Ledger.sameLocks_prepare _ _ _ _).of_eq prepared
    cases prepared' : Ledger.prepare call.engine call.movement call.amount call.description
        { storage := ledger.storage } with
    | mk asked' middle' =>
      rw [prepared, prepared'] at sameOutcome sameStore
      obtain rfl : asked' = asked := sameOutcome
      have store : middle.storage = middle'.storage := sameStore
      cases asked' with
      | error failure =>
        rw [run_bind, prepared]
        dsimp only
        refine ⟨{}, .single ⟨.go, ?_⟩⟩
        simp only [move?, go?, ask?, prepared', store, sameLocks.locks]
      | ok posting =>
        rw [run_bind_ok prepared, run_bind_ok (run_get middle), sameLocks.patience, ← sameLocks.locks]
        exact goes_hold prepared' store

end Call

namespace Bank

variable {Name : Type} [DecidableEq Name] {calls : Name → Call} {bank : Bank Name} {name : Name}

/-- Where a call goes on its own, its steps in a bank bring it. -/
theorem run_of_goes {patience : Value} {start finish : Caller × Storage × LockTable}
    (goes : (calls name).Goes patience start finish) (isPatience : bank.patience = patience)
    (begins : start = (bank.callers name, bank.storage, bank.table)) :
    ∃ events : List CallEvent, bank.run calls (events.map (name, ·)) =
      { bank with
        storage := finish.2.1
        table := finish.2.2
        callers := Function.update bank.callers name finish.1 } := by
  induction goes using ReflTransGen.head_induction_on generalizing bank with
  | refl =>
    subst begins
    refine ⟨[], ?_⟩
    dsimp only
    rw [Function.update_eq_self]
    rfl
  | head moved rest ih =>
    subst begins
    obtain ⟨event, moved⟩ := moved
    rw [← isPatience] at moved
    rcases bank.step_cases calls (name, event) with ⟨stuck, -⟩ | ⟨caller, storage, table, moved', stepped⟩
    · cases moved.symm.trans stuck
    cases moved.symm.trans moved'
    obtain ⟨events, ran⟩ := @ih (bank.step calls (name, event)) (by rw [stepped]; exact isPatience) <| by
      rw [stepped]
      dsimp only
      rw [Function.update_self]
    refine ⟨event :: events, ?_⟩
    change (bank.step calls (name, event)).run calls (events.map (name, ·)) = _
    rw [ran, stepped]
    dsimp only
    rw [Function.update_idem]

/-- A call that nobody comes between answers what the ledger answers that posts its movement, with the store, the
locks and the patience of the bank, and leaves the same store and the same locks. -/
theorem post_unbroken (calls : Name → Call) (bank : Bank Name) (name : Name)
    (fresh : bank.callers name = {}) :
    let posted := Ledger.post (calls name).engine (calls name).movement (calls name).amount
      (calls name).description { storage := bank.storage, locks := bank.table, lockPatience := bank.patience }
    ∃ (events : List CallEvent) (lock : LockClient), bank.run calls (events.map (name, ·)) =
      { bank with
        storage := posted.2.storage
        table := posted.2.locks
        callers := Function.update bank.callers name ⟨.answered posted.1, lock⟩ } := by
  obtain ⟨lock, goes⟩ := Call.goes_post (calls name)
    { storage := bank.storage, locks := bank.table, lockPatience := bank.patience }
  obtain ⟨events, ran⟩ := run_of_goes goes rfl (by rw [fresh])
  exact ⟨events, lock, ran⟩

end Bank

end Passbook
