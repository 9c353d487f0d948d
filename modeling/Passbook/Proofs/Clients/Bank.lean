import Passbook.Proofs.Clients.Serving
import Passbook.Proofs.Locks.Acquisition
import Passbook.Proofs.Locks.Order
import Passbook.Proofs.Locks.Passage

/-!
Calls that run at the same time. A `Bank` is one store and one lock table, and how far every call has come that
was made to a ledger on them. A call checks its own data, takes the locks of its accounts, moves the money
and gives the locks back, one step at a time (`Call.go?`); between two steps of it any other call may take its
own, and a call that waits for a lock may find its time over (`Caller.expire?`). With no other between them, all
steps of a call are what a ledger does that posts its movement (`Bank.post_unbroken`). Main statement: a call that
moves money holds the locks of its accounts, so no two that move it at the same time share an account
(`Bank.Sound.apart`).
-/

set_option autoImplicit false
set_option relaxedAutoImplicit false

namespace Passbook

/-! ### One call -/

/-- What an engine is asked to move. -/
structure Call where
  engine : Engine
  movement : Movement
  amount : Value
  description : Value
deriving Repr

/-- How far a call has come. -/
inductive Stage where
  | asked
  /-- Its own data are in order, and it is on its way to the locks of its accounts. -/
  | locking (posting : Posting)
  /-- It has the locks, and moves the money. -/
  | working (client : Client)
  /-- Its outcome is known, and it gives back the locks that it has. -/
  | unlocking (outcome : Except Failure Record)
  | answered (outcome : Except Failure Record)

/-- A call on its way, with what it has of the locks. -/
structure Caller where
  stage : Stage := .asked
  lock : LockClient := {}

namespace Caller

/-- A step of a call among the locks, with the stage that this brings it to. -/
def acts? (caller : Caller) (stage : Stage) (action : LockAction) (storage : Storage)
    (table : LockTable) : Option (Caller × Storage × LockTable) :=
  (caller.lock.act? action table).map fun (lock, table) ↦ ({ stage, lock }, storage, table)

/-- A call that waits for a lock finds that its time is over; none if it does not wait. -/
def expire? (caller : Caller) (storage : Storage) (table : LockTable) :
    Option (Caller × Storage × LockTable) :=
  match caller.stage, caller.lock.task with
  | .locking _, .waiting _ next _ =>
    let failure : Failure := .ledger (.conflict (.lockTimeout next.account))
    caller.acts? (.unlocking (.error failure)) .expire storage table
  | _, _ => none

end Caller

namespace Call

/-- The first step of a call: it checks its own data and sets out for the locks. One whose patience is no time
for which a clock can wait fails at the first of them. -/
def ask? (call : Call) (patience : Value) (caller : Caller) (storage : Storage) (table : LockTable) :
    Option (Caller × Storage × LockTable) :=
  match Ledger.prepare call.engine call.movement call.amount call.description { storage } with
  | (.error failure, ledger) =>
    some ({ caller with stage := .answered (.error failure) }, ledger.storage, table)
  | (.ok posting, ledger) =>
    match (call.engine.lockTimeout.orElse patience).seconds with
    | .error failure =>
      some ({ caller with stage := .answered (.error failure) }, ledger.storage, table)
    | .ok seconds =>
      if Locking.canWait seconds then
        caller.acts? (.locking posting) (.hold call.movement.accounts) ledger.storage table
      else
        some ({ caller with stage := .answered (.error .overflow) }, ledger.storage,
          (Locking.acquire seconds call.movement.accounts table).2)

/-- The next step of a call; none if it has to wait, or has been answered. -/
def go? (call : Call) (patience : Value) (caller : Caller) (storage : Storage) (table : LockTable) :
    Option (Caller × Storage × LockTable) :=
  match caller.stage with
  | .asked => call.ask? patience caller storage table
  | .locking posting =>
    match caller.lock.task with
    | .outside =>
      match call.engine.retry with
      | .error failure =>
        caller.acts? (.unlocking (.error failure)) (.release caller.lock.heldAccounts) storage table
      | .ok retry =>
        let client : Client := { progress := (Try.first posting retry).start }
        some ({ caller with stage := .working client }, storage, table)
    | _ => caller.acts? (.locking posting) .go storage table
  | .working client =>
    match client.serve storage with
    | (.goesOn client, storage) => some ({ caller with stage := .working client }, storage, table)
    | (.ends outcome, storage) =>
      caller.acts? (.unlocking outcome) (.release caller.lock.heldAccounts) storage table
  | .unlocking outcome =>
    match caller.lock.task with
    | .outside => some ({ caller with stage := .answered outcome }, storage, table)
    | .failed failure =>
      some ({ caller with stage := .answered (.error failure) }, storage, table)
    | _ => caller.acts? (.unlocking outcome) .go storage table
  | .answered _ => none

end Call

/-! ### Calls side by side -/

/-- One store and one lock table, and the calls on them. Calls whose engine names no patience have that of
the bank. -/
structure Bank (Name : Type) where
  storage : Storage
  table : LockTable := {}
  patience : Value := .integer 0
  callers : Name → Caller := fun _ ↦ {}

/-- What may happen to a call. -/
inductive CallEvent where
  | go
  | expire
deriving DecidableEq, Repr

/-- What becomes of a call and of what it shares; none if it is not the time for that. -/
def Call.move? (call : Call) (patience : Value) (event : CallEvent) (caller : Caller)
    (storage : Storage) (table : LockTable) : Option (Caller × Storage × LockTable) :=
  match event with
  | .go => call.go? patience caller storage table
  | .expire => caller.expire? storage table

namespace Bank

variable {Name : Type}

/-- The calls as clients of the lock table. -/
def locks (bank : Bank Name) : LockCrowd Name where
  table := bank.table
  clients name := (bank.callers name).lock

variable [DecidableEq Name]

/-- One step of one call; nothing happens if it is not the time for that. -/
def step (calls : Name → Call) (bank : Bank Name) (event : Name × CallEvent) : Bank Name :=
  match (calls event.1).move? bank.patience event.2 (bank.callers event.1) bank.storage bank.table with
  | some (caller, storage, table) =>
    { bank with storage, table, callers := Function.update bank.callers event.1 caller }
  | none => bank

/-- Steps one after the other. -/
def run (calls : Name → Call) (bank : Bank Name) (events : List (Name × CallEvent)) : Bank Name :=
  events.foldl (step calls) bank

end Bank

/-! ### What a step can do -/

namespace Call

variable {call : Call} {patience : Value}

/-- All that a step of a call can do: from the stage at which it is, with its locks, the store and the lock
table, to where it is then. -/
inductive Steps (call : Call) (patience : Value) (lock : LockClient) (storage : Storage)
    (table : LockTable) : Stage → Caller → Storage → LockTable → Prop
  | refused (failure : Failure) (ledger : Ledger) :
      Ledger.prepare call.engine call.movement call.amount call.description { storage } =
        (.error failure, ledger) →
      Steps call patience lock storage table .asked ⟨.answered (.error failure), lock⟩ ledger.storage table
  | untimed (posting : Posting) (ledger : Ledger) (failure : Failure) :
      Ledger.prepare call.engine call.movement call.amount call.description { storage } =
        (.ok posting, ledger) →
      (call.engine.lockTimeout.orElse patience).seconds = .error failure →
      Steps call patience lock storage table .asked ⟨.answered (.error failure), lock⟩ ledger.storage table
  | overlong (ledger : Ledger) (seconds : Binary64) :
      (call.engine.lockTimeout.orElse patience).seconds = .ok seconds →
      Locking.canWait seconds = false →
      Steps call patience lock storage table .asked ⟨.answered (.error .overflow), lock⟩ ledger.storage
        (Locking.acquire seconds call.movement.accounts table).2
  | setsOut (posting : Posting) (ledger : Ledger) (later : LockClient) (after : LockTable) :
      Ledger.prepare call.engine call.movement call.amount call.description { storage } =
        (.ok posting, ledger) →
      lock.act? (.hold call.movement.accounts) table = some (later, after) →
      Steps call patience lock storage table .asked ⟨.locking posting, later⟩ ledger.storage after
  | locks (posting : Posting) (later : LockClient) (after : LockTable) :
      lock.task ≠ .outside → lock.act? .go table = some (later, after) →
      Steps call patience lock storage table (.locking posting) ⟨.locking posting, later⟩ storage after
  | uncounted (posting : Posting) (failure : Failure) (later : LockClient) (after : LockTable) :
      lock.task = .outside → call.engine.retry = .error failure →
      lock.act? (.release lock.heldAccounts) table = some (later, after) →
      Steps call patience lock storage table (.locking posting) ⟨.unlocking (.error failure), later⟩
        storage after
  | begins (posting : Posting) (retry : Retry) :
      lock.task = .outside → call.engine.retry = .ok retry →
      Steps call patience lock storage table (.locking posting)
        ⟨.working { progress := (Try.first posting retry).start }, lock⟩ storage table
  | turns (client later : Client) (after : Storage) :
      client.serve storage = (.goesOn later, after) →
      Steps call patience lock storage table (.working client) ⟨.working later, lock⟩ after table
  | ends (client : Client) (outcome : Except Failure Record) (left : Storage) (later : LockClient)
      (after : LockTable) :
      client.serve storage = (.ends outcome, left) →
      lock.act? (.release lock.heldAccounts) table = some (later, after) →
      Steps call patience lock storage table (.working client) ⟨.unlocking outcome, later⟩ left after
  | unlocks (outcome : Except Failure Record) (later : LockClient) (after : LockTable) :
      lock.act? .go table = some (later, after) →
      Steps call patience lock storage table (.unlocking outcome) ⟨.unlocking outcome, later⟩ storage after
  | answers (outcome : Except Failure Record) :
      lock.task = .outside →
      Steps call patience lock storage table (.unlocking outcome) ⟨.answered outcome, lock⟩ storage table
  | fails (outcome : Except Failure Record) (failure : Failure) :
      lock.task = .failed failure →
      Steps call patience lock storage table (.unlocking outcome) ⟨.answered (.error failure), lock⟩
        storage table

variable {caller later : Caller} {storage left : Storage} {table after : LockTable}

theorem acts?_eq_some {stage : Stage} {action : LockAction}
    (acted : caller.acts? stage action storage table = some (later, left, after)) :
    ∃ lock, caller.lock.act? action table = some (lock, after) ∧ later = ⟨stage, lock⟩ ∧ left = storage := by
  obtain ⟨⟨lock, _⟩, acted, same⟩ := Option.map_eq_some_iff.1 acted
  cases same
  exact ⟨lock, acted, rfl, rfl⟩

/-- A step does one of these things. -/
theorem steps_of_go? (went : call.go? patience caller storage table = some (later, left, after)) :
    call.Steps patience caller.lock storage table caller.stage later left after := by
  obtain ⟨stage, lock⟩ := caller
  unfold go? at went
  cases stage with
  | asked =>
    dsimp only at went
    unfold ask? at went
    cases prepared : Ledger.prepare call.engine call.movement call.amount call.description { storage } with
    | mk outcome ledger =>
      rw [prepared] at went
      cases outcome with
      | error failure =>
        cases went
        exact .refused failure ledger prepared
      | ok posting =>
        dsimp only at went
        cases timed : (call.engine.lockTimeout.orElse patience).seconds with
        | error failure =>
          rw [timed] at went
          cases went
          exact .untimed posting ledger failure prepared timed
        | ok seconds =>
          rw [timed] at went
          dsimp only at went
          cases waits : Locking.canWait seconds with
          | false =>
            rw [waits] at went
            cases went
            exact .overlong ledger seconds timed waits
          | true =>
            rw [waits] at went
            obtain ⟨lock, acted, rfl, rfl⟩ := acts?_eq_some went
            exact .setsOut posting ledger lock after prepared acted
  | locking posting =>
    dsimp only at went
    split at went
    · next outside =>
      split at went
      · next failure uncounted =>
        obtain ⟨lock, acted, rfl, rfl⟩ := acts?_eq_some went
        exact .uncounted posting failure lock after outside uncounted acted
      · next retry counted =>
        cases went
        exact .begins posting retry outside counted
    · next inside =>
      obtain ⟨lock, acted, rfl, rfl⟩ := acts?_eq_some went
      exact .locks posting lock after inside acted
  | working client =>
    dsimp only at went
    split at went
    · next later storage' served =>
      cases went
      exact .turns client later _ served
    · next outcome storage' served =>
      obtain ⟨lock, acted, rfl, rfl⟩ := acts?_eq_some went
      exact .ends client outcome _ lock after served acted
  | unlocking outcome =>
    dsimp only at went
    split at went
    · next outside =>
      cases went
      exact .answers outcome outside
    · next failure failed =>
      cases went
      exact .fails outcome failure failed
    · obtain ⟨lock, acted, rfl, rfl⟩ := acts?_eq_some went
      exact .unlocks outcome lock after acted
  | answered outcome => cases went

end Call

/-! ### The locks of a call -/

namespace Caller

/-- What a call has of the locks of its accounts: nothing before it sets out and once it is answered, and all of
them as long as it moves money. -/
def Tied (accounts : List Int) (caller : Caller) : Prop :=
  match caller.stage with
  | .asked | .answered _ => caller.lock.Idle
  | .locking _ => caller.lock.Nears accounts ∨ caller.lock.Has accounts
  | .working client => caller.lock.Has accounts ∧ client.Posts
  | .unlocking _ => caller.lock.Leaves

variable {caller later : Caller} {storage left : Storage} {table after : LockTable} {accounts : List Int}

/-- A call whose time is over was waiting, and gives back what it has. -/
theorem expire?_eq_some (expired : caller.expire? storage table = some (later, left, after)) :
    ∃ posting failure lock, caller.stage = .locking posting ∧
      caller.lock.act? .expire table = some (lock, after) ∧
      later = ⟨.unlocking (.error failure), lock⟩ ∧ left = storage := by
  obtain ⟨stage, lock⟩ := caller
  unfold expire? at expired
  split at expired
  · next posting taken next rest isStage waits =>
    obtain ⟨lock, acted, rfl, rfl⟩ := Call.acts?_eq_some expired
    exact ⟨posting, _, lock, isStage, acted, rfl, rfl⟩
  · cases expired

end Caller

namespace Call

variable {call : Call} {patience : Value} {caller later : Caller} {storage left : Storage}
  {table after : LockTable} {lock : LockClient} {stage : Stage}

/-- A step of a call leaves the locks alone, or is a step of a client of the lock table that does not set out for
locks while it has some. -/
def ActsAs (lock later : LockClient) (table after : LockTable) : Prop :=
  (later = lock ∧ after = table) ∨
    ∃ action : LockAction, action.nests = false ∧ lock.act? action table = some (later, after)

theorem Steps.actsAs (steps : call.Steps patience lock storage table stage later left after)
    (waitable : (call.engine.lockTimeout.orElse patience).IsWaitable) :
    ActsAs lock later.lock table after := by
  cases steps with
  | refused | untimed | begins | turns | answers | fails => exact Or.inl ⟨rfl, rfl⟩
  | overlong ledger seconds timed overlong =>
    rw [waitable seconds timed] at overlong
    cases overlong
  | setsOut posting ledger later after prepared acted => exact Or.inr ⟨_, rfl, acted⟩
  | locks posting later after inside acted => exact Or.inr ⟨_, rfl, acted⟩
  | uncounted posting failure later after outside failed acted => exact Or.inr ⟨_, rfl, acted⟩
  | ends client outcome left later after served acted => exact Or.inr ⟨_, rfl, acted⟩
  | unlocks outcome later after acted => exact Or.inr ⟨_, rfl, acted⟩

theorem Steps.tied (steps : call.Steps patience caller.lock storage table caller.stage later left after)
    (tied : caller.Tied call.movement.accounts) (sound : caller.lock.Sound) :
    later.Tied call.movement.accounts := by
  obtain ⟨stage, lock⟩ := caller
  cases steps with
  | refused | untimed | overlong => exact tied
  | setsOut posting ledger later after prepared acted =>
    obtain ⟨later', acted', nears⟩ := LockClient.Idle.hold tied call.movement.accounts table
    cases acted.symm.trans acted'
    exact Or.inl nears
  | locks posting later after inside acted =>
    rcases tied with nears | ⟨outside, -⟩
    · exact nears.go acted
    · exact absurd outside inside
  | uncounted posting failure later after outside failed acted =>
    obtain ⟨later', acted', leaves⟩ := (LockClient.Has.of_outside tied outside).release table
    cases acted.symm.trans acted'
    exact leaves
  | begins posting retry outside counted => exact ⟨.of_outside tied outside, trivial⟩
  | turns client later after served => exact ⟨tied.1, tied.2.serve served⟩
  | ends client outcome left later after served acted =>
    obtain ⟨later', acted', leaves⟩ := tied.1.release table
    cases acted.symm.trans acted'
    exact leaves
  | unlocks outcome later after acted => exact tied.go acted
  | answers outcome outside => exact tied.idle outside
  | fails outcome failure failed =>
    rw [LockClient.Sound, failed] at sound
    exact sound.elim

end Call

/-! ### Calls and the lock table -/

namespace Bank

variable {Name : Type}

/-- No call has a patience that is a time for which no clock can wait. -/
def Patient (calls : Name → Call) (bank : Bank Name) : Prop :=
  ∀ name, ((calls name).engine.lockTimeout.orElse bank.patience).IsWaitable

/-- Calls that keep to the locks of their accounts. -/
structure Sound [Fintype Name] (calls : Name → Call) (bank : Bank Name) : Prop where
  patient : bank.Patient calls
  orderly : bank.locks.Orderly
  ascending : bank.locks.Ascending
  tied : ∀ name, (bank.callers name).Tied (calls name).movement.accounts

variable {calls : Name → Call} {bank : Bank Name}

/-- A call that goes on, or whose time is over, leaves the locks alone or acts on them as a client of the
table. -/
theorem actsAs_of_move? {name : Name} {event : CallEvent} {caller : Caller} {storage : Storage}
    {table : LockTable} (patient : bank.Patient calls)
    (moved : (calls name).move? bank.patience event (bank.callers name) bank.storage bank.table =
      some (caller, storage, table)) :
    Call.ActsAs (bank.callers name).lock caller.lock bank.table table := by
  cases event with
  | go => exact (Call.steps_of_go? moved).actsAs (patient name)
  | expire =>
    obtain ⟨posting, failure, lock, -, acted, rfl, -⟩ := Caller.expire?_eq_some moved
    exact Or.inr ⟨_, rfl, acted⟩

section Step

variable [DecidableEq Name]

/-- One call goes on, or nothing happens. -/
theorem step_cases (calls : Name → Call) (bank : Bank Name) (event : Name × CallEvent) :
    (((calls event.1).move? bank.patience event.2 (bank.callers event.1) bank.storage bank.table = none ∧
        bank.step calls event = bank) ∨
      ∃ caller storage table,
        (calls event.1).move? bank.patience event.2 (bank.callers event.1) bank.storage bank.table =
          some (caller, storage, table) ∧
        bank.step calls event =
          { bank with storage, table, callers := Function.update bank.callers event.1 caller }) := by
  unfold step
  cases moved : (calls event.1).move? bank.patience event.2 (bank.callers event.1) bank.storage
      bank.table with
  | none => exact Or.inl ⟨rfl, rfl⟩
  | some went => exact Or.inr ⟨went.1, went.2.1, went.2.2, rfl, rfl⟩

theorem locks_update (storage : Storage) (table : LockTable) (name : Name) (caller : Caller) :
    locks { bank with storage, table, callers := Function.update bank.callers name caller } =
      { table, clients := Function.update bank.locks.clients name caller.lock } := by
  unfold locks
  refine congrArg _ (funext fun other ↦ ?_)
  dsimp only
  by_cases same : other = name
  · rw [same, Function.update_self, Function.update_self]
  · rw [Function.update_of_ne same, Function.update_of_ne same]

/-- A call that leaves the locks alone or acts on them as a client of the table does leaves a lock table that
its step makes of it. -/
theorem locks_of_actsAs {name : Name} {caller : Caller} {table : LockTable} (storage : Storage)
    (actsAs : Call.ActsAs (bank.callers name).lock caller.lock bank.table table) :
    let later : Bank Name :=
      { bank with storage, table, callers := Function.update bank.callers name caller }
    later.locks = bank.locks ∨
      ∃ action : LockAction, action.nests = false ∧ later.locks = bank.locks.step (name, action) := by
  dsimp only
  rw [locks_update]
  rcases actsAs with ⟨sameLock, rfl⟩ | ⟨action, plain, acted⟩
  · left
    rw [sameLock]
    exact congrArg (LockCrowd.mk bank.table) (Function.update_eq_self name bank.locks.clients)
  · right
    have acted' : (bank.locks.clients name).act? action bank.locks.table = some (caller.lock, table) := acted
    refine ⟨action, plain, ?_⟩
    rw [LockCrowd.step, acted']

variable [Fintype Name]

theorem Sound.step (sound : bank.Sound calls) (event : Name × CallEvent) :
    (bank.step calls event).Sound calls := by
  obtain ⟨name, event⟩ := event
  rcases bank.step_cases calls (name, event) with ⟨-, same⟩ | ⟨caller, storage, table, moved, same⟩
  · rw [same]
    exact sound
  rw [same]
  have tied : caller.Tied (calls name).movement.accounts := by
    cases event with
    | go => exact (Call.steps_of_go? moved).tied (sound.tied name) (sound.orderly.sound name)
    | expire =>
      obtain ⟨posting, failure, lock, stage, acted, rfl, -⟩ := Caller.expire?_eq_some moved
      have near := sound.tied name
      rw [Caller.Tied, stage] at near
      rcases near with nears | ⟨outside, -⟩
      · exact nears.expire acted
      · unfold LockClient.act? at acted
        rw [outside] at acted
        cases acted
  obtain ⟨orderly, ascending⟩ :
      (Bank.locks { bank with storage, table, callers := Function.update bank.callers name caller }).Orderly ∧
        (Bank.locks
          { bank with storage, table, callers := Function.update bank.callers name caller }).Ascending := by
    rcases locks_of_actsAs storage (actsAs_of_move? sound.patient moved) with
      same | ⟨action, plain, stepped⟩
    · rw [same]
      exact ⟨sound.orderly, sound.ascending⟩
    · rw [stepped]
      exact ⟨LockCrowd.orderly_step sound.orderly _, LockCrowd.ascending_step sound.ascending plain⟩
  refine ⟨sound.patient, orderly, ascending, fun other ↦ ?_⟩
  dsimp only
  by_cases same : other = name
  · rw [same, Function.update_self]
    exact tied
  · rw [Function.update_of_ne same]
    exact sound.tied other

theorem Sound.run (sound : bank.Sound calls) (events : List (Name × CallEvent)) :
    (bank.run calls events).Sound calls := by
  induction events generalizing bank with
  | nil => exact sound
  | cons event rest ih => exact ih (sound.step event)

end Step

variable [Fintype Name]

theorem sound_start (storage : Storage) {patience : Value}
    (patient : Patient calls { storage, patience }) : Sound calls { storage, patience } where
  patient := patient
  orderly := LockCrowd.orderly_start
  ascending _ := trivial
  tied _ := ⟨rfl, rfl⟩

/-- Calls that move money at the same time have no account in common. -/
theorem Sound.apart (sound : bank.Sound calls) {first second : Name} {mine theirs : Client}
    (isFirst : (bank.callers first).stage = .working mine)
    (isSecond : (bank.callers second).stage = .working theirs) {account : Int}
    (isMine : account ∈ (calls first).movement.accounts)
    (isTheirs : account ∈ (calls second).movement.accounts) : first = second := by
  have holds {name : Name} {client : Client} (works : (bank.callers name).stage = .working client)
      (involved : account ∈ (calls name).movement.accounts) :
      account ∈ (bank.locks.clients name).heldAccounts := by
    have tied := sound.tied name
    rw [Caller.Tied, works] at tied
    change account ∈ (bank.callers name).lock.heldAccounts
    rw [tied.1.heldAccounts_eq]
    exact Locking.mem_ordered.2 involved
  exact sound.orderly.exclusive (holds isFirst isMine) (holds isSecond isTheirs)

end Bank

end Passbook
