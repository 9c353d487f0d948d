import Passbook.Lock.Waiter
import Passbook.Value.Measure

/-!
Holding locks around something else. Whatever keeps a lock table can run a body while the locks of some
accounts are held: `hold` takes them, runs the body and gives them back however the body ends. A desk
(`LockDesk`) keeps a table together with the clients that wait for locks of it.
-/

set_option autoImplicit false
set_option relaxedAutoImplicit false

namespace Passbook

/-- What keeps a lock table and collects notices. -/
class LockKeeper (State : Type) where
  table : State → LockTable
  withTable : State → LockTable → State
  report : State → List Notice → State

instance : LockKeeper LockTable where
  table := id
  withTable _ table := table
  report table _ := table

namespace Locking

variable {State : Type} [LockKeeper State] {Result : Type}

/-- Runs on the lock table of whatever keeps one. -/
def within (locking : Locking Result) : Procedure Failure State Result :=
  fun state ↦
    let (outcome, table) := locking (LockKeeper.table state)
    (outcome, LockKeeper.withTable state table)

/-- Takes the locks of accounts, and reports if that took too long. A timeout of which a clock makes
nothing is a failure before any lock is touched. -/
def acquireWithin (timeout : Value) (accounts : List Int) : Procedure Failure State (List Int) := do
  let timeout ← Procedure.ofExcept timeout.seconds
  tryCatch (within (acquire timeout accounts)) fun failure ↦ do
    modify fun state ↦ LockKeeper.report state (timeoutNotices timeout failure)
    throw failure

/-- Runs a body while the locks of accounts are held. If they cannot be given back as they were taken,
that is the failure. -/
def hold (timeout : Value) (accounts : List Int)
    (body : List Int → Procedure Failure State Result) :
    Procedure Failure State Result := do
  let held ← acquireWithin timeout accounts
  let outcome ← Procedure.attempt (body held)
  within (release held)
  Procedure.ofExcept outcome

end Locking

/-- A lock table, the clients that wait for its locks by name, and what was reported. -/
structure LockDesk where
  table : LockTable := {}
  waiters : List (String × Waiter) := []
  defaultTimeout : Value
  notices : List Notice := []
deriving Repr

instance : LockKeeper LockDesk where
  table desk := desk.table
  withTable desk table := { desk with table }
  report desk notices := { desk with notices := desk.notices ++ notices }

namespace LockDesk

/-- What runs at a desk. -/
abbrev Action (Result : Type) := Procedure Failure LockDesk Result

/-- The timeout that was asked for, or else the desk's own. -/
def timeoutOr (asked : Value) : Action Value := return asked.orElse (← get).defaultTimeout

/-- Takes the locks of accounts. -/
def acquire (timeout : Value) (accounts : List Int) : Action (List Int) := do
  Locking.acquireWithin (← timeoutOr timeout) accounts

/-- Gives the locks of accounts back. -/
def release (accounts : List Int) : Action Unit := Locking.within (Locking.release accounts)

/-- Runs a body while the locks of accounts are held. -/
def hold {Result : Type} (timeout : Value) (accounts : List Int)
    (body : List Int → Action Result) : Action Result := do
  Locking.hold (← timeoutOr timeout) accounts body

/-- Lets every waiting client go on as far as it can. -/
def settle (desk : LockDesk) : LockDesk :=
  let (waiters, table) := Waiter.advanceAll desk.waiters desk.table
  { desk with waiters, table }

/-- Another client that wants the locks of accounts, and goes as far as it can. -/
def enter (name : String) (accounts : List Int) (desk : LockDesk) : LockDesk :=
  settle { desk with waiters := desk.waiters ++ [(name, Waiter.of accounts)] }

/-- The accounts that a client has locked; none if it still waits. -/
def served? (desk : LockDesk) (name : String) : Option (List Int) :=
  match desk.waiters.lookup name with
  | some waiter => if waiter.isServed then some waiter.held else none
  | none => none

end LockDesk

end Passbook
