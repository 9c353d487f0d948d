import Passbook.Lock.Table

/-!
Clients that wait for locks. A waiter goes through its accounts in ascending order: it becomes a user of
the next account's lock, and then takes the lock as soon as it is free. `Waiter.step?` is one such step
and `Waiter.advance` all that can be done without help.
-/

set_option autoImplicit false
set_option relaxedAutoImplicit false

namespace Passbook

/-- A client on its way to the locks of some accounts. -/
structure Waiter where
  /-- The accounts whose locks it holds. -/
  held : List Int := []
  /-- The lock that it waits for. -/
  awaited : Option Nat := none
  /-- The accounts that are still to be locked, from the one that it waits for on. -/
  remaining : List Int
deriving DecidableEq, Repr

namespace Waiter

/-- A client that wants the locks of some accounts. -/
def of (accounts : List Int) : Waiter := { remaining := Locking.ordered accounts }

/-- Whether the client has all its locks. -/
def isServed (waiter : Waiter) : Bool := waiter.remaining.isEmpty

/-- The next step on the way to all locks; none if the client has them or has to wait. -/
def step? (waiter : Waiter) (table : LockTable) : Option (Waiter × LockTable) :=
  match waiter.remaining, waiter.awaited with
  | [], _ => none
  | account :: _, none =>
    let (lock, table) := table.checkOut account
    some ({ waiter with awaited := some lock }, table)
  | account :: rest, some lock =>
    (table.take? lock).map fun table ↦
      ({ held := waiter.held ++ [account], awaited := none, remaining := rest }, table)

/-- At most so many steps. -/
def advanceBy : Nat → Waiter → LockTable → Waiter × LockTable
  | 0, waiter, table => (waiter, table)
  | more + 1, waiter, table =>
    match waiter.step? table with
    | none => (waiter, table)
    | some (waiter, table) => advanceBy more waiter table

/-- All steps that can be taken without help: two for each account at most. -/
def advance (waiter : Waiter) (table : LockTable) : Waiter × LockTable :=
  advanceBy (2 * waiter.remaining.length) waiter table

/-- All steps that waiting clients can take, one client after the other. -/
def advanceAll {Name : Type} :
    List (Name × Waiter) → LockTable → List (Name × Waiter) × LockTable
  | [], table => ([], table)
  | (name, waiter) :: rest, table =>
    let (waiter, table) := waiter.advance table
    let (rest, table) := advanceAll rest table
    ((name, waiter) :: rest, table)

end Waiter

end Passbook
