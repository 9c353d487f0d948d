import Passbook.Binary64.Fixed
import Passbook.Failure
import Passbook.Lock.Registry
import Passbook.Notice
import Passbook.Procedure

/-!
Locks on accounts. The table keeps a lock for an account only as long as somebody uses it, that is,
holds it, waits for it or is about to give it back, and counts those users. The steps `checkOut`,
`take?`, `drop?` and `checkIn?` are each done at once; `acquire`, `release` and `hold` are made of them,
for a client with nobody else acting meanwhile. Accounts are locked in ascending order, and one that
cannot be had in time gives back all that was taken.
-/

set_option autoImplicit false
set_option relaxedAutoImplicit false

namespace Passbook

/-- The locks that are in use. A lock is named by the number that it was made under. -/
structure LockTable where
  /-- The lock of each account in use. -/
  live : Registry Nat := {}
  /-- How many hold an account's lock, wait for it or are about to give it back. -/
  users : Registry Nat := {}
  /-- The locks that are taken. -/
  taken : List Nat := []
  /-- The number of the next lock. -/
  next : Nat := 0
deriving DecidableEq, Repr

namespace LockTable

/-- How many accounts have a lock. -/
def activeCount (table : LockTable) : Nat := table.live.size

/-- One more user of an account's lock, which is made if there is none. -/
def checkOut (table : LockTable) (account : Int) : Nat × LockTable :=
  match table.live.get? account with
  | some lock =>
    (lock, { table with users := table.users.put account ((table.users.get? account).getD 0 + 1) })
  | none =>
    (table.next,
      { table with
        live := table.live.put account table.next
        users := table.users.put account 1
        next := table.next + 1 })

/-- One user less of an account's lock, which is given up with the last; none without any user. -/
def checkIn? (table : LockTable) (account : Int) : Option LockTable :=
  match table.users.get? account with
  | none => none
  | some count =>
    if count - 1 = 0 then
      some { table with live := table.live.erase account, users := table.users.erase account }
    else some { table with users := table.users.put account (count - 1) }

/-- Takes a lock, unless it is taken. -/
def take? (table : LockTable) (lock : Nat) : Option LockTable :=
  if table.taken.contains lock then none else some { table with taken := lock :: table.taken }

/-- Gives a lock back; none if it is not taken. -/
def drop? (table : LockTable) (lock : Nat) : Option LockTable :=
  if table.taken.contains lock then some { table with taken := table.taken.filter (· != lock) }
  else none

/-- Whether an account is locked. -/
def isLocked (table : LockTable) (account : Int) : Bool :=
  match table.live.get? account with
  | some lock => table.taken.contains lock
  | none => false

end LockTable

/-- What runs on the lock table. -/
abbrev Locking (Result : Type) := Procedure Failure LockTable Result

namespace Locking

/-- Whether a clock can wait for so long: a number of seconds is counted in words of nanoseconds. -/
def canWait : Binary64 → Bool
  | .finite negative significand exponent =>
    (Binary64.finite negative significand exponent).toDecimal.compare?
      (.finite false 9223372036854775 (-6)) != some .gt
  | .infinite negative => negative
  | .notNumber => true

/-- The distinct accounts in ascending order. -/
def ordered (accounts : List Int) : List Int :=
  (accounts.mergeSort (· ≤ ·)).eraseReps

/-- One more user of an account's lock. -/
def checkOut (account : Int) : Locking Nat :=
  fun table ↦
    let (lock, table) := table.checkOut account
    (.ok lock, table)

/-- One user less of an account's lock. -/
def checkIn (account : Int) : Locking Unit := do
  match (← get).checkIn? account with
  | some table => set table
  | none => throw .noEntry

/-- Takes one account's lock; nobody gives it back while this client waits for it. -/
def takeOne (timeout : Binary64) (account : Int) : Locking Unit := do
  let lock ← checkOut account
  if !canWait timeout then throw .overflow
  match (← get).take? lock with
  | some table => set table
  | none =>
    checkIn account
    throw (.ledger (.conflict (.lockTimeout account)))

/-- Gives one account's lock back. -/
def releaseOne (account : Int) : Locking Unit := do
  let some lock := (← get).live.get? account | throw .noEntry
  let some table := (← get).drop? lock | throw (.interrupted "release unlocked lock")
  set table
  checkIn account

/-- Gives the locks of accounts back, the largest account first. -/
def release (accounts : List Int) : Locking Unit :=
  (accounts.mergeSort (· ≥ ·)).forM releaseOne

/-- Takes the locks of ordered accounts, behind those that are held. -/
def acquireFrom (timeout : Binary64) (held : List Int) : List Int → Locking (List Int)
  | [] => return held
  | account :: rest => do
    tryCatch (takeOne timeout account) fun failure ↦ do
      release held
      throw failure
    acquireFrom timeout (held ++ [account]) rest

/-- Takes the locks of accounts in ascending order, or none of them. -/
def acquire (timeout : Binary64) (accounts : List Int) : Locking (List Int) :=
  acquireFrom timeout [] (ordered accounts)

/-- The notice about an acquisition that did not get its locks in time. -/
def timeoutNotices (timeout : Binary64) : Failure → List Notice
  | .ledger (.conflict (.lockTimeout account)) =>
    [⟨.warning, "Timed out after " ++ timeout.fixed 2 ++ "s waiting for lock on account " ++
      toString account⟩]
  | _ => []

end Locking

end Passbook
