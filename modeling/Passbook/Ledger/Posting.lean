import Passbook.Ledger.Basic

/-!
Postings: movements of an exact amount. A posting is applied inside one unit of work: every account
involved is read and must be active, the new balances are worked out from what was read, and they are
written in ascending order of the accounts together with one record. `Posting.newBalances` is the pure
part in the middle; `Posting.attempt` is one try of the whole, which on every try but the first looks for
the record before it does anything.
-/

set_option autoImplicit false
set_option relaxedAutoImplicit false

namespace Passbook

/-- Whether a balance goes down or up. -/
inductive Direction where
  | debit
  | credit
deriving DecidableEq, Repr

/-- What a movement does to each account, in the order in which the accounts are read. -/
def Movement.legs : Movement → List (Int × Direction)
  | .deposit account | .interest account => [(account, .credit)]
  | .withdrawal account => [(account, .debit)]
  | .transfer source destination => [(source, .debit), (destination, .credit)]

/-- A movement of an exact amount that is to become one record. -/
structure Posting where
  movement : Movement
  amount : Decimal
  description : String
  reference : Reference
deriving Repr

namespace Posting

/-- The record that the posting is to become. -/
def record (posting : Posting) : Record where
  movement := posting.movement
  amount := .decimal posting.amount
  description := some posting.description
  reference := some posting.reference

/-- Compares two amounts, neither of which may be anything but a number. -/
def order (left right : Decimal) : Except Failure Ordering :=
  match left.compare? right with
  | some order => .ok order
  | none => .error .undefined

/-- The result of a decimal operation that must have one. -/
def defined (result : Option Decimal) : Except Failure Decimal :=
  match result with
  | some number => .ok number
  | none => .error .undefined

/-- The failure of an account that holds less than is asked of it. -/
def insufficient (account : Account) (requested : Decimal) : Failure :=
  .ledger (.insufficientFunds (.integer account.id) (.decimal account.balance) (.decimal requested))

/-- The balance of an account after an amount has gone or come; what goes must be there. -/
def newBalance (account : Account) (direction : Direction) (amount : Decimal) :
    Except Failure Decimal :=
  match direction with
  | .credit => defined (account.balance.add amount)
  | .debit => do
    if (← order account.balance amount) = .lt then throw (insufficient account amount)
    defined (account.balance.sub amount)

/-- The new balances of the accounts that were read, in ascending order of the accounts. -/
def newBalances (amount : Decimal) (read : List (Account × Direction)) :
    Except Failure (List (Account × Decimal)) := do
  let changes ← read.mapM fun (account, direction) ↦ do
    return (account, ← newBalance account direction amount)
  return changes.mergeSort fun left right ↦ left.1.id ≤ right.1.id

end Posting

namespace Work

/-- An account on which money may move. -/
def loadActive (id : Int) : Work Account := do
  let some account ← load id | throw (.ledger (.accountNotFound (.integer id)))
  if account.status.isEligible then return account
  else throw (.ledger (.accountNotActive (.integer id) account.status))

/-- Writes the new balance of an account that was read; it must not be below zero, and nobody may have
written the account meanwhile. -/
def changeBalance (account : Account) (balance : Decimal) : Work Unit := do
  if (← Procedure.ofExcept (Posting.order balance .zero)) = .lt then
    let requested ← Procedure.ofExcept (Posting.defined (account.balance.sub balance))
    throw (Posting.insufficient account requested)
  if !(← writeBalance account.id account.version (.decimal balance)) then
    throw (.ledger (.conflict (.modified account.id)))

/-- Reads the accounts of a posting. -/
def readLegs (posting : Posting) : Work (List (Account × Direction)) :=
  posting.movement.legs.mapM fun (id, direction) ↦ do return (← loadActive id, direction)

/-- Writes what a posting does to the accounts that were read, and its record. -/
def writePosting (posting : Posting) (read : List (Account × Direction)) : Work Record := do
  let changes ← Procedure.ofExcept (Posting.newBalances posting.amount read)
  changes.forM fun (account, balance) ↦ changeBalance account balance
  append posting.record

/-- Applies a posting. -/
def applyPosting (posting : Posting) : Work Record := do
  writePosting posting (← readLegs posting)

/-- A record that one try of a posting ended with: applied by it, or found as an earlier try left it. -/
inductive Posted where
  | applied (record : Record)
  | found (record : Record)
deriving Repr

/-- The record of a posting. -/
def Posted.record : Posted → Record
  | .applied record | .found record => record

/-- Applies a posting and makes it permanent. -/
def applyAndCommit (posting : Posting) : Work Posted := do
  let record ← applyPosting posting
  commit
  return .applied record

/-- One try of a posting. A repeated try first looks whether an earlier one took effect after all. -/
def tryPosting (posting : Posting) (repeated : Bool) : Work Posted := do
  if repeated then
    match ← lookup posting.reference with
    | some record => return .found record
    | none => applyAndCommit posting
  else applyAndCommit posting

end Work

end Passbook
