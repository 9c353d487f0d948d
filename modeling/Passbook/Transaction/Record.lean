import Passbook.Instant
import Passbook.Transaction.Reference

/-!
Transactions as callers see them. A `Movement` says which accounts money moves between; a `Record` adds
the amount and what is known of the transaction. `Record.make` refuses an amount that is not above zero
and a transfer of an account to itself, so it makes only records that move something.
-/

set_option autoImplicit false
set_option relaxedAutoImplicit false

namespace Passbook

/-- Where money moves. -/
inductive Movement where
  | deposit (account : Int)
  | withdrawal (account : Int)
  | interest (account : Int)
  | transfer (source destination : Int)
deriving DecidableEq, Repr

namespace Movement

/-- The kind of transaction. -/
def kind : Movement → TransactionKind
  | .deposit _ => .deposit
  | .withdrawal _ => .withdrawal
  | .interest _ => .interest
  | .transfer .. => .transfer

/-- The account that a row names first. -/
def source : Movement → Int
  | .deposit account | .withdrawal account | .interest account => account
  | .transfer source _ => source

/-- The account that a transfer goes to. -/
def destination? : Movement → Option Int
  | .transfer _ destination => some destination
  | _ => none

/-- All accounts involved. -/
def accounts (movement : Movement) : List Int :=
  movement.source :: movement.destination?.toList

/-- The movement of a kind between accounts; a destination belongs to a transfer only. -/
def between (kind : TransactionKind) (source destination : Int) : Movement :=
  match kind with
  | .deposit => .deposit source
  | .withdrawal => .withdrawal source
  | .interest => .interest source
  | .transfer => .transfer source destination

/-- The movement of a kind between the accounts of a list: a transfer takes two of them, all else one. -/
def ofAccounts (kind : TransactionKind) (accounts : List Int) : Except Failure Movement :=
  match kind, accounts with
  | .transfer, source :: destination :: _ => .ok (.transfer source destination)
  | .transfer, _ | _, [] => .error .noMember
  | kind, account :: _ => .ok (.between kind account account)

end Movement

/-- A transaction as callers see it; what the store adds is missing until it is stored. One that a
caller made without a description is stored with an empty one. -/
structure Record where
  movement : Movement
  amount : Value
  description : Option String := some ""
  status : TransactionStatus := .completed
  id : Option Int := none
  reference : Option Reference := none
  recordedAt : Option Instant := none
deriving Repr

namespace Record

/-- Whether an amount moves something along a movement. -/
def check (movement : Movement) (amount : Value) : Except Failure Unit := do
  let nothing ← (amount.isAtMost (.integer 0)).mapError .ofIncomparable
  if nothing then throw (.ledger (.invalidAmount (.notPositive amount)))
  match movement with
  | .transfer source destination =>
    if source = destination then throw (.ledger (.sameAccount (.integer source)))
  | _ => pure ()

/-- The record, unless it moves nothing. -/
def make (record : Record) : Except Failure Record := do
  check record.movement record.amount
  return record

end Record

end Passbook
