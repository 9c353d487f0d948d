import Passbook.Storage.Accounts

/-!
The log of transactions and the audit trail in a unit of work. Rows are only ever added. What is
appended comes back as the caller gave it, with the id, the reference and the instant of its row; what is
looked up is read from the row.
-/

set_option autoImplicit false
set_option relaxedAutoImplicit false

namespace Passbook

/-- A transaction before it is stored, with nothing checked: the source may be missing, and a destination
may be missing or stand where none belongs. -/
structure NewTransaction where
  kind : TransactionKind
  source : Option Int
  destination : Option Int := none
  amount : Value
  description : String
  status : TransactionStatus := .completed
  id : Option Int := none
  reference : Option Reference := none
  recordedAt : Option Instant := none
deriving Repr

/-- The movement that a source and a destination make; a transfer has a destination and nothing else
has one. -/
def movementOf? (kind : TransactionKind) (source : Int) (destination : Option Int) : Option Movement :=
  match kind, destination with
  | .deposit, none => some (.deposit source)
  | .withdrawal, none => some (.withdrawal source)
  | .interest, none => some (.interest source)
  | .transfer, some destination => some (.transfer source destination)
  | _, _ => none

/-- The transaction of a record. -/
def NewTransaction.ofRecord (record : Record) : NewTransaction where
  kind := record.movement.kind
  source := some record.movement.source
  destination := record.movement.destination?
  amount := record.amount
  description := record.description.getD ""
  status := record.status
  reference := record.reference

namespace Work

/-- Adds a row to the transactions, which must keep the rules of the table. As with `addAccount`, a unit whose row is
refused is one that rolls back there. -/
def insertTransaction (new : NewTransaction) : Work TransactionRow := do
  connect
  let reference ← match new.reference with
    | some reference => pure reference
    | none => drawReference
  let recordedAt ← match new.recordedAt with
    | some instant => pure instant
    | none => now
  let bound ← boundAmount new.amount
  requireWord (new.id.getD 0)
  requireWord (new.source.getD 0)
  requireWord (new.destination.getD 0)
  beginWrite
  let database ← view
  let some source := new.source | throw (.integrity (some .sourcePresent))
  let some amount := bound | throw (.integrity (some .amountPresent))
  if !Money.amountHolds amount then throw (.integrity (some .amountCheck))
  let some movement := movementOf? new.kind source new.destination |
    throw (.integrity (some .destinationCheck))
  let id := new.id.getD (Database.nextId (database.transactions.map (·.id)))
  if (database.transaction? id).isSome then throw (.integrity (some .transactionIdUnique))
  if (database.transactionReferenced? reference).isSome then
    throw (.integrity (some .transactionReferenceUnique))
  let row : TransactionRow :=
    { id, reference, movement, status := new.status, amount, description := new.description
      recordedAt }
  write (database.addTransaction row)
  return row

/-- Appends a record to the log. -/
def append (record : Record) : Work Record := do
  let _ ← pass .append
  let row ← insertTransaction (.ofRecord record)
  return { record with
    id := some row.id
    reference := some row.reference
    recordedAt := some row.recordedAt }

/-- The transaction with an id. -/
def transaction (id : Int) : Work (Option Record) := do
  connect
  requireWord id
  match (← view).transaction? id with
  | none => return none
  | some row => return some (← Procedure.ofExcept row.read)

/-- The transaction with a reference. -/
def lookup (reference : Reference) : Work (Option Record) := do
  let _ ← pass .lookup
  connect
  match (← view).transactionReferenced? reference with
  | none => return none
  | some row => return some (← Procedure.ofExcept row.read)

/-- The rows of the newest transactions that touch an account; a negative limit is none. -/
def historyRows (account limit : Int) : Work (List TransactionRow) := do
  connect
  requireWord account
  requireWord limit
  let rows := (← view).history account
  return if limit < 0 then rows else rows.take limit.toNat

/-- The newest transactions that touch an account. -/
def history (account limit : Int) : Work (List Record) := do
  (← historyRows account limit).mapM fun row ↦ Procedure.ofExcept row.read

/-- The first so many of the newest transactions that touch an account. Rows are read one by one, and
only the row behind the last one wanted ends the reading; one that cannot be read is of no account if it
comes later. -/
def historyStart (account limit : Int) (most : Nat) : Work (List Record) := do
  let rows := (← historyRows account limit).take (most + 1)
  return (← rows.mapM fun row ↦ Procedure.ofExcept row.read).take most

/-- Adds an event to the audit trail. -/
def recordEvent (account : Int) (event : AuditEvent) : Work Unit := do
  write ((← view).addAudit account event)

end Work

end Passbook
