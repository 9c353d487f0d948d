import Passbook.Account.Basic
import Passbook.Money.Column
import Passbook.Transaction.Record

/-!
The tables: accounts, transactions and the audit trail. A row keeps its amount in the text form of its
column; `AccountRow.read` and `TransactionRow.read` give what a reader gets. Ids are handed out one above
the largest in use. A change of an account is conditional on the version that was read: `replace` touches
the account of the given id and version only, and raises the version by one. Main statements: an account
that is found has the id asked for (`account?_id`), a replaced account is found under its id
(`account?_replace_self`) and the others are as before (`account?_replace_other`).
-/

set_option autoImplicit false
set_option relaxedAutoImplicit false

namespace Passbook

/-- An account as the table holds it. -/
structure AccountRow where
  id : Int
  number : String
  owner : Int
  kind : AccountKind
  status : AccountStatus
  balance : String
  version : Int
deriving DecidableEq, Repr

/-- A transaction as the table holds it. -/
structure TransactionRow where
  id : Int
  reference : Reference
  movement : Movement
  status : TransactionStatus
  amount : String
  description : String
  recordedAt : Instant
deriving DecidableEq, Repr

/-- What happened to an account. -/
inductive AuditEvent where
  | opened (kind : AccountKind) (number : String) (owner : Int)
  | statusChanged (before after : AccountStatus) (reason : String)
deriving DecidableEq, Repr

namespace AuditEvent

/-- The type of an event. -/
def typeName : AuditEvent → String
  | .opened .. => "ACCOUNT_OPENED"
  | .statusChanged .. => "ACCOUNT_STATUS_CHANGED"

/-- The event in words. -/
def details : AuditEvent → String
  | .opened kind number owner =>
    kind.name ++ " account " ++ number ++ " opened for user " ++ toString owner
  | .statusChanged before after reason =>
    before.name ++ " -> " ++ after.name ++ if reason.isEmpty then "" else ": " ++ reason

end AuditEvent

/-- A row of the audit trail. -/
structure AuditRow where
  id : Int
  account : Int
  event : AuditEvent
deriving DecidableEq, Repr

/-- The tables, rows in the order in which they were added. -/
structure Database where
  accounts : List AccountRow := []
  transactions : List TransactionRow := []
  audit : List AuditRow := []
deriving DecidableEq, Repr

/-- The account as a reader gets it. -/
def AccountRow.read (row : AccountRow) : Except Failure Account := do
  let balance ← Money.readText row.balance
  return {
    id := row.id
    number := row.number
    owner := row.owner
    kind := row.kind
    status := row.status
    balance := balance
    version := row.version }

/-- The record as a reader gets it; a row that moves nothing has none. -/
def TransactionRow.read (row : TransactionRow) : Except Failure Record := do
  let amount ← Money.readText row.amount
  Record.make {
    movement := row.movement
    amount := .decimal amount
    description := some row.description
    status := row.status
    id := some row.id
    reference := some row.reference
    recordedAt := some row.recordedAt }

namespace Database

/-- One above the largest id, or one if there is none. -/
def nextId : List Int → Int
  | [] => 1
  | id :: rest => rest.foldl max id + 1

/-- The account with an id. -/
def account? (database : Database) (id : Int) : Option AccountRow :=
  database.accounts.find? (·.id == id)

/-- The account with a number. -/
def accountNumbered? (database : Database) (number : String) : Option AccountRow :=
  database.accounts.find? (·.number == number)

/-- All accounts by ascending id. -/
def accountsById (database : Database) : List AccountRow :=
  database.accounts.mergeSort fun left right ↦ left.id ≤ right.id

/-- The accounts of an owner by ascending id. -/
def accountsOf (database : Database) (owner : Int) : List AccountRow :=
  database.accountsById.filter (·.owner == owner)

/-- The transaction with an id. -/
def transaction? (database : Database) (id : Int) : Option TransactionRow :=
  database.transactions.find? (·.id == id)

/-- The transaction with a reference. -/
def transactionReferenced? (database : Database) (reference : Reference) : Option TransactionRow :=
  database.transactions.find? (·.reference == reference)

/-- Whether a transaction comes before another when the newest come first. -/
def isNewer (left right : TransactionRow) : Bool :=
  right.recordedAt < left.recordedAt || (left.recordedAt == right.recordedAt && right.id ≤ left.id)

/-- The transactions that touch an account, newest first. -/
def history (database : Database) (account : Int) : List TransactionRow :=
  (database.transactions.filter (·.movement.accounts.contains account)).mergeSort isNewer

/-- The database with one more account. -/
def addAccount (database : Database) (row : AccountRow) : Database :=
  { database with accounts := database.accounts ++ [row] }

/-- The database with one more transaction. -/
def addTransaction (database : Database) (row : TransactionRow) : Database :=
  { database with transactions := database.transactions ++ [row] }

/-- The database with one more event in the audit trail. -/
def addAudit (database : Database) (account : Int) (event : AuditEvent) : Database :=
  let id := nextId (database.audit.map (·.id))
  { database with audit := database.audit ++ [{ id, account, event }] }

/-- The account with an id, if it still has the version that was read. -/
def accountAt? (database : Database) (id version : Int) : Option AccountRow :=
  (database.account? id).filter (·.version == version)

/-- The database with the account of a row's id replaced. -/
def replace (database : Database) (row : AccountRow) : Database :=
  { database with accounts := database.accounts.map fun old ↦ if old.id = row.id then row else old }

/-- An account with a new balance, and its version raised. -/
def withBalance (row : AccountRow) (balance : String) : AccountRow :=
  { row with balance, version := row.version + 1 }

/-- An account with a new status, and its version raised. -/
def withStatus (row : AccountRow) (status : AccountStatus) : AccountRow :=
  { row with status, version := row.version + 1 }

theorem account?_id {database : Database} {id : Int} {row : AccountRow}
    (found : database.account? id = some row) : row.id = id := by
  simpa using List.find?_some found

theorem find?_map_replace (rows : List AccountRow) (row : AccountRow) (id : Int) :
    (rows.map fun old ↦ if old.id = row.id then row else old).find? (·.id == id) =
      (rows.find? (·.id == id)).map fun old ↦ if old.id = row.id then row else old := by
  induction rows with
  | nil => rfl
  | cons first rest ih =>
    by_cases same : first.id = row.id
    · by_cases wanted : row.id = id
      · simp [same, wanted]
      · simp [same, wanted, ih]
    · by_cases wanted : first.id = id
      · subst wanted
        simp [same]
      · simp [same, wanted, ih]

/-- A replaced account is found under its id. -/
theorem account?_replace_self {database : Database} {old row : AccountRow}
    (found : database.account? row.id = some old) :
    (database.replace row).account? row.id = some row := by
  have same := account?_id found
  unfold account? at found
  unfold account? replace
  rw [find?_map_replace, found]
  simp [same]

/-- The accounts that are not replaced are as before. -/
theorem account?_replace_other {database : Database} {row : AccountRow} {id : Int}
    (other : id ≠ row.id) : (database.replace row).account? id = database.account? id := by
  unfold account? replace
  rw [find?_map_replace]
  cases found : database.accounts.find? (·.id == id) with
  | none => rfl
  | some old =>
    have same : old.id = id := by simpa using List.find?_some found
    simp [same, other]

end Database

end Passbook
