/-!
The tables of a ledger and how they come about. A revision creates the tables and their indexes, and
going back to the base removes them; only a table that remembers the revision stays. As long as nobody
has asked for a revision there is not even that. `Revision.objects` is what exists then.
-/

set_option autoImplicit false
set_option relaxedAutoImplicit false

namespace Passbook.Schema

/-- A column of a table. -/
structure Column where
  name : String
  required : Bool := true
  key : Bool := false
deriving DecidableEq, Repr

/-- A table with its columns and the indexes on it. -/
structure Table where
  name : String
  columns : List Column
  indexes : List String
deriving DecidableEq, Repr

/-- Accounts. -/
def accounts : Table where
  name := "accounts"
  columns := [
    { name := "id", key := true },
    { name := "external_id" },
    { name := "account_number" },
    { name := "user_id" },
    { name := "account_type" },
    { name := "status" },
    { name := "balance" },
    { name := "version" },
    { name := "created_at" },
    { name := "updated_at" }]
  indexes := ["ix_accounts_account_number", "ix_accounts_user_id"]

/-- The audit trail. -/
def audit : Table where
  name := "audit_log"
  columns := [
    { name := "id", key := true },
    { name := "event_type" },
    { name := "account_id", required := false },
    { name := "details" },
    { name := "created_at" }]
  indexes := ["ix_audit_log_account_id"]

/-- The log of transactions. -/
def transactions : Table where
  name := "transactions"
  columns := [
    { name := "id", key := true },
    { name := "external_id" },
    { name := "transaction_type" },
    { name := "status" },
    { name := "source_account_id" },
    { name := "destination_account_id", required := false },
    { name := "amount" },
    { name := "description" },
    { name := "created_at" }]
  indexes := ["ix_transactions_created_at", "ix_transactions_destination_account_id",
    "ix_transactions_source_account_id"]

/-- Where the tables stand. -/
inductive Revision where
  /-- There are no tables. -/
  | base
  /-- The ledger's tables exist. -/
  | first
deriving DecidableEq, Repr

/-- The identifier of the revision that creates the tables. -/
def firstName : String := "0001"

/-- The table that remembers the revision. -/
def revisionTable : String := "alembic_version"

/-- The tables of a revision. -/
def Revision.tables : Revision → List Table
  | .base => []
  | .first => [accounts, audit, transactions]

/-- The indexes and tables that exist, by kind and name. -/
def Revision.objects (revision : Revision) : List (String × String) :=
  let indexes := revision.tables.flatMap (·.indexes)
  let tables := (revision.tables.map (·.name) ++ [revisionTable]).mergeSort (· ≤ ·)
  indexes.map (("index", ·)) ++ tables.map (("table", ·))

end Passbook.Schema
