import Passbook.Ledger.Basic

/-!
Opening accounts, changing their status and looking them up. An account opens active and empty. A status
change is one of those that the life of an account allows, is written only if nobody wrote the account
meanwhile, and leaves its mark in the audit trail together with the change itself.
-/

set_option autoImplicit false
set_option relaxedAutoImplicit false

namespace Passbook

namespace Work

/-- Opens an account and records that. -/
def openAccount (owner : Option Int) (kind : AccountKind) : Work Account := do
  let account ← addAccount { owner, kind }
  recordEvent account.id (.opened kind account.number account.owner)
  commit
  return account

/-- Writes the change of the status of an account that was read, and records it. The change must be one
that the life of an account allows, and nobody may have written the account meanwhile. -/
def writeStatusChange (account : Account) (status : AccountStatus) (reason : String) : Work Unit := do
  if !account.status.mayBecome status then
    throw (.ledger (.invalidTransition (.integer account.id) account.status status))
  if !(← writeStatus account.id account.version status) then
    throw (.ledger (.conflict (.modified account.id)))
  recordEvent account.id (.statusChanged account.status status reason)

/-- Changes the status of an account; gives the status before that and the account as it is
afterwards. -/
def changeStatus (id : Int) (status : AccountStatus) (reason : String) :
    Work (AccountStatus × Account) := do
  let some account ← load id | throw (.ledger (.accountNotFound (.integer id)))
  writeStatusChange account status reason
  commit
  return (account.status, (← load id).getD account)

end Work

namespace Ledger

/-- Opens an active account without money for an owner, who must not be missing. -/
def openAccount (owner : Option Int) (kind : AccountKind) : Action Account := do
  let account ← running (Work.openAccount owner kind)
  report .info ("Account " ++ account.number ++ " opened for user " ++ toString account.owner)
  return account

/-- A change of status in words. -/
def statusChange (before after : AccountStatus) : String := before.name ++ " -> " ++ after.name

/-- Changes the status of an account. -/
def changeStatus (id : Int) (status : AccountStatus) (reason : String) : Action Account := do
  match ← attempting (Work.changeStatus id status reason) with
  | .ok (before, account) =>
    report .info ("Account " ++ toString id ++ " status changed: " ++ statusChange before status)
    return account
  | .error failure =>
    match failure with
    | .ledger (.invalidTransition _ current _) =>
      report .warning ("Rejected status change of account " ++ toString id ++ ": " ++
        statusChange current status)
    | _ => pure ()
    throw failure

/-- The account with an id. -/
def account (id : Int) : Action (Option Account) := running (Work.load id)

/-- The account with a number. -/
def accountNumbered (number : String) : Action (Option Account) :=
  running (Work.accountNumbered number)

/-- The accounts of an owner by ascending id. -/
def accountsOf (owner : Int) : Action (List Account) := running (Work.accountsOf owner)

end Ledger

end Passbook
