import Passbook.Storage.Session

/-!
Accounts in a unit of work. `load` always reads what the store holds, while looking up by number or
owner returns an account that the unit already holds as it was. A balance or a status is written only if
the account still has the version that was read, and every write raises the version.
-/

set_option autoImplicit false
set_option relaxedAutoImplicit false

namespace Passbook.Work

/-- Keeps an account in place of an older reading of it. -/
def remember (account : Account) : Work Unit :=
  modify fun session ↦
    { session with loaded := account :: session.loaded.filter (·.id != account.id) }

/-- The account of a row as the unit holds it; one that it does not hold yet is read. -/
def held (row : AccountRow) : Work Account := do
  match (← get).loaded.find? (·.id == row.id) with
  | some account => return account
  | none =>
    let account ← Procedure.ofExcept row.read
    remember account
    return account

/-- A row after another writer's intrusion. -/
def intruded (intrusion : Intrusion) (row : AccountRow) : AccountRow :=
  { row with
    balance := intrusion.balance.getD row.balance
    status := intrusion.status.getD row.status
    version := row.version + 1 }

/-- Lets another writer in, if one waits for the account. It writes to the committed database at once,
and cannot while this unit has writes of its own. -/
def admitIntruder (id : Int) : Work Unit := do
  let session ← get
  let (intrusion, intrusions) := Planned.next id session.storage.intrusions
  set { session with storage := { session.storage with intrusions } }
  match intrusion with
  | none => return
  | some intrusion =>
    if session.pending.isSome then throw (.trouble .locked)
    match session.storage.database.account? id with
    | none => return
    | some row =>
      let row := intruded intrusion row
      if Money.balanceHolds row.balance then
        modify fun session ↦
          { session with
            storage := { session.storage with database := session.storage.database.replace row } }
      else throw (.integrity (some .balanceCheck))

/-- The account with an id, as the store holds it now. -/
def load (id : Int) : Work (Option Account) := do
  let _ ← pass .load
  connect
  requireWord id
  match (← view).account? id with
  | none =>
    admitIntruder id
    return none
  | some row =>
    let account ← Procedure.ofExcept row.read
    remember account
    admitIntruder id
    return some account

/-- The account with a number. -/
def accountNumbered (number : String) : Work (Option Account) := do
  connect
  match (← view).accountNumbered? number with
  | none => return none
  | some row => return some (← held row)

/-- The accounts of an owner by ascending id. -/
def accountsOf (owner : Int) : Work (List Account) := do
  connect
  requireWord owner
  ((← view).accountsOf owner).mapM held

/-- What a column of amounts holds for a value. -/
def boundAmount (given : Value) : Work (Option String) :=
  match Money.bind .text given with
  | .ok (some (.text content)) => return some content
  | .ok (some (.number cents)) => return some cents.text
  | .ok none => return none
  | .error _ => throw .unstorable

/-- A new account before it is stored. Without an id the store hands one out, without a balance there is
none on it, and without an owner it is refused. -/
structure NewAccount where
  owner : Option Int
  kind : AccountKind
  status : AccountStatus := .active
  balance : Value := .absent
  id : Option Int := none
deriving Repr

/-- Adds an account and gives it the number that belongs to its id. This is one step here: the number under which
the row is written before its id is known, 32 digits of base sixteen and so that of no account, is left out. Once
the tables have refused the row, a store may have dropped what is pending and refuse every call up to a rollback;
such a unit is one that rolls back there. -/
def addAccount (new : NewAccount) : Work Account := do
  connect
  let offered := match new.balance with
    | .absent => Value.decimal (.finite false 0 Money.centExponent)
    | given => given
  let bound ← boundAmount offered
  requireWord (new.id.getD 0)
  requireWord (new.owner.getD 0)
  beginWrite
  let database ← view
  let some owner := new.owner | throw (.integrity (some .ownerPresent))
  let some balance := bound | throw (.integrity (some .balancePresent))
  if !Money.balanceHolds balance then throw (.integrity (some .balanceCheck))
  let id := new.id.getD (Database.nextId (database.accounts.map (·.id)))
  if (database.account? id).isSome then throw (.integrity (some .accountIdUnique))
  let number := Account.numberOf id
  if (database.accountNumbered? number).isSome then
    throw (.integrity (some .accountNumberUnique))
  let row : AccountRow :=
    { id, number, owner, kind := new.kind, status := new.status, balance, version := 1 }
  write (database.addAccount row)
  let account := { ← Procedure.ofExcept row.read with offered := some offered }
  remember account
  return account

/-- Writes a balance, unless the account has been written since the version that was read. -/
def writeBalance (id version : Int) (balance : Value) : Work Bool := do
  if ← pass .balanceWrite then return false
  connect
  let bound ← boundAmount balance
  requireWord id
  requireWord version
  beginWrite
  let database ← view
  match database.accountAt? id version with
  | none => return false
  | some row =>
    let some content := bound | throw (.integrity (some .balancePresent))
    if !Money.balanceHolds content then throw (.integrity (some .balanceCheck))
    write (database.replace (Database.withBalance row content))
    return true

/-- Writes a status, unless the account has been written since the version that was read. -/
def writeStatus (id version : Int) (status : AccountStatus) : Work Bool := do
  if ← pass .statusWrite then return false
  connect
  requireWord id
  requireWord version
  beginWrite
  let database ← view
  match database.accountAt? id version with
  | none => return false
  | some row =>
    write (database.replace (Database.withStatus row status))
    return true

end Passbook.Work
