import Passbook.Ledger.Retry
import Passbook.Value.Measure

/-!
Moving money. An engine has the ceilings, the patience for locks and the rule for trying again that its
operations follow. An operation first checks what it was given, touching nothing; then it holds the locks
of the accounts, in ascending order, for as long as it tries.
-/

set_option autoImplicit false
set_option relaxedAutoImplicit false

namespace Passbook

/-- What the operations of a ledger follow. Without a lock timeout the ledger's own patience counts; if
the tries cannot be counted, operations fail once they hold their locks. -/
structure Engine where
  ceilings : Ceilings
  lockTimeout : Value
  retry : Except Failure Retry
deriving Repr

/-- What may be chosen for an engine; all else comes from the settings. -/
structure EngineChoice where
  ceilings : Option Ceilings := none
  lockTimeout : Value := .absent
  maxAttempts : Value := .absent
  backoff : Value := .absent
deriving Repr

/-- The rule for trying again so many times, at least once, with a first pause. -/
def Retry.make (count backoff : Value) : Except Failure Retry := do
  let count ← count.tries
  if positive : 0 < count then return { maxAttempts := count, backoff, positive }
  else throw (.badValue (.noAttempts (toString count)))

/-- The engine of a choice. No ceilings at all count as none chosen, and something must be tried at
least once. -/
def Engine.make (choice : EngineChoice) (settings : Settings) : Except Failure Engine := do
  let ceilings :=
    match choice.ceilings with
    | some ceilings => if ceilings.entries.isEmpty then settings.ceilings else ceilings
    | none => settings.ceilings
  let count ← (choice.maxAttempts.orElse settings.maxAttempts).atLeastOne .noAttempts
  return {
    ceilings
    lockTimeout := choice.lockTimeout.orElse settings.lockTimeout
    retry := Retry.make count (choice.backoff.orElse settings.retryBackoff) }

/-- The newest transactions of an account, as often as somebody wants to read them. -/
structure History where
  account : Int
  limit : Value
deriving Repr

/-- A history in few words. -/
def History.summary (history : History) : String :=
  "<TransactionHistory account=" ++ toString history.account ++ " limit=" ++
    history.limit.asText ++ ">"

namespace Ledger

/-- The exact amount of a request, within the ceiling of its kind. -/
def checkAmount (engine : Engine) (kind : TransactionKind) (given : Value) : Action Decimal := do
  match Money.ofValue given with
  | .error failure =>
    match failure with
    | .ledger _ =>
      report .warning ("Rejected " ++ kind.name ++ ": invalid amount " ++ given.quoted)
    | _ => pure ()
    throw failure
  | .ok amount =>
    if ← Procedure.ofExcept (engine.ceilings.allow kind (.decimal amount)) then return amount
    else
      report .warning ("Rejected " ++ kind.name ++ ": amount " ++ amount.text ++ " out of range")
      let some ceiling := engine.ceilings.of? kind | throw .noEntry
      throw (.ledger (.invalidAmount (.outOfBounds kind ceiling amount)))

/-- The description of a request. -/
def checkText (kind : TransactionKind) (given : Value) : Action String := do
  match checkDescription given with
  | .ok description => return description
  | .error failure =>
    report .warning ("Rejected " ++ kind.name ++ ": invalid description")
    throw failure

/-- Refuses a transfer from an account to itself. -/
def checkAccounts (movement : Movement) : Action Unit := do
  match movement with
  | .transfer source destination =>
    if source = destination then
      report .warning ("Rejected transfer from account " ++ toString source ++ " to itself")
      throw (.ledger (.sameAccount (.integer source)))
  | _ => return

/-- A reference that no other transaction has. -/
def drawReference : Action Reference := do
  let ledger ← get
  set { ledger with storage := { ledger.storage with drawn := ledger.storage.drawn + 1 } }
  return .drawn ledger.storage.drawn

/-- Writes down the locks as they are. -/
def noteLocks : StateM Ledger Unit :=
  modify fun ledger ↦ { ledger with journal := ledger.journal ++ { lockings := [ledger.locks] } }

/-- One try of a posting. If it is not the first there is a pause before it, and it looks for what an earlier one
may have left. It reaches nothing but the store; the locks are written down in the pause and at both ends. -/
def tryOnce (posting : Posting) (number : Nat) : StateM Ledger (Except Failure Work.Posted) := do
  if 1 < number then noteLocks
  noteLocks
  let ledger ← get
  let (outcome, storage) := (Work.tryPosting posting (1 < number)).run ledger.storage
  set { ledger with storage }
  noteLocks
  return outcome

/-- Tries a posting until that has a final outcome. -/
def execute (engine : Engine) (posting : Posting) : Action Record := do
  let retry ← Procedure.ofExcept engine.retry
  let (outcome, journal) ← fun ledger ↦
    let (result, after) := retry.run (Subject.ofPosting posting) (tryOnce posting) ledger
    (Except.ok result, after)
  record journal
  Procedure.ofExcept outcome

/-- Posts a movement of an amount; the locks of its accounts are held meanwhile. -/
def post (engine : Engine) (movement : Movement) (amount description : Value) : Action Record := do
  let amount ← checkAmount engine movement.kind amount
  let description ← checkText movement.kind description
  checkAccounts movement
  let posting : Posting := { movement, amount, description, reference := ← drawReference }
  Procedure.ofExcept (Record.check movement (.decimal amount))
  let patience := engine.lockTimeout.orElse (← get).lockPatience
  Locking.hold patience movement.accounts fun _ ↦ execute engine posting

/-- The description of a movement that has none of its own. -/
def usualDescription : TransactionKind → String
  | .deposit => "Cash deposit"
  | .withdrawal => "Cash withdrawal"
  | .transfer => "Transfer"
  | .interest => "Interest credit"

/-- The committed balance of an account. -/
def balance (id : Int) : Action (Option Decimal) := do
  let work : Work (Option Decimal) := do
    Work.connect
    Work.requireWord id
    match (← Work.view).account? id with
    | none => return none
    | some row => return some (← Procedure.ofExcept row.read).balance
  running work

/-- The history of an account, of so many transactions or as many as the settings say. -/
def history (account : Int) (limit : Value) : Action History := do
  let limit := limit.orElse (← get).settings.historyLimit
  return { account, limit := ← Procedure.ofExcept (limit.atLeastOne .noHistory) }

/-- The records of a history, newest first. -/
def walk (history : History) : Action (List Record) := do
  let limit ← Procedure.ofExcept history.limit.rowCount
  running (Work.history history.account limit)

/-- The first so many records of a history. -/
def walkStart (history : History) (most : Nat) : Action (List Record) := do
  let limit ← Procedure.ofExcept history.limit.rowCount
  running (Work.historyStart history.account limit most)

end Ledger

end Passbook
