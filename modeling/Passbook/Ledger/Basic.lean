import Passbook.Lock.Hold
import Passbook.Settings
import Passbook.Storage.Log

/-!
A ledger: the store, the locks, the settings, and what was reported and waited for. Every operation of a
ledger is an `Action`: it ends in a result or a failure and leaves a ledger either way.
-/

set_option autoImplicit false
set_option relaxedAutoImplicit false

namespace Passbook

/-- What was reported, how long was waited, and how the locks were meanwhile, in order. No operation reads it. -/
structure Journal where
  notices : List Notice := []
  pauses : List Binary64 := []
  /-- The locks in every pause and at both ends of every try. -/
  lockings : List LockTable := []
deriving Repr

/-- Two journals one after the other. -/
def Journal.append (first second : Journal) : Journal where
  notices := first.notices ++ second.notices
  pauses := first.pauses ++ second.pauses
  lockings := first.lockings ++ second.lockings

instance : Append Journal := ⟨Journal.append⟩

/-- A ledger. -/
structure Ledger where
  storage : Storage := {}
  locks : LockTable := {}
  /-- How long somebody who asks for locks directly waits for them. -/
  lockPatience : Value := .integer 0
  settings : Settings := {}
  journal : Journal := {}
deriving Repr

instance : LockKeeper Ledger where
  table ledger := ledger.locks
  withTable ledger locks := { ledger with locks }
  report ledger notices := { ledger with journal := ledger.journal ++ { notices } }

namespace Ledger

/-- What runs on a ledger. -/
abbrev Action (Result : Type) := Procedure Failure Ledger Result

/-- Adds to the journal. -/
def record (entries : Journal) : Action Unit :=
  modify fun ledger ↦ { ledger with journal := ledger.journal ++ entries }

/-- Reports a notice. -/
def report (severity : Severity) (text : String) : Action Unit :=
  record { notices := [⟨severity, text⟩] }

/-- Runs a unit of work on the ledger's store; its failure is a value here. -/
def attempting {Result : Type} (work : Work Result) : Action (Except Failure Result) :=
  fun ledger ↦
    let (outcome, storage) := work.run ledger.storage
    (.ok outcome, { ledger with storage })

/-- Runs a unit of work on the ledger's store. -/
def running {Result : Type} (work : Work Result) : Action Result := do
  Procedure.ofExcept (← attempting work)

/-- Takes the locks of accounts on behalf of somebody outside the operations. -/
def lock (accounts : List Int) : Action (List Int) := do
  Locking.acquireWithin (← get).lockPatience accounts

/-- Gives the locks of accounts back on behalf of somebody outside the operations. -/
def unlock (accounts : List Int) : Action Unit := Locking.within (Locking.release accounts)

end Ledger

end Passbook
