import Passbook.Failure

/-!
Planned disturbances of the store. Faults are queued at points of an operation, and intrusions of
another writer at accounts; each skips some calls of its point and then strikes some number of times.
Only the first of a point's queue is looked at.
-/

set_option autoImplicit false
set_option relaxedAutoImplicit false

namespace Passbook

/-- A point of an operation at which the store may fail. -/
inductive Point where
  | load
  | balanceWrite
  | statusWrite
  | append
  | lookup
  | commit
  /-- The commit has taken effect and is about to be reported. -/
  | acknowledgement
deriving DecidableEq, Repr

/-- How the store fails. -/
inductive Fault where
  | trouble
  | integrity
  | general
  | interrupted
  | conflict
  /-- A conditional write reports that it found nothing to write. -/
  | refusal
deriving DecidableEq, Repr

/-- The failure that a fault ends in; a refusal is none. -/
def Fault.failure? : Fault → Option Failure
  | .trouble => some (.trouble .injected)
  | .integrity => some (.integrity none)
  | .general => some .store
  | .interrupted => some (.interrupted "injected failure")
  | .conflict => some (.ledger (.conflict (.stated (.value (.text "injected conflict")))))
  | .refusal => none

/-- What another writer does to an account: it may set the balance and the status, and raises the
version. -/
structure Intrusion where
  balance : Option String := none
  status : Option AccountStatus := none
deriving DecidableEq, Repr

/-- Something that is to happen at a place, after some calls and then for some calls. -/
structure Planned (Place What : Type) where
  place : Place
  what : What
  times : Int := 1
  skip : Int := 0
deriving DecidableEq, Repr

/-- What happens at a place now, and what is planned from here on. -/
def Planned.next {Place What : Type} [DecidableEq Place] (place : Place) :
    List (Planned Place What) → Option What × List (Planned Place What)
  | [] => (none, [])
  | first :: rest =>
    if first.place = place then
      if 0 < first.skip then (none, { first with skip := first.skip - 1 } :: rest)
      else if 1 < first.times then (some first.what, { first with times := first.times - 1 } :: rest)
      else (some first.what, rest)
    else
      let (what, later) := next place rest
      (what, first :: later)

end Passbook
