import Passbook.Procedure
import Passbook.Storage.Database
import Passbook.Storage.Disruption

/-!
Units of work. A `Storage` is the committed database with what may disturb it; a `Session` is one unit's
view of it, whose writes are pending until they are committed. `Work` is what runs inside a unit, and
`Work.run` opens a unit, runs it and closes it. Only `commit` changes the committed database on behalf of
the unit: whatever is pending when the unit ends is dropped, however it ends.
-/

set_option autoImplicit false
set_option relaxedAutoImplicit false

namespace Passbook

/-- The committed database, and all that decides how the store behaves. -/
structure Storage where
  database : Database := {}
  /-- Whether a new connection can be made. -/
  reachable : Bool := true
  faults : List (Planned Point Fault) := []
  intrusions : List (Planned Int Intrusion) := []
  /-- The instant that the clock shows next. -/
  clock : Instant := Instant.start
  /-- How many references have been drawn. -/
  drawn : Nat := 0
deriving Repr

/-- One unit's view of the store. `loaded` are the accounts that the unit holds, as they were when they
were read; `pending` is the database with the unit's own writes, once there are any. -/
structure Session where
  storage : Storage
  pending : Option Database := none
  connected : Bool := false
  loaded : List Account := []
  committed : Bool := false
deriving Repr

/-- What runs inside a unit of work. -/
abbrev Work (Result : Type) := Procedure Failure Session Result

namespace Session

/-- A unit that has done nothing yet. -/
def opened (storage : Storage) : Session := { storage }

/-- The database as the unit sees it. -/
def view (session : Session) : Database := session.pending.getD session.storage.database

/-- The unit without its uncommitted writes. A unit that has talked to the store forgets what it
holds. -/
def rolledBack (session : Session) : Session :=
  { session with
    pending := none
    connected := false
    loaded := if session.connected then [] else session.loaded }

/-- The unit with its writes committed. -/
def published (session : Session) : Session :=
  { session with
    storage := { session.storage with database := session.view }
    pending := none
    connected := false }

/-- How a unit is left: by a failure that came before any commit it is rolled back. -/
def left (session : Session) (failed : Bool) : Session :=
  if failed && !session.committed then session.rolledBack else session

/-- What remains of a unit once it is closed: what is pending is dropped. -/
def closed (session : Session) : Storage := session.storage

end Session

namespace Work

/-- Goes through a point at which the store may fail; tells whether a write is to be refused. -/
def pass (point : Point) : Work Bool := do
  let session ← get
  let (fault, faults) := Planned.next point session.storage.faults
  set { session with storage := { session.storage with faults } }
  match fault with
  | none => return false
  | some fault =>
    match fault.failure? with
    | none => return true
    | some failure => throw failure

/-- Makes sure that the unit talks to the store. -/
def connect : Work Unit := do
  let session ← get
  if session.connected then return
  if session.storage.reachable then set { session with connected := true }
  else throw (.trouble .unreachable)

/-- Fails on a number that the store cannot hold. -/
def requireWord (number : Int) : Work Unit :=
  if fitsWord number then return else throw .overflow

/-- The database as the unit sees it. -/
def view : Work Database := return (← get).view

/-- Makes a database the unit's own view of it. -/
def write (database : Database) : Work Unit :=
  modify fun session ↦ { session with pending := some database }

/-- Makes sure that the unit is the one that writes; from here on no other writer gets in. -/
def beginWrite : Work Unit := do write (← view)

/-- The instant that the clock shows. -/
def now : Work Instant := do
  let session ← get
  set { session with storage := { session.storage with clock := session.storage.clock + 1 } }
  return session.storage.clock

/-- A reference that no other transaction has. -/
def drawReference : Work Reference := do
  let session ← get
  set { session with storage := { session.storage with drawn := session.storage.drawn + 1 } }
  return .drawn session.storage.drawn

/-- Makes the unit's writes permanent. -/
def commit : Work Unit := do
  let _ ← pass .commit
  modify Session.published
  let _ ← pass .acknowledgement
  modify fun session ↦ { session with committed := true }

/-- Drops the unit's uncommitted writes. -/
def rollback : Work Unit := modify Session.rolledBack

/-- Lets go of the accounts that were read: whoever looks one up later gets it as it is then. -/
def letGo : Work Unit := modify fun session ↦ { session with loaded := [] }

/-- Runs steps one after the other up to the first that fails; gives the results before it. -/
def inTurn {Result : Type} : List (Work Result) → StateM Session (List Result × Option Failure)
  | [] => return ([], none)
  | step :: rest => do
    match ← step.run with
    | .error failure => return ([], some failure)
    | .ok result =>
      let (results, failure) ← inTurn rest
      return (result :: results, failure)

/-- Runs the steps of a unit of work to its end, and tells whether its last commit was reported. -/
def performSteps {Result : Type} (steps : List (Work Result)) (storage : Storage) :
    (List Result × Option Failure) × Session :=
  let (outcome, session) := (inTurn steps).run (Session.opened storage)
  (outcome, session.left outcome.2.isSome)

/-- Runs a unit of work to its end. -/
def perform {Result : Type} (work : Work Result) (storage : Storage) :
    Except Failure Result × Session :=
  match work (Session.opened storage) with
  | (.ok result, session) => (.ok result, session.left false)
  | (.error failure, session) => (.error failure, session.left true)

/-- Runs a unit of work and closes it. -/
def run {Result : Type} (work : Work Result) (storage : Storage) :
    Except Failure Result × Storage :=
  let (outcome, session) := perform work storage
  (outcome, session.closed)

end Work

end Passbook
