import Mathlib.Logic.Function.Basic
import Passbook.Proofs.Ledger.Isolation
import Passbook.Proofs.Ledger.Request

/-!
Clients that share one store and nothing else. A `World` is the store, what every client is at, and the
log of what has been committed. A client does one thing at a time: it reads one account or looks for one
record, or it writes all that its unit writes and commits that. Between two such turns of a client any
other client may take its own, another writer may write to an account (`Event.intrude`), and the store
may be disturbed in any way (`Event.disturb`). A client that is asked for something while it is at work
drops what it is at, as a process does that is started anew. `World.run` lets events happen in their
order, and `replay` is the same log one unit after the other, each on its own.
-/

set_option autoImplicit false
set_option relaxedAutoImplicit false

namespace Passbook

/-! ### What is committed -/

/-- What was committed as one unit. -/
inductive Deed where
  | posted (posting : Posting)
  | statusChanged (id : Int) (status : AccountStatus) (reason : String)
  | opened (owner : Option Int) (kind : AccountKind)
  | intruded (id : Int) (intrusion : Intrusion)
deriving Repr

/-- The tables that a unit of work leaves on a store, if it comes to a result. -/
def Work.tables {Result : Type} (work : Work Result) (storage : Storage) : Except Failure Database :=
  (work.run storage).1.map fun _ ↦ (work.run storage).2.database

/-- The same unit on its own, begun on some tables at an instant. -/
def Deed.perform (deed : Deed) (instant : Instant) (database : Database) : Except Failure Database :=
  let calm := Storage.calm database instant
  match deed with
  | .posted posting => (Work.tryPosting posting false).tables calm
  | .statusChanged id status reason => (Work.changeStatus id status reason).tables calm
  | .opened owner kind => (Work.openAccount owner kind).tables calm
  | .intruded id intrusion =>
    (Work.admitIntruder id).tables { calm with intrusions := [{ place := id, what := intrusion }] }

/-- Units on their own one after the other, each at the instant at which it was committed. -/
def replay (database : Database) (log : List (Deed × Instant)) : Except Failure Database :=
  log.foldlM (fun database entry ↦ entry.1.perform entry.2 database) database

/-! ### Clients -/

/-- One try of a posting, and how many there may be after it. -/
structure Try where
  posting : Posting
  retry : Retry
  number : Nat
  more : Nat
deriving Repr

/-- How far a client has come with what it was asked for. -/
inductive Progress where
  /-- A repeated try is about to look for the record of an earlier one. -/
  | looking (attempt : Try)
  /-- Some accounts of the posting have been read, and others not yet. -/
  | posting (attempt : Try) (read : List (Account × Direction)) (rest : List (Int × Direction))
  | changing (id : Int) (status : AccountStatus) (reason : String) (read : Option Account)
  /-- The change of status is permanent, and the account is about to be read once more. -/
  | rereading (id : Int)
  | opening (owner : Option Int) (kind : AccountKind)
deriving Repr

/-- The first try of a posting. -/
def Try.first (posting : Posting) (retry : Retry) : Try where
  posting := posting
  retry := retry
  number := 1
  more := retry.maxAttempts - 1

/-- A try that has read none of its accounts. -/
def Try.start (attempt : Try) : Progress := .posting attempt [] attempt.posting.movement.legs

/-- What comes after a try that failed. -/
def Try.failed (attempt : Try) (failure : Failure) : Option Progress :=
  match attempt.retry.verdict (.ofPosting attempt.posting) attempt.number failure with
  | .final _ _ => none
  | .again _ =>
    match attempt.more with
    | 0 => none
    | more + 1 =>
      match attempt.retry.pause attempt.number with
      | .error _ => none
      | .ok _ => some (.looking { attempt with number := attempt.number + 1, more })

/-- A client at work; between its turns it has no writes of its own. -/
structure Client where
  connected : Bool := false
  loaded : List Account := []
  committed : Bool := false
  progress : Progress
deriving Repr

/-- What one turn of a client comes to: the client, the store, and what was committed. -/
structure Turn where
  client : Option Client
  storage : Storage
  deed : Option Deed := none

/-- The unit of a client at the beginning of a turn. -/
def Client.session (client : Client) (storage : Storage) : Session :=
  { storage, connected := client.connected, loaded := client.loaded, committed := client.committed }

/-- A client that goes on with its unit; what is pending is dropped. -/
def Session.client (session : Session) (progress : Progress) : Client :=
  { connected := session.connected, loaded := session.loaded, committed := session.committed
    progress }

/-- A turn in which a client runs a part of its unit. After a failure the unit is over. -/
def Client.runs {Result : Type} (client : Client) (storage : Storage) (part : Work Result)
    (next : Result → Option Progress) (failed : Failure → Option Progress) : Turn :=
  match part (client.session storage) with
  | (.ok result, session) =>
    { client := (next result).map session.client, storage := session.storage }
  | (.error failure, session) =>
    { client := (failed failure).map fun progress ↦ { progress }, storage := session.storage }

/-- Writes that are made permanent. -/
def Work.committing {Result : Type} (writes : Work Result) : Work Unit := do
  let _ ← writes
  commit

/-- Whether writes become permanent: the commit gets past the point at which it may still fail without
any effect, be it reported or not. -/
def Work.takesEffect {Result : Type} (writes : Work Result) (session : Session) : Bool :=
  ((do let _ ← writes; pass .commit : Work Bool) session).1.isOk

/-- A turn in which a client writes and commits. -/
def Client.writes {Result : Type} (client : Client) (storage : Storage) (writes : Work Result)
    (deed : Deed) (next : Option Progress) (failed : Failure → Option Progress) : Turn :=
  { client.runs storage writes.committing (fun _ ↦ next) failed with
    deed := if writes.takesEffect (client.session storage) then some deed else none }

/-- What the opening of an account writes. -/
def Work.writeOpening (owner : Option Int) (kind : AccountKind) : Work Account := do
  let account ← addAccount { owner, kind }
  recordEvent account.id (.opened kind account.number account.owner)
  return account

/-- One turn of a client. -/
def Client.turn (client : Client) (storage : Storage) : Turn :=
  match client.progress with
  | .looking attempt =>
    client.runs storage (Work.lookup attempt.posting.reference)
      (fun found ↦ if found.isSome then none else some attempt.start) attempt.failed
  | .posting attempt read ((id, direction) :: rest) =>
    client.runs storage (Work.loadActive id)
      (fun account ↦ some (.posting attempt (read ++ [(account, direction)]) rest)) attempt.failed
  | .posting attempt read [] =>
    client.writes storage (Work.writePosting attempt.posting read) (.posted attempt.posting) none
      attempt.failed
  | .changing id status reason none =>
    client.runs storage (Work.load id)
      (fun loaded ↦ loaded.map fun account ↦ .changing id status reason (some account))
      fun _ ↦ none
  | .changing id status reason (some account) =>
    client.writes storage (Work.writeStatusChange account status reason)
      (.statusChanged id status reason) (some (.rereading id)) fun _ ↦ none
  | .rereading id => client.runs storage (Work.load id) (fun _ ↦ none) fun _ ↦ none
  | .opening owner kind =>
    client.writes storage (Work.writeOpening owner kind) (.opened owner kind) none fun _ ↦ none

/-- What a client is at once it has been asked for something; a request may be refused at once. -/
def Request.begin (request : Request) (storage : Storage) : Option Progress × Storage :=
  match request with
  | .openAccount owner kind => (some (.opening owner kind), storage)
  | .changeStatus id status reason => (some (.changing id status reason none), storage)
  | .post engine movement amount description =>
    match Ledger.prepare engine movement amount description { storage } with
    | (.error _, ledger) => (none, ledger.storage)
    | (.ok posting, ledger) =>
      match engine.retry with
      | .error _ => (none, ledger.storage)
      | .ok retry => (some (Try.first posting retry).start, ledger.storage)

/-! ### The world -/

/-- The store, what every client is at, and what has been committed at which instant. -/
structure World where
  storage : Storage
  clients : Nat → Option Client := fun _ ↦ none
  log : List (Deed × Instant) := []

/-- Something that happens in one step. -/
inductive Event where
  | ask (name : Nat) (request : Request)
  | go (name : Nat)
  | intrude (id : Int) (intrusion : Intrusion)
  | disturb (faults : List (Planned Point Fault)) (reachable : Bool) (clock : Instant)

namespace World

/-- Some tables, and nobody at work. -/
def start (database : Database) : World := { storage := { database } }

/-- The committed tables. -/
def database (world : World) : Database := world.storage.database

/-- One step of the world. -/
def step (world : World) : Event → World
  | .ask name request =>
    let (progress, storage) := request.begin world.storage
    let client := progress.map fun progress ↦ { progress }
    { world with storage, clients := Function.update world.clients name client }
  | .go name =>
    match world.clients name with
    | none => world
    | some client =>
      let turn := client.turn world.storage
      { storage := turn.storage
        clients := Function.update world.clients name turn.client
        log := world.log ++ (turn.deed.map (·, world.storage.clock)).toList }
  | .intrude id intrusion =>
    let deed := Deed.intruded id intrusion
    match world.database.account? id, deed.perform world.storage.clock world.database with
    | some _, .ok database =>
      { world with
        storage := { world.storage with database }
        log := world.log ++ [(deed, world.storage.clock)] }
    | _, _ => world
  | .disturb faults reachable clock =>
    { world with storage := { world.storage with faults, reachable, clock } }

/-- Events one after the other. -/
def run (world : World) (events : List Event) : World := events.foldl step world

end World

end Passbook
