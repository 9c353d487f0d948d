import Passbook.Proofs.History.AppendOnly
import Passbook.Proofs.Money.Order
import Passbook.Proofs.Storage.Calls

/-!
The log of transactions as it grows, whoever writes. A log has its rows under ascending ids and all of them can
be read (`Database.IsLog`); to extend one is to add rows behind it and leave a log (`Database.Extends`). A unit
of a caller's own never loses what was there when it was opened, neither in its own tables nor in the committed
ones (`Session.Grown`). `Database.Develops` are the states that the tables come to: through units of callers,
whatever the store does and whoever else writes to accounts meanwhile, through requests, and through the steps
of clients among each other. Main statement: all of these extend the log (`Database.Develops.extends`).
-/

set_option autoImplicit false
set_option relaxedAutoImplicit false

namespace Passbook

open Procedure Session Work

namespace Database

/-- Every transaction has a larger id than those before it, and can be read. -/
structure IsLog (database : Database) : Prop where
  ascending : database.transactions.Pairwise fun earlier later ↦ earlier.id < later.id
  readable : ∀ row ∈ database.transactions, ∃ record, row.read = .ok record

/-- Transactions were only added behind those that there were, and a log is still one. -/
structure Extends (before after : Database) : Prop where
  isPrefix : before.transactions <+: after.transactions
  isLog : before.IsLog → after.IsLog

theorem isLog_empty : IsLog {} := ⟨.nil, fun _ member ↦ by cases member⟩

variable {before middle after : Database}

namespace Extends

theorem of_same (same : after.transactions = before.transactions) : before.Extends after :=
  ⟨same ▸ List.prefix_rfl, fun isLog ↦ ⟨same ▸ isLog.ascending, same ▸ isLog.readable⟩⟩

theorem refl (database : Database) : database.Extends database := of_same rfl

theorem trans (begins : before.Extends middle) (goesOn : middle.Extends after) : before.Extends after :=
  ⟨begins.isPrefix.trans goesOn.isPrefix, fun isLog ↦ goesOn.isLog (begins.isLog isLog)⟩

/-- A log is extended by a row that can be read and has a larger id than all others. -/
theorem of_added {row : TransactionRow} (added : after.transactions = before.transactions ++ [row])
    (above : ∀ other ∈ before.transactions, other.id < row.id)
    (readable : ∃ record, row.read = .ok record) : before.Extends after := by
  refine ⟨⟨[row], added.symm⟩, fun isLog ↦ ⟨?_, ?_⟩⟩
  · rw [added, List.pairwise_append]
    refine ⟨isLog.ascending, List.pairwise_singleton _ _, fun other there new isNew ↦ ?_⟩
    obtain rfl := List.mem_singleton.1 isNew
    exact above other there
  · intro other member
    rw [added] at member
    rcases List.mem_append.1 member with there | isNew
    · exact isLog.readable other there
    · obtain rfl := List.mem_singleton.1 isNew
      exact readable

end Extends

/-- What a transaction was found under is still where it is found. -/
theorem Extends.find? {row : TransactionRow} (extends' : before.Extends after)
    {wanted : TransactionRow → Bool} (found : before.transactions.find? wanted = some row) :
    after.transactions.find? wanted = some row := by
  obtain ⟨added, same⟩ := extends'.isPrefix
  rw [← same, List.find?_append, found]
  rfl

end Database

/-! ### One row -/

namespace Work.Becomes

variable {record : Record} {database : Database} {cents : Decimal} {row : TransactionRow}

/-- The amount of a row that was appended is a number of cents above zero. -/
theorem positive (becomes : Becomes record database cents row) :
    ∃ number, cents.cents? = some number ∧ 0 < number :=
  (Money.amountHolds_rounded becomes.brought).1 becomes.holds

/-- The row is read as the record, with the amount in cents and what the store has added. -/
theorem read (becomes : Becomes record database cents row)
    (moves : Record.check record.movement record.amount = .ok ⟨⟩) :
    row.read = .ok { storedAs record row with
      amount := .decimal cents, description := some (record.description.getD "") } := by
  obtain ⟨number, whole, positive⟩ := becomes.positive
  have checked := check_of_positive whole positive (apart_of_check moves)
  have reads := read_rowOf whole checked row.reference
    (Database.nextId (database.transactions.map (·.id))) row.recordedAt
  rw [← becomes.row] at reads
  rw [reads, becomes.row]
  rfl

theorem above (becomes : Becomes record database cents row) :
    ∀ other ∈ database.transactions, other.id < row.id := by
  intro other there
  rw [becomes.row]
  exact Database.lt_nextId (List.mem_map_of_mem there)

end Work.Becomes

/-- The row that a call writes extends the log. -/
theorem Database.Wrote.extends {before after : Database} {call : StoreCall}
    (wrote : before.Wrote call after) : before.Extends after := by
  cases wrote with
  | transaction record row cents moves becomes =>
    exact .of_added rfl becomes.above ⟨_, becomes.read moves⟩
  | balance _ _ _ row cents _ writes => exact .of_same (writes.written ▸ rfl)
  | status | account | event => exact .of_same rfl

/-! ### Units of callers -/

/-- Both the tables that a unit sees and the committed ones extend a log. -/
structure Session.Grown (first : Database) (session : Session) : Prop where
  committed : first.Extends session.storage.database
  seen : first.Extends session.view

theorem Session.Grown.of_fresh {session : Session} (fresh : session.pending = none) :
    session.Grown session.storage.database := by
  refine ⟨.refl _, ?_⟩
  rw [Session.view, fresh]
  exact .refl _

theorem Session.Grown.of_goes {first : Database} {before after : Session} {call : StoreCall}
    (grown : before.Grown first) (goes : call.Goes before after) : after.Grown first := by
  cases goes with
  | looked looks =>
    exact ⟨grown.committed.trans (.of_same looks.log.kept), grown.seen.trans (.of_same looks.log.seen)⟩
  | wrote wrote kept => exact ⟨kept ▸ grown.committed, grown.seen.trans wrote.extends⟩
  | committed _ seen made => exact ⟨made ▸ grown.seen, seen ▸ grown.seen⟩
  | rolledBack _ seen kept => exact ⟨kept ▸ grown.committed, seen ▸ grown.committed⟩

/-- A unit in which nothing is pending extends the committed log, wherever it breaks off. -/
theorem StoreCall.forM_extends (calls : List StoreCall) {session : Session}
    (fresh : session.pending = none) :
    session.storage.database.Extends (calls.forM work session).2.storage.database :=
  (forM_induct (Session.Grown session.storage.database)
    (fun _ _ _ _ grown goes ↦ grown.of_goes goes) (.of_fresh fresh)).committed

/-! ### Requests and clients -/

theorem Database.extends_of_posted {posting : Posting} {cents : Int} {row : TransactionRow}
    {before after : Database} (moves : posting.Moves cents) (posted : before.Posted posting cents row after)
    (records : before.Records after) : before.Extends after := by
  obtain ⟨added, recorded, above⟩ := records
  obtain rfl : added = [row] := List.append_cancel_left (recorded.symm.trans posted.recorded)
  exact .of_added posted.recorded (above row List.mem_cons_self) (posted.read moves)

theorem Request.extends (request : Request) {ledger : Ledger} (alone : ledger.storage.intrusions = []) :
    ledger.storage.database.Extends (request.perform ledger).storage.database := by
  rcases request.perform_cases alone with same | done
  · rw [same]
    exact .refl _
  · cases done with
    | opened _ _ row opened => exact .of_same opened.transactions
    | statusChanged _ _ _ old changed => exact .of_same changed.transactions
    | posted engine movement amount description row applied =>
      obtain ⟨posting, cents, -, -, moves, posted⟩ := applied
      exact Database.extends_of_posted moves posted
        (Ledger.post_records engine movement amount description alone)

/-- A posting that is tried on its own adds its transaction under a new id, if any. -/
theorem Work.tables_records {posting : Posting} {cents : Int} {storage : Storage} {database : Database}
    (alone : storage.intrusions = []) (moves : posting.Moves cents)
    (tried : (tryPosting posting false).tables storage = .ok database) :
    storage.database.Records database := by
  unfold Work.tables at tried
  cases ran : (tryPosting posting false).run storage with
  | mk outcome after =>
    rw [ran] at tried
    cases outcome with
    | error failure => cases tried
    | ok posted =>
      obtain rfl := Except.ok.inj tried
      exact tryPosting_records alone moves ran

/-- A unit that a client or another writer has committed extends the log. -/
theorem Committed.extends {before after : Storage} {deed : Option Deed}
    (committed : Committed before after deed) : before.database.Extends after.database := by
  cases committed with
  | nothing same => exact .of_same (congrArg Database.transactions same)
  | unit deed effect performs =>
    cases effect with
    | posted posting cents row moves posted =>
      have tried : (tryPosting posting false).tables (.calm before.database before.clock) =
          .ok after.database := performs
      have records := tables_records rfl moves tried
      exact Database.extends_of_posted moves posted records
    | statusChanged _ _ _ old changed => exact .of_same changed.transactions
    | opened _ _ row opened => exact .of_same opened.transactions
    | intruded _ _ _ _ _ _ _ written => exact .of_same (written ▸ rfl)

/-- States of the tables that others lead to. A unit of a caller's own goes on from any moment at which it has
nothing pending, so what others do in between may stand between its parts. -/
inductive Database.Develops (first : Database) : Database → Prop where
  | none : Develops first first
  | calls (session : Session) (calls : List StoreCall) : Develops first session.storage.database →
      session.pending = .none → Develops first (calls.forM StoreCall.work session).2.storage.database
  | request (ledger : Ledger) (request : Request) : Develops first ledger.storage.database →
      ledger.storage.intrusions = [] → Develops first (request.perform ledger).storage.database
  | step (world : World) (event : Event) : Develops first world.database → world.Sound →
      Develops first (world.step event).database

/-- Whatever happens extends the log. -/
theorem Database.Develops.extends {first last : Database} (develops : first.Develops last) :
    first.Extends last := by
  induction develops with
  | none => exact .refl _
  | calls session calls _ fresh ih => exact ih.trans (StoreCall.forM_extends calls fresh)
  | request ledger request _ alone ih => exact ih.trans (request.extends alone)
  | step world event _ sound ih =>
    obtain ⟨deed, stepped⟩ := World.stepped_step sound event
    exact ih.trans stepped.committed.extends

/-- Clients among each other, from the beginning of a world on. -/
theorem Database.Develops.run {first database : Database} (develops : first.Develops database)
    (events : List Event) : first.Develops ((World.start database).run events).database := by
  suffices goesOn : ∀ world : World, world.Sound → first.Develops world.database →
      first.Develops (world.run events).database from goesOn _ (World.sound_start database) develops
  induction events with
  | nil => exact fun _ _ developed ↦ developed
  | cons event rest ih =>
    intro world sound developed
    obtain ⟨deed, stepped⟩ := World.stepped_step sound event
    exact ih _ stepped.sound (.step world event developed sound)

end Passbook
