import Passbook.Proofs.Ledger.Post
import Passbook.Proofs.Money.Worth

/-!
What of a movement is recorded, whoever else writes to the store meanwhile. The other writers have to do with
accounts only, so the transactions are those of before, or those and one more row, which is that of the posting
(`Posting.Logged`). One try is followed part by part (`Work.tryPosting_logged`), and all tries by induction.
Main statement: a record that is given for a movement is the one that a new last row of the transactions is read
as, and that row has the amount that was asked for (`Ledger.post_recorded`).
-/

set_option autoImplicit false
set_option relaxedAutoImplicit false

namespace Passbook

open Procedure Session

namespace Session

/-- A unit that has written nothing sees the committed transactions. -/
def IsFresh (session : Session) : Prop :=
  session.view.transactions = session.storage.database.transactions

theorem SeesLog.isFresh {before after : Session} (sees : before.SeesLog after)
    (fresh : before.IsFresh) : after.IsFresh :=
  sees.seen.trans (fresh.trans sees.kept.symm)

end Session

/-! ### One try -/

namespace Database

/-- What stands under a reference is settled by the transactions. -/
theorem transactionReferenced?_congr {database other : Database}
    (same : database.transactions = other.transactions) (reference : Reference) :
    database.transactionReferenced? reference = other.transactionReferenced? reference := by
  rw [transactionReferenced?, same]
  rfl

/-- The tables have the same transactions as before and behind them one more row, under a reference that none of
them had. -/
structure Logs (row : TransactionRow) (before after : Database) : Prop where
  unused : before.transactionReferenced? row.reference = none
  added : after.transactions = before.transactions ++ [row]

variable {row : TransactionRow} {before middle after : Database}

/-- The row that was added stands under its reference. -/
theorem Logs.found (logs : before.Logs row after) :
    after.transactionReferenced? row.reference = some row := by
  have same : after.transactions = (before.addTransaction row).transactions := logs.added
  rw [transactionReferenced?_congr same, transactionReferenced?_addTransaction, logs.unused, if_pos rfl]
  rfl

theorem Logs.of_same (same : middle.transactions = before.transactions) (logs : middle.Logs row after) :
    before.Logs row after :=
  ⟨transactionReferenced?_congr same _ ▸ logs.unused, by rw [logs.added, same]⟩

end Database

namespace Posting

/-- A row that a posting becomes. -/
def IsRow (posting : Posting) (row : TransactionRow) : Prop :=
  ∃ id instant, row = Work.rowOf posting.record posting.reference posting.amount id instant

theorem IsRow.reference {posting : Posting} {row : TransactionRow} (isRow : posting.IsRow row) :
    row.reference = posting.reference := by
  obtain ⟨_, _, rfl⟩ := isRow
  rfl

theorem IsRow.amount {posting : Posting} {row : TransactionRow} (isRow : posting.IsRow row) :
    row.amount = posting.amount.text := by
  obtain ⟨_, _, rfl⟩ := isRow
  rfl

/-- What tries of a posting do to the transactions. -/
inductive Logged (posting : Posting) (before after : Database) : Except Failure Record → Prop
  | failed (failure : Failure) : after.transactions = before.transactions →
      Logged posting before after (.error failure)
  | found (record : Record) (row : TransactionRow) :
      before.transactionReferenced? posting.reference = some row → row.read = .ok record →
      after.transactions = before.transactions → Logged posting before after (.ok record)
  | added (outcome : Except Failure Record) (row : TransactionRow) : posting.IsRow row →
      before.Logs row after → (∀ record, outcome = .ok record → row.read = .ok record) →
      Logged posting before after outcome

variable {posting : Posting} {before middle after : Database} {outcome : Except Failure Record}

/-- Tries that begin later with the same transactions come to the same. -/
theorem Logged.of_same (same : middle.transactions = before.transactions)
    (logged : posting.Logged middle after outcome) : posting.Logged before after outcome := by
  cases logged with
  | failed failure kept => exact .failed failure (kept.trans same)
  | found record row found isRead kept =>
    rw [Database.transactionReferenced?_congr same] at found
    exact .found record row found isRead (kept.trans same)
  | added outcome row isRow logs isRead => exact .added outcome row isRow (logs.of_same same) isRead

/-- Tries go on from a failed one: a row that this has added is found by those behind it. -/
theorem Logged.trans {failure : Failure} (begins : posting.Logged before middle (.error failure))
    (goesOn : posting.Logged middle after outcome) : posting.Logged before after outcome := by
  cases begins with
  | failed failure kept => exact goesOn.of_same kept
  | added _ row isRow logs =>
    have stands := logs.found
    rw [isRow.reference] at stands
    cases goesOn with
    | failed failure kept =>
      exact .added _ row isRow ⟨logs.unused, kept.trans logs.added⟩ fun _ same ↦ by cases same
    | found record other found isRead kept =>
      obtain rfl : row = other := Option.some.inj (stands.symm.trans found)
      refine .added _ row isRow ⟨logs.unused, kept.trans logs.added⟩ fun _ same ↦ ?_
      exact Except.ok.inj same ▸ isRead
    | added _ other isRow' logs' =>
      have unused := logs'.unused
      rw [isRow'.reference, stands] at unused
      cases unused

end Posting

namespace Work

variable {posting : Posting} {cents : Int}

/-- A posting that is applied in a unit has its row behind the transactions that the unit saw. -/
theorem applyPosting_logs {session after : Session} {record : Record} (moves : posting.Moves cents)
    (applied : applyPosting posting session = (.ok record, after)) :
    ∃ row, posting.IsRow row ∧ session.view.Logs row after.view ∧ row.read = .ok record := by
  unfold applyPosting at applied
  obtain ⟨read, middle, reading, wrote⟩ := ok_of_bind applied
  have sees := (leftByReading_seesLog.readLegs trivial posting).of_eq reading
  obtain ⟨legs, -⟩ := readLegs_legs reading
  obtain ⟨changes, database, id, -, -, rebalanced, unused, view, rfl, -⟩ :=
    writePosting_parts moves legs wrote
  have same := rebalanced.transactions.trans sees.seen
  refine ⟨_, ⟨id, middle.storage.clock, rfl⟩, ⟨?_, ?_⟩, moves.read_rowOf id _⟩
  · rw [← Database.transactionReferenced?_congr same]
    exact unused
  · rw [view, ← same]
    rfl

theorem applyAndCommit_logged {session after : Session} {outcome : Except Failure Posted}
    (fresh : session.IsFresh) (moves : posting.Moves cents)
    (ran : applyAndCommit posting session = (outcome, after)) :
    posting.Logged session.storage.database after.storage.database (outcome.map (·.record)) := by
  have keeps := leftByWriting_keepsLog.applyPosting ⟨trivial, trivial, trivial⟩ posting
  unfold applyAndCommit at ran
  rcases cases_of_bind ran with ⟨failure, failed, rfl⟩ | ⟨record, middle, applied, ran⟩
  · exact .failed failure (keeps.of_eq failed)
  obtain ⟨row, isRow, logs, isRead⟩ := applyPosting_logs moves applied
  have kept : middle.storage.database.transactions = session.storage.database.transactions :=
    keeps.of_eq applied
  have published (same : after.storage.database = middle.view) :
      session.storage.database.Logs row after.storage.database :=
    (same ▸ logs).of_same fresh
  rcases cases_of_bind ran with ⟨failure, committed, rfl⟩ | ⟨_, last, committed, ran⟩
  · rcases commit_database committed with unchanged | same
    · exact .failed failure ((congrArg Database.transactions unchanged).trans kept)
    · exact .added _ row isRow (published same) fun _ wrong ↦ by cases wrong
  · obtain ⟨rfl, rfl⟩ := Prod.mk.inj ran
    refine .added _ row isRow (published (commit_ok committed)) fun _ same ↦ ?_
    exact Except.ok.inj same ▸ isRead

/-- One try of a posting. -/
theorem tryPosting_logged {storage after : Storage} {outcome : Except Failure Posted}
    (moves : posting.Moves cents) {repeated : Bool}
    (ran : (tryPosting posting repeated).run storage = (outcome, after)) :
    posting.Logged storage.database after.database (outcome.map (·.record)) := by
  rw [run_eq] at ran
  obtain ⟨rfl, rfl⟩ := Prod.mk.inj ran
  have fresh : (opened storage).IsFresh := rfl
  unfold tryPosting
  cases repeated with
  | false => exact applyAndCommit_logged fresh moves rfl
  | true =>
    rw [if_pos rfl, run_bind]
    cases looked : lookup posting.reference (opened storage) with
    | mk result middle =>
      have sees := (leftByReading_seesLog.lookup trivial posting.reference).of_eq looked
      cases result with
      | error failure => exact .failed failure sees.kept
      | ok known =>
        rcases lookup_ok looked with ⟨-, rfl⟩ | ⟨row, record, found, isRead, rfl⟩
        · exact (applyAndCommit_logged (sees.isFresh fresh) moves rfl).of_same sees.kept
        · exact .found record row found isRead sees.kept

end Work

/-! ### All tries -/

namespace Ledger

/-- However often a posting is tried, at most one row is added for it. -/
theorem execute_logged (engine : Engine) {posting : Posting} {cents : Int} (ledger : Ledger)
    (moves : posting.Moves cents) :
    posting.Logged ledger.storage.database (execute engine posting ledger).2.storage.database
      (execute engine posting ledger).1 := by
  cases tries : engine.retry with
  | error failure =>
    rw [execute_uncounted tries]
    exact .failed failure rfl
  | ok retry =>
    rw [execute_run tries]
    refine Retry.runFrom_induct
      (motive := fun before after outcome ↦ posting.Logged before.database after.database outcome)
      ?_ ?_ ?_ (retry.maxAttempts - 1) 1 ledger.storage
    · intro number before after posted tried
      exact Work.tryPosting_logged moves tried
    · intro number before after failure final tried
      exact (Work.tryPosting_logged moves tried).trans (.failed final rfl)
    · intro number before middle after failure outcome tried goesOn
      exact (Work.tryPosting_logged moves tried).trans goesOn

/-- A record that is given for a movement is the one that a new last row of the transactions is read as, which
has the amount that was asked for. -/
theorem post_recorded {engine : Engine} {movement : Movement} {amount description : Value}
    {ledger : Ledger} {record : Record}
    (fresh : ledger.storage.database.transactionReferenced? (.drawn ledger.storage.drawn) = none)
    (given : (post engine movement amount description ledger).1 = .ok record) :
    ∃ exact row, Money.ofValue amount = .ok exact ∧
      (post engine movement amount description ledger).2.storage.database.transactions =
        ledger.storage.database.transactions ++ [row] ∧
      row.read = .ok record ∧ Money.worth row.amount = exact.toRat := by
  rcases post_executes engine movement amount description (Prod.ext given rfl) with
    ⟨failure, serial, wrong, -⟩ |
    ⟨posting, cents, serial, locked, asked, reference, moves, storage, same, same' | ⟨_, wrong, -⟩⟩
  · cases wrong
  · have logged := execute_logged engine locked moves
    rw [← same', ← same, storage] at logged
    cases logged with
    | found _ row found =>
      rw [reference] at found
      cases fresh.symm.trans found
    | added _ row isRow logs isRead =>
      refine ⟨posting.amount, row, asked.amount, logs.added, isRead record rfl, ?_⟩
      rw [isRow.amount, Money.worth_of_storedCents (Money.storedCents?_text moves.exact),
        Decimal.toRat_of_cents moves.exact]
  · cases wrong

end Ledger

end Passbook
