import Passbook.Proofs.Clients.Serving
import Passbook.Proofs.Ledger.Progress
import Passbook.Proofs.Ledger.Recorded

/-!
A withdrawal at work, while nothing disturbs the store and nobody else writes the account between its turns. A
`Stock` is an account that withdrawals of so many cents are made from, and `Stock.After` says what the tables
are once so many of them went through. Main statement: a turn of a client that withdraws reads the account, or
ends with one withdrawal more, or ends with too little on the account and leaves the tables as they were
(`Stock.serve_cases`).
-/

set_option autoImplicit false
set_option relaxedAutoImplicit false

namespace Passbook

open Procedure Session

/-- An account of some tables with its cents and its version, and how many cents each withdrawal takes. -/
structure Stock where
  start : Database
  account : Int
  balance : Int
  version : Int
  cents : Int

namespace Stock

variable {stock : Stock} {count : Nat} {database : Database} {posting : Posting} {attempt : Try}
  {client : Client} {storage : Storage}

/-- The tables after so many withdrawals: the account holds as much less, which was there, and so many
transactions have been added. -/
structure After (stock : Stock) (count : Nat) (database : Database) : Prop where
  there : ∃ row, database.account? stock.account = some row ∧ row.status = .active ∧
    row.version = stock.version + count ∧
    Money.storedCents? row.balance = some (stock.balance - count * stock.cents)
  enough : count * stock.cents ≤ stock.balance
  recorded : ∃ rows, database.transactions = stock.start.transactions ++ rows ∧ rows.length = count ∧
    ∀ row ∈ rows, row.movement = .withdrawal stock.account ∧
      Money.storedCents? row.amount = some stock.cents

/-- A posting that withdraws the cents from the account. -/
structure Asks (stock : Stock) (posting : Posting) : Prop where
  movement : posting.movement = .withdrawal stock.account
  exact : posting.amount.cents? = some stock.cents
  positive : 0 < stock.cents

theorem Asks.legs (asks : stock.Asks posting) :
    posting.movement.legs = [(stock.account, .debit)] := by
  rw [asks.movement]
  rfl

theorem Asks.moves (asks : stock.Asks posting) : posting.Moves stock.cents where
  exact := asks.exact
  positive := asks.positive
  apart := by
    rw [asks.legs]
    exact List.nodup_singleton _

/-- A withdrawal that was applied is one more. -/
theorem After.posted (after : stock.After count database) (asks : stock.Asks posting) {row : TransactionRow}
    {later : Database} (posted : database.Posted posting stock.cents row later) :
    stock.After (count + 1) later := by
  obtain ⟨old, found, active, version, stored⟩ := after.there
  obtain ⟨rows, transactions, length, each⟩ := after.recorded
  obtain ⟨old', new, balance, number, found', -, stored', notBelow, whole, there, moved⟩ :=
    posted.legs (stock.account, .debit) (by rw [asks.legs]; exact List.mem_cons_self)
  obtain rfl := Option.some.inj (found.symm.trans found')
  obtain rfl := Option.some.inj (stored.symm.trans stored')
  have taken : stock.balance - count * stock.cents - stock.cents =
      stock.balance - (count + 1 : Nat) * stock.cents := by
    push_cast
    ring
  refine ⟨⟨new, there, moved.status.trans active, ?_, ?_⟩, ?_, rows ++ [row], ?_, ?_, fun other member ↦ ?_⟩
  · rw [moved.version, version]
    push_cast
    ring
  · rw [moved.storedCents?, ← taken]
    exact whole
  · have : 0 ≤ stock.balance - count * stock.cents - stock.cents := notBelow
    omega
  · rw [posted.recorded, transactions, List.append_assoc]
  · rw [List.length_append, length]
    rfl
  · rcases List.mem_append.1 member with earlier | last
    · exact each other earlier
    · obtain rfl := List.mem_singleton.1 last
      refine ⟨posted.movement.trans asks.movement, ?_⟩
      rw [posted.amount]
      exact Money.storedCents?_text asks.exact

/-! ### A client that withdraws -/

/-- A client that withdraws: it has not read the account, or has read it as the tables have it. -/
inductive Works (stock : Stock) (database : Database) (client : Client) : Posting → Prop
  | begins (attempt : Try) :
    client.progress = .posting attempt [] [(stock.account, .debit)] →
    Works stock database client attempt.posting
  | read (attempt : Try) (account : Account) :
    client.progress = .posting attempt [(account, .debit)] [] → account.id = stock.account →
    account.status = .active → database.Current account → Works stock database client attempt.posting

/-- The failure of a withdrawal of more than there is. -/
def IsShort (stock : Stock) (failure : Failure) : Prop :=
  ∃ balance amount, failure =
    .ledger (.insufficientFunds (.integer stock.account) (.decimal balance) (.decimal amount))

/-- The account and its version are numbers that a store can hold, also after so many withdrawals. -/
def Fits (stock : Stock) (count : Nat) : Prop :=
  fitsWord stock.account = true ∧ fitsWord (stock.version + count) = true

/-- What a turn of a client that withdraws comes to, and what it makes of the store. -/
inductive Serves (stock : Stock) (count : Nat) (posting : Posting) (storage : Storage) :
    Served × Storage → Prop
  | reads (later : Client) (left : Storage) :
    left.database = storage.database → stock.Works left.database later posting →
    Serves stock count posting storage (.goesOn later, left)
  | gives (record : Record) (left : Storage) (row : TransactionRow) :
    storage.database.Posted posting stock.cents row left.database →
    Serves stock count posting storage (.ends (.ok record), left)
  | refuses (failure : Failure) (left : Storage) :
    left.database = storage.database → stock.IsShort failure →
    stock.balance - count * stock.cents < stock.cents →
    Serves stock count posting storage (.ends (.error failure), left)

/-- Nothing goes wrong with the store, and no reference is drawn again. -/
def Goes (before after : Storage) : Prop := (opened after).Calm ∧ before.drawn ≤ after.drawn

/-- The first turn of a withdrawal reads the account. -/
theorem serve_begins (isCalm : (opened storage).Calm) (after : stock.After count storage.database)
    (fits : stock.Fits count)
    (progress : client.progress = .posting attempt [] [(stock.account, .debit)]) :
    Goes storage (client.serve storage).2 ∧
      stock.Serves count attempt.posting storage (client.serve storage) := by
  obtain ⟨row, found, active, version, stored⟩ := after.there
  obtain ⟨account, same, status, isRead, current, -⟩ :=
    Database.current_of_stored fits.1 (version ▸ fits.2) found stored
  have isCalm' : (client.session storage).Calm := ⟨isCalm.faults, isCalm.intrusions, isCalm.reachable⟩
  obtain ⟨session, loads, ⟨-, quiet, -, -⟩⟩ :=
    Work.loadActive_calm isCalm' fits.1 found isRead (status.trans active)
  have kept : session.storage.database = storage.database :=
    (((Work.leaves_loadActive stock.account).of_eq loads).1 isCalm'.intrusions).2.1
  have drawn := (Work.leftByWriting_draws.toLeftByReading.loadActive trivial stock.account).of_eq loads
  have served : client.serve storage =
      (.goesOn (session.client (.posting attempt [(account, .debit)] [])), session.storage) := by
    simp only [Client.serve, progress]
    exact Client.serves_ok loads _ _
  rw [served]
  refine ⟨⟨⟨quiet.faults, quiet.intrusions, quiet.reachable⟩, drawn⟩, .reads _ _ kept ?_⟩
  refine .read attempt account rfl same (status.trans active) ?_
  rw [kept]
  exact current

/-- The second turn of a withdrawal writes what is left on the account, if there is enough. -/
theorem serve_read (isCalm : (opened storage).Calm) (after : stock.After count storage.database)
    (asks : stock.Asks attempt.posting) {account : Account}
    (progress : client.progress = .posting attempt [(account, .debit)] [])
    (same : account.id = stock.account) (active : account.status = .active)
    (current : storage.database.Current account)
    (unused : storage.database.transactionReferenced? attempt.posting.reference = none) :
    Goes storage (client.serve storage).2 ∧
      stock.Serves count attempt.posting storage (client.serve storage) := by
  have isCalm' : (client.session storage).Calm := ⟨isCalm.faults, isCalm.intrusions, isCalm.reachable⟩
  have held : account.balance.cents? = some (stock.balance - count * stock.cents) := by
    obtain ⟨row, found, -, -, stored⟩ := after.there
    obtain ⟨row', found', isRead⟩ := current.there
    rw [same] at found'
    obtain rfl := Option.some.inj (found.symm.trans found')
    obtain ⟨_, text, rfl⟩ := AccountRow.read_ok isRead
    exact (Money.storedCents?_of_readText text).symm.trans stored
  by_cases less : stock.balance - count * stock.cents < stock.cents
  · have short : Work.writePosting attempt.posting [(account, .debit)] (client.session storage) =
        (.error (Posting.insufficient account attempt.posting.amount), client.session storage) := by
      unfold Work.writePosting
      rw [Posting.newBalances_insufficient held asks.exact less]
      rfl
    have served : client.serve storage =
        (.ends (.error (Posting.insufficient account attempt.posting.amount)), storage) := by
      simp only [Client.serve, progress, Client.serves]
      rw [run_bind, short]
      rfl
    rw [served]
    refine ⟨⟨isCalm, Nat.le_refl _⟩, .refuses _ _ rfl ⟨account.balance, attempt.posting.amount, ?_⟩ less⟩
    rw [Posting.insufficient, same]
  · have legs : [(account, Direction.debit)].map (fun leg ↦ (leg.1.id, leg.2)) =
        attempt.posting.movement.legs := by
      rw [asks.legs, ← same]
      rfl
    obtain ⟨number, worked, storable⟩ :=
      Posting.newBalance_covered held asks.exact asks.positive (Int.not_lt.1 less)
    obtain ⟨record, written, wrote, quiet⟩ := Work.writePosting_calm isCalm' asks.moves legs
      (List.forall_mem_singleton.2 current)
      (List.forall_mem_singleton.2 ⟨number, worked, storable⟩) unused
    obtain ⟨committed, commits, ⟨-, quiet', -, -⟩, database⟩ := Work.commit_calm quiet
    have showed : (client.session storage).view.Showed account := by
      obtain ⟨row, found, isRead⟩ := current.there
      exact Database.showed_of_read (found : (client.session storage).view.account? _ = some row) isRead
    obtain ⟨recorded, posted, -⟩ := Work.writePosting_ok asks.moves legs
      (List.forall_mem_singleton.2 showed) (List.forall_mem_singleton.2 active) wrote
    have drawn := (Work.leftByWriting_draws.toLeftByChanging.writePosting ⟨trivial, trivial⟩
      attempt.posting [(account, .debit)]).of_eq wrote
    have drawn' := Work.draws_commit.of_eq commits
    have served : client.serve storage = (.ends (.ok record), committed.storage) := by
      simp only [Client.serve, progress, Client.serves]
      rw [run_bind_ok wrote, run_bind_ok commits]
      rfl
    rw [served]
    refine ⟨⟨⟨quiet'.faults, quiet'.intrusions, quiet'.reachable⟩, drawn.trans drawn'⟩,
      .gives _ _ recorded ?_⟩
    rw [database]
    exact posted

/-- What a turn of a client that withdraws comes to. -/
theorem serve_cases (isCalm : (opened storage).Calm) (after : stock.After count storage.database)
    (fits : stock.Fits count) (asks : stock.Asks posting)
    (works : stock.Works storage.database client posting)
    (unused : storage.database.transactionReferenced? posting.reference = none) :
    Goes storage (client.serve storage).2 ∧ stock.Serves count posting storage (client.serve storage) := by
  cases works with
  | begins attempt progress => exact serve_begins isCalm after fits progress
  | read attempt account progress same active current =>
    exact serve_read isCalm after asks progress same active current unused

end Stock

end Passbook
