import Mathlib.Data.Rat.Floor
import Mathlib.Tactic.FinCases
import Mathlib.Tactic.IntervalCases
import Passbook.Proofs.Clients.Drawing
import Passbook.Proofs.Clients.Fair
import Passbook.Proofs.Ledger.Checks

/-!
Withdrawals of the same amount from one account, any number of them at the same time. `Bank.Withdraws` is what
they keep, however their steps follow each other: so many of them as have gone through have taken the amount
from the account and added a transaction, the one that is at work has read the account as it is, and whoever was
refused asked for more than is left. A step keeps it since only the call with the lock touches the account
(`Bank.Withdraws.step`). Main statement: they succeed exactly as long as there is enough
(`Bank.withdrawals_succeed`).
-/

set_option autoImplicit false
set_option relaxedAutoImplicit false

namespace Passbook

open Procedure Session

/-! ### The calls and the store -/

/-- Calls that all withdraw an amount of cents from an account, and are in order in all else: their tries can be
counted, and a clock can wait for as long as they have patience. -/
structure Withdrawing {Name : Type} (calls : Name → Call) (patience : Value) (account : Int) (amount : ℚ) :
    Prop where
  cents : ∃ cents : Int, 0 < cents ∧ amount = cents / 100
  movement : ∀ name, (calls name).movement = .withdrawal account
  wellPut : ∀ name, ∃ exact content, exact.toRat = amount ∧
    WellPut (calls name).engine.ceilings (.withdrawal account) (calls name).amount (calls name).description
      exact content
  counted : ∀ name, ∃ retry, (calls name).engine.retry = .ok retry
  waits : ∀ name, ∃ seconds, ((calls name).engine.lockTimeout.orElse patience).seconds = .ok seconds ∧
    Locking.canWait seconds = true

/-- A store on which nothing goes wrong, with an account that is active, holds cents, and can be written so many
times before its version is too large for the store. -/
structure Storage.Stocks (storage : Storage) (row : AccountRow) (times : Nat) : Prop where
  calm : (opened storage).Calm
  found : storage.database.account? row.id = some row
  active : row.status = .active
  cents : ∃ cents, Money.storedCents? row.balance = some cents ∧ 0 ≤ cents
  word : fitsWord row.id = true
  versions : ∀ count ≤ times, fitsWord (row.version + (count : Nat)) = true
  fresh : ∀ serial ≥ storage.drawn, storage.database.transactionReferenced? (.drawn serial) = none

/-- The first step of a call that withdraws makes a posting of it, under a new reference. -/
theorem Withdrawing.prepares {Name : Type} {calls : Name → Call} {patience : Value} {stock : Stock}
    (withdrawing : Withdrawing calls patience stock.account (stock.cents / 100)) (name : Name)
    (storage : Storage) :
    ∃ posting, Ledger.prepare (calls name).engine (calls name).movement (calls name).amount
        (calls name).description { storage } =
        (.ok posting, { storage := { storage with drawn := storage.drawn + 1 } }) ∧
      stock.Asks posting ∧ posting.reference = .drawn storage.drawn := by
  obtain ⟨exact, content, amount, wellPut⟩ := withdrawing.wellPut name
  obtain ⟨cents, moves⟩ := Ledger.moves_of_wellPut wellPut { storage }
  have whole : exact.cents? = some cents := moves.exact
  have same : stock.cents = cents := by
    have worth := amount.symm.trans (Decimal.toRat_of_cents whole)
    rw [div_left_inj' (by norm_num), Int.cast_inj] at worth
    exact worth
  subst same
  refine ⟨postingOf (.withdrawal stock.account) exact content { storage }, ?_,
    ⟨rfl, whole, moves.positive⟩, rfl⟩
  rw [withdrawing.movement name]
  exact Ledger.prepare_wellPut wellPut { storage }

/-! ### Stages -/

/-- The posting that a client is at. -/
def Client.posting? (client : Client) : Option Posting :=
  match client.progress with
  | .looking attempt | .posting attempt _ _ => some attempt.posting
  | .changing .. | .rereading _ | .opening .. => none

theorem Stock.Works.posting? {stock : Stock} {database : Database} {client : Client} {posting : Posting}
    (works : stock.Works database client posting) : client.posting? = some posting := by
  cases works with
  | begins attempt progress => rw [Client.posting?, progress]
  | read attempt account progress => rw [Client.posting?, progress]

namespace Stage

/-- The posting of a call that has no outcome yet. -/
def posting? : Stage → Option Posting
  | .locking posting => some posting
  | .working client => client.posting?
  | .asked | .unlocking _ | .answered _ => none

/-- The outcome of a call, be it given already or not. -/
def outcome? : Stage → Option (Except Failure Record)
  | .unlocking outcome | .answered outcome => some outcome
  | .asked | .locking _ | .working _ => none

/-- Whether a call has gone through. -/
def isServed (stage : Stage) : Bool :=
  match stage.outcome? with
  | some (.ok _) => true
  | _ => false

end Stage

namespace Bank

variable {Name : Type} [Fintype Name] {stock : Stock} {bank : Bank Name} {calls : Name → Call}

/-- How many calls have gone through. -/
def served (bank : Bank Name) : Nat := ∑ name, (bank.callers name).stage.isServed.toNat

/-- What calls keep that all withdraw the same amount from an account. -/
structure Withdraws (stock : Stock) (bank : Bank Name) : Prop where
  calm : (opened bank.storage).Calm
  after : stock.After bank.served bank.storage.database
  /-- The references that are drawn from now on are new. -/
  fresh : ∀ serial ≥ bank.storage.drawn,
    bank.storage.database.transactionReferenced? (.drawn serial) = none
  asks : ∀ name posting, (bank.callers name).stage.posting? = some posting → stock.Asks posting ∧
    (∃ serial < bank.storage.drawn, posting.reference = .drawn serial) ∧
      bank.storage.database.transactionReferenced? posting.reference = none
  apart : ∀ name other mine theirs, (bank.callers name).stage.posting? = some mine →
    (bank.callers other).stage.posting? = some theirs → mine.reference = theirs.reference → name = other
  works : ∀ name client, (bank.callers name).stage = .working client →
    ∃ posting, stock.Works bank.storage.database client posting
  refused : ∀ name failure, (bank.callers name).stage.outcome? = some (.error failure) →
    stock.IsShort failure ∧ stock.balance - bank.served * stock.cents < stock.cents

theorem served_le (bank : Bank Name) : bank.served ≤ Fintype.card Name := by
  rw [served, Fintype.card, Finset.card_eq_sum_ones]
  exact Finset.sum_le_sum fun name _ ↦ Bool.toNat_le _

/-- Calls of which none has begun keep what withdrawals keep. -/
theorem withdraws_start {storage : Storage} {patience : Value} {row : AccountRow} {balance cents : Int}
    (stocks : storage.Stocks row (Fintype.card Name))
    (stored : Money.storedCents? row.balance = some balance) (notBelow : 0 ≤ balance) :
    Withdraws { start := storage.database, account := row.id, balance, version := row.version, cents }
      ({ storage, patience } : Bank Name) := by
  have none : served ({ storage, patience } : Bank Name) = 0 := Finset.sum_eq_zero fun _ _ ↦ rfl
  refine ⟨stocks.calm, ?_, stocks.fresh, fun _ _ isPosting ↦ (nomatch isPosting),
    fun _ _ _ _ isMine ↦ (nomatch isMine), fun _ _ isWorking ↦ (nomatch isWorking),
    fun _ _ isRefused ↦ (nomatch isRefused)⟩
  rw [none]
  refine ⟨⟨row, stocks.found, stocks.active, ?_, ?_⟩, ?_, [], (List.append_nil _).symm, rfl,
    fun _ member ↦ (nomatch member)⟩
  · exact (Int.add_zero _).symm
  · rw [stored, Int.natCast_zero, Int.zero_mul, Int.sub_zero]
  · rw [Int.natCast_zero, Int.zero_mul]
    exact notBelow

/-- The calls that have gone through. -/
theorem card_served (bank : Bank Name) :
    (Finset.univ.filter fun name ↦ (bank.callers name).stage.isServed = true).card = bank.served := by
  rw [Finset.card_filter, served]
  refine Finset.sum_congr rfl fun name _ ↦ ?_
  cases (bank.callers name).stage.isServed <;> rfl

/-- Once every call has been answered, all have gone through or there is too little left for another. -/
theorem Withdraws.all_or_short (withdraws : bank.Withdraws stock) (answered : bank.Answered) :
    bank.served = Fintype.card Name ∨ stock.balance - bank.served * stock.cents < stock.cents := by
  by_cases all : ∀ name, (bank.callers name).stage.isServed = true
  · left
    rw [← card_served, Finset.filter_true_of_mem fun name _ ↦ all name]
    rfl
  · right
    obtain ⟨name, notServed⟩ := not_forall.1 all
    obtain ⟨outcome, stage⟩ := answered name
    rw [stage] at notServed
    cases outcome with
    | ok record => exact absurd rfl notServed
    | error failure => exact (withdraws.refused name failure (by rw [stage]; rfl)).2

/-- Once every call has been answered, as many have gone through as there was enough for. -/
theorem Withdraws.served_eq (withdraws : bank.Withdraws stock) (answered : bank.Answered)
    (positive : 0 < stock.cents) :
    bank.served = min (Fintype.card Name) ⌊(stock.balance / 100 : ℚ) / (stock.cents / 100)⌋₊ := by
  have enough : (bank.served : ℚ) * stock.cents ≤ stock.balance := by
    exact_mod_cast withdraws.after.enough
  have positive' : (0 : ℚ) < stock.cents := by exact_mod_cast positive
  have ratio : (stock.balance / 100 : ℚ) / (stock.cents / 100) = stock.balance / stock.cents := by
    field_simp
  rw [ratio]
  rcases withdraws.all_or_short answered with all | short
  · rw [min_eq_left, all]
    refine all ▸ Nat.le_floor ?_
    rw [le_div_iff₀ positive']
    exact enough
  · have short' : (stock.balance : ℚ) < (bank.served + 1) * stock.cents := by
      rw [add_mul, one_mul]
      exact_mod_cast (show stock.balance < bank.served * stock.cents + stock.cents by omega)
    have floor : ⌊(stock.balance : ℚ) / stock.cents⌋₊ = bank.served := by
      rw [Nat.floor_eq_iff, le_div_iff₀ positive', div_lt_iff₀ positive']
      · exact ⟨enough, short'⟩
      · have notBelow : (0 : ℚ) ≤ bank.served * stock.cents := by positivity
        exact div_nonneg (notBelow.trans enough) positive'.le
    rw [floor, min_eq_right bank.served_le]

/-! ### One step -/

variable [DecidableEq Name] {name : Name} {caller : Caller} {storage : Storage} {table : LockTable}

/-- How many calls have gone through when one of them is at another stage. -/
theorem served_update (bank : Bank Name) (storage : Storage) (table : LockTable) (name : Name)
    (caller : Caller) :
    served { bank with storage, table, callers := Function.update bank.callers name caller } +
        (bank.callers name).stage.isServed.toNat = bank.served + caller.stage.isServed.toNat :=
  LockCrowd.sum_update (fun caller ↦ caller.stage.isServed.toNat) bank.callers name caller

omit [Fintype Name] in
/-- What holds of a call once one of them is at another stage, holds of that one or held of another before. -/
theorem updated (property : Caller → Prop) {other : Name}
    (holds : property (Function.update bank.callers name caller other)) :
    (other = name ∧ property caller) ∨ (other ≠ name ∧ property (bank.callers other)) := by
  by_cases same : other = name
  · rw [same, Function.update_self] at holds
    exact Or.inl ⟨same, holds⟩
  · rw [Function.update_of_ne same] at holds
    exact Or.inr ⟨same, holds⟩

/-- A call goes on and the tables stay as they are. -/
theorem Withdraws.goesOn (withdraws : bank.Withdraws stock) (goes : Stock.Goes bank.storage storage)
    (database : storage.database = bank.storage.database)
    (posting : ∀ posting, caller.stage.posting? = some posting →
      (bank.callers name).stage.posting? = some posting ∨ (stock.Asks posting ∧
        posting.reference = .drawn bank.storage.drawn ∧ bank.storage.drawn < storage.drawn))
    (works : ∀ client, caller.stage = .working client →
      ∃ posting, stock.Works storage.database client posting)
    (isServed : caller.stage.isServed = (bank.callers name).stage.isServed)
    (refused : ∀ failure, caller.stage.outcome? = some (.error failure) →
      stock.IsShort failure ∧ stock.balance - bank.served * stock.cents < stock.cents) :
    Withdraws stock
      { bank with storage, table, callers := Function.update bank.callers name caller } := by
  have count : served { bank with storage, table, callers := Function.update bank.callers name caller } =
      bank.served := by
    have sums := served_update bank storage table name caller
    rw [isServed] at sums
    omega
  have each (other : Name) (next : Posting)
      (isNext : (Function.update bank.callers name caller other).stage.posting? = some next) :
      (bank.callers other).stage.posting? = some next ∨ (other = name ∧ stock.Asks next ∧
        next.reference = .drawn bank.storage.drawn ∧ bank.storage.drawn < storage.drawn) := by
    rcases updated (fun caller ↦ caller.stage.posting? = some next) isNext with
      ⟨rfl, new⟩ | ⟨-, old⟩
    · exact (posting next new).imp_right fun drawn ↦ ⟨rfl, drawn⟩
    · exact Or.inl old
  -- A reference that has been drawn only now is that of no other call.
  have undrawn {other : Name} {old : Posting}
      (isOld : (bank.callers other).stage.posting? = some old)
      (same : old.reference = .drawn bank.storage.drawn) : False := by
    obtain ⟨-, ⟨serial, less, drawn⟩, -⟩ := withdraws.asks other old isOld
    obtain rfl := Reference.drawn.inj (drawn.symm.trans same)
    exact Nat.lt_irrefl _ less
  constructor
  · exact goes.1
  · rw [count, database]
    exact withdraws.after
  · intro serial notBelow
    rw [database]
    exact withdraws.fresh serial (goes.2.trans notBelow)
  · intro other next isNext
    dsimp only
    rw [database]
    rcases each other next isNext with old | ⟨-, asks, drawn, less⟩
    · obtain ⟨asks, ⟨serial, less, drawn⟩, unused⟩ := withdraws.asks other next old
      exact ⟨asks, ⟨serial, Nat.lt_of_lt_of_le less goes.2, drawn⟩, unused⟩
    · refine ⟨asks, ⟨_, less, drawn⟩, ?_⟩
      rw [drawn]
      exact withdraws.fresh _ (Nat.le_refl _)
  · intro first second mine theirs isMine isTheirs same
    rcases each first mine isMine with old | ⟨rfl, -, drawn, -⟩
    · rcases each second theirs isTheirs with old' | ⟨-, -, drawn, -⟩
      · exact withdraws.apart first second mine theirs old old' same
      · exact (undrawn old (same.trans drawn)).elim
    · rcases each second theirs isTheirs with old | ⟨rfl, -⟩
      · exact (undrawn old (same.symm.trans drawn)).elim
      · rfl
  · intro other client isWorking
    rcases updated (fun caller ↦ caller.stage = .working client) isWorking with ⟨-, new⟩ | ⟨-, old⟩
    · exact works client new
    · rw [database]
      exact withdraws.works other client old
  · intro other failure isRefused
    rw [count]
    rcases updated (fun caller ↦ caller.stage.outcome? = some (.error failure)) isRefused with
      ⟨-, new⟩ | ⟨-, old⟩
    · exact refused failure new
    · exact withdraws.refused other failure old

/-- A call comes no further with its withdrawal and does not touch the store. -/
theorem Withdraws.stays (withdraws : bank.Withdraws stock)
    (posting : caller.stage.posting? = (bank.callers name).stage.posting?)
    (outcome : caller.stage.outcome? = (bank.callers name).stage.outcome?)
    (idle : ∀ client, caller.stage ≠ .working client) :
    Withdraws stock { bank with table, callers := Function.update bank.callers name caller } := by
  refine withdraws.goesOn ⟨withdraws.calm, Nat.le_refl _⟩ rfl (fun next isNext ↦ Or.inl (posting ▸ isNext))
    (fun client works ↦ (idle client works).elim) ?_
    fun failure refused ↦ withdraws.refused name failure (outcome ▸ refused)
  rw [Stage.isServed, Stage.isServed, outcome]

/-- A call goes through, while no other is at work. -/
theorem Withdraws.goesThrough (withdraws : bank.Withdraws stock) (goes : Stock.Goes bank.storage storage)
    {posting : Posting} {row : TransactionRow} {record : Record}
    (isPosting : (bank.callers name).stage.posting? = some posting)
    (posted : bank.storage.database.Posted posting stock.cents row storage.database)
    (alone : ∀ other client, (bank.callers other).stage = .working client → other = name)
    (ended : caller.stage = .unlocking (.ok record)) :
    Withdraws stock
      { bank with storage, table, callers := Function.update bank.callers name caller } := by
  obtain ⟨asks, -, -⟩ := withdraws.asks name posting isPosting
  have notServed : (bank.callers name).stage.isServed = false := by
    cases stage : (bank.callers name).stage with
    | asked | locking | working => rfl
    | unlocking | answered =>
      rw [stage] at isPosting
      cases isPosting
  have count : served { bank with storage, table, callers := Function.update bank.callers name caller } =
      bank.served + 1 := by
    have sums := served_update bank storage table name caller
    rw [notServed, ended] at sums
    exact sums
  -- What is not under the reference of this posting is as it was.
  have others {reference : Reference} (apart : posting.reference ≠ reference)
      (unused : bank.storage.database.transactionReferenced? reference = none) :
      storage.database.transactionReferenced? reference = none := by
    have added : storage.database.transactions =
        (bank.storage.database.addTransaction row).transactions := posted.recorded
    rw [Database.transactionReferenced?_congr added, Database.transactionReferenced?_addTransaction, unused,
      if_neg (posted.reference ▸ apart)]
    rfl
  have old {other : Name} {next : Posting}
      (isNext : (Function.update bank.callers name caller other).stage.posting? = some next) :
      other ≠ name ∧ (bank.callers other).stage.posting? = some next := by
    rcases updated (fun caller ↦ caller.stage.posting? = some next) isNext with ⟨-, new⟩ | old
    · rw [ended] at new
      cases new
    · exact old
  constructor
  · exact goes.1
  · rw [count]
    exact withdraws.after.posted asks posted
  · intro serial notBelow
    obtain ⟨-, ⟨drawn, less, reference⟩, -⟩ := withdraws.asks name posting isPosting
    refine others (fun same ↦ ?_) (withdraws.fresh serial (goes.2.trans notBelow))
    obtain rfl := Reference.drawn.inj (reference.symm.trans same)
    exact absurd (goes.2.trans notBelow) (Nat.not_le.2 less)
  · intro other next isNext
    obtain ⟨apart, isOld⟩ := old isNext
    obtain ⟨asks, ⟨serial, less, drawn⟩, unused⟩ := withdraws.asks other next isOld
    refine ⟨asks, ⟨serial, Nat.lt_of_lt_of_le less goes.2, drawn⟩, others (fun same ↦ apart ?_) unused⟩
    exact (withdraws.apart name other posting next isPosting isOld same).symm
  · intro first second mine theirs isMine isTheirs same
    exact withdraws.apart first second mine theirs (old isMine).2 (old isTheirs).2 same
  · intro other client isWorking
    rcases updated (fun caller ↦ caller.stage = .working client) isWorking with ⟨-, new⟩ | ⟨apart, old⟩
    · rw [ended] at new
      cases new
    · exact absurd (alone other client old) apart
  · intro other failure isRefused
    rw [count]
    rcases updated (fun caller ↦ caller.stage.outcome? = some (.error failure)) isRefused with
      ⟨-, new⟩ | ⟨-, old⟩
    · rw [ended] at new
      cases new
    · obtain ⟨short, less⟩ := withdraws.refused other failure old
      have positive := asks.positive
      have more : ((bank.served + 1 : Nat) : Int) * stock.cents = bank.served * stock.cents + stock.cents := by
        push_cast
        ring
      exact ⟨short, by omega⟩

omit [DecidableEq Name] in
/-- What the turn of a call comes to that is at work. -/
theorem Withdraws.serves (withdraws : bank.Withdraws stock)
    (fits : ∀ count ≤ Fintype.card Name, stock.Fits count) {client : Client}
    (stage : (bank.callers name).stage = .working client) :
    ∃ posting, (bank.callers name).stage.posting? = some posting ∧
      Stock.Goes bank.storage (client.serve bank.storage).2 ∧
      stock.Serves bank.served posting bank.storage (client.serve bank.storage) := by
  obtain ⟨posting, works⟩ := withdraws.works name client stage
  have isPosting : (bank.callers name).stage.posting? = some posting := by
    rw [stage]
    exact works.posting?
  obtain ⟨asks, -, unused⟩ := withdraws.asks name posting isPosting
  exact ⟨posting, isPosting,
    Stock.serve_cases withdraws.calm withdraws.after (fits _ bank.served_le) asks works unused⟩

/-- Every step keeps what withdrawals keep. -/
theorem Withdraws.step (withdraws : bank.Withdraws stock) (sound : bank.Sound calls)
    (withdrawing : Withdrawing calls bank.patience stock.account (stock.cents / 100))
    (fits : ∀ count ≤ Fintype.card Name, stock.Fits count) (name : Name) :
    (bank.step calls (name, .go)).Withdraws stock := by
  rcases bank.step_cases calls (name, .go) with ⟨-, same⟩ | ⟨caller, storage, table, moved, same⟩
  · rw [same]
    exact withdraws
  rw [same]
  have steps := Call.steps_of_go? moved
  have calm : Stock.Goes bank.storage bank.storage := ⟨withdraws.calm, Nat.le_refl _⟩
  generalize stage : (bank.callers name).stage = before at steps
  cases steps with
  | refused failure ledger prepared =>
    obtain ⟨_, prepared', -⟩ := withdrawing.prepares name bank.storage
    cases prepared.symm.trans prepared'
  | untimed posting ledger failure prepared timed =>
    obtain ⟨seconds, timed', -⟩ := withdrawing.waits name
    cases timed.symm.trans timed'
  | overlong ledger seconds timed overlong =>
    obtain ⟨_, timed', waits⟩ := withdrawing.waits name
    obtain rfl := Except.ok.inj (timed.symm.trans timed')
    rw [waits] at overlong
    cases overlong
  | setsOut posting ledger later after prepared acted =>
    obtain ⟨_, prepared', asks, drawn⟩ := withdrawing.prepares name bank.storage
    cases prepared.symm.trans prepared'
    have calm : (opened { bank.storage with drawn := bank.storage.drawn + 1 }).Calm :=
      ⟨withdraws.calm.faults, withdraws.calm.intrusions, withdraws.calm.reachable⟩
    refine withdraws.goesOn ⟨calm, Nat.le_succ _⟩ rfl (fun next isNext ↦ ?_)
      (fun _ works ↦ nomatch works) ?_ fun _ refused ↦ nomatch refused
    · cases isNext
      exact Or.inr ⟨asks, drawn, Nat.lt_succ_self _⟩
    · rw [stage]
      rfl
  | locks posting later after inside acted =>
    refine withdraws.stays ?_ ?_ (fun _ works ↦ nomatch works) <;> rw [stage]
  | uncounted posting failure later after outside failed acted =>
    obtain ⟨retry, counted⟩ := withdrawing.counted name
    cases failed.symm.trans counted
  | begins posting retry outside counted =>
    have isPosting : (bank.callers name).stage.posting? = some posting := by
      rw [stage]
      rfl
    obtain ⟨asks, -, -⟩ := withdraws.asks name posting isPosting
    refine withdraws.goesOn calm rfl (fun next isNext ↦ Or.inl ?_) (fun client works ↦ ?_) ?_
      fun _ refused ↦ nomatch refused
    · rw [isPosting]
      exact isNext
    · cases works
      refine ⟨posting, .begins (Try.first posting retry) ?_⟩
      exact congrArg (Progress.posting (Try.first posting retry) []) asks.legs
    · rw [stage]
      rfl
  | turns client later after served =>
    obtain ⟨posting, isPosting, goes, serves⟩ := withdraws.serves fits stage
    rw [served] at goes serves
    cases serves with
    | reads _ _ kept reads =>
      refine withdraws.goesOn goes kept (fun next isNext ↦ Or.inl ?_) (fun client works ↦ ?_) ?_
        fun _ refused ↦ nomatch refused
      · rw [isPosting, ← reads.posting?]
        exact isNext
      · cases works
        exact ⟨posting, reads⟩
      · rw [stage]
        rfl
  | ends client outcome left later after served acted =>
    obtain ⟨posting, isPosting, goes, serves⟩ := withdraws.serves fits stage
    rw [served] at goes serves
    cases serves with
    | gives record _ row posted =>
      refine withdraws.goesThrough goes isPosting posted (fun other client isWorking ↦ ?_) rfl
      have involved (name : Name) : stock.account ∈ (calls name).movement.accounts := by
        rw [withdrawing.movement name]
        exact List.mem_cons_self
      exact sound.apart isWorking stage (involved other) (involved name)
    | refuses failure _ kept short less =>
      refine withdraws.goesOn goes kept (fun next isNext ↦ nomatch isNext) (fun _ works ↦ nomatch works) ?_
        fun failure' refused ↦ ?_
      · rw [stage]
        rfl
      · cases refused
        exact ⟨short, less⟩
  | unlocks outcome later after acted =>
    refine withdraws.stays ?_ ?_ (fun _ works ↦ nomatch works) <;> rw [stage]
  | answers outcome outside =>
    refine withdraws.stays ?_ ?_ (fun _ works ↦ nomatch works) <;>
    · rw [stage]
      rfl
  | fails outcome failure failed =>
    have sound := sound.orderly.sound name
    rw [LockClient.Sound, show (bank.locks.clients name).task = _ from failed] at sound
    exact sound.elim

/-! ### All steps -/

/-- Turns of calls one after the other, none of which finds its time over. -/
def turns (calls : Name → Call) (bank : Bank Name) (names : List Name) : Bank Name :=
  bank.run calls (names.map (·, .go))

/-- All turns together keep what withdrawals keep, by induction over the turns. -/
theorem Withdraws.turns (withdraws : bank.Withdraws stock) (sound : bank.Sound calls)
    (withdrawing : Withdrawing calls bank.patience stock.account (stock.cents / 100))
    (fits : ∀ count ≤ Fintype.card Name, stock.Fits count) (names : List Name) :
    (bank.turns calls names).Withdraws stock := by
  induction names generalizing bank with
  | nil => exact withdraws
  | cons name rest ih =>
    refine ih (withdraws.step sound withdrawing fits name) (sound.step _) ?_
    rcases bank.step_cases calls (name, .go) with ⟨-, same⟩ | ⟨caller, storage, table, -, same⟩ <;>
    · rw [same]
      exact withdrawing

/-- What becomes of calls that withdraw an amount from an account: so many of them give a record and all others
found too little, the account holds so many times the amount less, and so many withdrawals of it have been
recorded. -/
structure Withdrawn (before : Database) (row : AccountRow) (amount : ℚ) (most : Nat) (bank : Bank Name) :
    Prop where
  answered : ∃ served : Finset Name, served.card = most ∧
    (∀ name ∈ served, ∃ record, (bank.callers name).stage = .answered (.ok record)) ∧
    ∀ name ∉ served, ∃ held asked, (bank.callers name).stage = .answered (.error
      (.ledger (.insufficientFunds (.integer row.id) (.decimal held) (.decimal asked))))
  balance : ∃ left, bank.storage.database.account? row.id = some left ∧
    Money.worth left.balance = Money.worth row.balance - most * amount
  recorded : ∃ rows, bank.storage.database.transactions = before.transactions ++ rows ∧
    rows.length = most ∧ ∀ added ∈ rows, added.movement = .withdrawal row.id ∧
      Money.worth added.amount = amount

omit [DecidableEq Name] in
/-- Once every call has been answered, this is what has become of them. -/
theorem Withdraws.withdrawn {row : AccountRow} (withdraws : bank.Withdraws stock) (answered : bank.Answered)
    (account : stock.account = row.id)
    (stored : Money.storedCents? row.balance = some stock.balance) :
    Withdrawn stock.start row (stock.cents / 100) bank.served bank := by
  obtain ⟨left, found, -, -, stored'⟩ := withdraws.after.there
  obtain ⟨rows, transactions, length, each⟩ := withdraws.after.recorded
  rw [account] at found each
  refine ⟨⟨_, card_served bank, fun name isServed ↦ ?_, fun name notServed ↦ ?_⟩, ⟨left, found, ?_⟩,
    rows, transactions, length, fun added member ↦ ?_⟩
  · obtain ⟨outcome, stage⟩ := answered name
    have served := (Finset.mem_filter.1 isServed).2
    rw [stage] at served
    cases outcome with
    | ok record => exact ⟨record, stage⟩
    | error failure => cases served
  · obtain ⟨outcome, stage⟩ := answered name
    cases outcome with
    | ok record =>
      refine absurd (Finset.mem_filter.2 ⟨Finset.mem_univ name, ?_⟩) notServed
      rw [stage]
      rfl
    | error failure =>
      obtain ⟨⟨held, asked, rfl⟩, -⟩ := withdraws.refused name failure (by rw [stage]; rfl)
      rw [account] at stage
      exact ⟨held, asked, stage⟩
  · rw [Money.worth_of_storedCents stored', Money.worth_of_storedCents stored]
    push_cast
    ring
  · obtain ⟨movement, amount⟩ := each added member
    exact ⟨movement, Money.worth_of_storedCents amount⟩

/-- Withdrawals succeed exactly as long as there is enough. Whatever the account holds, whatever amount is
asked for and however many calls ask for it, in whichever order they take their turns: once all are answered,
as many have given a record as the account had the amount in it, and all others have found too little, the
balance is as many times the amount less, and as many withdrawals have been recorded. And all of them are
answered, if only every call gets its turn often enough. -/
theorem withdrawals_succeed (calls : Name → Call) (storage : Storage) (patience : Value) (row : AccountRow)
    (amount : ℚ) (stocks : storage.Stocks row (Fintype.card Name))
    (withdrawing : Withdrawing calls patience row.id amount) :
    let bank : Bank Name := { storage, patience }
    (∀ names, (bank.turns calls names).Answered →
      Withdrawn storage.database row amount
        (min (Fintype.card Name) ⌊Money.worth row.balance / amount⌋₊) (bank.turns calls names)) ∧
    ∃ enough, ∀ rounds : List (List Name), enough ≤ rounds.length →
      (∀ round ∈ rounds, ∀ name, name ∈ round) → (bank.turns calls rounds.flatten).Answered := by
  intro bank
  obtain ⟨cents, positive, rfl⟩ := withdrawing.cents
  obtain ⟨balance, stored, notBelow⟩ := stocks.cents
  have patient : bank.Patient calls := by
    intro name seconds timed
    obtain ⟨seconds', timed', waits⟩ := withdrawing.waits name
    obtain rfl := Except.ok.inj (timed.symm.trans timed')
    exact waits
  have sound : bank.Sound calls := sound_start storage patient
  constructor
  · intro names answered
    let stock : Stock :=
      { start := storage.database, account := row.id, balance, version := row.version, cents }
    have fits : ∀ count ≤ Fintype.card Name, stock.Fits count :=
      fun count few ↦ ⟨stocks.word, stocks.versions count few⟩
    have withdraws : (bank.turns calls names).Withdraws stock :=
      (withdraws_start stocks stored notBelow).turns sound withdrawing fits names
    have count := withdraws.served_eq answered positive
    rw [Money.worth_of_storedCents stored, ← count]
    exact withdraws.withdrawn answered rfl stored
  · refine ⟨bank.left calls, fun rounds enough fair ↦ ?_⟩
    have schedule : rounds.flatten.map (·, CallEvent.go) =
        (rounds.map fun round ↦ round.map (·, CallEvent.go)).flatten := List.map_flatten
    rw [turns, schedule]
    refine sound.answered_of_rounds (fun round member name ↦ ?_) (by rwa [List.length_map])
    obtain ⟨names, isRound, rfl⟩ := List.mem_map.1 member
    exact List.mem_map_of_mem (fair names isRound name)

/-- Three calls that withdraw forty each. -/
def fortyEach (_ : Fin 3) : Call where
  engine := {
    ceilings := ⟨[(.withdrawal, .integer 1000)]⟩
    lockTimeout := .integer 5
    retry := Retry.make (.integer 3) (.integer 0) }
  movement := .withdrawal 1
  amount := .decimal (.finite false 4000 (-2))
  description := .text "Cash withdrawal"

/-- An account that holds a hundred. -/
def hundred : AccountRow := ⟨1, "ACC0000000001", 1, .checking, .active, "100.00", 1⟩

theorem stocks_hundred : Storage.Stocks { database := { accounts := [hundred] } } hundred 3 where
  calm := ⟨rfl, rfl, rfl⟩
  found := rfl
  active := rfl
  cents := ⟨10000, by decide +kernel, by decide⟩
  word := rfl
  versions count few := by
    interval_cases count <;> rfl
  fresh _ _ := rfl

theorem withdrawing_fortyEach : Withdrawing fortyEach (.integer 0) 1 40 where
  cents := ⟨4000, by decide, by norm_num⟩
  movement _ := rfl
  wellPut _ := by
    have amount : (Decimal.finite false 4000 (-2)).toRat = 40 := by
      norm_num [Decimal.toRat, Decimal.signed]
    have ceiling : (Decimal.finite false 1000 0).toRat = 1000 := by
      norm_num [Decimal.toRat, Decimal.signed]
    refine ⟨.finite false 4000 (-2), "Cash withdrawal", amount, ⟨rfl, ?_, .integer 1000, .finite false 1000 0,
      rfl, rfl, rfl, ?_⟩, ⟨rfl, by decide⟩, fun _ same ↦ by cases same⟩
    · norm_num [amount]
    · norm_num [amount, ceiling]
  counted _ := ⟨_, rfl⟩
  waits _ := ⟨_, rfl, by decide +kernel⟩

/-- Two of three withdrawals of forty go through on a hundred. -/
theorem withdrawals_succeed_fortyEach :
    ∃ names, let bank : Bank (Fin 3) := { storage := { database := { accounts := [hundred] } } }
      (bank.turns fortyEach names).Answered ∧
        Withdrawn { accounts := [hundred] } hundred 40 2 (bank.turns fortyEach names) := by
  obtain ⟨outcome, enough, fair⟩ := withdrawals_succeed fortyEach { database := { accounts := [hundred] } }
    (.integer 0) hundred 40 stocks_hundred withdrawing_fortyEach
  have answered := fair (List.replicate enough [0, 1, 2]) (List.length_replicate ▸ Nat.le_refl _)
    fun round member name ↦ by
      rw [List.eq_of_mem_replicate member]
      fin_cases name <;> decide
  refine ⟨_, answered, ?_⟩
  have holds : Money.worth hundred.balance = 100 := by
    rw [Money.worth_of_storedCents (show Money.storedCents? hundred.balance = some 10000 by decide +kernel)]
    norm_num
  have twice : ⌊Money.worth hundred.balance / 40⌋₊ = 2 := by
    rw [holds, Nat.floor_eq_iff (by norm_num)]
    norm_num
  have withdrawn := outcome _ answered
  rw [twice] at withdrawn
  exact withdrawn

end Bank

end Passbook
