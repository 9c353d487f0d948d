import Mathlib.Algebra.BigOperators.Group.List.Basic
import Mathlib.Tactic.Linarith
import Passbook.Proofs.Ledger.Request
import Passbook.Proofs.Money.Worth

/-!
Balances and transactions agree. In every state of the tables that requests lead to from empty ones,
wherever the store fails, the balance of an account is exactly what transactions have brought to it less
what they have taken from it (`Reached.balances`), all balances together are what was deposited and
credited less what was withdrawn (`Reached.funds`), and transfers do not change that sum
(`Reached.transfer_funds`). `Database.Reconciled` is the invariant behind it.
-/

set_option autoImplicit false
set_option relaxedAutoImplicit false

namespace Passbook

open Procedure

/-! ### Sums of transactions -/

namespace Movement

/-- Whether a movement brings money to an account. -/
def brings (id : Int) : Movement → Bool
  | .deposit account | .interest account => account = id
  | .withdrawal _ => false
  | .transfer _ destination => destination = id

/-- Whether a movement takes money from an account. -/
def takes (id : Int) : Movement → Bool
  | .deposit _ | .interest _ => false
  | .withdrawal account => account = id
  | .transfer source _ => source = id

/-- Whether a movement is of a kind. -/
def isOf (kind : TransactionKind) (movement : Movement) : Bool := movement.kind = kind

/-- What a leg of a movement does to a balance is what the movement brings less what it takes. -/
theorem moved_eq {movement : Movement} (apart : (movement.legs.map (·.1)).Nodup)
    {leg : Int × Direction} (member : leg ∈ movement.legs) (balance cents : Int) :
    leg.2.moved balance cents =
      balance + (if movement.brings leg.1 then cents else 0) -
        (if movement.takes leg.1 then cents else 0) := by
  cases movement with
  | deposit account =>
    obtain rfl := List.mem_singleton.1 member
    simp [brings, takes, Direction.moved]
  | withdrawal account =>
    obtain rfl := List.mem_singleton.1 member
    simp [brings, takes, Direction.moved]
  | interest account =>
    obtain rfl := List.mem_singleton.1 member
    simp [brings, takes, Direction.moved]
  | transfer source destination =>
    have other : source ≠ destination := by simpa [legs] using apart
    rcases List.mem_pair.1 member with rfl | rfl
    · simp [brings, takes, Direction.moved, other.symm]
    · simp [brings, takes, Direction.moved, other]

theorem brings_other {movement : Movement} {id : Int} (other : id ∉ movement.accounts) :
    movement.brings id = false ∧ movement.takes id = false := by
  cases movement <;>
    simp_all [accounts, source, destination?, brings, takes, eq_comm]

end Movement

/-- The sum of the amounts of those transactions whose movement is selected. -/
def total (rows : List TransactionRow) (selects : Movement → Bool) : ℚ :=
  ((rows.filter (selects ·.movement)).map (Money.worth ·.amount)).sum

theorem total_append (rows : List TransactionRow) (row : TransactionRow)
    (selects : Movement → Bool) :
    total (rows ++ [row]) selects =
      total rows selects + if selects row.movement then Money.worth row.amount else 0 := by
  unfold total
  rw [List.filter_append, List.map_append, List.sum_append]
  cases selected : selects row.movement <;> simp [selected]

theorem total_cons (row : TransactionRow) (rows : List TransactionRow)
    (selects : Movement → Bool) :
    total (row :: rows) selects =
      (if selects row.movement then Money.worth row.amount else 0) + total rows selects := by
  unfold total
  cases selected : selects row.movement <;> simp [selected]

/-- The sum of all balances. -/
def Database.funds (database : Database) : ℚ :=
  (database.accounts.map (Money.worth ·.balance)).sum

theorem sum_ite_of_mem {ids : List Int} (apart : ids.Nodup) {id : Int} (member : id ∈ ids) (worth : ℚ) :
    (ids.map fun other ↦ if id = other then worth else 0).sum = worth := by
  have single := List.sum_map_ite_eq ids (fun _ ↦ worth) (fun _ ↦ (0 : ℚ)) id
  rw [List.count_eq_one_of_mem apart member] at single
  simpa [eq_comm] using single

/-- What one movement brings to all accounts less what it takes from them. -/
theorem sum_brings_takes_single {ids : List Int} (apart : ids.Nodup) (movement : Movement)
    (known : ∀ id ∈ movement.accounts, id ∈ ids) (worth : ℚ) :
    (ids.map fun id ↦ (if movement.brings id then worth else 0) -
        if movement.takes id then worth else 0).sum =
      (if movement.isOf .deposit then worth else 0) + (if movement.isOf .interest then worth else 0) -
        if movement.isOf .withdrawal then worth else 0 := by
  cases movement with
  | deposit account =>
    have here := sum_ite_of_mem apart (known account (by simp [Movement.accounts, Movement.source])) worth
    simpa [Movement.brings, Movement.takes, Movement.isOf, Movement.kind] using here
  | withdrawal account =>
    have here :=
      sum_ite_of_mem apart (known account (by simp [Movement.accounts, Movement.source])) (-worth)
    simpa [Movement.brings, Movement.takes, Movement.isOf, Movement.kind, neg_ite] using here
  | interest account =>
    have here := sum_ite_of_mem apart (known account (by simp [Movement.accounts, Movement.source])) worth
    simpa [Movement.brings, Movement.takes, Movement.isOf, Movement.kind] using here
  | transfer source destination =>
    have gone :=
      sum_ite_of_mem apart (known source (by simp [Movement.accounts, Movement.source])) (-worth)
    have come := sum_ite_of_mem apart
      (known destination (by simp [Movement.accounts, Movement.destination?])) worth
    have none := List.sum_map_add (l := ids) (f := fun id ↦ if destination = id then worth else 0)
      (g := fun id ↦ if source = id then -worth else 0)
    rw [gone, come, add_neg_cancel] at none
    simpa [Movement.brings, Movement.takes, Movement.isOf, Movement.kind, sub_eq_add_neg,
      neg_ite] using none

/-- What transactions bring to all accounts less what they take from them. -/
theorem sum_brings_takes {ids : List Int} (apart : ids.Nodup) {rows : List TransactionRow}
    (known : ∀ row ∈ rows, ∀ id ∈ row.movement.accounts, id ∈ ids) :
    (ids.map fun id ↦ total rows (·.brings id) - total rows (·.takes id)).sum =
      total rows (·.isOf .deposit) + total rows (·.isOf .interest) -
        total rows (·.isOf .withdrawal) := by
  induction rows with
  | nil => simp [total]
  | cons row rest ih =>
    have later := ih fun row member ↦ known row (List.mem_cons_of_mem _ member)
    have here := sum_brings_takes_single apart row.movement (known row List.mem_cons_self)
      (Money.worth row.amount)
    have both (id : Int) : total (row :: rest) (·.brings id) - total (row :: rest) (·.takes id) =
        ((if row.movement.brings id then Money.worth row.amount else 0) -
          if row.movement.takes id then Money.worth row.amount else 0) +
        (total rest (·.brings id) - total rest (·.takes id)) := by
      rw [total_cons, total_cons]
      ring
    simp only [both]
    rw [List.sum_map_add, here, later, total_cons, total_cons, total_cons]
    ring

/-! ### The invariant -/

/-- Tables in which balances and transactions agree. -/
structure Database.Reconciled (database : Database) : Prop where
  keys : (database.accounts.map (·.id)).Nodup
  exact : ∀ row ∈ database.transactions, ∃ cents, Money.storedCents? row.amount = some cents
  known : ∀ row ∈ database.transactions, ∀ id ∈ row.movement.accounts,
    id ∈ database.accounts.map (·.id)
  balances : ∀ id row, database.account? id = some row →
    ∃ cents, Money.storedCents? row.balance = some cents ∧ 0 ≤ cents ∧
      (cents : ℚ) / 100 =
        total database.transactions (·.brings id) - total database.transactions (·.takes id)

namespace Database

variable {before after : Database}

theorem mem_ids_of_account? {database : Database} {id : Int} {row : AccountRow}
    (found : database.account? id = some row) : id ∈ database.accounts.map (·.id) := by
  obtain ⟨member, rfl⟩ := mem_of_account? found
  exact List.mem_map_of_mem member

theorem reconciled_empty : Reconciled {} where
  keys := List.nodup_nil
  exact _ member := by cases member
  known _ member := by cases member
  balances _ _ found := by cases found

/-- A movement that was applied exactly once keeps balances and transactions in agreement. -/
theorem Reconciled.posted {posting : Posting} {cents : Int} {row : TransactionRow}
    (reconciled : before.Reconciled) (moves : posting.Moves cents)
    (posted : before.Posted posting cents row after) : after.Reconciled := by
  have amount : Money.storedCents? row.amount = some cents := by
    rw [posted.amount]
    exact Money.storedCents?_text moves.exact
  have totals (selects : Movement → Bool) : total after.transactions selects =
      total before.transactions selects +
        if selects posting.movement then (cents : ℚ) / 100 else 0 := by
    rw [posted.recorded, total_append, posted.movement, Money.worth_of_storedCents amount]
  refine ⟨posted.ids.symm ▸ reconciled.keys, ?_, ?_, ?_⟩
  · intro other member
    rw [posted.recorded, List.mem_append, List.mem_singleton] at member
    rcases member with earlier | rfl
    · exact reconciled.exact other earlier
    · exact ⟨cents, amount⟩
  · intro other member id involved
    rw [posted.ids]
    rw [posted.recorded, List.mem_append, List.mem_singleton] at member
    rcases member with earlier | rfl
    · exact reconciled.known other earlier id involved
    · rw [posted.movement, Movement.accounts_eq_legs] at involved
      obtain ⟨leg, isLeg, rfl⟩ := List.mem_map.1 involved
      obtain ⟨old, _, _, _, found, -⟩ := posted.legs leg isLeg
      exact mem_ids_of_account? found
  · intro id new found
    rw [totals, totals]
    by_cases involved : id ∈ posting.movement.accounts
    · rw [Movement.accounts_eq_legs] at involved
      obtain ⟨leg, isLeg, rfl⟩ := List.mem_map.1 involved
      obtain ⟨old, _, balance, number, there, -, stored, enough, whole, written, moved⟩ :=
        posted.legs leg isLeg
      rw [written] at found
      obtain rfl := Option.some.inj found
      obtain ⟨balance', stored', -, agrees⟩ := reconciled.balances _ _ there
      rw [stored] at stored'
      obtain rfl := Option.some.inj stored'
      refine ⟨_, moved.storedCents?.trans whole, enough, ?_⟩
      rw [Movement.moved_eq moves.apart isLeg]
      push_cast
      split <;> split <;> linarith
    · obtain ⟨brings, takes⟩ := Movement.brings_other involved
      rw [posted.others id involved] at found
      rw [brings, takes]
      simpa using reconciled.balances id new found

/-- An account without money that is opened has no transactions yet. -/
theorem Reconciled.opened {row : AccountRow} (reconciled : before.Reconciled)
    (opened : before.Opened row after) : after.Reconciled := by
  have absent : row.id ∉ before.accounts.map (·.id) := by
    intro member
    obtain ⟨other, there, same⟩ := List.mem_map.1 member
    have found := account?_of_mem reconciled.keys there
    rw [same, opened.unused] at found
    cases found
  refine ⟨?_, ?_, ?_, ?_⟩
  · rw [opened.accounts, List.map_append, List.nodup_append]
    refine ⟨reconciled.keys, List.nodup_singleton _, ?_⟩
    rintro id member _ single rfl
    rw [List.map_singleton, List.mem_singleton] at single
    exact absent (single ▸ member)
  · rw [opened.transactions]
    exact reconciled.exact
  · intro other member id involved
    rw [opened.transactions] at member
    rw [opened.accounts, List.map_append]
    exact List.mem_append_left _ (reconciled.known other member id involved)
  · intro id new found
    rw [opened.transactions]
    rw [opened.account?] at found
    cases there : before.account? id with
    | some old =>
      rw [there] at found
      obtain rfl := Option.some.inj found
      exact reconciled.balances id old there
    | none =>
      rw [there, Option.none_or] at found
      split at found
      · next same =>
        obtain rfl := Option.some.inj found
        subst same
        have untouched (selects : Int → Movement → Bool)
            (other : ∀ movement : Movement, row.id ∉ movement.accounts →
              selects row.id movement = false) :
            total before.transactions (selects row.id) = 0 := by
          unfold total
          rw [List.filter_eq_nil_iff.2]
          · rfl
          · intro transaction member selected
            rw [other transaction.movement fun involved ↦
              absent (reconciled.known transaction member row.id involved)] at selected
            cases selected
        refine ⟨0, ?_, Int.le_refl 0, ?_⟩
        · rw [opened.empty]
          exact Money.storedCents?_text (Decimal.cents?_finite false (by decide))
        · rw [untouched Movement.brings fun _ other ↦ (Movement.brings_other other).1,
            untouched Movement.takes fun _ other ↦ (Movement.brings_other other).2]
          norm_num
      · cases found

/-- A change of status moves no money. -/
theorem Reconciled.statusChanged {id : Int} {status : AccountStatus} {reason : String}
    {old : AccountRow} (reconciled : before.Reconciled)
    (changed : before.StatusChanged id status reason old after) : after.Reconciled := by
  refine ⟨changed.ids.symm ▸ reconciled.keys, changed.transactions.symm ▸ reconciled.exact, ?_, ?_⟩
  · rw [changed.transactions, changed.ids]
    exact reconciled.known
  · intro other new found
    rw [changed.transactions]
    rw [changed.account?] at found
    by_cases same : other = id
    · rw [if_pos same] at found
      obtain rfl := Option.some.inj found
      exact same ▸ reconciled.balances id old changed.found
    · rw [if_neg same] at found
      exact reconciled.balances other new found

end Database

/-! ### Runs -/

/-- The tables that requests lead to from empty ones. Between requests everything but the tables may
become different: how the store is going to fail, the locks, the clock and the settings. -/
inductive Reached : Database → Prop where
  | empty : Reached {}
  | request (ledger : Ledger) (request : Request) : Reached ledger.storage.database →
      ledger.storage.intrusions = [] → Reached (request.perform ledger).storage.database

/-- One request keeps balances and transactions in agreement. -/
theorem Database.Reconciled.perform {ledger : Ledger} (reconciled : ledger.storage.database.Reconciled)
    (alone : ledger.storage.intrusions = []) (request : Request) :
    (request.perform ledger).storage.database.Reconciled := by
  rcases request.perform_cases alone with same | done
  · exact same ▸ reconciled
  · cases done with
    | opened _ _ row opened => exact reconciled.opened opened
    | statusChanged _ _ _ old changed => exact reconciled.statusChanged changed
    | posted _ _ _ _ row applied =>
      obtain ⟨posting, cents, -, -, moves, posted⟩ := applied
      exact reconciled.posted moves posted

namespace Reached

variable {database : Database}

theorem reconciled (reached : Reached database) : database.Reconciled := by
  induction reached with
  | empty => exact Database.reconciled_empty
  | request ledger request _ alone ih => exact ih.perform alone request

/-- All balances together are what was deposited and credited less what was withdrawn. -/
theorem funds_eq (reached : Reached database) :
    database.funds = total database.transactions (·.isOf .deposit) +
      total database.transactions (·.isOf .interest) -
        total database.transactions (·.isOf .withdrawal) := by
  have reconciled := reached.reconciled
  rw [← sum_brings_takes reconciled.keys reconciled.known, Database.funds, List.map_map]
  refine congrArg List.sum (List.map_congr_left fun account member ↦ ?_)
  obtain ⟨cents, stored, -, agrees⟩ :=
    reconciled.balances _ _ (Database.account?_of_mem reconciled.keys member)
  rw [Money.worth_of_storedCents stored, agrees]
  rfl

/-- A transfer does not change what all balances are together. -/
theorem transfer_funds {ledger : Ledger} (reached : Reached ledger.storage.database)
    (alone : ledger.storage.intrusions = []) (engine : Engine) (source destination : Int)
    (amount description : Value) :
    ((Request.post engine (.transfer source destination) amount description).perform
        ledger).storage.database.funds =
      ledger.storage.database.funds := by
  let request := Request.post engine (.transfer source destination) amount description
  rw [(Reached.request ledger request reached alone).funds_eq, reached.funds_eq]
  rcases Ledger.post_applied engine (.transfer source destination) amount description alone with
    same | ⟨row, posting, cents, asked, -, -, posted⟩
  · change (request.perform ledger).storage.database = _ at same
    rw [same]
  · have unchanged (kind : TransactionKind) (other : TransactionKind.transfer ≠ kind) :
        total (request.perform ledger).storage.database.transactions (·.isOf kind) =
          total ledger.storage.database.transactions (·.isOf kind) := by
      change total (Ledger.post engine _ amount description ledger).2.storage.database.transactions
        _ = _
      rw [posted.recorded, total_append, posted.movement, asked.movement]
      simp [Movement.isOf, Movement.kind, other]
    rw [unchanged .deposit (by decide), unchanged .interest (by decide),
      unchanged .withdrawal (by decide)]

/-- In every state that requests lead to, the balance of an account is exactly what transactions have
brought to it less what they have taken from it, a whole number of cents and not below zero; all balances
together are what was deposited and credited less what was withdrawn, and no transfer changes that. -/
theorem balances_reconcile (reached : Reached database) :
    (∀ account ∈ database.accounts, ∃ number, Money.readText account.balance = .ok number ∧
        number.isFinite = true ∧
        number.toRat = total database.transactions (·.brings account.id) -
          total database.transactions (·.takes account.id) ∧
        ∃ cents : ℕ, number.toRat = cents / 100) ∧
      (∀ row ∈ database.transactions, ∃ number, Money.readText row.amount = .ok number ∧
        number.isFinite = true) ∧
      database.funds = total database.transactions (·.isOf .deposit) +
        total database.transactions (·.isOf .interest) -
          total database.transactions (·.isOf .withdrawal) ∧
      ∀ (ledger : Ledger) (engine : Engine) (source destination : Int) (amount description : Value),
        ledger.storage.database = database → ledger.storage.intrusions = [] →
          ((Request.post engine (.transfer source destination) amount description).perform
            ledger).storage.database.funds = database.funds := by
  have reconciled := reached.reconciled
  refine ⟨fun account member ↦ ?_, fun row member ↦ ?_, reached.funds_eq, ?_⟩
  · obtain ⟨cents, stored, notBelow, agrees⟩ :=
      reconciled.balances _ _ (Database.account?_of_mem reconciled.keys member)
    obtain ⟨number, isRead, finite, worth⟩ :=
      Money.readText_of_storedCents stored
    refine ⟨number, isRead, finite, worth.trans agrees, cents.toNat, ?_⟩
    rw [worth, ← Int.cast_natCast, Int.toNat_of_nonneg notBelow]
  · obtain ⟨cents, stored⟩ := reconciled.exact row member
    obtain ⟨number, isRead, finite, -⟩ := Money.readText_of_storedCents stored
    exact ⟨number, isRead, finite⟩
  · rintro ledger engine source destination amount description rfl alone
    exact reached.transfer_funds alone engine source destination amount description

/-- A deposit into an account that was just opened. -/
theorem balances_reconcile_deposit :
    let first := (Request.openAccount (some 1) .checking).perform {}
    let second := (Request.post (Ledger.trying 1 (by decide)) (.deposit 1) (.text "12.34")
      (.text "")).perform first
    second.storage.database.accounts.map (·.balance) = ["12.34"] ∧
      second.storage.database.funds =
        total second.storage.database.transactions (·.isOf .deposit) +
          total second.storage.database.transactions (·.isOf .interest) -
            total second.storage.database.transactions (·.isOf .withdrawal) := by
  intro first second
  have reached : Reached second.storage.database :=
    .request first _ (.request {} _ .empty rfl) (by decide +kernel)
  exact ⟨by decide +kernel, (balances_reconcile reached).2.2.1⟩

end Reached

end Passbook
