import Mathlib.Data.List.Sort
import Mathlib.Data.Prod.Lex
import Passbook.Proofs.History.Growth

/-!
Walks of the history of an account. In a log whose instants go on with the ids, the history of an account is the
log read backwards, with what does not touch the account left out (`Database.history_eq`). A walk gives the first
so many records of that and changes nothing (`Ledger.walks`), and what is added to the log later comes in front
(`Database.Extends.recordsOf`). Main statement: `Database.history_newest`.
-/

set_option autoImplicit false
set_option relaxedAutoImplicit false

namespace Passbook

open Procedure Session Work

namespace Database

/-- The transactions of an account, the last one first. -/
def rowsOf (database : Database) (account : Int) : List TransactionRow :=
  (database.transactions.filter (·.movement.accounts.contains account)).reverse

/-- The records of an account, the last one first. -/
def recordsOf (database : Database) (account : Int) : List Record :=
  (database.rowsOf account).filterMap (·.read.toOption)

/-- Nothing has been recorded earlier than what has a smaller id. -/
def InOrder (database : Database) : Prop :=
  ∀ earlier ∈ database.transactions, ∀ later ∈ database.transactions,
    earlier.id ≤ later.id → earlier.recordedAt ≤ later.recordedAt

variable {database : Database}

theorem mem_rowsOf {account : Int} {row : TransactionRow} :
    row ∈ database.rowsOf account ↔ row ∈ database.transactions ∧ account ∈ row.movement.accounts := by
  simp [rowsOf]

/-- Of the transactions of an account each has a larger id than those behind it. -/
theorem rowsOf_descending (isLog : database.IsLog) (account : Int) :
    (database.rowsOf account).Pairwise fun newer older ↦ older.id < newer.id :=
  List.pairwise_reverse.2 (isLog.ascending.filter _)

/-- There is one transaction with an id. -/
theorem IsLog.eq_of_id (isLog : database.IsLog) {row other : TransactionRow} (there : row ∈ database.transactions)
    (there' : other ∈ database.transactions) (same : row.id = other.id) : row = other := by
  have keys : (database.transactions.map (·.id)).Nodup :=
    List.pairwise_map.2 (isLog.ascending.imp fun below ↦ below.ne)
  exact List.inj_on_of_nodup_map keys there there' same

/-- The instant of a transaction, and its id among those of one instant. -/
def moment (row : TransactionRow) : Int ×ₗ Int := toLex (row.recordedAt, row.id)

theorem isNewer_iff (left right : TransactionRow) : isNewer left right = true ↔ moment right ≤ moment left := by
  simp only [isNewer, moment, Prod.Lex.toLex_le_toLex, Bool.or_eq_true, Bool.and_eq_true, decide_eq_true_eq,
    beq_iff_eq, eq_comm (a := left.recordedAt)]

/-- The history of an account is the log read backwards. -/
theorem history_eq (isLog : database.IsLog) (inOrder : database.InOrder) (account : Int) :
    database.history account = database.rowsOf account := by
  have descending := rowsOf_descending isLog account
  have newest : (database.rowsOf account).Pairwise fun newer older ↦ isNewer newer older = true := by
    refine descending.imp_of_mem fun {newer older} isRow isRow' below ↦ ?_
    have inTime := inOrder older (mem_rowsOf.1 isRow').1 newer (mem_rowsOf.1 isRow).1 (Int.le_of_lt below)
    rw [isNewer_iff, moment, moment, Prod.Lex.toLex_le_toLex]
    exact (Int.lt_or_eq_of_le inTime).imp_right fun same ↦ ⟨same, Int.le_of_lt below⟩
  have sorted : (database.history account).Pairwise fun newer older ↦ isNewer newer older = true := by
    refine List.pairwise_mergeSort (fun first second third ↦ ?_) (fun first second ↦ ?_) _
    · simp only [isNewer_iff]
      exact fun before next ↦ next.trans before
    · rw [Bool.or_eq_true, isNewer_iff, isNewer_iff]
      exact le_total _ _
  have same : (database.history account).Perm (database.rowsOf account) :=
    (List.mergeSort_perm _ _).trans (List.reverse_perm _).symm
  refine same.eq_of_pairwise (fun row other isRow isRow' newer older ↦ ?_) sorted newest
  have isSame := le_antisymm ((isNewer_iff ..).1 older) ((isNewer_iff ..).1 newer)
  exact isLog.eq_of_id (mem_rowsOf.1 (same.mem_iff.1 isRow)).1 (mem_rowsOf.1 isRow').1
    (congrArg (fun moment ↦ (ofLex moment).2) isSame)

end Database

/-! ### Records -/

/-- The record of a row has what the row has, and may be made. -/
theorem TransactionRow.read_ok {row : TransactionRow} {record : Record} (isRead : row.read = .ok record) :
    record.id = some row.id ∧ record.movement = row.movement ∧ ∀ account, row.movement ≠ .transfer account account := by
  obtain ⟨amount, -, made⟩ := ok_of_bind_except isRead
  obtain ⟨rfl, moves⟩ := Record.make_ok made
  exact ⟨rfl, rfl, apart_of_check moves⟩

/-- A transfer touches two accounts and everything else one. -/
theorem Movement.accounts_nodup {movement : Movement} (apart : ∀ account, movement ≠ .transfer account account) :
    movement.accounts.Nodup ∧ movement.accounts.length = if movement.kind = .transfer then 2 else 1 := by
  cases movement with
  | deposit | withdrawal | interest => exact ⟨List.nodup_singleton _, rfl⟩
  | transfer source destination =>
    have other : source ≠ destination := fun same ↦ apart source (same ▸ rfl)
    exact ⟨by simpa [accounts, Movement.source, destination?] using other, rfl⟩

/-- Items that all have an image keep it, and no other comes before it. -/
theorem filterMap_take {Item Image : Type} {image : Item → Option Image} {items : List Item}
    (all : ∀ item ∈ items, (image item).isSome = true) (count : Nat) :
    (items.take count).filterMap image = (items.filterMap image).take count := by
  induction items generalizing count with
  | nil => simp
  | cons first rest ih =>
    obtain ⟨shown, isShown⟩ := Option.isSome_iff_exists.1 (all first List.mem_cons_self)
    cases count with
    | zero => simp
    | succ count =>
      have goesOn := ih (fun item member ↦ all item (List.mem_cons_of_mem _ member)) count
      simp [isShown, goesOn]

namespace Database

variable {database : Database}

theorem IsLog.isSome_read (isLog : database.IsLog) (account : Int) :
    ∀ row ∈ database.rowsOf account, row.read.toOption.isSome = true := by
  intro row member
  obtain ⟨record, isRead⟩ := isLog.readable row (mem_rowsOf.1 member).1
  rw [isRead]
  rfl

theorem mem_recordsOf {account : Int} {record : Record} :
    record ∈ database.recordsOf account ↔
      ∃ row ∈ database.transactions, account ∈ row.movement.accounts ∧ row.read = .ok record := by
  simp only [recordsOf, List.mem_filterMap, mem_rowsOf, toOption_eq_some_except, and_assoc]

/-- As many records are of an account as there are transactions that touch it. -/
theorem length_recordsOf (isLog : database.IsLog) (account : Int) :
    (database.recordsOf account).length =
      (database.transactions.filter (·.movement.accounts.contains account)).length := by
  rw [recordsOf, List.filterMap_length_eq_length.2 (isLog.isSome_read account), rowsOf, List.length_reverse]

/-- The records of an account come with descending ids, so each of them once. -/
theorem recordsOf_descending (isLog : database.IsLog) (account : Int) :
    (database.recordsOf account).Pairwise fun newer older ↦
      ∃ id id', newer.id = some id ∧ older.id = some id' ∧ id' < id := by
  refine List.pairwise_filterMap.2 ((rowsOf_descending isLog account).imp ?_)
  intro newer older below record isRead record' isRead'
  have read := (TransactionRow.read_ok (toOption_eq_some_except.1 isRead)).1
  have read' := (TransactionRow.read_ok (toOption_eq_some_except.1 isRead')).1
  exact ⟨newer.id, older.id, read, read', below⟩

/-- What is added to a log comes in front of the records that there were. -/
theorem Extends.recordsOf {later : Database} (extends' : database.Extends later) :
    ∃ added, later.transactions = database.transactions ++ added ∧ ∀ account,
      later.recordsOf account = { database with transactions := added }.recordsOf account ++
        database.recordsOf account := by
  obtain ⟨added, same⟩ := extends'.isPrefix
  refine ⟨added, same.symm, fun account ↦ ?_⟩
  simp only [Database.recordsOf, rowsOf, ← same, List.filter_append, List.reverse_append, List.filterMap_append]

end Database

/-! ### Walks -/

namespace Work

/-- Rows that can be read are read, and nothing comes of that. -/
theorem mapM_read {rows : List TransactionRow} (readable : ∀ row ∈ rows, row.read.toOption.isSome = true)
    (session : Session) :
    (rows.mapM fun row ↦ Procedure.ofExcept row.read : Work (List Record)) session =
      (.ok (rows.filterMap (·.read.toOption)), session) := by
  induction rows with
  | nil => rfl
  | cons first rest ih =>
    obtain ⟨record, isRead⟩ := Option.isSome_iff_exists.1 (readable first List.mem_cons_self)
    have goesOn := ih fun row member ↦ readable row (List.mem_cons_of_mem _ member)
    have isRead' := toOption_eq_some_except.1 isRead
    rw [List.mapM_cons, run_bind, run_ofExcept, isRead']
    simp only [run_bind, goesOn, run_pure, List.filterMap_cons, isRead]

variable {storage : Storage} {account limit : Int}

theorem historyRows_run (reachable : storage.reachable = true) (fits : fitsWord account = true)
    (fits' : fitsWord limit = true) (notBelow : 0 ≤ limit) :
    historyRows account limit (opened storage) =
      (.ok ((storage.database.history account).take limit.toNat), { opened storage with connected := true }) := by
  unfold historyRows
  rw [run_bind_ok (connect_reachable reachable), run_bind_ok (requireWord_of_fits fits _),
    run_bind_ok (requireWord_of_fits fits' _), run_bind_ok (view_of_eq (show _ = storage.database from rfl)),
    if_neg (Int.not_lt.2 notBelow)]
  rfl

end Work

namespace Value

/-- A whole number of rows is as many rows. -/
theorem rowCount_integer (number : Int) : rowCount (.integer number) = .ok number := by
  have whole (negative : Bool) (magnitude : Nat) :
      wholePart (.finite negative magnitude 0) = .ok (Decimal.signed negative magnitude) := by
    simp [wholePart, Decimal.signed]
  rw [rowCount, number?, Decimal.ofInt]
  dsimp only
  rw [whole, Decimal.signed_natAbs]

/-- A whole number from one on is asked for without a complaint. -/
theorem atLeastOne_integer {number : Int} (notBelow : 1 ≤ number) (fault : String → BadValue) :
    atLeastOne (.integer number) fault = .ok (.integer number) := by
  have compared : (Value.integer number).compare (.integer 1) = .ok (some (cmp (number : ℚ) 1)) := by
    refine compare_of_some rfl rfl ?_
    rw [Decimal.compare?_toRat rfl rfl, Decimal.toRat_ofInt, Decimal.toRat_ofInt, Int.cast_one]
  have notLess : cmp (number : ℚ) 1 ≠ .lt := fun less ↦
    ((cmp_eq_lt_iff _ _).1 less).not_ge (by exact_mod_cast notBelow)
  have isBelow : (Value.integer number).isBelow (.integer 1) = .ok false := by
    rw [isBelow, compared]
    exact congrArg Except.ok (beq_eq_false_iff_ne.2 fun less ↦ notLess (Option.some.inj less))
  rw [atLeastOne, isBelow]
  rfl

end Value

namespace Ledger

variable {ledger : Ledger} {account : Int}

/-- Walks of the history of an account give the first of some records, as many as are asked for, and change
nothing. -/
structure Walks (ledger : Ledger) (account : Int) (records : List Record) : Prop where
  asked : ∀ limit, 1 ≤ limit →
    history account (.integer limit) ledger = (.ok ⟨account, .integer limit⟩, ledger)
  walked : ∀ limit, 1 ≤ limit → limit ≤ maxWord →
    walk ⟨account, .integer limit⟩ ledger = (.ok (records.take limit.toNat), ledger)
  fewer : ∀ fewer limit : Int, 1 ≤ fewer → fewer ≤ limit → limit ≤ maxWord →
    walk ⟨account, .integer fewer⟩ ledger = (.ok ((records.take limit.toNat).take fewer.toNat), ledger)
  begun : ∀ limit most, 1 ≤ limit → limit ≤ maxWord →
    walkStart ⟨account, .integer limit⟩ most ledger = (.ok ((records.take limit.toNat).take most), ledger)

/-- A count of rows from one on fits a word up to the largest one. -/
theorem fitsWord_of_le {limit : Int} (notBelow : 1 ≤ limit) (fits : limit ≤ maxWord) : fitsWord limit = true := by
  have least : minWord ≤ 1 := by decide
  simp [fitsWord, fits, least.trans notBelow]

/-- In a log whose instants go on with the ids, walks of a history give the records of the account, the last one
first. -/
theorem walks (isLog : ledger.storage.database.IsLog) (inOrder : ledger.storage.database.InOrder)
    (reachable : ledger.storage.reachable = true) (fits : fitsWord account = true) :
    ledger.Walks account (ledger.storage.database.recordsOf account) := by
  have rows (limit : Int) (notBelow : 1 ≤ limit) (fits' : limit ≤ maxWord) :=
    historyRows_run reachable fits (fitsWord_of_le notBelow fits') (Int.le_trans (by decide) notBelow)
  simp only [Database.history_eq isLog inOrder] at rows
  have readable := isLog.isSome_read account
  have walked (limit : Int) (notBelow : 1 ≤ limit) (fits' : limit ≤ maxWord) :
      walk ⟨account, .integer limit⟩ ledger =
        (.ok ((ledger.storage.database.recordsOf account).take limit.toNat), ledger) := by
    unfold walk
    rw [run_bind, run_ofExcept, Value.rowCount_integer]
    dsimp only
    rw [running_run, run_eq, Work.history, run_bind_ok (rows limit notBelow fits'),
      mapM_read fun row member ↦ readable row (List.mem_of_mem_take member), filterMap_take readable]
    rfl
  refine ⟨fun limit notBelow ↦ ?_, walked, fun fewer limit notBelow below fits' ↦ ?_,
    fun limit most notBelow fits' ↦ ?_⟩
  · unfold history
    rw [run_bind, run_get]
    dsimp only [Value.orElse]
    rw [Value.atLeastOne_integer notBelow]
    rfl
  · rw [walked fewer notBelow (below.trans fits'), List.take_take, min_eq_left (Int.toNat_le_toNat below)]
  · unfold walkStart
    rw [run_bind, run_ofExcept, Value.rowCount_integer]
    dsimp only
    have shown : (((ledger.storage.database.rowsOf account).take limit.toNat).take (most + 1)).filterMap
        (·.read.toOption) = ((ledger.storage.database.recordsOf account).take limit.toNat).take (most + 1) := by
      rw [filterMap_take fun row member ↦ readable row (List.mem_of_mem_take member), filterMap_take readable]
      rfl
    rw [running_run, run_eq, Work.historyStart, run_bind_ok (rows limit notBelow fits'), run_bind,
      mapM_read fun row member ↦ readable row (List.mem_of_mem_take (List.mem_of_mem_take member)), shown]
    dsimp only
    rw [run_pure, List.take_take, min_eq_left (Nat.le_succ most)]
    rfl

end Ledger

/-- In every state of the tables that can come about, with instants that go on with the ids, walks of an account's
history give its newest records, as many as asked for or as there are, and all that touch the account if that is
enough. A record is one of its own accounts only: of both, if it is a transfer, and else of one. Whatever happens
later, walks begin with the records that were added and go on with those that were there. -/
theorem Database.history_newest {database : Database} (developed : Develops {} database)
    (inOrder : database.InOrder) :
    (∀ account,
      ((database.recordsOf account).Pairwise fun newer older ↦
        ∃ id id', newer.id = some id ∧ older.id = some id' ∧ id' < id) ∧
      (database.recordsOf account).length =
        (database.transactions.filter (·.movement.accounts.contains account)).length) ∧
    (∀ row ∈ database.transactions, ∃ record, row.read = .ok record ∧
      (∀ account, record ∈ database.recordsOf account ↔ account ∈ row.movement.accounts) ∧
      row.movement.accounts.Nodup ∧
      row.movement.accounts.length = if row.movement.kind = .transfer then 2 else 1) ∧
    (∀ (ledger : Ledger) (account : Int), ledger.storage.database = database →
      ledger.storage.reachable = true → fitsWord account = true →
        ledger.Walks account (database.recordsOf account)) ∧
    ∀ later : Database, database.Develops later → later.InOrder →
      ∃ added, later.transactions = database.transactions ++ added ∧
        ∀ (ledger : Ledger) (account : Int), ledger.storage.database = later →
          ledger.storage.reachable = true → fitsWord account = true →
            ledger.Walks account ({ database with transactions := added }.recordsOf account ++
              database.recordsOf account) := by
  have isLog := developed.extends.isLog isLog_empty
  refine ⟨fun account ↦ ⟨recordsOf_descending isLog account, length_recordsOf isLog account⟩,
    fun row there ↦ ?_, ?_, fun later goesOn inOrder' ↦ ?_⟩
  · obtain ⟨record, isRead⟩ := isLog.readable row there
    obtain ⟨-, movement, apart⟩ := TransactionRow.read_ok isRead
    refine ⟨record, isRead, fun account ↦ ⟨fun member ↦ ?_, fun touched ↦ ?_⟩, Movement.accounts_nodup apart⟩
    · obtain ⟨other, -, touched, isRead'⟩ := mem_recordsOf.1 member
      rw [← movement, (TransactionRow.read_ok isRead').2.1]
      exact touched
    · exact mem_recordsOf.2 ⟨row, there, touched, isRead⟩
  · rintro ledger account rfl reachable fits
    exact Ledger.walks isLog inOrder reachable fits
  · obtain ⟨added, grown, records⟩ := goesOn.extends.recordsOf
    refine ⟨added, grown, ?_⟩
    rintro ledger account rfl reachable fits
    rw [← records]
    exact Ledger.walks (goesOn.extends.isLog isLog) inOrder' reachable fits

/-- A transfer from an account with a deposit comes before that, and is the history of where it went. -/
theorem Database.history_newest_transfer :
    let calls : List StoreCall :=
      [.append { movement := .deposit 1, amount := .integer 5 },
        .append { movement := .transfer 1 2, amount := .integer 3 }, .commit]
    let ledger : Ledger := { storage := StoreCall.unit calls {} }
    let database := ledger.storage.database
    (database.recordsOf 1).map (·.id) = [some 2, some 1] ∧ (database.recordsOf 2).map (·.id) = [some 2] ∧
      ledger.Walks 1 (database.recordsOf 1) ∧ ledger.Walks 2 (database.recordsOf 2) := by
  intro calls ledger database
  have developed : Develops {} database := by
    change Develops {} (StoreCall.unit calls {}).database
    rw [StoreCall.unit_eq]
    exact .calls (opened {}) calls .none rfl
  have inOrder : database.InOrder := by
    unfold InOrder
    decide +kernel
  obtain ⟨-, -, walks, -⟩ := history_newest developed inOrder
  exact ⟨by decide +kernel, by decide +kernel, walks ledger 1 rfl (by decide +kernel) (by decide),
    walks ledger 2 rfl (by decide +kernel) (by decide)⟩

end Passbook
