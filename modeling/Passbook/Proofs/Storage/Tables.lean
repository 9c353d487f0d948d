import Passbook.Proofs.Procedure
import Passbook.Storage.Database

/-!
The tables from one write to the next. Accounts are never taken away and a write raises the version, so
tables only move forward (`Database.Advances`). `Database.Showed` says of an account that somebody holds
that it was read from an earlier state of the tables: its row has moved on since, or still reads as it
did (`Showed.of_advances`). The other lemmas follow one row through a replacement or an addition.
-/

set_option autoImplicit false
set_option relaxedAutoImplicit false

namespace Passbook

theorem AccountRow.read_ok {row : AccountRow} {account : Account} (read : row.read = .ok account) :
    ∃ balance, Money.readText row.balance = .ok balance ∧
      account = { id := row.id, number := row.number, owner := row.owner, kind := row.kind
                  status := row.status, balance, version := row.version } := by
  obtain ⟨balance, text, same⟩ := ok_of_bind_except read
  exact ⟨balance, text, (Except.ok.inj same).symm⟩

theorem AccountRow.id_of_read {row : AccountRow} {account : Account} (read : row.read = .ok account) :
    account.id = row.id := by
  obtain ⟨_, _, rfl⟩ := read_ok read
  rfl

/-- A row reads the same after its text was read and nothing else has changed. -/
theorem AccountRow.read_of_readText {row : AccountRow} {balance : Decimal}
    (read : Money.readText row.balance = .ok balance) :
    row.read = .ok { id := row.id, number := row.number, owner := row.owner, kind := row.kind
                     status := row.status, balance, version := row.version } := by
  rw [AccountRow.read, read]
  rfl

namespace Database

variable {database before after : Database} {id : Int} {row : AccountRow}

theorem accountAt?_eq_some {version : Int} (found : database.accountAt? id version = some row) :
    database.account? id = some row ∧ row.version = version := by
  unfold accountAt? at found
  obtain ⟨there, same⟩ := Option.filter_eq_some_iff.1 found
  exact ⟨there, by simpa using same⟩

theorem account?_congr (same : after.accounts = before.accounts) (id : Int) :
    after.account? id = before.account? id := by
  rw [account?, same]
  rfl

theorem mem_of_account? (found : database.account? id = some row) :
    row ∈ database.accounts ∧ row.id = id :=
  ⟨List.mem_of_find?_eq_some found, account?_id found⟩

theorem mem_of_accountAt? {version : Int} (found : database.accountAt? id version = some row) :
    row ∈ database.accounts :=
  (mem_of_account? (accountAt?_eq_some found).1).1

/-- With one row for each key, every row is the one that is found under its key. -/
theorem find?_key_of_mem {Row Key : Type} [BEq Key] [LawfulBEq Key] {key : Row → Key} {rows : List Row} {row : Row}
    (keys : (rows.map key).Nodup) (member : row ∈ rows) : rows.find? (key · == key row) = some row := by
  induction rows with
  | nil => cases member
  | cons first rest ih =>
    rw [List.map_cons, List.nodup_cons] at keys
    rcases List.mem_cons.1 member with rfl | later
    · simp
    · have apart : key first ≠ key row := fun same ↦ keys.1 (same ▸ List.mem_map_of_mem later)
      rw [List.find?_cons, beq_false_of_ne apart]
      exact ih keys.2 later

/-- With one row for each id, every row is the one that is found under its id. -/
theorem account?_of_mem (keys : (database.accounts.map (·.id)).Nodup)
    (member : row ∈ database.accounts) : database.account? row.id = some row :=
  find?_key_of_mem keys member

@[simp]
theorem ids_replace (database : Database) (row : AccountRow) :
    (database.replace row).accounts.map (·.id) = database.accounts.map (·.id) := by
  unfold replace
  rw [List.map_map]
  refine List.map_congr_left fun old _ ↦ ?_
  change (if old.id = row.id then row else old).id = old.id
  split
  · next same => exact same.symm
  · rfl

/-- A replaced account is found under its id, and the others are as before. -/
theorem account?_replace {old : AccountRow} (found : database.account? row.id = some old)
    (id : Int) :
    (database.replace row).account? id = if id = row.id then some row else database.account? id := by
  by_cases same : id = row.id
  · rw [if_pos same, same]
    exact account?_replace_self found
  · rw [if_neg same]
    exact account?_replace_other same

/-- An account that is added is found if none had its id before. -/
theorem account?_addAccount (database : Database) (row : AccountRow) (id : Int) :
    (database.addAccount row).account? id =
      (database.account? id).or (if row.id = id then some row else none) := by
  unfold addAccount account?
  rw [List.find?_append]
  by_cases same : row.id = id <;> simp [same]

theorem transactionReferenced?_addTransaction (database : Database) (row : TransactionRow)
    (reference : Reference) :
    (database.addTransaction row).transactionReferenced? reference =
      (database.transactionReferenced? reference).or
        (if row.reference = reference then some row else none) := by
  unfold addTransaction transactionReferenced?
  rw [List.find?_append]
  by_cases same : row.reference = reference <;> simp [same]

/-! ### Ids -/

theorem le_foldl_max (ids : List Int) (start : Int) :
    start ≤ ids.foldl max start ∧ ∀ id ∈ ids, id ≤ ids.foldl max start := by
  induction ids generalizing start with
  | nil => exact ⟨Int.le_refl start, fun _ member ↦ by cases member⟩
  | cons first rest ih =>
    obtain ⟨fromStart, others⟩ := ih (max start first)
    refine ⟨Int.le_trans (Int.le_max_left start first) fromStart, fun id member ↦ ?_⟩
    rcases List.mem_cons.1 member with rfl | later
    · exact Int.le_trans (Int.le_max_right start id) fromStart
    · exact others id later

/-- The next id is above all that are in use. -/
theorem lt_nextId {ids : List Int} {id : Int} (member : id ∈ ids) : id < nextId ids := by
  cases ids with
  | nil => cases member
  | cons first rest =>
    obtain ⟨fromFirst, others⟩ := le_foldl_max rest first
    rcases List.mem_cons.1 member with rfl | later
    · exact Int.lt_add_one_of_le fromFirst
    · exact Int.lt_add_one_of_le (others id later)

/-! ### Tables that move forward -/

/-- Every account is still there, unchanged or with a higher version. -/
def Advances (before after : Database) : Prop :=
  ∀ id row, before.account? id = some row →
    ∃ later, after.account? id = some later ∧ (later = row ∨ row.version < later.version)

theorem Advances.refl (database : Database) : database.Advances database :=
  fun _ row found ↦ ⟨row, found, Or.inl rfl⟩

theorem Advances.trans {middle : Database} (begins : before.Advances middle) (goesOn : middle.Advances after) :
    before.Advances after := by
  intro id row found
  obtain ⟨between, there, same⟩ := begins id row found
  obtain ⟨later, stillThere, same'⟩ := goesOn id between there
  refine ⟨later, stillThere, ?_⟩
  rcases same' with rfl | raised
  · exact same
  · refine Or.inr (Int.lt_of_le_of_lt ?_ raised)
    rcases same with rfl | raised
    · exact Int.le_refl _
    · exact Int.le_of_lt raised

/-- Replacing an account by one of a higher version moves the tables forward. -/
theorem advances_replace {old : AccountRow} (found : database.account? row.id = some old)
    (raised : old.version < row.version) : database.Advances (database.replace row) := by
  intro id other there
  by_cases same : id = row.id
  · subst same
    rw [found] at there
    obtain rfl := Option.some.inj there
    exact ⟨row, account?_replace_self found, Or.inr raised⟩
  · exact ⟨other, (account?_replace_other same).trans there, Or.inl rfl⟩

theorem advances_addAccount (database : Database) (row : AccountRow) :
    database.Advances (database.addAccount row) := by
  intro id other there
  exact ⟨other, by rw [account?_addAccount, there]; rfl, Or.inl rfl⟩

/-- The account was read from an earlier state of the tables: its row has a higher version by now, or
still reads as it did. -/
def Showed (database : Database) (account : Account) : Prop :=
  ∃ row, database.account? account.id = some row ∧ account.version ≤ row.version ∧
    (row.version = account.version → row.read = .ok account)

theorem showed_of_read {account : Account} (found : database.account? id = some row)
    (read : row.read = .ok account) : database.Showed account := by
  obtain ⟨balance, -, rfl⟩ := AccountRow.read_ok read
  refine ⟨row, ?_, Int.le_refl _, fun _ ↦ read⟩
  change database.account? row.id = some row
  rw [account?_id found]
  exact found

/-- What was read from the tables was read from every later state of them too. -/
theorem Showed.of_advances {account : Account} (showed : before.Showed account)
    (advances : before.Advances after) : after.Showed account := by
  obtain ⟨row, found, notNewer, unchanged⟩ := showed
  obtain ⟨later, there, rfl | raised⟩ := advances account.id row found
  · exact ⟨later, there, notNewer, unchanged⟩
  · exact ⟨later, there, Int.le_trans notNewer (Int.le_of_lt raised), fun same ↦ by omega⟩

end Database

end Passbook
