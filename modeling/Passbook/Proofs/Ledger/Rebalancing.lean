import Passbook.Proofs.Ledger.Application
import Passbook.Proofs.Storage.Calm

/-!
The new balances of a posting. A leg of it that is covered has its new balance, which a column can hold
exactly if it stays below the largest that it can hold (`Posting.newBalance_of_covers`). Main statement: a
calm unit changes the balances of different accounts as the tables have them, if all new ones can be held
(`Work.forM_changeBalance_calm`), and fails for one that cannot (`Work.forM_changeBalance_unstorable`).
-/

set_option autoImplicit false
set_option relaxedAutoImplicit false

namespace Passbook

open Procedure Session

/-! ### Accounts as the tables have them -/

/-- An account as the tables have it, under numbers that a store can hold. -/
structure Database.Current (database : Database) (account : Account) : Prop where
  id : fitsWord account.id = true
  version : fitsWord account.version = true
  there : ∃ row, database.account? account.id = some row ∧ row.read = .ok account

theorem Database.Current.of_same {before after : Database} {account : Account}
    (current : before.Current account)
    (same : after.account? account.id = before.account? account.id) : after.Current account :=
  ⟨current.id, current.version, same ▸ current.there⟩

/-- Tables in which every balance is a number of cents that is not below zero, and every version is one that
a store can hold. -/
structure Database.WellKept (database : Database) : Prop where
  solvent : database.Solvent
  versions : ∀ id row, database.account? id = some row → fitsWord row.version = true

/-- The account with an id is there and active. -/
def Database.Active (database : Database) (id : Int) : Prop :=
  ∃ row, database.account? id = some row ∧ row.status = .active

/-- A row with a balance of cents is read as it stands in the tables. -/
theorem Database.current_of_stored {database : Database} {id cents : Int} {row : AccountRow}
    (fits : fitsWord id = true) (version : fitsWord row.version = true)
    (found : database.account? id = some row) (stored : Money.storedCents? row.balance = some cents) :
    ∃ account, account.id = id ∧ account.status = row.status ∧ row.read = .ok account ∧
      database.Current account ∧ account.balance.cents? = some cents := by
  obtain ⟨number, text, -, -⟩ := Money.readText_of_storedCents stored
  have same : row.id = id := account?_id found
  have isRead := AccountRow.read_of_readText text
  have whole : number.cents? = some cents := (Money.storedCents?_of_readText text).symm.trans stored
  refine ⟨_, same, rfl, isRead, ⟨same ▸ fits, version, row, ?_, isRead⟩, whole⟩
  exact same ▸ found

/-- An account that is there is read as it stands in the tables, with a balance of cents. -/
theorem Database.WellKept.current {database : Database} (wellKept : database.WellKept) {id : Int}
    {row : AccountRow} (fits : fitsWord id = true) (found : database.account? id = some row) :
    ∃ account, account.id = id ∧ account.status = row.status ∧ row.read = .ok account ∧
      database.Current account := by
  obtain ⟨cents, stored, -⟩ := wellKept.solvent id row found
  obtain ⟨account, same, status, isRead, current, -⟩ :=
    current_of_stored fits (wellKept.versions id row found) found stored
  exact ⟨account, same, status, isRead, current⟩

theorem Database.Current.cents {database : Database} {account : Account}
    (current : database.Current account) (solvent : database.Solvent) :
    ∃ cents, account.balance.cents? = some cents ∧ 0 ≤ cents := by
  obtain ⟨row, found, isRead⟩ := current.there
  obtain ⟨cents, stored, notBelow⟩ := solvent account.id row found
  obtain ⟨_, text, rfl⟩ := AccountRow.read_ok isRead
  exact ⟨cents, (Money.storedCents?_of_readText text).symm.trans stored, notBelow⟩

/-! ### New balances -/

/-- A new balance of cents that is not below zero. -/
def Decimal.IsStorable (number : Decimal) : Prop := ∃ cents, number.cents? = some cents ∧ 0 ≤ cents

/-- A new balance that is not below zero and cannot be brought to cents. -/
structure Decimal.IsTooLong (number : Decimal) : Prop where
  notBelow : ∃ order, number.compare? .zero = some order ∧ order ≠ .lt
  unstorable : ∀ mode, number.quantize mode Money.centExponent = none

namespace Posting

variable {account : Account} {amount : Decimal} {balance cents : Int}

theorem newBalance_insufficient (held : account.balance.cents? = some balance)
    (exact : amount.cents? = some cents) (less : balance < cents) :
    newBalance account .debit amount = .error (insufficient account amount) := by
  have compared := Decimal.compare?_cents held exact
  rw [Int.compare_eq_lt.2 less] at compared
  have ordered : order account.balance amount = .ok .lt := by rw [order, compared]
  unfold newBalance
  rw [ordered]
  rfl

theorem newBalance_covered (held : account.balance.cents? = some balance)
    (exact : amount.cents? = some cents) (positive : 0 < cents) (enough : cents ≤ balance) :
    ∃ number, newBalance account .debit amount = .ok number ∧ number.IsStorable := by
  obtain ⟨difference, taken, whole⟩ :=
    Decimal.sub_cents_of_le held exact (Int.le_of_lt positive) enough
  refine ⟨difference, ?_, _, whole, Int.sub_nonneg_of_le enough⟩
  have ordered : order account.balance amount = .ok (compare balance cents) := by
    rw [order, Decimal.compare?_cents held exact]
  have notLess : compare balance cents ≠ .lt := fun less ↦
    Int.not_lt.2 enough (Int.compare_eq_lt.1 less)
  unfold newBalance
  rw [taken]
  change (order account.balance amount >>= fun found ↦ _) = _
  rw [ordered]
  cases found : compare balance cents with
  | lt => exact absurd found notLess
  | eq => rfl
  | gt => rfl

/-- What comes is added exactly, or makes the balance too long. -/
theorem newBalance_credit (held : account.balance.cents? = some balance) (notBelow : 0 ≤ balance)
    (exact : amount.cents? = some cents) (positive : 0 < cents) :
    ∃ number, newBalance account .credit amount = .ok number ∧
      if balance + cents < 10 ^ Decimal.precision then number.IsStorable else number.IsTooLong := by
  by_cases short : balance + cents < 10 ^ Decimal.precision
  · have short' : (balance + cents).natAbs < 10 ^ Decimal.precision := by
      unfold Decimal.precision at short ⊢
      omega
    obtain ⟨sum, added, whole⟩ := Decimal.add_cents_of_short held exact short'
    refine ⟨sum, ?_, ?_⟩
    · rw [newBalance, added]
      rfl
    · rw [if_pos short]
      exact ⟨_, whole, by omega⟩
  · obtain ⟨sum, added, above, unstorable⟩ :=
      Decimal.add_cents_of_long held exact (Int.not_lt.1 short)
    refine ⟨sum, ?_, ?_⟩
    · rw [newBalance, added]
      rfl
    · rw [if_neg short]
      exact ⟨above, unstorable⟩

/-- A debit that is not covered ends it, as the first leg. -/
theorem newBalances_insufficient {rest : List (Account × Direction)}
    (held : account.balance.cents? = some balance) (exact : amount.cents? = some cents)
    (less : balance < cents) :
    newBalances amount ((account, .debit) :: rest) = .error (insufficient account amount) := by
  unfold newBalances
  rw [List.mapM_cons]
  dsimp only
  rw [newBalance_insufficient held exact less]
  rfl

/-- New balances that can all be worked out are worked out. -/
theorem newBalances_of_forall {read : List (Account × Direction)}
    (each : ∀ leg ∈ read, ∃ number, newBalance leg.1 leg.2 amount = .ok number) :
    ∃ changes, newBalances amount read = .ok changes := by
  have worked : ∃ unsorted, read.mapM (fun (leg : Account × Direction) ↦ do
      return (leg.1, ← newBalance leg.1 leg.2 amount)) =
        (.ok unsorted : Except Failure (List (Account × Decimal))) := by
    induction read with
    | nil => exact ⟨[], rfl⟩
    | cons leg rest ih =>
      obtain ⟨number, first⟩ := each leg List.mem_cons_self
      obtain ⟨later, others⟩ := ih fun other member ↦ each other (List.mem_cons_of_mem _ member)
      refine ⟨(leg.1, number) :: later, ?_⟩
      rw [List.mapM_cons, first, others]
      rfl
  obtain ⟨unsorted, worked⟩ := worked
  refine ⟨unsorted.mergeSort fun left right ↦ left.1.id ≤ right.1.id, ?_⟩
  rw [newBalances_eq, worked]
  rfl

end Posting

/-! ### Balances that are covered and have room -/

/-- What goes from an account is there. -/
def Database.Covers (database : Database) (amount : ℚ) (leg : Int × Direction) : Prop :=
  leg.2 = .debit → ∃ row, database.account? leg.1 = some row ∧ amount ≤ Money.worth row.balance

/-- What comes to an account leaves its balance below the largest that a column can hold. -/
def Database.HasRoom (database : Database) (amount : ℚ) (leg : Int × Direction) : Prop :=
  leg.2 = .credit →
    ∃ row, database.account? leg.1 = some row ∧ Money.worth row.balance + amount < 10 ^ 26

namespace Posting

variable {database : Database} {account : Account} {direction : Direction} {amount : Decimal}
  {balance cents : Int}

theorem worth_of_read {row : AccountRow} (isRead : row.read = .ok account)
    (held : account.balance.cents? = some balance) : Money.worth row.balance = balance / 100 := by
  obtain ⟨_, text, rfl⟩ := AccountRow.read_ok isRead
  exact Money.worth_of_storedCents ((Money.storedCents?_of_readText text).trans held)

theorem covers_iff {row : AccountRow} (found : database.account? account.id = some row)
    (isRead : row.read = .ok account) (held : account.balance.cents? = some balance)
    (exact : amount.cents? = some cents) :
    database.Covers amount.toRat (account.id, .debit) ↔ cents ≤ balance := by
  have least : amount.toRat ≤ Money.worth row.balance ↔ cents ≤ balance := by
    rw [worth_of_read isRead held, Decimal.toRat_of_cents exact,
      div_le_div_iff_of_pos_right (by norm_num), Int.cast_le]
  rw [← least]
  constructor
  · intro covers
    obtain ⟨row', found', enough⟩ := covers rfl
    obtain rfl := Option.some.inj (found.symm.trans found')
    exact enough
  · exact fun enough _ ↦ ⟨row, found, enough⟩

theorem hasRoom_iff {row : AccountRow} (found : database.account? account.id = some row)
    (isRead : row.read = .ok account) (held : account.balance.cents? = some balance)
    (exact : amount.cents? = some cents) :
    database.HasRoom amount.toRat (account.id, .credit) ↔
      balance + cents < 10 ^ Decimal.precision := by
  have largest : Money.worth row.balance + amount.toRat < 10 ^ 26 ↔
      balance + cents < 10 ^ Decimal.precision := by
    have limit : (10 : ℚ) ^ 26 = ((10 ^ Decimal.precision : Int) : ℚ) / 100 := by
      norm_num [Decimal.precision]
    rw [worth_of_read isRead held, Decimal.toRat_of_cents exact, ← add_div, limit,
      div_lt_div_iff_of_pos_right (by norm_num), ← Int.cast_add, Int.cast_lt]
  rw [← largest]
  constructor
  · intro room
    obtain ⟨row', found', below⟩ := room rfl
    obtain rfl := Option.some.inj (found.symm.trans found')
    exact below
  · exact fun below _ ↦ ⟨row, found, below⟩

/-- A leg that is covered has its new balance, which can be stored if there is room for it. -/
theorem newBalance_of_covers (current : database.Current account) (solvent : database.Solvent)
    (exact : amount.cents? = some cents) (positive : 0 < cents)
    (covers : database.Covers amount.toRat (account.id, direction)) :
    ∃ number, newBalance account direction amount = .ok number ∧
      (database.HasRoom amount.toRat (account.id, direction) → number.IsStorable) ∧
      (¬database.HasRoom amount.toRat (account.id, direction) → number.IsTooLong) := by
  obtain ⟨balance, held, notBelow⟩ := current.cents solvent
  obtain ⟨row, found, isRead⟩ := current.there
  cases direction with
  | debit =>
    obtain ⟨number, worked, storable⟩ :=
      newBalance_covered held exact positive ((covers_iff found isRead held exact).1 covers)
    exact ⟨number, worked, fun _ ↦ storable, fun noRoom ↦ absurd (fun same ↦ nomatch same) noRoom⟩
  | credit =>
    obtain ⟨number, worked, kind⟩ := newBalance_credit held notBelow exact positive
    refine ⟨number, worked, fun room ↦ ?_, fun noRoom ↦ ?_⟩
    · rwa [if_pos ((hasRoom_iff found isRead held exact).1 room)] at kind
    · rwa [if_neg (mt (hasRoom_iff found isRead held exact).2 noRoom)] at kind

end Posting

/-! ### Changing balances -/

namespace Work

variable {calm : Session} {account : Account} {number : Decimal}

/-- A new balance that is not below zero is written, or that is refused. -/
theorem changeBalance_eq {order : Ordering} (compared : number.compare? .zero = some order)
    (notLess : order ≠ .lt) (session : Session) :
    changeBalance account number session =
      (do if !(← writeBalance account.id account.version (.decimal number)) then
            throw (.ledger (.conflict (.modified account.id))) : Work Unit) session := by
  have ordering : (Procedure.ofExcept (Posting.order number .zero) : Work Ordering) session =
      (.ok order, session) := by
    rw [Posting.order, compared]
    rfl
  unfold changeBalance
  rw [run_bind_ok ordering]
  dsimp only
  rw [if_neg notLess]

/-- A calm unit changes the balance of an account as the tables have it, and of no other. -/
theorem changeBalance_calm (isCalm : calm.Calm) (current : calm.view.Current account)
    (storable : number.IsStorable) :
    ∃ after, changeBalance account number calm = (.ok ⟨⟩, after) ∧ after.Calm ∧
      (∀ other ≠ account.id, after.view.account? other = calm.view.account? other) ∧
      after.view.transactions = calm.view.transactions := by
  obtain ⟨row, found, isRead⟩ := current.there
  obtain ⟨cents, whole, notBelow⟩ := storable
  have notLess : compare cents 0 ≠ .lt := fun less ↦
    Int.not_lt.2 notBelow (Int.compare_eq_lt.1 less)
  have version : row.version = account.version := by
    obtain ⟨_, _, rfl⟩ := AccountRow.read_ok isRead
    rfl
  have still : calm.view.accountAt? account.id account.version = some row := by
    rw [Database.accountAt?, found, Option.filter_some, if_pos (by simpa using version)]
  obtain ⟨after, wrote, isCalm', view⟩ :=
    writeBalance_calm isCalm current.id current.version still (Money.rounded_of_cents whole)
      ((Money.balanceHolds_text whole).2 notBelow)
  refine ⟨after, ?_, isCalm', fun other apart ↦ ?_, ?_⟩
  · rw [changeBalance_eq (Decimal.compare?_zero whole) notLess, run_bind_ok wrote]
    rfl
  · rw [view]
    refine Database.account?_replace_other fun same ↦ apart ?_
    exact same.trans (Database.account?_id found : row.id = account.id)
  · rw [view]
    rfl

/-- A calm unit writes no balance that no column can hold. -/
theorem changeBalance_unstorable (isCalm : calm.Calm) (account : Account)
    (tooLong : number.IsTooLong) :
    ∃ after, changeBalance account number calm = (.error .unstorable, after) := by
  obtain ⟨order, compared, notLess⟩ := tooLong.notBelow
  obtain ⟨after, refused⟩ :=
    writeBalance_unstorable isCalm account.id account.version (tooLong.unstorable .toEven)
  refine ⟨after, ?_⟩
  rw [changeBalance_eq compared notLess, run_bind, refused]

/-! ### All new balances -/

variable {changes : List (Account × Decimal)}

/-- A calm unit that has changed one balance has the other accounts as before. -/
theorem changed_current {change : Account × Decimal} {rest : List (Account × Decimal)}
    (isCalm : calm.Calm) (apart : change.1.id ∉ rest.map (·.1.id))
    (current : ∀ other ∈ change :: rest, calm.view.Current other.1)
    (storable : change.2.IsStorable) :
    ∃ after, changeBalance change.1 change.2 calm = (.ok ⟨⟩, after) ∧ after.Calm ∧
      (∀ other ∈ rest, after.view.Current other.1) ∧
      after.view.transactions = calm.view.transactions := by
  obtain ⟨after, changed, isCalm', others, transactions⟩ :=
    changeBalance_calm isCalm (current change List.mem_cons_self) storable
  refine ⟨after, changed, isCalm', fun other member ↦ ?_, transactions⟩
  refine (current other (List.mem_cons_of_mem _ member)).of_same (others _ fun same ↦ apart ?_)
  exact same ▸ List.mem_map_of_mem member

/-- A calm unit changes the balances of different accounts as the tables have them. -/
theorem forM_changeBalance_calm (isCalm : calm.Calm) (apart : (changes.map (·.1.id)).Nodup)
    (current : ∀ change ∈ changes, calm.view.Current change.1)
    (storable : ∀ change ∈ changes, change.2.IsStorable) :
    ∃ after, (changes.forM fun (account, balance) ↦ changeBalance account balance) calm =
        (.ok ⟨⟩, after) ∧ after.Calm ∧ after.view.transactions = calm.view.transactions := by
  induction changes generalizing calm with
  | nil => exact ⟨calm, rfl, isCalm, rfl⟩
  | cons change rest ih =>
    rw [List.map_cons, List.nodup_cons] at apart
    obtain ⟨middle, changed, isCalm', current', transactions⟩ :=
      changed_current isCalm apart.1 current (storable change List.mem_cons_self)
    obtain ⟨after, others, isCalm'', transactions'⟩ := ih isCalm' apart.2 current'
      fun other member ↦ storable other (List.mem_cons_of_mem _ member)
    refine ⟨after, ?_, isCalm'', transactions'.trans transactions⟩
    exact (run_bind_ok changed fun _ ↦ rest.forM _).trans others

/-- A calm unit that has a balance to change that no column can hold fails for it. -/
theorem forM_changeBalance_unstorable (isCalm : calm.Calm) (apart : (changes.map (·.1.id)).Nodup)
    (current : ∀ change ∈ changes, calm.view.Current change.1)
    (either : ∀ change ∈ changes, change.2.IsStorable ∨ change.2.IsTooLong)
    (tooLong : ∃ change ∈ changes, change.2.IsTooLong) :
    ∃ after, (changes.forM fun (account, balance) ↦ changeBalance account balance) calm =
      (.error .unstorable, after) := by
  induction changes generalizing calm with
  | nil =>
    obtain ⟨_, member, -⟩ := tooLong
    cases member
  | cons change rest ih =>
    rw [List.map_cons, List.nodup_cons] at apart
    have stops (long : change.2.IsTooLong) :
        ∃ after, ((change :: rest).forM fun (account, balance) ↦ changeBalance account balance) calm =
          (.error .unstorable, after) := by
      obtain ⟨after, refused⟩ := changeBalance_unstorable isCalm change.1 long
      refine ⟨after, ?_⟩
      change (changeBalance change.1 change.2 >>= fun _ ↦ rest.forM _) calm = _
      rw [run_bind, refused]
    rcases either change List.mem_cons_self with storable | long
    · obtain ⟨middle, changed, isCalm', current', -⟩ :=
        changed_current isCalm apart.1 current storable
      obtain ⟨which, member, long⟩ := tooLong
      rcases List.mem_cons.1 member with rfl | later
      · exact stops long
      · obtain ⟨after, others⟩ := ih isCalm' apart.2 current'
          (fun other there ↦ either other (List.mem_cons_of_mem _ there)) ⟨which, later, long⟩
        exact ⟨after, (run_bind_ok changed fun _ ↦ rest.forM _).trans others⟩
    · exact stops long

end Work

end Passbook
