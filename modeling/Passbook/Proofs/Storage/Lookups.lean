import Passbook.Proofs.Storage.Mirror
import Passbook.Proofs.Storage.Tables

/-!
Looking accounts up by number and by owner. Both find rows of the tables that the unit sees
(`Database.mem_accountsOf`, `Database.accountsOf_ascending`), and give each of them as the unit holds it. What a
unit holds of an account may be older than the row; `Session.Shows` says that it is not. Main statements: what a
lookup gives for a row has its id, and is what the row is read as if the unit shows it (`accountNumbered_ok`,
`accountsOf_ok`).
-/

set_option autoImplicit false
set_option relaxedAutoImplicit false

namespace Passbook

open Procedure Session

namespace Database

variable {database : Database} {row : AccountRow} {owner : Int}

theorem mem_accountsOf :
    row ∈ database.accountsOf owner ↔ row ∈ database.accounts ∧ row.owner = owner := by
  simp [accountsOf, accountsById]

/-- With one row for each id, the accounts of an owner have ascending ids. -/
theorem accountsOf_ascending (keys : (database.accounts.map (·.id)).Nodup) (owner : Int) :
    (database.accountsOf owner).Pairwise fun earlier later ↦ earlier.id < later.id := by
  have sorted : database.accountsById.Pairwise fun earlier later ↦ earlier.id ≤ later.id := by
    refine (List.pairwise_mergeSort (fun first second third ↦ ?_) (fun first second ↦ ?_) _).imp
      of_decide_eq_true
    · simp only [decide_eq_true_eq]
      exact Int.le_trans
    · simpa using Int.le_total first.id second.id
  have same : database.accountsById.Perm database.accounts := List.mergeSort_perm _ _
  have apart : database.accountsById.Pairwise fun earlier later ↦ earlier.id ≠ later.id :=
    List.pairwise_map.1 ((same.map AccountRow.id).nodup_iff.2 keys)
  exact ((sorted.and apart).imp fun both ↦ Int.lt_iff_le_and_ne.2 both).filter _

theorem accountNumbered?_eq_some {number : String} (found : database.accountNumbered? number = some row) :
    row ∈ database.accounts ∧ row.number = number :=
  ⟨List.mem_of_find?_eq_some found, by simpa using List.find?_some found⟩

/-- With one row for each number, every row is the one that is found under its number. -/
theorem accountNumbered?_of_mem (numbers : (database.accounts.map (·.number)).Nodup)
    (member : row ∈ database.accounts) : database.accountNumbered? row.number = some row :=
  find?_key_of_mem numbers member

theorem accountNumbered?_eq_none {number : String} :
    database.accountNumbered? number = none ↔ ∀ row ∈ database.accounts, row.number ≠ number := by
  simp [accountNumbered?]

end Database

/-- What the unit holds of the account of a row, if anything, is what the row is read as. -/
def Session.Shows (row : AccountRow) (session : Session) : Prop :=
  ∀ account ∈ session.loaded, account.id = row.id → row.read = .ok account

namespace Work

/-- The account of a row is given with the id of the row, and as the row is read if the unit shows it. Of other
rows the unit still shows what it did. -/
theorem held_ok {row : AccountRow} (readable : ∃ account, row.read = .ok account) (session : Session) :
    ∃ account loaded, held row session = (.ok account, { session with loaded }) ∧ account.id = row.id ∧
      (session.Shows row → row.read = .ok account) ∧
      ∀ other : AccountRow, (other.id = row.id → other = row) → session.Shows other →
        Session.Shows other { session with loaded } := by
  unfold held
  rw [run_bind, run_get]
  dsimp only
  cases found : session.loaded.find? (·.id == row.id) with
  | some account =>
    have member := List.mem_of_find?_eq_some found
    have same : account.id = row.id := by simpa using List.find?_some found
    exact ⟨account, session.loaded, rfl, same, fun shows ↦ shows account member same, fun _ _ shows ↦ shows⟩
  | none =>
    obtain ⟨account, read⟩ := readable
    refine ⟨account, account :: session.loaded.filter (·.id != account.id), ?_, AccountRow.id_of_read read,
      fun _ ↦ read, fun other isRow shows held member same ↦ ?_⟩
    · dsimp only
      rw [read]
      rfl
    · rcases List.mem_cons.1 member with rfl | there
      · exact isRow (same.symm.trans (AccountRow.id_of_read read)) ▸ read
      · exact shows held (List.mem_of_mem_filter there) same

/-- The accounts of rows are given one by one; those rows that the unit shows are given as they are read. -/
theorem mapM_held (shown : AccountRow → Prop) {rows : List AccountRow}
    (readable : ∀ row ∈ rows, ∃ account, row.read = .ok account)
    (apart : ∀ row ∈ rows, ∀ other, shown other → other.id = row.id → other = row) (session : Session)
    (shows : ∀ other, shown other → session.Shows other) :
    ∃ accounts after, rows.mapM held session = (.ok accounts, after) ∧
      List.Forall₂ (fun row account ↦ account.id = row.id ∧ (shown row → row.read = .ok account))
        rows accounts := by
  induction rows generalizing session with
  | nil => exact ⟨[], session, rfl, .nil⟩
  | cons row rest ih =>
    obtain ⟨account, loaded, given, same, isRead, goesOn⟩ := held_ok (readable row List.mem_cons_self) session
    obtain ⟨accounts, after, others, each⟩ := ih
      (fun other member ↦ readable other (List.mem_cons_of_mem _ member))
      (fun other member ↦ apart other (List.mem_cons_of_mem _ member))
      { session with loaded } fun other isShown ↦
        goesOn other (apart row List.mem_cons_self other isShown) (shows other isShown)
    refine ⟨account :: accounts, after, ?_, .cons ⟨same, fun isShown ↦ isRead (shows row isShown)⟩ each⟩
    rw [List.mapM_cons, run_bind_ok given, run_bind_ok others]
    rfl

/-- To be connected changes nothing in the tables that the unit sees. -/
theorem view_connected (session : Session) :
    view { session with connected := true } = (.ok session.view, { session with connected := true }) :=
  rfl

variable (session : Session)

/-- An account that has the number is given, as it is read if the unit shows it. -/
theorem accountNumbered_ok {number : String} {row : AccountRow} (reachable : session.storage.reachable = true)
    (found : session.view.accountNumbered? number = some row)
    (readable : ∃ account, row.read = .ok account) :
    ∃ account after, accountNumbered number session = (.ok (some account), after) ∧ account.id = row.id ∧
      (session.Shows row → row.read = .ok account) := by
  obtain ⟨account, loaded, given, same, isRead, -⟩ := held_ok readable { session with connected := true }
  refine ⟨account, { session with connected := true, loaded }, ?_, same, isRead⟩
  unfold accountNumbered
  rw [run_bind_ok (connect_reachable reachable), run_bind_ok (view_connected session), found]
  dsimp only
  rw [run_bind_ok given]
  rfl

/-- There is nothing for a text that no account has as its number. -/
theorem accountNumbered_none {number : String} (reachable : session.storage.reachable = true)
    (missing : session.view.accountNumbered? number = none) :
    ∃ after, accountNumbered number session = (.ok none, after) := by
  refine ⟨{ session with connected := true }, ?_⟩
  unfold accountNumbered
  rw [run_bind_ok (connect_reachable reachable), run_bind_ok (view_connected session), missing]
  rfl

/-- The accounts of an owner are given by ascending id; those rows that the unit shows as they are read. -/
theorem accountsOf_ok (shown : AccountRow → Prop) {owner : Int} (reachable : session.storage.reachable = true)
    (fits : fitsWord owner = true)
    (readable : ∀ row ∈ session.view.accountsOf owner, ∃ account, row.read = .ok account)
    (apart : ∀ row ∈ session.view.accountsOf owner, ∀ other, shown other → other.id = row.id → other = row)
    (shows : ∀ other, shown other → session.Shows other) :
    ∃ accounts after, accountsOf owner session = (.ok accounts, after) ∧
      List.Forall₂ (fun row account ↦ account.id = row.id ∧ (shown row → row.read = .ok account))
        (session.view.accountsOf owner) accounts := by
  obtain ⟨accounts, after, given, each⟩ := mapM_held shown readable apart
    { session with connected := true } shows
  refine ⟨accounts, after, ?_, each⟩
  unfold accountsOf
  rw [run_bind_ok (connect_reachable reachable), run_bind_ok (requireWord_of_fits fits _),
    run_bind_ok (view_connected session)]
  exact given

/-- Nobody can be asked for whose number the store cannot hold. -/
theorem accountsOf_overflow {owner : Int} (reachable : session.storage.reachable = true)
    (wide : fitsWord owner = false) : (accountsOf owner session).1 = .error .overflow := by
  unfold accountsOf
  rw [run_bind_ok (connect_reachable reachable), run_bind, requireWord, if_neg (by simp [wide])]
  rfl

end Work

end Passbook
