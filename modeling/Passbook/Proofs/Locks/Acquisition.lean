import Passbook.Lock.Hold
import Passbook.Proofs.Locks.Order
import Passbook.Proofs.Procedure

/-!
All locks or none. `LockTable.Taken` says that between two tables the locks of some accounts were taken, each
by one more user, and that nothing else has changed; read backwards it says what giving them back does. A
client that nobody comes between has all its locks at once or fails at one that somebody else has, and then
the table is as it was (`Locking.acquire_cases`). Only a time for which no clock can wait leaves a trace: one
more user of a lock that was never taken (`Locking.acquire_overflow`). Within anything that keeps a table by its
laws (`LawfulLockKeeper`) it is the same (`Locking.acquireWithin_cases`). Main statement:
`LockDesk.acquire_all_or_none`.
-/

set_option autoImplicit false
set_option relaxedAutoImplicit false

namespace Passbook

open Procedure

/-! ### Tables before and after -/

namespace LockTable

variable {table before middle after : LockTable} {account : Int} {accounts others : List Int}

theorem isLocked_congr {other : Int} (live : after.live.get? other = table.live.get? other)
    (taken : ∀ lock, table.live.get? other = some lock → (lock ∈ after.taken ↔ lock ∈ table.taken)) :
    after.isLocked other = table.isLocked other := by
  rw [Bool.eq_iff_iff, isLocked_eq_true, isLocked_eq_true, live]
  refine exists_congr fun lock ↦ and_congr_right fun there ↦ taken lock there

/-- The locks of some accounts, which were free, have been taken by one more user each, and nothing else has
changed in what is locked and used. -/
structure Taken (accounts : List Int) (before after : LockTable) : Prop where
  free : ∀ account ∈ accounts, before.isLocked account = false
  locked : ∀ account, after.isLocked account = true ↔
    account ∈ accounts ∨ before.isLocked account = true
  users : ∀ account, after.userCount account =
    before.userCount account + if account ∈ accounts then 1 else 0

theorem taken_nil (table : LockTable) : table.Taken [] table where
  free _ member := by cases member
  locked account := by simp
  users account := by simp

/-- Whoever takes one lock changes nothing about the others. -/
theorem taken_singleton (free : before.isLocked account = false) (locked : after.isLocked account = true)
    (others : ∀ other ≠ account, after.isLocked other = before.isLocked other)
    (users : after.userCount account = before.userCount account + 1)
    (otherUsers : ∀ other ≠ account, after.userCount other = before.userCount other) :
    before.Taken [account] after where
  free other member := List.mem_singleton.1 member ▸ free
  locked other := by
    by_cases here : other = account
    · simp [here, locked]
    · simp [here, others other here]
  users other := by
    by_cases here : other = account
    · simp [here, users]
    · simp [here, otherUsers other here]

theorem Taken.congr (taken : before.Taken accounts after)
    (same : ∀ account, account ∈ accounts ↔ account ∈ others) : before.Taken others after where
  free account member := taken.free account ((same account).2 member)
  locked account := by rw [taken.locked, same]
  users account := by simp only [taken.users, same]

/-- Locks taken one after the other are taken together. -/
theorem Taken.trans (first : before.Taken accounts middle) (second : middle.Taken others after) :
    before.Taken (accounts ++ others) after := by
  have apart (account : Int) (member : account ∈ others) : account ∉ accounts := by
    intro earlier
    have locked := (first.locked account).2 (Or.inl earlier)
    rw [second.free account member] at locked
    cases locked
  refine ⟨fun account member ↦ ?_, fun account ↦ ?_, fun account ↦ ?_⟩
  · rcases List.mem_append.1 member with earlier | later
    · exact first.free account earlier
    · rw [Bool.eq_false_iff]
      intro locked
      have stillLocked := (first.locked account).2 (Or.inr locked)
      rw [second.free account later] at stillLocked
      cases stillLocked
  · rw [second.locked, first.locked, List.mem_append, or_left_comm, or_assoc]
  · rw [second.users, first.users]
    by_cases later : account ∈ others
    · simp [later, apart account later]
    · simp [later]

/-- Locks that were taken and given back are as before. -/
theorem Taken.undone (took : before.Taken accounts middle) (gave : after.Taken accounts middle) :
    before.Taken [] after := by
  refine ⟨fun _ member ↦ (by cases member), fun account ↦ ?_, fun account ↦ ?_⟩
  · rw [or_iff_right List.not_mem_nil]
    by_cases member : account ∈ accounts
    · rw [took.free account member, gave.free account member]
    · have took' := took.locked account
      have gave' := gave.locked account
      rw [or_iff_right member] at took' gave'
      exact gave'.symm.trans took'
  · have took' := took.users account
    have gave' := gave.users account
    rw [if_neg List.not_mem_nil]
    omega

/-- What is locked, which accounts have a lock and how many users each of them has is as before. -/
structure Restored (before after : LockTable) : Prop where
  locked : ∀ account, after.isLocked account = before.isLocked account
  keys : ∀ account, (after.live.get? account).isSome = (before.live.get? account).isSome
  users : ∀ account, after.users.get? account = before.users.get? account

theorem Restored.refl (table : LockTable) : table.Restored table :=
  ⟨fun _ ↦ rfl, fun _ ↦ rfl, fun _ ↦ rfl⟩

/-- An account is among those with users exactly if their number is not zero. -/
theorem Coherent.users_eq (coherent : table.Coherent) (account : Int) :
    table.users.get? account =
      if table.userCount account = 0 then none else some (table.userCount account) := by
  unfold userCount
  cases count : table.users.get? account with
  | none => rfl
  | some users =>
    have positive : users ≠ 0 := fun none ↦ coherent.used account (none ▸ count)
    simp [positive]

/-- Where no lock was taken everything is as before. -/
theorem Taken.restored (coherent : before.Coherent) (coherent' : after.Coherent)
    (taken : before.Taken [] after) : before.Restored after := by
  have users (account : Int) : after.users.get? account = before.users.get? account := by
    have count : after.userCount account = before.userCount account := by
      simpa using taken.users account
    rw [coherent.users_eq, coherent'.users_eq, count]
  refine ⟨fun account ↦ ?_, fun account ↦ ?_, users⟩
  · rw [Bool.eq_iff_iff, taken.locked, or_iff_right List.not_mem_nil]
  · rw [Bool.eq_iff_iff, Option.isSome_iff_ne_none, Option.isSome_iff_ne_none, ne_eq, ne_eq,
      coherent.keys, coherent'.keys, users]

/-- An account's lock has got one more user, who has not taken it; what is locked is as before. -/
structure LeftBehind (account : Int) (before after : LockTable) : Prop where
  locked : ∀ other, after.isLocked other = before.isLocked other
  users : ∀ other, after.userCount other = before.userCount other + if other = account then 1 else 0

/-- A user who is left behind is one too many. -/
theorem LeftBehind.not_restored (left : before.LeftBehind account after) : ¬before.Restored after := by
  intro restored
  have more : after.userCount account = before.userCount account + 1 := by
    simpa using left.users account
  have same := userCount_of_get? (restored.users account)
  omega

/-- Becoming a user of a lock takes no lock. -/
theorem leftBehind_checkOut (coherent : table.Coherent) (account : Int) :
    table.LeftBehind account (table.checkOut account).2 := by
  have checkedOut := checkedOut coherent account
  refine ⟨fun other ↦ ?_, fun other ↦ ?_⟩
  · by_cases here : other = account
    · subst here
      rw [Bool.eq_iff_iff, isLocked_eq_true, isLocked_eq_true, checkedOut.taken]
      rcases checkedOut.origin with there | ⟨absent, new⟩
      · rw [there, checkedOut.there]
      · have untaken : (table.checkOut other).1 ∉ table.taken := fun taken ↦
          absurd (coherent.spent _ taken) (new ▸ Nat.lt_irrefl _)
        simp [absent, checkedOut.there, untaken]
    · exact isLocked_congr (checkedOut.others other here) fun _ _ ↦ by rw [checkedOut.taken]
  · by_cases here : other = account
    · simp [here, checkedOut.users]
    · simp [here, checkedOut.otherUsers other here]

end LockTable

/-! ### One lock -/

namespace Locking

variable {timeout : Binary64} {table start : LockTable} {account : Int} {accounts : List Int}

/-- A lock that is free is had at once. -/
theorem takeOne_free (waits : canWait timeout = true) (coherent : table.Coherent)
    (free : table.isLocked account = false) :
    ∃ after, takeOne timeout account table = (.ok (), after) ∧ after.Coherent ∧
      table.Taken [account] after := by
  have checkedOut := LockTable.checkedOut coherent account
  have left := LockTable.leftBehind_checkOut coherent account
  generalize used : table.checkOut account = use at checkedOut left
  obtain ⟨lock, middle⟩ := use
  have untaken : lock ∉ middle.taken := by
    intro taken
    have locked := LockTable.isLocked_eq_true.2 ⟨lock, checkedOut.there, taken⟩
    rw [left.locked, free] at locked
    cases locked
  refine ⟨{ middle with taken := lock :: middle.taken }, ?_, ?_, ?_⟩
  · simp only [takeOne, checkOut, used, waits, run_bind, run_get, run_set, Bool.not_true,
      Bool.false_eq_true, if_false, LockTable.take?_of_free untaken]
  · exact checkedOut.coherent.take (checkedOut.coherent.made account lock checkedOut.there)
  · refine LockTable.taken_singleton free ?_ (fun other apart ↦ ?_) checkedOut.users checkedOut.otherUsers
    · exact LockTable.isLocked_eq_true.2 ⟨lock, checkedOut.there, List.mem_cons_self⟩
    · rw [← left.locked]
      refine LockTable.isLocked_congr rfl fun other' there ↦ ?_
      have differs : other' ≠ lock := by
        rintro rfl
        exact apart (checkedOut.coherent.apart _ _ _ there checkedOut.there)
      rw [List.mem_cons, or_iff_right differs]

/-- A lock that somebody else has is waited for in vain, and nothing has become of that. -/
theorem takeOne_locked (waits : canWait timeout = true) (coherent : table.Coherent)
    (locked : table.isLocked account = true) :
    ∃ after, takeOne timeout account table =
        (.error (.ledger (.conflict (.lockTimeout account))), after) ∧ after.Coherent ∧
      table.Taken [] after := by
  have checkedOut := LockTable.checkedOut coherent account
  have left := LockTable.leftBehind_checkOut coherent account
  generalize used : table.checkOut account = use at checkedOut left
  obtain ⟨lock, middle⟩ := use
  have held : middle.take? lock = none := by
    obtain ⟨lock', there, taken⟩ :=
      LockTable.isLocked_eq_true.1 ((left.locked account).trans locked)
    obtain rfl := Option.some.inj (there.symm.trans checkedOut.there)
    rw [LockTable.take?, if_pos]
    simpa using taken
  obtain ⟨after, checkedIn, effect⟩ := LockTable.checkedIn checkedOut.coherent
    (checkedOut.coherent.userCount_pos checkedOut.there)
  have sameUsers (other : Int) : after.userCount other = table.userCount other := by
    by_cases here : other = account
    · have more := checkedOut.users
      have less := effect.users
      rw [here]
      omega
    · rw [effect.otherUsers other here, checkedOut.otherUsers other here]
  have users : 0 < after.userCount account := by
    obtain ⟨lock', there, -⟩ := LockTable.isLocked_eq_true.1 locked
    rw [sameUsers]
    exact coherent.userCount_pos there
  refine ⟨after, ?_, effect.coherent, fun _ member ↦ (by cases member), fun other ↦ ?_,
    fun other ↦ ?_⟩
  · simp only [takeOne, checkOut, checkIn, used, waits, run_bind, run_get, run_set, run_throw,
      Bool.not_true, Bool.false_eq_true, if_false, held, checkedIn]
  · have live : after.live.get? other = middle.live.get? other := by
      by_cases here : other = account
      · rw [here, effect.kept users]
      · exact effect.others other here
    rw [LockTable.isLocked_congr live fun _ _ ↦ by rw [effect.taken], left.locked,
      or_iff_right List.not_mem_nil]
  · rw [sameUsers, if_neg List.not_mem_nil, Nat.add_zero]

/-- A lock that is held can be given back. -/
theorem releaseOne_locked (coherent : table.Coherent) (locked : table.isLocked account = true) :
    ∃ after, releaseOne account table = (.ok (), after) ∧ after.Coherent ∧
      after.Taken [account] table := by
  obtain ⟨lock, there, taken⟩ := LockTable.isLocked_eq_true.1 locked
  have dropped := coherent.drop lock
  obtain ⟨after, checkedIn, effect⟩ := LockTable.checkedIn dropped (dropped.userCount_pos there)
  have differs {other : Int} {lock' : Nat} (apart : other ≠ account)
      (there' : table.live.get? other = some lock') : lock' ≠ lock := by
    rintro rfl
    exact apart (coherent.apart _ _ _ there' there)
  refine ⟨after, ?_, effect.coherent, LockTable.taken_singleton ?_ locked (fun other apart ↦ ?_)
    effect.users.symm fun other apart ↦ (effect.otherUsers other apart).symm⟩
  · simp only [releaseOne, checkIn, run_bind, run_get, run_set, there,
      LockTable.drop?_of_taken taken, checkedIn]
  · rw [Bool.eq_false_iff]
    intro locked'
    obtain ⟨lock', there', taken'⟩ := LockTable.isLocked_eq_true.1 locked'
    -- An account that still has users has still the same lock, and that was given back.
    rw [effect.kept (effect.coherent.userCount_pos there')] at there'
    obtain rfl := Option.some.inj (there.symm.trans there')
    rw [effect.taken, List.mem_filter, bne_self_eq_false] at taken'
    cases taken'.2
  · have same : after.isLocked other = table.isLocked other := by
      refine LockTable.isLocked_congr (effect.others other apart) fun lock' there' ↦ ?_
      rw [effect.taken, List.mem_filter, bne_iff_ne]
      exact and_iff_left (differs apart there')
    exact same.symm

/-! ### All locks -/

theorem forM_releaseOne_locked (coherent : table.Coherent) (once : accounts.Nodup)
    (locked : ∀ account ∈ accounts, table.isLocked account = true) :
    ∃ after, accounts.forM releaseOne table = (.ok (), after) ∧ after.Coherent ∧
      after.Taken accounts table := by
  induction accounts generalizing table with
  | nil => exact ⟨table, rfl, coherent, table.taken_nil⟩
  | cons account rest ih =>
    obtain ⟨fresh, once⟩ := List.nodup_cons.1 once
    obtain ⟨middle, released, coherent, gave⟩ :=
      releaseOne_locked coherent (locked account List.mem_cons_self)
    have locked (other : Int) (member : other ∈ rest) : middle.isLocked other = true := by
      refine ((gave.locked other).1 (locked other (List.mem_cons_of_mem _ member))).resolve_left ?_
      exact fun here ↦ fresh (List.mem_singleton.1 here ▸ member)
    obtain ⟨after, ran, coherent, gaveRest⟩ := ih coherent once locked
    refine ⟨after, ?_, coherent, (gaveRest.trans gave).congr fun other ↦ ?_⟩
    · change (releaseOne account >>= fun _ ↦ rest.forM releaseOne) table = _
      rw [run_bind_ok released, ran]
    · rw [List.mem_append, List.mem_singleton, List.mem_cons, or_comm]

/-- Locks that are held can be given back. -/
theorem release_locked (coherent : table.Coherent) (once : accounts.Nodup)
    (locked : ∀ account ∈ accounts, table.isLocked account = true) :
    ∃ after, release accounts table = (.ok (), after) ∧ after.Coherent ∧ after.Taken accounts table := by
  have perm := List.mergeSort_perm accounts (· ≥ ·)
  obtain ⟨after, released, coherent, gave⟩ := forM_releaseOne_locked coherent
    (perm.nodup_iff.2 once) fun account member ↦ locked account (perm.mem_iff.1 member)
  exact ⟨after, released, coherent, gave.congr fun account ↦ perm.mem_iff⟩

/-- Locks behind those that were taken since the start are all had, or one of them is somebody else's and
everything is as it was at the start. -/
theorem acquireFrom_cases (waits : canWait timeout = true) (held : List Int) {rest : List Int}
    (coherent : table.Coherent) (once : (held ++ rest).Nodup) (taken : start.Taken held table) :
    ∃ after, after.Coherent ∧
      (acquireFrom timeout held rest table = (.ok (held ++ rest), after) ∧
          start.Taken (held ++ rest) after ∨
        ∃ account ∈ rest, start.isLocked account = true ∧ start.Taken [] after ∧
          acquireFrom timeout held rest table =
            (.error (.ledger (.conflict (.lockTimeout account))), after)) := by
  induction rest generalizing held table with
  | nil =>
    rw [List.append_nil]
    exact ⟨table, coherent, Or.inl ⟨rfl, taken⟩⟩
  | cons account rest ih =>
    cases locked : table.isLocked account with
    | false =>
      obtain ⟨middle, took, coherent', takenOne⟩ := takeOne_free waits coherent locked
      obtain ⟨after, coherent'', ends⟩ := ih (held ++ [account]) coherent'
        (by rwa [List.append_assoc, List.singleton_append]) (taken.trans takenOne)
      refine ⟨after, coherent'', ?_⟩
      simp only [acquireFrom, run_bind, run_tryCatch, took]
      rw [List.append_assoc, List.singleton_append] at ends
      refine ends.imp_right ?_
      rintro ⟨other, member, refused⟩
      exact ⟨other, List.mem_cons_of_mem _ member, refused⟩
    | true =>
      obtain ⟨middle, refused, coherent', nothing⟩ := takeOne_locked waits coherent locked
      have still := taken.trans nothing
      rw [List.append_nil] at still
      obtain ⟨after, released, coherent'', gave⟩ := release_locked coherent' (List.nodup_append.1 once).1
        fun other member ↦ (still.locked other).2 (Or.inl member)
      have somebodyElse : account ∉ held := fun member ↦
        (List.nodup_append.1 once).2.2 account member account List.mem_cons_self rfl
      refine ⟨after, coherent'', Or.inr ⟨account, List.mem_cons_self,
        ((taken.locked account).1 locked).resolve_left somebodyElse, still.undone gave, ?_⟩⟩
      simp only [acquireFrom, run_bind, run_tryCatch, run_throw, refused, released]

/-- The locks of accounts are all had, or one of them is somebody else's and everything is as before. -/
theorem acquire_cases (waits : canWait timeout = true) (coherent : table.Coherent)
    (accounts : List Int) :
    ∃ after, after.Coherent ∧
      (acquire timeout accounts table = (.ok (ordered accounts), after) ∧
          table.Taken (ordered accounts) after ∨
        ∃ account ∈ ordered accounts, table.isLocked account = true ∧ table.Taken [] after ∧
          acquire timeout accounts table =
            (.error (.ledger (.conflict (.lockTimeout account))), after)) :=
  acquireFrom_cases waits [] coherent (nodup_ordered accounts) table.taken_nil

/-- Whoever wants no locks has them, however long he would wait. -/
theorem acquire_nil (timeout : Binary64) (table : LockTable) :
    acquire timeout [] table = (.ok [], table) := by
  rw [acquire, ordered, List.mergeSort_nil]
  rfl

/-- Locks that are free are had at once, and in order. -/
theorem acquire_free (waits : canWait timeout = true) (coherent : table.Coherent)
    (free : ∀ account ∈ accounts, table.isLocked account = false) :
    ∃ after, acquire timeout accounts table = (.ok (ordered accounts), after) ∧ after.Coherent ∧
      table.Taken (ordered accounts) after := by
  obtain ⟨after, coherent', ⟨acquired, taken⟩ | ⟨account, member, locked, -⟩⟩ :=
    acquire_cases waits coherent accounts
  · exact ⟨after, acquired, coherent', taken⟩
  · rw [free account (mem_ordered.1 member)] at locked
    cases locked

/-- Locks for which no clock can wait as long as it is to are not even tried, but the first of them has got
a user. -/
theorem acquire_overflow (waits : canWait timeout = false) (some : accounts ≠ []) (table : LockTable) :
    ∃ first rest, ordered accounts = first :: rest ∧
      acquire timeout accounts table = (.error .overflow, (table.checkOut first).2) := by
  obtain ⟨first, rest, isFirst⟩ : ∃ first rest, ordered accounts = first :: rest := by
    obtain ⟨account, others, rfl⟩ := List.exists_cons_of_ne_nil some
    have member : account ∈ ordered (account :: others) := mem_ordered.2 List.mem_cons_self
    exact List.exists_cons_of_ne_nil (List.ne_nil_of_mem member)
  have none : release [] = (pure ⟨⟩ : Locking Unit) := by
    rw [release, List.mergeSort_nil]
    rfl
  refine ⟨first, rest, isFirst, ?_⟩
  rw [acquire, isFirst]
  simp only [acquireFrom, takeOne, checkOut, waits, none, run_bind, run_pure, run_tryCatch, run_throw,
    Bool.not_false, if_true]

end Locking

/-! ### Within whatever keeps a table -/

/-- A clock can wait for so long, or makes nothing of that time. -/
def Value.IsWaitable (timeout : Value) : Prop :=
  ∀ seconds, timeout.seconds = .ok seconds → Locking.canWait seconds = true

/-- Whatever keeps a lock table gives back the one that it was given last, and reports touch no lock. -/
class LawfulLockKeeper (State : Type) [LockKeeper State] : Prop where
  table_withTable : ∀ (state : State) (table : LockTable),
    LockKeeper.table (LockKeeper.withTable state table) = table
  table_report : ∀ (state : State) (notices : List Notice),
    LockKeeper.table (LockKeeper.report state notices) = LockKeeper.table state

instance : LawfulLockKeeper LockTable := ⟨fun _ _ ↦ rfl, fun _ _ ↦ rfl⟩

instance : LawfulLockKeeper LockDesk := ⟨fun _ _ ↦ rfl, fun _ _ ↦ rfl⟩

namespace Locking

open LockKeeper

variable {State : Type} [LockKeeper State] {timeout : Value} {seconds : Binary64} {accounts : List Int}
  {state : State} {locks : LockTable}

/-- Locks that a table has for a client are had. -/
theorem acquireWithin_ok (timed : timeout.seconds = .ok seconds) {held : List Int}
    (acquired : acquire seconds accounts (table state) = (.ok held, locks)) :
    (acquireWithin timeout accounts : Procedure Failure State (List Int)) state =
      (.ok held, withTable state locks) := by
  unfold acquireWithin
  rw [timed, run_bind_ok (run_ofExcept _ state), run_tryCatch]
  simp only [within, acquired]

/-- A time of which a clock makes nothing is the failure, and no lock is touched. -/
theorem acquireWithin_untimed {failure : Failure} (untimed : timeout.seconds = .error failure) :
    (acquireWithin timeout accounts : Procedure Failure State (List Int)) state =
      (.error failure, state) := by
  unfold acquireWithin
  rw [untimed, run_bind, run_ofExcept]

variable [lawful : LawfulLockKeeper State]

/-- Locks that a table does not have for a client are not had, for the same reason. -/
theorem acquireWithin_error (timed : timeout.seconds = .ok seconds) {failure : Failure}
    (refused : acquire seconds accounts (table state) = (.error failure, locks)) :
    ∃ after, (acquireWithin timeout accounts : Procedure Failure State (List Int)) state =
        (.error failure, after) ∧ table after = locks := by
  refine ⟨report (withTable state locks) (timeoutNotices seconds failure), ?_, ?_⟩
  · unfold acquireWithin
    rw [timed, run_bind_ok (run_ofExcept _ state), run_tryCatch]
    simp only [within, refused, run_bind, run_modify, run_throw]
  · rw [lawful.table_report, lawful.table_withTable]

/-- All locks are had, or none and everything is as before. -/
theorem acquireWithin_cases (waitable : timeout.IsWaitable) (coherent : (table state).Coherent)
    (accounts : List Int) :
    ∃ after : State, (table after).Coherent ∧
      (acquireWithin timeout accounts state = (.ok (ordered accounts), after) ∧
          (table state).Taken (ordered accounts) (table after) ∨
        (table state).Restored (table after) ∧
          ∃ failure, acquireWithin timeout accounts state = (.error failure, after)) := by
  cases timed : timeout.seconds with
  | error failure =>
    exact ⟨state, coherent, Or.inr ⟨.refl _, failure, acquireWithin_untimed timed⟩⟩
  | ok seconds =>
    obtain ⟨locks, coherent', ⟨acquired, taken⟩ | ⟨account, -, -, nothing, refused⟩⟩ :=
      acquire_cases (waitable seconds timed) coherent accounts
    · refine ⟨withTable state locks, ?_, Or.inl ⟨acquireWithin_ok timed acquired, ?_⟩⟩
      · rwa [lawful.table_withTable]
      · rwa [lawful.table_withTable]
    · obtain ⟨after, ended, rfl⟩ := acquireWithin_error timed refused
      exact ⟨after, coherent', Or.inr ⟨nothing.restored coherent coherent', _, ended⟩⟩

end Locking

/-! ### At a desk -/

namespace LockDesk

/-- A clock can wait for as long as a client is to wait, or makes nothing of that time. -/
def Waits (desk : LockDesk) (timeout : Value) : Prop :=
  ∀ seconds, (timeout.orElse desk.defaultTimeout).seconds = .ok seconds →
    Locking.canWait seconds = true

variable {desk : LockDesk} {timeout : Value} {accounts : List Int}

theorem exists_of_not_waits (overlong : ¬desk.Waits timeout) :
    ∃ seconds, (timeout.orElse desk.defaultTimeout).seconds = .ok seconds ∧
      Locking.canWait seconds = false := by
  simpa [Waits] using overlong

/-- A desk takes locks as whatever keeps a table does. -/
theorem acquire_eq (desk : LockDesk) (timeout : Value) (accounts : List Int) :
    acquire timeout accounts desk =
      Locking.acquireWithin (timeout.orElse desk.defaultTimeout) accounts desk :=
  rfl

/-- Whoever waits for a time for which a clock can wait has all locks, in ascending order, or none. -/
theorem acquire_waiting (waits : desk.Waits timeout) (coherent : desk.table.Coherent)
    (accounts : List Int) :
    (acquire timeout accounts desk).2.table.Coherent ∧
      ((acquire timeout accounts desk).1 = .ok (Locking.ordered accounts) ∧
          desk.table.Taken (Locking.ordered accounts) (acquire timeout accounts desk).2.table ∨
        (∃ failure, (acquire timeout accounts desk).1 = .error failure) ∧
          desk.table.Restored (acquire timeout accounts desk).2.table) := by
  have isCoherent : (LockKeeper.table desk).Coherent := coherent
  obtain ⟨after, coherent', ⟨acquired, taken⟩ | ⟨restored, failure, refused⟩⟩ :=
    Locking.acquireWithin_cases waits isCoherent accounts
  · rw [acquire_eq, acquired]
    exact ⟨coherent', Or.inl ⟨rfl, taken⟩⟩
  · rw [acquire_eq, refused]
    exact ⟨coherent', Or.inr ⟨⟨failure, rfl⟩, restored⟩⟩

/-- Whoever would wait for longer has no locks, but is a user of the first of them. -/
theorem acquire_overlong (overlong : ¬desk.Waits timeout) (some : accounts ≠ []) :
    ∃ first rest, Locking.ordered accounts = first :: rest ∧
      (acquire timeout accounts desk).1 = .error .overflow ∧
        (acquire timeout accounts desk).2.table = (desk.table.checkOut first).2 := by
  obtain ⟨seconds, timed, overlong⟩ := exists_of_not_waits overlong
  obtain ⟨first, rest, inOrder, refused⟩ :=
    Locking.acquire_overflow overlong some (LockKeeper.table desk)
  obtain ⟨after, ended, table⟩ := Locking.acquireWithin_error timed refused
  rw [acquire_eq, ended]
  exact ⟨first, rest, inOrder, rfl, table⟩

/-- Whoever wants no locks and gets that far has none. -/
theorem acquire_overlong_nil (overlong : ¬desk.Waits timeout) :
    (acquire timeout [] desk).1 = .ok [] ∧ (acquire timeout [] desk).2.table = desk.table := by
  obtain ⟨seconds, timed, -⟩ := exists_of_not_waits overlong
  have none := Locking.acquireWithin_ok timed (Locking.acquire_nil seconds (LockKeeper.table desk))
  rw [acquire_eq, none]
  exact ⟨rfl, rfl⟩

/-- A client that nobody comes between either has the locks of all accounts, in ascending order and with one
more user each, or everything is as it was, whatever the failure. The only exception is a time for which no
clock can wait: then the locks of any accounts at all are refused, nothing is locked, and the lock of the
smallest account has got a user that it will never lose. -/
theorem acquire_all_or_none (desk : LockDesk) (timeout : Value) (accounts : List Int)
    (coherent : desk.table.Coherent) :
    let ended := acquire timeout accounts desk
    ended.2.table.Coherent ∧
    (∀ held, ended.1 = .ok held →
      held.Pairwise (· < ·) ∧ (∀ account, account ∈ held ↔ account ∈ accounts) ∧
        desk.table.Taken held ended.2.table) ∧
    (∀ failure, ended.1 = .error failure → (desk.table.Restored ended.2.table ↔ desk.Waits timeout)) ∧
    (¬desk.Waits timeout → accounts ≠ [] →
      ended.1 = .error .overflow ∧
        ∃ first ∈ accounts, (∀ account ∈ accounts, first ≤ account) ∧
          desk.table.LeftBehind first ended.2.table) := by
  dsimp only
  have ascending := Locking.ordered_ascending accounts
  by_cases waits : desk.Waits timeout
  · obtain ⟨coherent', ⟨acquired, taken⟩ | ⟨⟨failure, refused⟩, restored⟩⟩ :=
      acquire_waiting waits coherent accounts
    · refine ⟨coherent', fun held had ↦ ?_, fun failure failed ↦ ?_, fun overlong ↦ absurd waits overlong⟩
      · obtain rfl := Except.ok.inj (acquired.symm.trans had)
        exact ⟨ascending, fun _ ↦ Locking.mem_ordered, taken⟩
      · cases acquired.symm.trans failed
    · refine ⟨coherent', fun held had ↦ ?_, fun _ _ ↦ ⟨fun _ ↦ waits, fun _ ↦ restored⟩,
        fun overlong ↦ absurd waits overlong⟩
      cases refused.symm.trans had
  · by_cases none : accounts = []
    · subst none
      obtain ⟨acquired, same⟩ := acquire_overlong_nil waits
      rw [acquired, same]
      refine ⟨coherent, fun held had ↦ ?_, fun failure failed ↦ ?_, fun _ some ↦ absurd rfl some⟩
      · obtain rfl := Except.ok.inj had
        exact ⟨List.Pairwise.nil, fun _ ↦ Iff.rfl, desk.table.taken_nil⟩
      · cases failed
    · obtain ⟨first, rest, inOrder, refused, table⟩ := acquire_overlong waits none
      have left := LockTable.leftBehind_checkOut coherent first
      rw [inOrder] at ascending
      rw [refused, table]
      refine ⟨(LockTable.checkedOut coherent first).coherent, fun held had ↦ (by cases had),
        fun _ _ ↦ ⟨fun restored ↦ absurd restored left.not_restored, fun waits' ↦ absurd waits' waits⟩,
        fun _ _ ↦ ⟨rfl, first, ?_, fun account member ↦ ?_, left⟩⟩
      · exact Locking.mem_ordered.1 (inOrder ▸ List.mem_cons_self)
      · rcases List.mem_cons.1 (inOrder ▸ Locking.mem_ordered.2 member) with same | later
        · exact Int.le_of_eq same.symm
        · exact Int.le_of_lt ((List.pairwise_cons.1 ascending).1 account later)

/-- Whoever would wait for ever leaves a user of the first lock behind. -/
theorem acquire_all_or_none_forever :
    let desk : LockDesk := { defaultTimeout := .integer 5 }
    desk.table.Coherent ∧ (acquire (.binary (.infinite false)) [2, 1] desk).1 = .error .overflow ∧
      ¬desk.table.Restored (acquire (.binary (.infinite false)) [2, 1] desk).2.table := by
  intro desk
  obtain ⟨-, -, restored, forever⟩ :=
    acquire_all_or_none desk (.binary (.infinite false)) [2, 1] LockTable.coherent_empty
  have overlong : ¬desk.Waits (.binary (.infinite false)) := by
    intro waits
    cases waits (.infinite false) rfl
  obtain ⟨refused, -⟩ := forever overlong (List.cons_ne_nil _ _)
  exact ⟨LockTable.coherent_empty, refused, mt (restored _ refused).1 overlong⟩

end LockDesk

end Passbook
