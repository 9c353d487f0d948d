import Passbook.Lock.Table

/-!
The lock table step by step. A table is coherent (`LockTable.Coherent`) if exactly the accounts with users
have a lock, every account its own, and no lock is one that is still to be made. Each step keeps that:
`checkedOut` and `checkedIn` say what becoming a user and ceasing to be one do to the locks and to the
counts, and the two steps on a lock itself change nothing but whether it is taken (`take?_eq_some`,
`drop?_of_taken`).
-/

set_option autoImplicit false
set_option relaxedAutoImplicit false

namespace Passbook.LockTable

/-- The number of users of an account's lock. -/
def userCount (table : LockTable) (account : Int) : Nat := (table.users.get? account).getD 0

/-- A lock for exactly the accounts that have users, every account its own, and none that is still to be
made. -/
structure Coherent (table : LockTable) : Prop where
  keys : ∀ account, table.live.get? account = none ↔ table.users.get? account = none
  used : ∀ account, table.users.get? account ≠ some 0
  apart : ∀ first second lock, table.live.get? first = some lock →
    table.live.get? second = some lock → first = second
  made : ∀ account lock, table.live.get? account = some lock → lock < table.next
  spent : ∀ lock ∈ table.taken, lock < table.next

theorem coherent_empty : Coherent {} where
  keys _ := Iff.rfl
  used _ none := by cases none
  apart _ _ _ there := by cases there
  made _ _ there := by cases there
  spent _ member := by cases member

variable {table after : LockTable} {account : Int} {lock : Nat}

/-- An account with a lock is one with users. -/
theorem Coherent.userCount_pos (coherent : table.Coherent)
    (there : table.live.get? account = some lock) : 0 < table.userCount account := by
  unfold userCount
  cases count : table.users.get? account with
  | none =>
    rw [(coherent.keys account).2 count] at there
    cases there
  | some users =>
    refine Nat.pos_of_ne_zero fun none ↦ coherent.used account ?_
    rw [count]
    exact congrArg some none

/-- A table without users is empty. -/
theorem Coherent.activeCount_eq_zero (coherent : table.Coherent)
    (unused : ∀ account, table.userCount account = 0) : table.activeCount = 0 := by
  unfold activeCount Registry.size
  cases entries : table.live.entries with
  | nil => rfl
  | cons entry rest =>
    have there : table.live.get? entry.1 = some entry.2 := by
      simp [Registry.get?, entries]
    have some := coherent.userCount_pos there
    rw [unused] at some
    cases some

/-! ### Users -/

theorem userCount_put_self (table : LockTable) (account : Int) (count : Nat) :
    userCount { table with users := table.users.put account count } account = count := by
  rw [userCount, Registry.get?_put_self]
  rfl

theorem userCount_of_get? {other : LockTable}
    (same : other.users.get? account = table.users.get? account) :
    other.userCount account = table.userCount account := by
  rw [userCount, same]
  rfl

/-- An account with users may have some other number of them. -/
theorem Coherent.recount (coherent : table.Coherent) (there : table.live.get? account ≠ none)
    {count : Nat} (some : count ≠ 0) :
    Coherent { table with users := table.users.put account count } where
  keys other := by
    by_cases same : other = account
    · subst same
      rw [Registry.get?_put_self]
      simp [there]
    · rw [Registry.get?_put_other _ _ same]
      exact coherent.keys other
  used other := by
    by_cases same : other = account
    · subst same
      rw [Registry.get?_put_self]
      simpa using some
    · rw [Registry.get?_put_other _ _ same]
      exact coherent.used other
  apart := coherent.apart
  made := coherent.made
  spent := coherent.spent

/-- An account without users may get its first one, with a new lock. -/
theorem Coherent.begin (coherent : table.Coherent) (account : Int) :
    Coherent { table with
      live := table.live.put account table.next
      users := table.users.put account 1
      next := table.next + 1 } where
  keys other := by
    by_cases same : other = account
    · subst same
      rw [Registry.get?_put_self, Registry.get?_put_self]
      simp
    · rw [Registry.get?_put_other _ _ same, Registry.get?_put_other _ _ same]
      exact coherent.keys other
  used other := by
    by_cases same : other = account
    · subst same
      rw [Registry.get?_put_self]
      simp
    · rw [Registry.get?_put_other _ _ same]
      exact coherent.used other
  apart first second lock isFirst isSecond := by
    dsimp only at isFirst isSecond
    by_cases here : first = account <;> by_cases here' : second = account
    · rw [here, here']
    · subst here
      rw [Registry.get?_put_self] at isFirst
      rw [Registry.get?_put_other _ _ here'] at isSecond
      obtain rfl := Option.some.inj isFirst
      exact absurd (coherent.made second _ isSecond) (Nat.lt_irrefl _)
    · subst here'
      rw [Registry.get?_put_self] at isSecond
      rw [Registry.get?_put_other _ _ here] at isFirst
      obtain rfl := Option.some.inj isSecond
      exact absurd (coherent.made first _ isFirst) (Nat.lt_irrefl _)
    · rw [Registry.get?_put_other _ _ here] at isFirst
      rw [Registry.get?_put_other _ _ here'] at isSecond
      exact coherent.apart first second lock isFirst isSecond
  made other lock there := by
    dsimp only at there ⊢
    by_cases same : other = account
    · subst same
      rw [Registry.get?_put_self] at there
      obtain rfl := Option.some.inj there
      exact Nat.lt_succ_self _
    · rw [Registry.get?_put_other _ _ same] at there
      exact Nat.lt_succ_of_lt (coherent.made other lock there)
  spent lock member := Nat.lt_succ_of_lt (coherent.spent lock member)

/-- An account may lose all its users, and its lock with them. -/
theorem Coherent.giveUp (coherent : table.Coherent) (account : Int) :
    Coherent { table with live := table.live.erase account, users := table.users.erase account } := by
  have kept (other : Int) (lock : Nat) (there : (table.live.erase account).get? other = some lock) :
      table.live.get? other = some lock := by
    by_cases same : other = account
    · rw [same, Registry.get?_erase_self] at there
      cases there
    · rw [Registry.get?_erase_other _ same] at there
      exact there
  refine ⟨fun other ↦ ?_, fun other ↦ ?_, ?_, ?_, coherent.spent⟩
  · by_cases same : other = account
    · rw [same, Registry.get?_erase_self, Registry.get?_erase_self]
    · rw [Registry.get?_erase_other _ same, Registry.get?_erase_other _ same]
      exact coherent.keys other
  · by_cases same : other = account
    · rw [same, Registry.get?_erase_self]
      simp
    · rw [Registry.get?_erase_other _ same]
      exact coherent.used other
  · intro first second lock isFirst isSecond
    exact coherent.apart first second lock (kept _ _ isFirst) (kept _ _ isSecond)
  · intro other lock there
    exact coherent.made other lock (kept _ _ there)

/-- An account has got one more user, whose lock is the one that the account had or else a new one. -/
structure CheckedOut (account : Int) (lock : Nat) (before after : LockTable) : Prop where
  there : after.live.get? account = some lock
  origin : before.live.get? account = some lock ∨
    before.live.get? account = none ∧ lock = before.next
  others : ∀ other ≠ account, after.live.get? other = before.live.get? other
  users : after.userCount account = before.userCount account + 1
  otherUsers : ∀ other ≠ account, after.userCount other = before.userCount other
  taken : after.taken = before.taken
  coherent : after.Coherent

/-- Becoming a user of an account's lock. -/
theorem checkedOut (coherent : table.Coherent) (account : Int) :
    CheckedOut account (table.checkOut account).1 table (table.checkOut account).2 := by
  unfold checkOut
  cases found : table.live.get? account with
  | some lock =>
    dsimp only
    refine ⟨found, Or.inl found, fun _ _ ↦ rfl, userCount_put_self _ _ _, fun other differ ↦ ?_, rfl,
      coherent.recount (by simp [found]) (Nat.succ_ne_zero _)⟩
    exact userCount_of_get? (Registry.get?_put_other _ _ differ)
  | none =>
    dsimp only
    have unused : table.users.get? account = none := (coherent.keys account).1 found
    refine ⟨Registry.get?_put_self _ _ _, Or.inr ⟨found, rfl⟩,
      fun other differ ↦ Registry.get?_put_other _ _ differ, ?_, fun other differ ↦ ?_, rfl,
      coherent.begin account⟩
    · rw [userCount, Registry.get?_put_self, userCount, unused]
      rfl
    · exact userCount_of_get? (Registry.get?_put_other _ _ differ)

/-- An account has got one user less, and its lock is given up with the last. -/
structure CheckedIn (account : Int) (before after : LockTable) : Prop where
  kept : 0 < after.userCount account → after.live.get? account = before.live.get? account
  others : ∀ other ≠ account, after.live.get? other = before.live.get? other
  users : after.userCount account + 1 = before.userCount account
  otherUsers : ∀ other ≠ account, after.userCount other = before.userCount other
  taken : after.taken = before.taken
  coherent : after.Coherent

/-- Ceasing to be a user of an account's lock, which is possible as long as it has any. -/
theorem checkedIn (coherent : table.Coherent) (some : 0 < table.userCount account) :
    ∃ after, table.checkIn? account = .some after ∧ CheckedIn account table after := by
  unfold checkIn?
  cases count : table.users.get? account with
  | none =>
    rw [userCount, count] at some
    cases some
  | some users =>
    have present : table.userCount account = users := by rw [userCount, count]; rfl
    have there : table.live.get? account ≠ none := mt (coherent.keys account).1 (by simp [count])
    dsimp only
    by_cases last : users - 1 = 0
    · rw [if_pos last]
      have unused : userCount { table with
          live := table.live.erase account, users := table.users.erase account } account = 0 := by
        rw [userCount, Registry.get?_erase_self]
        rfl
      refine ⟨_, rfl, fun others ↦ ?_, fun other differ ↦ Registry.get?_erase_other _ differ, ?_,
        fun other differ ↦ userCount_of_get? (Registry.get?_erase_other _ differ), rfl,
        coherent.giveUp account⟩
      · rw [unused] at others
        cases others
      · rw [unused]
        omega
    · rw [if_neg last]
      refine ⟨_, rfl, fun _ ↦ rfl, fun _ _ ↦ rfl, ?_,
        fun other differ ↦ userCount_of_get? (Registry.get?_put_other _ _ differ), rfl,
        coherent.recount there last⟩
      rw [userCount_put_self, present]
      omega

/-! ### Locks -/

theorem take?_eq_some (took : table.take? lock = some after) :
    lock ∉ table.taken ∧ after = { table with taken := lock :: table.taken } := by
  unfold take? at took
  split at took
  · cases took
  · next free =>
    refine ⟨fun taken ↦ free ?_, (Option.some.inj took).symm⟩
    rw [List.contains_eq_mem]
    exact decide_eq_true taken

theorem take?_of_free (free : lock ∉ table.taken) :
    table.take? lock = some { table with taken := lock :: table.taken } := by
  unfold take?
  rw [if_neg (by simpa using free)]

theorem drop?_of_taken (taken : lock ∈ table.taken) :
    table.drop? lock = some { table with taken := table.taken.filter (· != lock) } := by
  unfold drop?
  rw [if_pos (by simpa using taken)]

theorem Coherent.take (coherent : table.Coherent) (made : lock < table.next) :
    Coherent { table with taken := lock :: table.taken } where
  keys := coherent.keys
  used := coherent.used
  apart := coherent.apart
  made := coherent.made
  spent other member := by
    rcases List.mem_cons.1 member with rfl | before
    · exact made
    · exact coherent.spent other before

theorem Coherent.drop (coherent : table.Coherent) (lock : Nat) :
    Coherent { table with taken := table.taken.filter (· != lock) } where
  keys := coherent.keys
  used := coherent.used
  apart := coherent.apart
  made := coherent.made
  spent other member := coherent.spent other (List.mem_filter.1 member).1

theorem isLocked_eq_true : table.isLocked account = true ↔
    ∃ lock, table.live.get? account = some lock ∧ lock ∈ table.taken := by
  unfold isLocked
  cases table.live.get? account <;> simp

end Passbook.LockTable
