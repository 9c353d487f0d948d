import Mathlib.Algebra.BigOperators.Group.Finset.Piecewise
import Mathlib.Algebra.Order.BigOperators.Group.Finset
import Passbook.Proofs.Locks.Client

/-!
Any number of clients of one lock table. A `LockCrowd` is the table and what every client is at;
`LockCrowd.run` lets the steps of the clients follow each other in any order. The invariant
(`LockCrowd.Orderly`) is that every client uses the lock that the table has for the account, that the table
counts exactly these uses, and that a lock is taken exactly as long as one client holds it. Each step keeps
it (`LockCrowd.orderly_step`), and so no account is ever held by two clients
(`LockCrowd.exclusive_and_accounted`).
-/

set_option autoImplicit false
set_option relaxedAutoImplicit false

namespace Passbook

namespace LockClient

variable {client later : LockClient} {before after : LockTable}

/-- How often a client is a user of an account's lock. -/
def useCount (account : Int) (client : LockClient) : Nat :=
  client.uses.countP (·.account = account)

/-- How often a client holds a lock. -/
def holdCount (lock : Nat) (client : LockClient) : Nat :=
  client.holding.countP (·.lock = lock)

theorem useCount_of_perm (perm : later.uses.Perm client.uses) (account : Int) :
    later.useCount account = client.useCount account :=
  perm.countP_eq _

theorem useCount_of_cons {use : LockUse} (perm : later.uses.Perm (use :: client.uses))
    (account : Int) :
    later.useCount account = client.useCount account + if use.account = account then 1 else 0 := by
  rw [useCount, perm.countP_eq, List.countP_cons]
  simp [useCount]

theorem holdCount_of_cons {use : LockUse} (perm : later.holding.Perm (use :: client.holding))
    (lock : Nat) :
    later.holdCount lock = client.holdCount lock + if use.lock = lock then 1 else 0 := by
  rw [holdCount, perm.countP_eq, List.countP_cons]
  simp [holdCount]

theorem uses_perm (holding : later.holding.Perm client.holding)
    (pending : later.pending = client.pending) : later.uses.Perm client.uses := by
  rw [uses, uses, pending]
  exact holding.append_right _

/-- One more use that is not held, and the others as before. -/
theorem uses_perm_of_pending {use : LockUse} (holding : later.holding.Perm client.holding)
    (pending : later.pending = use :: client.pending) :
    later.uses.Perm (use :: client.uses) := by
  rw [uses, uses, pending]
  exact List.perm_middle.trans ((holding.append_right _).cons use)

/-- A use is the same whether its lock is held or not. -/
theorem uses_perm_of_holding {use : LockUse} (holding : later.holding.Perm (use :: client.holding))
    (pending : client.pending = use :: later.pending) : later.uses.Perm client.uses := by
  rw [uses, uses, pending]
  exact (holding.append_right _).trans List.perm_middle.symm

end LockClient

/-- Clients that share one lock table. -/
structure LockCrowd (Name : Type) where
  table : LockTable := {}
  clients : Name → LockClient := fun _ ↦ {}

namespace LockCrowd

open LockClient

variable {Name : Type}

section Invariant

variable [Fintype Name] {crowd : LockCrowd Name} {name : Name}

/-- Every client uses the lock that the table has for the account, and the table counts these uses. A lock
is taken as long as a client holds it, and no two do. -/
structure Orderly (crowd : LockCrowd Name) : Prop where
  coherent : crowd.table.Coherent
  there : ∀ name, ∀ use ∈ (crowd.clients name).uses,
    crowd.table.live.get? use.account = some use.lock
  counted : ∀ account,
    crowd.table.userCount account = ∑ name, (crowd.clients name).useCount account
  held : ∀ lock, ∑ name, (crowd.clients name).holdCount lock =
    if lock ∈ crowd.table.taken then 1 else 0
  sound : ∀ name, (crowd.clients name).Sound

/-- A client that uses an account's lock is one of those who do. -/
theorem sum_useCount_pos {clients : Name → LockClient} {use : LockUse}
    (member : use ∈ (clients name).uses) : 0 < ∑ other, (clients other).useCount use.account := by
  have counts : 0 < (clients name).useCount use.account :=
    List.countP_pos_iff.2 ⟨use, member, decide_eq_true rfl⟩
  exact Nat.lt_of_lt_of_le counts
    (Finset.single_le_sum (f := fun other ↦ (clients other).useCount use.account)
      (fun _ _ ↦ Nat.zero_le _) (Finset.mem_univ name))

/-- Whoever holds a lock is one of those who do. -/
theorem holdCount_pos {client : LockClient} {use : LockUse} (member : use ∈ client.holding) :
    0 < client.holdCount use.lock :=
  List.countP_pos_iff.2 ⟨use, member, decide_eq_true rfl⟩

theorem Orderly.holdCount_le (orderly : crowd.Orderly) (lock : Nat) :
    ∑ name, (crowd.clients name).holdCount lock ≤ 1 := by
  rw [orderly.held]
  split <;> omega

theorem Orderly.taken (orderly : crowd.Orderly) {use : LockUse}
    (member : use ∈ (crowd.clients name).holding) : use.lock ∈ crowd.table.taken := by
  have counts := holdCount_pos member
  have one := orderly.held use.lock
  by_contra free
  rw [if_neg free, Finset.sum_eq_zero_iff] at one
  rw [one name (Finset.mem_univ name)] at counts
  exact Nat.lt_irrefl 0 counts

/-- Whoever holds an account's lock holds the one that the table has for it. -/
theorem Orderly.lock_eq (orderly : crowd.Orderly) {first second : Name} {mine theirs : LockUse}
    (isMine : mine ∈ (crowd.clients first).uses) (isTheirs : theirs ∈ (crowd.clients second).uses)
    (same : mine.account = theirs.account) : mine.lock = theirs.lock := by
  have there := orderly.there first mine isMine
  rw [same, orderly.there second theirs isTheirs] at there
  exact (Option.some.inj there).symm

/-- Nobody holds an account twice. -/
theorem Orderly.once (orderly : crowd.Orderly) (name : Name) :
    (crowd.clients name).heldAccounts.Nodup := by
  rw [List.nodup_iff_count_le_one]
  intro account
  by_cases held : account ∈ (crowd.clients name).heldAccounts
  · obtain ⟨use, member, rfl⟩ := List.mem_map.1 held
    calc (crowd.clients name).heldAccounts.count use.account
        = (crowd.clients name).holding.countP (·.account == use.account) := by
          rw [heldAccounts, List.count, List.countP_map]
          rfl
      _ ≤ (crowd.clients name).holdCount use.lock := by
          refine List.countP_mono_left fun other isOther same ↦ decide_eq_true ?_
          exact orderly.lock_eq (mem_uses_of_holding isOther) (mem_uses_of_holding member)
            (eq_of_beq same)
      _ ≤ ∑ other, (crowd.clients other).holdCount use.lock :=
          Finset.single_le_sum (f := fun other ↦ (crowd.clients other).holdCount use.lock)
            (fun _ _ ↦ Nat.zero_le _) (Finset.mem_univ name)
      _ ≤ 1 := orderly.holdCount_le use.lock
  · rw [List.count_eq_zero.2 held]
    exact Nat.zero_le 1

theorem Orderly.fits (orderly : crowd.Orderly) (name : Name) :
    (crowd.clients name).Fits crowd.table :=
  ⟨orderly.there name, fun _ ↦ orderly.taken, orderly.once name, orderly.sound name⟩

/-- No account is held by two clients. -/
theorem Orderly.exclusive (orderly : crowd.Orderly) {account : Int}
    {first second : Name} (isFirst : account ∈ (crowd.clients first).heldAccounts)
    (isSecond : account ∈ (crowd.clients second).heldAccounts) : first = second := by
  obtain ⟨mine, member, rfl⟩ := List.mem_map.1 isFirst
  obtain ⟨theirs, member', same⟩ := List.mem_map.1 isSecond
  have sameLock := orderly.lock_eq (mem_uses_of_holding member') (mem_uses_of_holding member) same
  have counts := holdCount_pos member
  have counts' := holdCount_pos member'
  rw [sameLock] at counts'
  classical
  by_contra differ
  have two : (crowd.clients first).holdCount mine.lock + (crowd.clients second).holdCount mine.lock
      ≤ ∑ name, (crowd.clients name).holdCount mine.lock := by
    rw [← Finset.sum_pair (f := fun name ↦ (crowd.clients name).holdCount mine.lock) differ]
    exact Finset.sum_le_sum_of_subset (Finset.subset_univ _)
  have one := orderly.holdCount_le mine.lock
  omega

/-- The lock that a client refers to is the one that the table has for the account. -/
theorem Orderly.refers (orderly : crowd.Orderly) {use : LockUse}
    (refers : use ∈ (crowd.clients name).references) :
    crowd.table.live.get? use.account = some use.lock := by
  rcases List.mem_append.1 refers with used | lookedUp
  · exact orderly.there name use used
  · have sound := orderly.sound name
    unfold LockTask.lookedUp at lookedUp
    split at lookedUp
    · next first found rest task =>
      obtain rfl := List.mem_singleton.1 lookedUp
      rw [Sound, task] at sound
      dsimp only at sound ⊢
      rw [sound]
      refine orderly.there name first (mem_uses_of_holding (List.mem_append_right _ ?_))
      rw [task]
      exact List.mem_cons_self
    · cases lookedUp

theorem Orderly.clients (orderly : crowd.Orderly) (account : Int)
    (plain : ∀ name, (crowd.clients name).Plain) :
    crowd.table.userCount account =
      (Finset.univ.filter fun name ↦ account ∈ (crowd.clients name).usedAccounts).card := by
  rw [orderly.counted, Finset.card_filter]
  refine Finset.sum_congr rfl fun name _ ↦ ?_
  have once := nodup_usedAccounts (orderly.sound name) (orderly.once name) (plain name)
  calc (crowd.clients name).useCount account
      = (crowd.clients name).usedAccounts.count account := by
        rw [useCount, usedAccounts, List.count, List.countP_map]
        exact List.countP_congr fun use _ ↦ by simp
    _ = if account ∈ (crowd.clients name).usedAccounts then 1 else 0 := once.count

theorem Orderly.empty (orderly : crowd.Orderly)
    (idle : ∀ name, (crowd.clients name).Idle) : crowd.table.activeCount = 0 := by
  refine orderly.coherent.activeCount_eq_zero fun account ↦ ?_
  rw [orderly.counted]
  refine Finset.sum_eq_zero fun name _ ↦ ?_
  obtain ⟨owned, outside⟩ := idle name
  simp [useCount, uses, holding, pending, owned, outside, LockTask.holding, LockTask.pending]

/-- Locks exclude each other, and the table keeps account of them. -/
structure Accounted (crowd : LockCrowd Name) : Prop where
  /-- No account is held by two clients, nor twice by one. -/
  exclusive : ∀ account first second, account ∈ (crowd.clients first).heldAccounts →
    account ∈ (crowd.clients second).heldAccounts → first = second
  once : ∀ name, (crowd.clients name).heldAccounts.Nodup
  /-- All users of an account have the same lock, which is also the one that is found when it is to be
  given back. -/
  sameLock : ∀ first second, ∀ mine ∈ (crowd.clients first).references,
    ∀ theirs ∈ (crowd.clients second).references, mine.account = theirs.account →
      mine.lock = theirs.lock
  keys : ∀ account, (crowd.table.live.get? account).isSome = (crowd.table.users.get? account).isSome
  /-- The accounts with an entry are those with users, and the entry is the number of the users. -/
  positive : ∀ account count, crowd.table.users.get? account = some count → 1 ≤ count
  counted : ∀ account,
    (crowd.table.users.get? account).getD 0 = ∑ name, (crowd.clients name).useCount account
  /-- A client counts once, unless it waits for what it holds itself. -/
  clients : ∀ account, (∀ name, (crowd.clients name).Plain) →
    (crowd.table.users.get? account).getD 0 =
      (Finset.univ.filter fun name ↦ account ∈ (crowd.clients name).usedAccounts).card
  unfailing : ∀ name failure, (crowd.clients name).task ≠ .failed failure
  empty : (∀ name, (crowd.clients name).Idle) → crowd.table.activeCount = 0

theorem orderly_start : Orderly ({} : LockCrowd Name) where
  coherent := LockTable.coherent_empty
  there _ use member := by cases member
  counted _ := by simp [LockTable.userCount, Registry.get?, useCount, uses, holding, pending,
    LockTask.holding, LockTask.pending]
  held _ := by simp [holdCount, holding, LockTask.holding]
  sound _ := trivial

end Invariant

variable [DecidableEq Name]

/-- One step of one client; nothing happens if it is not the time for that. -/
def step (crowd : LockCrowd Name) (event : Name × LockAction) : LockCrowd Name :=
  match (crowd.clients event.1).act? event.2 crowd.table with
  | some (client, table) => { table, clients := Function.update crowd.clients event.1 client }
  | none => crowd

/-- Steps one after the other, when nobody has any lock in the beginning. -/
def run (events : List (Name × LockAction)) : LockCrowd Name := events.foldl step {}

/-! ### One step -/

variable {crowd : LockCrowd Name} {name : Name} {later : LockClient} {table : LockTable}

/-- The uses of all clients after a step, where those of one have changed. -/
theorem there_update {clients : Name → LockClient}
    (own : ∀ use ∈ later.uses, table.live.get? use.account = some use.lock)
    (others : ∀ other, ∀ use ∈ (clients other).uses, other ≠ name →
      table.live.get? use.account = some use.lock) (other : Name) :
    ∀ use ∈ (Function.update clients name later other).uses,
      table.live.get? use.account = some use.lock := by
  intro use member
  by_cases same : other = name
  · rw [same, Function.update_self] at member
    exact own use member
  · rw [Function.update_of_ne same] at member
    exact others other use member same

theorem sound_update {clients : Name → LockClient} (sound : ∀ name, (clients name).Sound)
    (holds : later.Sound) (other : Name) :
    (Function.update clients name later other).Sound := by
  by_cases same : other = name
  · rw [same, Function.update_self]
    exact holds
  · rw [Function.update_of_ne same]
    exact sound other

variable [Fintype Name]

/-- A sum over all clients when one of them goes on. -/
theorem sum_update {State : Type} (count : State → Nat) (clients : Name → State) (name : Name)
    (later : State) :
    ∑ other, count (Function.update clients name later other) + count (clients name) =
      ∑ other, count (clients other) + count later := by
  have others : ∑ other ∈ Finset.univ.erase name, count (Function.update clients name later other) =
      ∑ other ∈ Finset.univ.erase name, count (clients other) := by
    refine Finset.sum_congr rfl fun other member ↦ ?_
    rw [Function.update_of_ne (Finset.ne_of_mem_erase member)]
  rw [← Finset.add_sum_erase _ _ (Finset.mem_univ name), others, Function.update_self,
    ← Finset.add_sum_erase _ (fun other ↦ count (clients other)) (Finset.mem_univ name)]
  omega

/-- A step that changes nobody's uses, and leaves the locks and their counts as they are. -/
theorem Orderly.sameUses (orderly : crowd.Orderly) (uses : later.uses.Perm (crowd.clients name).uses)
    (live : table.live = crowd.table.live) (users : table.users = crowd.table.users) :
    (∀ other, ∀ use ∈ (Function.update crowd.clients name later other).uses,
      table.live.get? use.account = some use.lock) ∧
    ∀ account, table.userCount account =
      ∑ other, (Function.update crowd.clients name later other).useCount account := by
  refine ⟨there_update (fun use member ↦ ?_) fun other use member _ ↦ ?_, fun account ↦ ?_⟩
  · rw [live]
    exact orderly.there name use (uses.mem_iff.1 member)
  · rw [live]
    exact orderly.there other use member
  · have sums := sum_update (useCount account) crowd.clients name later
    have counted := orderly.counted account
    rw [useCount_of_perm uses] at sums
    have same : table.userCount account = crowd.table.userCount account := by
      rw [LockTable.userCount, users]
      rfl
    omega

/-- A step that changes nobody's hold on a lock, and takes no lock. -/
theorem Orderly.sameHolds (orderly : crowd.Orderly)
    (holding : later.holding.Perm (crowd.clients name).holding)
    (taken : table.taken = crowd.table.taken) (lock : Nat) :
    ∑ other, (Function.update crowd.clients name later other).holdCount lock =
      if lock ∈ table.taken then 1 else 0 := by
  have sums := sum_update (holdCount lock) crowd.clients name later
  have same : later.holdCount lock = (crowd.clients name).holdCount lock := holding.countP_eq _
  have held := orderly.held lock
  rw [taken]
  omega

theorem Orderly.checkOut (orderly : crowd.Orderly) {use : LockUse}
    (holding : later.holding = (crowd.clients name).holding)
    (pending : later.pending = use :: (crowd.clients name).pending)
    (checkedOut : LockTable.CheckedOut use.account use.lock crowd.table table)
    (sound : later.Sound) :
    Orderly { table, clients := Function.update crowd.clients name later } := by
  have uses := uses_perm_of_pending (.of_eq holding) pending
  -- whoever used the account before uses the same lock
  have before (other : Name) (old : LockUse) (member : old ∈ (crowd.clients other).uses) :
      table.live.get? old.account = some old.lock := by
    have there := orderly.there other old member
    by_cases same : old.account = use.account
    · rw [same] at there ⊢
      rcases checkedOut.origin with found | ⟨missing, -⟩
      · rw [checkedOut.there, ← found, there]
      · rw [missing] at there
        cases there
    · rw [checkedOut.others _ same, there]
  refine ⟨checkedOut.coherent, there_update (fun new member ↦ ?_) fun other old member _ ↦
    before other old member, fun account ↦ ?_, orderly.sameHolds (.of_eq holding) checkedOut.taken,
    sound_update orderly.sound sound⟩
  · rcases List.mem_cons.1 (uses.mem_iff.1 member) with rfl | member
    · exact checkedOut.there
    · exact before name new member
  · have sums := sum_update (useCount account) crowd.clients name later
    have counted := orderly.counted account
    rw [useCount_of_cons uses] at sums
    dsimp only
    by_cases same : use.account = account
    · have count := checkedOut.users
      rw [same] at count
      rw [if_pos same] at sums
      omega
    · have count := checkedOut.otherUsers account (Ne.symm same)
      rw [if_neg same] at sums
      omega

theorem Orderly.checkIn (orderly : crowd.Orderly) {use : LockUse}
    (holding : later.holding.Perm (crowd.clients name).holding)
    (pending : (crowd.clients name).pending = use :: later.pending)
    (checkedIn : LockTable.CheckedIn use.account crowd.table table)
    (sound : later.Sound) :
    Orderly { table, clients := Function.update crowd.clients name later } := by
  have uses := uses_perm_of_pending holding.symm pending
  have counted (account : Int) : table.userCount account =
      ∑ other, (Function.update crowd.clients name later other).useCount account := by
    have sums := sum_update (useCount account) crowd.clients name later
    have counted := orderly.counted account
    rw [useCount_of_cons uses] at sums
    by_cases same : use.account = account
    · have count := checkedIn.users
      rw [same] at count
      rw [if_pos same] at sums
      omega
    · have count := checkedIn.otherUsers account (Ne.symm same)
      rw [if_neg same] at sums
      omega
  -- an account that is still used still has its lock
  have kept (other : Name) (old : LockUse)
      (member : old ∈ (Function.update crowd.clients name later other).uses)
      (there : crowd.table.live.get? old.account = some old.lock) :
      table.live.get? old.account = some old.lock := by
    by_cases same : old.account = use.account
    · have some : 0 < table.userCount old.account := by
        rw [counted]
        exact sum_useCount_pos member
      rw [same] at some there ⊢
      rw [checkedIn.kept some, there]
    · rw [checkedIn.others _ same, there]
  refine ⟨checkedIn.coherent, there_update (fun old member ↦ ?_) fun other old member differ ↦ ?_,
    counted, orderly.sameHolds holding checkedIn.taken, sound_update orderly.sound sound⟩
  · refine kept name old (by rwa [Function.update_self]) (orderly.there name old ?_)
    exact uses.mem_iff.2 (List.mem_cons_of_mem _ member)
  · refine kept other old (by rwa [Function.update_of_ne differ]) (orderly.there other old member)

theorem Orderly.take (orderly : crowd.Orderly) {use : LockUse}
    (holding : later.holding.Perm (use :: (crowd.clients name).holding))
    (pending : (crowd.clients name).pending = use :: later.pending)
    (free : use.lock ∉ crowd.table.taken) (sound : later.Sound) :
    Orderly
      { table := { crowd.table with taken := use.lock :: crowd.table.taken }
        clients := Function.update crowd.clients name later } := by
  have uses := uses_perm_of_holding holding pending
  obtain ⟨there, counted⟩ := orderly.sameUses uses
    (rfl : { crowd.table with taken := use.lock :: crowd.table.taken }.live = _) rfl
  have made : use.lock < crowd.table.next := by
    refine orderly.coherent.made use.account use.lock (orderly.there name use ?_)
    refine uses.mem_iff.1 ?_
    exact List.mem_append_left _ (holding.mem_iff.2 List.mem_cons_self)
  refine ⟨orderly.coherent.take made, there, counted, fun lock ↦ ?_,
    sound_update orderly.sound sound⟩
  have sums := sum_update (holdCount lock) crowd.clients name later
  have held := orderly.held lock
  rw [holdCount_of_cons holding] at sums
  by_cases same : use.lock = lock
  · subst same
    rw [if_neg free] at held
    rw [if_pos rfl] at sums
    dsimp only
    rw [if_pos List.mem_cons_self]
    omega
  · have others : lock ∈ use.lock :: crowd.table.taken ↔ lock ∈ crowd.table.taken := by
      rw [List.mem_cons, or_iff_right (Ne.symm same)]
    rw [if_neg same] at sums
    simp only [others]
    omega

theorem Orderly.drop (orderly : crowd.Orderly) {use : LockUse}
    (holding : (crowd.clients name).holding.Perm (use :: later.holding))
    (pending : later.pending = use :: (crowd.clients name).pending) (sound : later.Sound) :
    Orderly
      { table := { crowd.table with taken := crowd.table.taken.filter (· != use.lock) }
        clients := Function.update crowd.clients name later } := by
  have uses := (uses_perm_of_holding holding pending).symm
  obtain ⟨there, counted⟩ := orderly.sameUses uses
    (rfl : { crowd.table with taken := crowd.table.taken.filter (· != use.lock) }.live = _) rfl
  refine ⟨orderly.coherent.drop use.lock, there, counted, fun lock ↦ ?_,
    sound_update orderly.sound sound⟩
  have sums := sum_update (holdCount lock) crowd.clients name later
  have held := orderly.held lock
  rw [holdCount_of_cons holding] at sums
  by_cases same : use.lock = lock
  · subst same
    have gone : use.lock ∉ crowd.table.taken.filter (· != use.lock) := by simp
    have most : (if use.lock ∈ crowd.table.taken then 1 else 0) ≤ 1 := by split <;> omega
    rw [if_pos rfl] at sums
    dsimp only
    rw [if_neg gone]
    omega
  · have others : lock ∈ crowd.table.taken.filter (· != use.lock) ↔ lock ∈ crowd.table.taken := by
      simp [Ne.symm same]
    rw [if_neg same] at sums
    simp only [others]
    omega

/-- What one step does, in all its cases. -/
theorem Orderly.update (orderly : crowd.Orderly)
    (effect : (crowd.clients name).Effect later crowd.table table) (sound : later.Sound) :
    Orderly { table, clients := Function.update crowd.clients name later } := by
  cases effect with
  | none holding pending same =>
    subst same
    obtain ⟨there, counted⟩ := orderly.sameUses (uses_perm holding pending) rfl rfl
    exact ⟨orderly.coherent, there, counted, orderly.sameHolds holding rfl,
      sound_update orderly.sound sound⟩
  | checkedOut use holding pending checkedOut =>
    exact orderly.checkOut holding pending checkedOut sound
  | took use holding pending free same =>
    subst same
    exact orderly.take holding pending free sound
  | dropped use holding pending same =>
    subst same
    exact orderly.drop holding pending sound
  | checkedIn use holding pending checkedIn =>
    exact orderly.checkIn holding pending checkedIn sound

theorem orderly_step (orderly : crowd.Orderly) (event : Name × LockAction) :
    (crowd.step event).Orderly := by
  unfold step
  cases acted : (crowd.clients event.1).act? event.2 crowd.table with
  | none => exact orderly
  | some went =>
    obtain ⟨effect, sound⟩ := act?_effect (orderly.fits event.1) orderly.coherent acted
    exact orderly.update effect sound

/-! ### Runs -/

theorem orderly_run (events : List (Name × LockAction)) : (run events).Orderly := by
  unfold run
  generalize start : ({} : LockCrowd Name) = crowd
  have orderly : crowd.Orderly := start ▸ orderly_start
  clear start
  induction events generalizing crowd with
  | nil => exact orderly
  | cons event rest ih => exact ih _ (orderly_step orderly event)

/-- However many clients there are and however their steps follow each other, locks exclude each other,
and the table keeps account of them. -/
theorem exclusive_and_accounted (events : List (Name × LockAction)) : (run events).Accounted := by
  have orderly := orderly_run events
  exact {
    exclusive _ _ _ := orderly.exclusive
    once := orderly.once
    sameLock first second mine isMine theirs isTheirs same := by
      have there := orderly.refers isMine
      rw [same, orderly.refers isTheirs] at there
      exact (Option.some.inj there).symm
    keys account := by
      have keys := orderly.coherent.keys account
      rw [Bool.eq_iff_iff, Option.isSome_iff_ne_none, Option.isSome_iff_ne_none, Ne, Ne, keys]
    positive account count found := by
      refine Nat.pos_of_ne_zero fun none ↦ orderly.coherent.used account ?_
      rw [found, none]
    counted := orderly.counted
    clients := orderly.clients
    unfailing name failure failed := by
      have sound := orderly.sound name
      rw [Sound, failed] at sound
      exact sound
    empty := orderly.empty }

/-- A client that waits gets the lock as soon as it is given back, while the one that had it still counts
as a user. -/
example :
    let crowd := run [(true, .hold [7]), (true, .go), (true, .go), (true, .go),
      (false, .hold [7]), (false, .go), (true, .release [7]), (true, .go), (false, .go), (true, .go),
      (false, .go)]
    (crowd.clients true).heldAccounts = [] ∧ (crowd.clients false).heldAccounts = [7] ∧
      crowd.table.users.get? 7 = some 2 := by
  decide +kernel

end LockCrowd

end Passbook
