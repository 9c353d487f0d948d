import Passbook.Proofs.Locks.Table

/-!
Clients of one lock table. A client takes the locks of accounts in ascending order and gives them back in
descending order, one step at a time: it becomes a user of a lock, takes the lock once it is free, or gives
up waiting for it; later it looks the lock up, gives it back, and ceases to be a user of it. Every step of a
client has one of five effects on its uses and on the table (`LockClient.act?_effect`), and none fails.
-/

set_option autoImplicit false
set_option relaxedAutoImplicit false

namespace Passbook

/-- The use of an account's lock, with the lock that was handed out for it. -/
structure LockUse where
  account : Int
  lock : Nat
deriving DecidableEq, Repr

/-- How far a client has come with taking locks or with giving them back. -/
inductive LockTask where
  | outside
  /-- Some locks have been taken and others not yet. -/
  | entering (taken : List LockUse) (rest : List Int)
  | waiting (taken : List LockUse) (next : LockUse) (rest : List Int)
  /-- The next lock could not be had in time. -/
  | expired (taken : List LockUse) (next : LockUse)
  | returning (rest : List LockUse)
  /-- A lock has been looked up, and is about to be given back. -/
  | dropping (first : LockUse) (found : Nat) (rest : List LockUse)
  /-- A lock has been given back by one that still counts as its user. -/
  | leaving (first : LockUse) (rest : List LockUse)
  | failed (failure : Failure)

/-- What a client of a lock table may do next. -/
inductive LockAction where
  | acquire (accounts : List Int)
  /-- Acquires locks while it has none. -/
  | hold (accounts : List Int)
  | release (accounts : List Int)
  | go
  | expire
deriving DecidableEq, Repr

/-- A client of a lock table: what it has acquired and not yet released, and what it is at. -/
structure LockClient where
  owned : List LockUse := []
  task : LockTask := .outside

namespace LockTask

/-- The uses whose locks are held on the way in or still held on the way out. -/
def holding : LockTask → List LockUse
  | .outside | .failed _ => []
  | .entering taken _ | .waiting taken _ _ | .expired taken _ => taken
  | .returning rest | .leaving _ rest => rest
  | .dropping first _ rest => first :: rest

/-- The uses whose locks are not held: not yet or no longer. -/
def pending : LockTask → List LockUse
  | .waiting _ next _ | .expired _ next => [next]
  | .leaving first _ => [first]
  | _ => []

/-- The use that a client waits for. -/
def waitsOn : LockTask → Option LockUse
  | .waiting _ next _ => some next
  | _ => none

/-- The use that a client waits for, or has just given up waiting for. -/
def awaited : LockTask → Option LockUse
  | .waiting _ next _ | .expired _ next => some next
  | _ => none

/-- The lock that has just been looked up, as a use of it. -/
def lookedUp : LockTask → List LockUse
  | .dropping first found _ => [⟨first.account, found⟩]
  | _ => []

end LockTask

namespace LockClient

/-- The uses whose locks a client holds. -/
def holding (client : LockClient) : List LockUse := client.owned ++ client.task.holding

/-- The uses of locks that a client does not hold: it waits for them or is about to cease using them. -/
def pending (client : LockClient) : List LockUse := client.task.pending

/-- All that a client uses. -/
def uses (client : LockClient) : List LockUse := client.holding ++ client.pending

/-- The accounts whose locks a client holds. -/
def heldAccounts (client : LockClient) : List Int := client.holding.map (·.account)

/-- The accounts whose locks a client uses. -/
def usedAccounts (client : LockClient) : List Int := client.uses.map (·.account)

/-- The lock about to be given back is the one that was taken, one that has been given back is not held any
more, and nothing has failed. -/
def Sound (client : LockClient) : Prop :=
  match client.task with
  | .dropping first found _ => found = first.lock
  | .leaving first _ => first.account ∉ client.heldAccounts
  | .failed _ => False
  | _ => True

/-- All locks that a client refers to, by the accounts for which it does. -/
def references (client : LockClient) : List LockUse := client.uses ++ client.task.lookedUp

/-- A client neither has locks nor is it on its way to any. -/
def Idle (client : LockClient) : Prop := client.owned = [] ∧ client.task = .outside

/-- A client does not wait for what it holds itself. -/
def Plain (client : LockClient) : Prop :=
  ∀ next ∈ client.task.awaited, next.account ∉ client.heldAccounts

/-- Uses with the largest account first. -/
def descending (uses : List LockUse) : List LockUse :=
  uses.mergeSort fun first second ↦ first.account ≥ second.account

/-- The next step of a client on its way; none if it has to wait, or has nothing to do. -/
def go? (client : LockClient) (table : LockTable) : Option (LockClient × LockTable) :=
  match client.task with
  | .outside | .failed _ => none
  | .entering taken [] => some ({ owned := client.owned ++ taken }, table)
  | .entering taken (account :: rest) =>
    let (lock, table) := table.checkOut account
    some ({ client with task := .waiting taken ⟨account, lock⟩ rest }, table)
  | .waiting taken next rest =>
    (table.take? next.lock).map fun table ↦
      ({ client with task := .entering (taken ++ [next]) rest }, table)
  | .expired taken next =>
    match table.checkIn? next.account with
    | some table => some ({ client with task := .returning (descending taken) }, table)
    | none => some ({ client with task := .failed .noEntry }, table)
  | .returning [] => some ({ client with task := .outside }, table)
  | .returning (first :: rest) =>
    match table.live.get? first.account with
    | some lock => some ({ client with task := .dropping first lock rest }, table)
    | none => some ({ client with task := .failed .noEntry }, table)
  | .dropping first found rest =>
    match table.drop? found with
    | some table => some ({ client with task := .leaving first rest }, table)
    | none => some ({ client with task := .failed (.interrupted "release unlocked lock") }, table)
  | .leaving first rest =>
    match table.checkIn? first.account with
    | some table => some ({ client with task := .returning rest }, table)
    | none => some ({ client with task := .failed .noEntry }, table)

/-- The client on its way to the locks of some accounts. -/
def enters (client : LockClient) (accounts : List Int) : LockClient :=
  { client with task := .entering [] (Locking.ordered accounts) }

/-- One step of a client; none if it is not the time for that. Only what has been acquired is released,
and only once. -/
def act? (client : LockClient) (action : LockAction) (table : LockTable) :
    Option (LockClient × LockTable) :=
  match action, client.task with
  | .acquire accounts, .outside => some (client.enters accounts, table)
  | .hold accounts, .outside =>
    if client.owned.isEmpty then some (client.enters accounts, table) else none
  | .release accounts, .outside =>
    let released := client.owned.filter (accounts.contains ·.account)
    let kept := client.owned.filter (!accounts.contains ·.account)
    some ({ owned := kept, task := .returning (descending released) }, table)
  | .expire, .waiting taken next _ => some ({ client with task := .expired taken next }, table)
  | .go, _ => client.go? table
  | _, _ => none

/-- What a step of a client does to its uses and to the table. -/
inductive Effect (client later : LockClient) (before after : LockTable) : Prop where
  | none (holding : later.holding.Perm client.holding) (pending : later.pending = client.pending)
      (table : after = before)
  | checkedOut (use : LockUse) (holding : later.holding = client.holding)
      (pending : later.pending = use :: client.pending)
      (table : LockTable.CheckedOut use.account use.lock before after)
  | took (use : LockUse) (holding : later.holding.Perm (use :: client.holding))
      (pending : client.pending = use :: later.pending) (free : use.lock ∉ before.taken)
      (table : after = { before with taken := use.lock :: before.taken })
  | dropped (use : LockUse) (holding : client.holding.Perm (use :: later.holding))
      (pending : later.pending = use :: client.pending)
      (table : after = { before with taken := before.taken.filter (· != use.lock) })
  | checkedIn (use : LockUse) (holding : later.holding.Perm client.holding)
      (pending : client.pending = use :: later.pending)
      (table : LockTable.CheckedIn use.account before after)

/-- A client whose uses are those of a table. -/
structure Fits (client : LockClient) (table : LockTable) : Prop where
  there : ∀ use ∈ client.uses, table.live.get? use.account = some use.lock
  taken : ∀ use ∈ client.holding, use.lock ∈ table.taken
  once : client.heldAccounts.Nodup
  sound : client.Sound

variable {client later : LockClient} {before after : LockTable}

theorem descending_perm (uses : List LockUse) : (descending uses).Perm uses :=
  List.mergeSort_perm _ _

theorem mem_uses {use : LockUse} :
    use ∈ client.uses ↔ use ∈ client.owned ∨ use ∈ client.task.holding ∨
      use ∈ client.task.pending := by
  simp only [uses, holding, pending, List.mem_append, or_assoc]

theorem mem_uses_of_holding {use : LockUse} (member : use ∈ client.holding) : use ∈ client.uses :=
  List.mem_append_left _ member

/-- A client that does not wait for what it holds itself uses every account once. -/
theorem nodup_usedAccounts (sound : client.Sound) (once : client.heldAccounts.Nodup)
    (plain : client.Plain) : client.usedAccounts.Nodup := by
  rw [usedAccounts, uses, List.map_append, List.nodup_append]
  refine ⟨once, ?_, ?_⟩
  · unfold pending LockTask.pending
    split <;> simp
  · rintro account held _ member rfl
    obtain ⟨use, isPending, rfl⟩ := List.mem_map.1 member
    unfold pending LockTask.pending at isPending
    split at isPending
    · next task =>
      obtain rfl := List.mem_singleton.1 isPending
      exact plain use (by rw [task]; rfl) held
    · next task =>
      obtain rfl := List.mem_singleton.1 isPending
      exact plain use (by rw [task]; rfl) held
    · next task =>
      obtain rfl := List.mem_singleton.1 isPending
      rw [Sound, task] at sound
      exact sound held
    · cases isPending

theorem Fits.used (fits : client.Fits before) (coherent : before.Coherent) {use : LockUse}
    (pending : use ∈ client.task.pending) : 0 < before.userCount use.account :=
  coherent.userCount_pos (fits.there use (mem_uses.2 (Or.inr (Or.inr pending))))

/-- A step on the way has one of the effects, and does not fail. -/
theorem go?_effect (fits : client.Fits before) (coherent : before.Coherent)
    (went : client.go? before = some (later, after)) :
    client.Effect later before after ∧ later.Sound := by
  obtain ⟨owned, task⟩ := client
  unfold go? at went
  cases task with
  | outside => cases went
  | failed failure => cases went
  | entering taken rest =>
    cases rest with
    | nil =>
      cases went
      refine ⟨.none ?_ rfl rfl, trivial⟩
      simp [holding, LockTask.holding]
    | cons account rest =>
      cases went
      exact ⟨.checkedOut ⟨account, _⟩ rfl rfl (LockTable.checkedOut coherent account), trivial⟩
  | waiting taken next rest =>
    obtain ⟨table, took, same⟩ := Option.map_eq_some_iff.1 went
    cases same
    obtain ⟨free, rfl⟩ := LockTable.take?_eq_some took
    refine ⟨.took next ?_ rfl free rfl, trivial⟩
    change (owned ++ (taken ++ [next])).Perm (next :: (owned ++ taken))
    rw [← List.append_assoc]
    exact List.perm_append_singleton _ _
  | expired taken next =>
    have used : 0 < before.userCount next.account := fits.used coherent List.mem_cons_self
    obtain ⟨table, checkedIn, effect⟩ := LockTable.checkedIn coherent used
    dsimp only at went
    rw [checkedIn] at went
    cases went
    refine ⟨.checkedIn next ?_ rfl effect, trivial⟩
    exact (descending_perm taken).append_left owned
  | returning rest =>
    cases rest with
    | nil =>
      cases went
      exact ⟨.none (.refl _) rfl rfl, trivial⟩
    | cons first rest =>
      have there : before.live.get? first.account = some first.lock :=
        fits.there first (mem_uses.2 (Or.inr (Or.inl List.mem_cons_self)))
      dsimp only at went
      rw [there] at went
      cases went
      exact ⟨.none (.refl _) rfl rfl, rfl⟩
  | dropping first found rest =>
    obtain rfl : found = first.lock := fits.sound
    have taken : first.lock ∈ before.taken :=
      fits.taken first (List.mem_append_right _ List.mem_cons_self)
    dsimp only at went
    rw [LockTable.drop?_of_taken taken] at went
    cases went
    refine ⟨.dropped first List.perm_middle rfl rfl, ?_⟩
    have once : ((first :: (owned ++ rest)).map (·.account)).Nodup :=
      (List.perm_middle.map _).nodup_iff.1 fits.once
    exact (List.nodup_cons.1 once).1
  | leaving first rest =>
    have used : 0 < before.userCount first.account := fits.used coherent List.mem_cons_self
    obtain ⟨table, checkedIn, effect⟩ := LockTable.checkedIn coherent used
    dsimp only at went
    rw [checkedIn] at went
    cases went
    exact ⟨.checkedIn first (.refl _) rfl effect, trivial⟩

/-- A client that sets out for locks still has what it had. -/
theorem enters_effect (outside : client.task = .outside) (accounts : List Int) (table : LockTable) :
    client.Effect (client.enters accounts) table table := by
  refine .none ?_ ?_ rfl
  · simp [holding, enters, outside, LockTask.holding]
  · simp [pending, enters, outside, LockTask.pending]

/-- A step has one of the effects, and does not fail. -/
theorem act?_effect (fits : client.Fits before) (coherent : before.Coherent) {action : LockAction}
    (acted : client.act? action before = some (later, after)) :
    client.Effect later before after ∧ later.Sound := by
  unfold act? at acted
  split at acted
  · next accounts outside =>
    cases acted
    exact ⟨enters_effect outside accounts before, trivial⟩
  · next accounts outside =>
    split at acted
    · cases acted
      exact ⟨enters_effect outside accounts before, trivial⟩
    · cases acted
  · next accounts outside =>
    cases acted
    refine ⟨.none ?_ ?_ rfl, trivial⟩
    · simp only [holding, outside, LockTask.holding, List.append_nil]
      refine ((descending_perm _).append_left _).trans (List.perm_append_comm.trans ?_)
      exact List.filter_append_perm _ _
    · simp [pending, outside, LockTask.pending]
  · next taken next rest waiting =>
    cases acted
    refine ⟨.none ?_ ?_ rfl, trivial⟩
    · simp [holding, waiting, LockTask.holding]
    · simp [pending, waiting, LockTask.pending]
  · exact go?_effect fits coherent acted
  · cases acted

/-- Every step on the way can be taken, unless the client waits for a lock that is taken. -/
theorem go?_eq_none (sound : client.Sound) :
    client.go? before = none ↔ client.task = .outside ∨
      ∃ taken next rest, client.task = .waiting taken next rest ∧ next.lock ∈ before.taken := by
  obtain ⟨owned, task⟩ := client
  unfold go?
  cases task with
  | outside => simp
  | failed failure => exact sound.elim
  | entering taken rest => cases rest <;> simp
  | waiting taken next rest =>
    unfold LockTable.take?
    by_cases free : next.lock ∈ before.taken
    · simp only [List.contains_eq_mem, free, decide_true, ↓reduceIte, Option.map_none, reduceCtorEq,
        false_or, true_iff]
      exact ⟨taken, next, rest, rfl, free⟩
    · simp only [List.contains_eq_mem, free, decide_false, Bool.false_eq_true, ↓reduceIte,
        Option.map_some, reduceCtorEq, false_or, false_iff]
      rintro ⟨_, _, _, ⟨⟩, held⟩
      exact free held
  | expired taken next =>
    dsimp only
    cases before.checkIn? next.account <;> simp
  | returning rest =>
    cases rest with
    | nil => simp
    | cons first rest =>
      dsimp only
      cases before.live.get? first.account <;> simp
  | dropping first found rest =>
    dsimp only
    cases before.drop? found <;> simp
  | leaving first rest =>
    dsimp only
    cases before.checkIn? first.account <;> simp

end LockClient

end Passbook
